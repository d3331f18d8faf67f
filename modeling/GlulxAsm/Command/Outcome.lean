import GlulxAsm.Files.Tree
import GlulxAsm.Log

/-! What a run of a command leaves behind: its exit status, what it printed and logged, and the
files. -/
namespace GlulxAsm.Command

/-- Why a run failed, and what caused that if it is a fault of its own. -/
structure Trouble where
  message : String
  cause : Option String := none

namespace Trouble

def text (trouble : Trouble) : String :=
  let causes := match trouble.cause with
    | some cause => s!"\n\nCaused by:\n    {cause}"
    | none => ""
  s!"Error: {trouble.message}{causes}\n"

/-- A file that could not be made. -/
def ofFile (doing path : String) (fault : FileFault) : Trouble :=
  { message := s!"{doing} {path}", cause := some fault.message }

end Trouble

inductive Ending where
  | success
  | failure (trouble : Trouble)
  /-- The arguments make no sense. -/
  | misused

structure Outcome where
  ending : Ending := .success
  stdout : String := ""
  events : Array Event := #[]
  files : FileTree

namespace Outcome

def exitCode (outcome : Outcome) : UInt8 :=
  match outcome.ending with
  | .success => 0
  | .failure _ => 1
  | .misused => 2

def stderr (outcome : Outcome) : String :=
  match outcome.ending with
  | .failure trouble => trouble.text
  | _ => ""

/-- The lines that are logged up to a level. -/
def log (outcome : Outcome) (level : Nat) : List String :=
  (outcome.events.toList.filter fun event => event.severity.level ≤ level).map Event.line

end Outcome

/-- How far down the log goes. Without a word about it only errors are logged. -/
def logLevel : Option String → Nat
  | some "off" => 0
  | some "warn" => Severity.warn.level
  | some "info" => Severity.info.level
  | some "debug" => Severity.debug.level
  | some "trace" => Severity.debug.level
  | _ => Severity.error.level

/-- Why arguments are not options: they are wrong, or they ask for help. -/
inductive Refusal where
  | misused
  | help (text : String)

def Refusal.outcome (files : FileTree) : Refusal → Outcome
  | misused => { ending := .misused, files }
  | help text => { stdout := text, files }

/-- The name of a long option and the value behind an equals sign. -/
def splitLong? (arg : String) : Option (String × Option String) :=
  match arg.toList with
  | '-' :: '-' :: rest =>
    let name := String.ofList (rest.takeWhile (· != '='))
    match rest.dropWhile (· != '=') with
    | _ :: value => some (name, some (String.ofList value))
    | [] => some (name, none)
  | _ => none

/-- An argument that starts with a dash names options; a lone dash does not. -/
def isOption (arg : String) : Bool := arg.startsWith "-" && arg != "-"

/-- The value of an option: the one behind the equals sign, or else the next argument unless that
names options itself. -/
def takeValue? (attached : Option String) (rest : List String) : Option (String × List String) :=
  match attached, rest with
  | some value, rest => some (value, rest)
  | none, value :: rest => if isOption value then none else some (value, rest)
  | none, [] => none

theorem takeValue?_le {attached : Option String} {rest later : List String} {value : String}
    (taken : takeValue? attached rest = some (value, later)) : later.length ≤ rest.length := by
  unfold takeValue? at taken
  split at taken
  · cases taken; exact Nat.le_refl _
  · split at taken
    · cases taken
    · cases taken; simp
  · cases taken

/-- What a group of short options asks for first: help or the version. -/
def shortRefusal (help version : String) (arg : String) : Refusal :=
  match arg.toList with
  | '-' :: 'h' :: _ => .help help
  | '-' :: 'V' :: _ => .help version
  | _ => .misused

end GlulxAsm.Command
