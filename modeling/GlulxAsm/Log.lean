import GlulxAsm.Error
import GlulxAsm.Text.Inert

/-! What an assembly reports while it works. -/
namespace GlulxAsm

inductive Severity where
  | error
  | warn
  | info
  | debug
deriving DecidableEq

namespace Severity

def text : Severity → String
  | error => "ERROR"
  | warn => "WARN"
  | info => "INFO"
  | debug => "DEBUG"

/-- Higher levels are reported to fewer readers. -/
def level : Severity → Nat
  | error => 1
  | warn => 2
  | info => 3
  | debug => 4

end Severity

inductive Event where
  | tokenized (file : String) (tokens : Nat)
  | including (path : String) (site : Location)
  | warning (warning : Warning)
  | positionsAssigned (romUnits ramUnits : Nat) (romEnd codeSize : UInt32)
  | symbolsResolved (symbols : Nat)
  | imageBuilt (bytes : Nat) (entry checksum : UInt32)
  | wrote (path : String) (bytes : Nat)
  | failed (error : AsmError)

namespace Event

def severity : Event → Severity
  | tokenized .. => .debug
  | including .. => .info
  | warning _ => .warn
  | positionsAssigned .. => .debug
  | symbolsResolved _ => .debug
  | imageBuilt .. => .info
  | wrote .. => .info
  | failed _ => .error

/-- The part of the program that an event comes from. -/
def origin : Event → String
  | tokenized .. => "ggasm::assemble"
  | including .. => "ggasm::assemble"
  | wrote .. => "ggasm"
  | failed _ => "ggasm"
  | _ => "ggasm::object"

def message : Event → String
  | tokenized file tokens => s!"tokenized file={Text.quoted file} tokens={tokens}"
  | including path site => s!"including {path} from {site.text}"
  | warning w => w.message
  | positionsAssigned romUnits ramUnits romEnd codeSize =>
    s!"positions assigned rom_units={romUnits} ram_units={ramUnits} " ++
      s!"rom_end={romEnd.toNat} code_size={codeSize.toNat}"
  | symbolsResolved symbols => s!"symbols resolved symbols={symbols}"
  | imageBuilt bytes entry checksum =>
    s!"image built bytes={bytes} entry={entry.toNat} checksum={checksum.toNat}"
  | wrote path bytes => s!"wrote {path} ({bytes} bytes)"
  | failed error => error.message

/-- Names in a message may hold anything, so it is made inert. -/
def line (event : Event) : String :=
  s!"{event.severity.text} {event.origin}: {Text.inert event.message}"

end Event

end GlulxAsm
