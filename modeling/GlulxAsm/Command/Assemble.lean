import GlulxAsm.Assembly
import GlulxAsm.Command.Outcome
import GlulxAsm.Listing
import GlulxAsm.Object.Build
import GlulxAsm.Settings.Reader

/-! The assembler's command: reads a source file, writes the image and, if asked for, listings. -/
namespace GlulxAsm.Command.Assemble

structure Options where
  input : Option String := none
  output : Option String := none
  reports : Option String := none
  config : Option String := none
  stackSize : Option UInt32 := none

def help : String := "Assemble a Glulx game image

Usage: ggasm [OPTIONS] <INFILE> <OUTFILE>

Arguments:
  <INFILE>   Assembly source to read
  <OUTFILE>  Game file to write

Options:
      --reports <DIR>            Write code, symbol and string dumps into this directory
      --config <FILE>            JSON assembler config
      --stack-size <STACK_SIZE>  Stack size in bytes (overrides config)
  -h, --help                     Print help
  -V, --version                  Print version
"

def version : String := "ggasm 0.1.0\n"

/-- Paths must not be empty. -/
def path? (value : String) : Option String := if value.isEmpty then none else some value

def stackSize? (value : String) : Option UInt32 := do
  let size ← Number.signed? 64 value.toList
  if 0 ≤ size ∧ size < 0x100000000 then some (UInt32.ofNat size.toNat) else none

/-- A setting can be given once. -/
def once {α : Type} (old new : Option α) : Except Refusal (Option α) :=
  if old.isSome || new.isNone then .error .misused else .ok new

def addPositional (options : Options) (arg : String) : Except Refusal Options := do
  if options.input.isNone then return { options with input := ← once none (path? arg) }
  else return { options with output := ← once options.output (path? arg) }

def addOption (options : Options) (name value : String) : Except Refusal Options :=
  match name with
  | "reports" => return { options with reports := ← once options.reports (path? value) }
  | "config" => return { options with config := ← once options.config (path? value) }
  | "stack-size" => return { options with stackSize := ← once options.stackSize (stackSize? value) }
  | _ => throw .misused

/-- Reads arguments in order; the first that is wrong or asks for help decides. Behind `--` nothing
is an option. -/
def readArgs (options : Options) (args : List String) : Except Refusal Options :=
  match args with
  | [] => .ok options
  | "--" :: rest => rest.foldlM addPositional options
  | arg :: rest =>
    match splitLong? arg with
    | some ("help", none) => .error (.help help)
    | some ("version", none) => .error (.help version)
    | some (name, attached) =>
      if name ∈ ["reports", "config", "stack-size"] then
        match _ : takeValue? attached rest with
        | none => .error .misused
        | some (value, later) => do readArgs (← addOption options name value) later
      else .error .misused
    | none =>
      if isOption arg then .error (shortRefusal help version arg)
      else do readArgs (← addPositional options arg) rest
termination_by args.length
decreasing_by
  · have := takeValue?_le ‹takeValue? attached rest = some _›
    simp only [List.length_cons]; omega
  · simp

/-- The files that listings are written to, in order. -/
def listingNames : List String := ["codedump.txt", "symbols.txt", "strings.txt"]

/-- The paths that a run reads or writes, its includes apart. -/
def Options.paths (options : Options) : List String :=
  let reports := match options.reports with
    | some directory => directory :: listingNames.map (Path.join directory)
    | none => []
  options.config.toList ++ options.input.toList ++ reports ++ options.output.toList

/-- The settings of a file. -/
def readSettings (files : FileTree) (path : String) : Except FileFault Settings := do
  match Settings.ofJson? (← files.readText path) with
  | some settings => return settings
  | none => throw .invalidSettings

def settings (files : FileTree) (options : Options) : Except Trouble Settings := do
  let base ← match options.config with
    | none => pure {}
    | some path =>
      match readSettings files path with
      | .ok settings => pure settings
      | .error fault =>
        throw { message := (AsmError.unreadable path fault).message, cause := some fault.message }
  return { base with stackSize := options.stackSize.getD base.stackSize }

/-- The events of a build, told from what it changed in the object. -/
def buildEvents (before after : Object) (image : Option Image) : Array Event :=
  let warnings := after.warnings.extract before.warnings.size after.warnings.size
  let placed := if before.stage = .accumulating ∧ after.stage ≠ .accumulating then
      #[Event.positionsAssigned after.rom.size after.ram.size after.romEnd after.codeSize]
    else #[]
  let resolved := if after.stage = .resolved ∨ after.stage = .encoded then
      #[Event.symbolsResolved after.symbols.size]
    else #[]
  let built := match image with
    | some image =>
      #[Event.imageBuilt image.bytes.length image.header.startFunc image.header.checksum]
    | none => #[]
  warnings.map Event.warning ++ placed ++ resolved ++ built

/-- Writes files one after the other until one fails. -/
def writeFiles (files : FileTree) : List (String × ByteArray) → FileTree × Except Trouble Unit
  | [] => (files, .ok ())
  | (path, content) :: rest =>
    match files.write path content with
    | .error fault => (files, .error (.ofFile "writing" path fault))
    | .ok files => writeFiles files rest

/-- The listings and the names of their files. -/
def listings (object : Object) : Except Overflow (List (String × String)) := do
  return listingNames.zip [← Listing.code object,
    Listing.symbols object ++ "\n" ++ Listing.constants object, Listing.strings object]

/-- Writes the listings into a directory, which is made if it is not there. -/
def writeListings (files : FileTree) (directory : String) (object : Object) :
    Except Overflow (FileTree × Except Trouble Unit) := do
  match files.makeDirectories directory with
  | (files, .error fault) => return (files, .error (.ofFile "creating" directory fault))
  | (files, .ok ()) =>
    return writeFiles files ((← listings object).map fun (name, text) =>
      (Path.join directory name, text.toUTF8))

/-- Assembles `input` into `output`. Listings are written whether the image could be built or not. -/
def perform (files : FileTree) (options : Options) (settings : Settings) (input output : String) :
    Except Overflow Outcome := do
  let object ← Object.create settings
  let session ← (assembleFile files input object).completed
  let events := object.warnings.map Event.warning ++ session.events
  match session.result with
  | .error aborted =>
    return {
      ending := .failure { message := s!"errors occurred during assembly of {input}" }
      events := events ++ (aborted.errors.map Event.failed).toArray
      files }
  | .ok () =>
    let (object, built) ← match Object.build session.object with
      | .ok image object => pure (object, Except.ok image)
      | .error (.rejected error) object => pure (object, Except.error error)
      | .error (.overflow cause) _ => throw cause
    let events := events ++ buildEvents session.object object built.toOption
    let (files, listed) ← match options.reports with
      | none => pure (files, Except.ok ())
      | some directory => writeListings files directory object
    match listed, built with
    | .error trouble, _ => return { ending := .failure trouble, events, files }
    | .ok (), .error error =>
      return { ending := .failure { message := error.message }, events, files }
    | .ok (), .ok image =>
      match writeFiles files [(output, ⟨image.bytes.toArray⟩)] with
      | (files, .error trouble) => return { ending := .failure trouble, events, files }
      | (files, .ok ()) =>
        return { events := events.push (.wrote output image.bytes.length), files }

def run (files : FileTree) (args : List String) : Except Overflow Outcome :=
  match readArgs {} args with
  | .error refusal => return refusal.outcome files
  | .ok options =>
    match options.input, options.output with
    | some input, some output =>
      match settings files options with
      | .error trouble => return { ending := .failure trouble, files }
      | .ok settings => perform files options settings input output
    | _, _ => return Refusal.misused.outcome files

/-- The included files that a run did not find. -/
def missingIncludes (outcome : Outcome) : List String :=
  outcome.events.toList.filterMap fun
    | .failed (.includeFailed _ path .notFound) => some path
    | _ => none

end GlulxAsm.Command.Assemble
