import GlulxAsm.Command.Outcome
import GlulxAsm.Json.Pretty
import GlulxAsm.Section

/-! The inspector's command: shows the sections or the header of an image, or verifies it. -/
namespace GlulxAsm.Command.Inspect

inductive Format where
  | text
  | json

inductive Query where
  | sections
  | header
  | verify

namespace Query

def ofName? : String → Option Query
  | "sections" => some sections
  | "header" => some header
  | "verify" => some verify
  | _ => none

end Query

structure Request where
  image : String
  query : Query
  format : Format

def help : String := "Glulx game image inspector

Usage: ggasm-inspect [OPTIONS] <IMAGE> <COMMAND>

Commands:
  sections  List header, ROM and RAM ranges
  header    Print the header fields
  verify    Check magic, page alignment, length and checksum
  help      Print this message or the help of the given subcommand(s)

Arguments:
  <IMAGE>  Game image path

Options:
      --format <FORMAT>  Output format: text or json [default: text] [possible values: text, json]
  -h, --help             Print help
  -V, --version          Print version
"

def version : String := "ggasm-inspect 0.1.0\n"

def format? : String → Option Format
  | "text" => some .text
  | "json" => some .json
  | _ => none

/-- Help can be had in general or about one command, `help` among them; any other word behind `help`
is wrong. -/
def helpRefusal : List String → Refusal
  | [] => .help help
  | [topic] => if topic == "help" || (Query.ofName? topic).isSome then .help help else .misused
  | _ => .misused

/-- The format may be given once in front of the query and once behind it. -/
def addFormat (old : Option Format) (value : String) : Except Refusal (Option Format) :=
  match old, format? value with
  | none, some format => .ok (some format)
  | _, _ => .error .misused

/-- Reads what follows the query: at most a format, and perhaps a closing `--`. -/
def readTail (format : Option Format) (args : List String) : Except Refusal (Option Format) :=
  match args with
  | [] => .ok format
  | ["--"] => .ok format
  | arg :: rest =>
    match splitLong? arg with
    | some ("help", none) => .error (.help help)
    | some ("format", attached) =>
      match _ : takeValue? attached rest with
      | none => .error .misused
      | some (value, later) => do readTail (← addFormat format value) later
    | _ => .error (if arg.startsWith "-h" then .help help else .misused)
termination_by args.length
decreasing_by
  have := takeValue?_le ‹takeValue? attached rest = some _›
  simp only [List.length_cons]; omega

/-- Reads arguments up to the query, then what follows it. The name of a query is never taken for an
image. -/
def readArgs (image : Option String) (format : Option Format) (args : List String) :
    Except Refusal Request :=
  match args with
  | [] => .error .misused
  | arg :: rest =>
    match splitLong? arg with
    | some ("help", none) => .error (.help help)
    | some ("version", none) => .error (.help version)
    | some ("format", attached) =>
      match _ : takeValue? attached rest with
      | none => .error .misused
      | some (value, later) => do readArgs image (← addFormat format value) later
    | some _ => .error .misused
    | none =>
      if isOption arg then .error (shortRefusal help version arg)
      else if arg == "help" then .error (helpRefusal rest)
      else match Query.ofName? arg, image with
        | some query, image => do
          let inner ← readTail none rest
          match image with
          | some image => return { image, query, format := (inner.or format).getD .text }
          | none => throw .misused
        | none, none => readArgs (some arg) format rest
        | none, some _ => .error .misused
termination_by args.length
decreasing_by
  · have := takeValue?_le ‹takeValue? attached rest = some _›
    simp only [List.length_cons]; omega
  · simp

def sectionsText (sections : List Section) : String :=
  let row := fun (name start limit permissions : String) =>
    Text.padRight 10 name ++ " " ++ Text.padRight 12 start ++ " " ++ Text.padRight 12 limit ++ " " ++
      Text.padRight 6 permissions ++ "\n"
  row "name" "start" "end" "perms" ++ String.join (sections.map fun s =>
    row s.kind.name (Text.word s.start) (Text.word s.limit) s.kind.permissions)

def sectionsJson (sections : List Section) : String :=
  Json.prettyArray (sections.map fun s =>
    [("name", .string s.kind.name), ("start", .number s.start.toNat), ("end", .number s.limit.toNat),
      ("perms", .string s.kind.permissions)]) ++ "\n"

/-- The version as its three parts. -/
def versionText (version : UInt32) : String :=
  let n := version.toNat
  s!"{n / 65536}.{n / 256 % 256}.{n % 256}"

def headerText (header : Header) : String :=
  let row := fun (name value : String) => Text.padRight 15 name ++ value ++ "\n"
  row "magic" (Text.word header.magic) ++ row "version" (versionText header.version) ++
    row "ramstart" (Text.word header.ramStart) ++ row "extstart" (Text.word header.extStart) ++
    row "endmem" (Text.word header.endMem) ++ row "stack size" (Text.word header.stackSize) ++
    row "start func" (Text.word header.startFunc) ++
    row "decoding tbl" (Text.word header.decodingTable) ++ row "checksum" (Text.word header.checksum)

def headerJson (header : Header) : String :=
  let number := fun (word : UInt32) => Json.Scalar.number word.toNat
  Json.prettyObject "" [("magic", number header.magic), ("version", number header.version),
    ("ram_start", number header.ramStart), ("ext_start", number header.extStart),
    ("end_mem", number header.endMem), ("stack_size", number header.stackSize),
    ("start_func", number header.startFunc), ("decoding_table", number header.decodingTable),
    ("checksum", number header.checksum)] ++ "\n"

def verifyText (image : Image) : String :=
  match image.verify with
  | .ok () => s!"ok: checksum {Text.word (checksum image.bytes)}\n"
  | .error fault => s!"FAILED: {fault.message}\n"

def verifyJson (image : Image) : String :=
  let (sound, error) := match image.verify with
    | .ok () => (true, Json.Scalar.null)
    | .error fault => (false, Json.Scalar.string fault.message)
  Json.prettyObject "" [("ok", .bool sound), ("stored", .number image.header.checksum.toNat),
    ("computed", .number (checksum image.bytes).toNat), ("error", error)] ++ "\n"

def shown (image : Image) : Query → Format → String
  | .sections, .text => sectionsText image.sections
  | .sections, .json => sectionsJson image.sections
  | .header, .text => headerText image.header
  | .header, .json => headerJson image.header
  | .verify, .text => verifyText image
  | .verify, .json => verifyJson image

/-- Answers a request. An image that fails verification is reported and fails the run. -/
def perform (files : FileTree) (request : Request) : Outcome :=
  match files.read request.image with
  | .error fault => { ending := .failure { message := fault.message }, files }
  | .ok content =>
    match Image.ofBytes content.data.toList with
    | .error fault => { ending := .failure { message := fault.message }, files }
    | .ok image =>
      let stdout := shown image request.query request.format
      match request.query, image.verify with
      | .verify, .error fault => { ending := .failure { message := fault.message }, stdout, files }
      | _, _ => { stdout, files }

def run (files : FileTree) (args : List String) : Outcome :=
  match readArgs none none args with
  | .error refusal => refusal.outcome files
  | .ok request => perform files request

end GlulxAsm.Command.Inspect
