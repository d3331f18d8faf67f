import GlulxAsm.Command.Assemble
import GlulxAsm.Command.Inspect

/-! The command line. What a command needs is read from disk into a file tree, the command is run on
the tree, and what it changed there is written back. -/
namespace GlulxAsm.Main

/-- What stands at a path on disk. -/
def survey (path : String) : IO (Option FileNode) := do
  try return some (.file (← IO.FS.readBinFile path))
  catch
    | .inappropriateType .. => return some .directory
    | _ => return none

/-- Adds the nodes along a path to a tree, as far as they are on disk. -/
def loadFrom (tree : FileTree) (place : Place) : List String → IO FileTree
  | [] => return tree
  | segment :: rest =>
    if segment.isEmpty || segment == "." then loadFrom tree place rest
    else if segment == ".." then loadFrom tree place.dropLast rest
    else do
      let place := place ++ [segment]
      match ← survey ("/" ++ "/".intercalate place) with
      | some node => loadFrom (tree.set place node) place rest
      | none => return tree

def load (tree : FileTree) (path : String) : IO FileTree :=
  loadFrom tree (tree.start path) (Path.segments path)

/-- The current directory, with nothing in it yet. -/
def emptyTree : IO FileTree := do
  let current := (Path.segments (← IO.currentDir).toString).filter (!·.isEmpty)
  return ({ current } : FileTree).insert current .directory

/-- Assembles, with a further attempt for as long as includes turn up that were not loaded. -/
partial def assemble (tree : FileTree) (tried args : List String) :
    IO (FileTree × Except Overflow Command.Outcome) := do
  match Command.Assemble.run tree args with
  | .error overflow => return (tree, .error overflow)
  | .ok outcome =>
    let wanted := (Command.Assemble.missingIncludes outcome).filter (!tried.contains ·)
    if wanted.isEmpty then return (tree, .ok outcome)
    else assemble (← wanted.foldlM load tree) (tried ++ wanted) args

/-- Writes to disk what differs between two trees. -/
def store (before after : FileTree) : IO Unit :=
  for (place, node) in after.nodes do
    let path := "/" ++ "/".intercalate place
    match node, before.node? place with
    | .directory, none => IO.FS.createDirAll path
    | .file new, some (.file old) => if new.data != old.data then IO.FS.writeBinFile path new
    | .file new, _ => IO.FS.writeBinFile path new
    | .directory, some _ => pure ()

/-- Carries out what a command left behind. -/
def finish (usage : String) (before : FileTree) (outcome : Command.Outcome) : IO UInt32 := do
  store before outcome.files
  IO.print outcome.stdout
  for line in outcome.log (Command.logLevel (← IO.getEnv "GGASM_LOG")) do IO.eprintln line
  IO.eprint (match outcome.ending with
    | .misused => usage
    | _ => outcome.stderr)
  return outcome.exitCode.toUInt32

def inspector (args : List String) : IO UInt32 := do
  let tree ← match Command.Inspect.readArgs none none args with
    | .ok request => load (← emptyTree) request.image
    | .error _ => emptyTree
  finish Command.Inspect.help tree (Command.Inspect.run tree args)

def assembler (args : List String) : IO UInt32 := do
  let tree ← match Command.Assemble.readArgs {} args with
    | .ok options => options.paths.foldlM load (← emptyTree)
    | .error _ => emptyTree
  match ← assemble tree [] args with
  | (tree, .ok outcome) => finish Command.Assemble.help tree outcome
  | (_, .error _) =>
    IO.eprintln "Error: a size leaves the range of the machine"
    return 101

end GlulxAsm.Main

/-- Inspects images if the program is called by the inspector's name, and assembles otherwise. -/
def main (args : List String) : IO UInt32 := do
  if (← IO.appPath).toString.endsWith "ggasm-inspect" then GlulxAsm.Main.inspector args
  else GlulxAsm.Main.assembler args
