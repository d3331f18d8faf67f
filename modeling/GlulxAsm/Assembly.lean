import GlulxAsm.Files.Tree
import GlulxAsm.Log
import GlulxAsm.Statement

/-! Assembling whole texts. Statements are run in order and a bad one does not stop those behind it; an
include runs the statements of another file in its place. -/
namespace GlulxAsm

/-- Lines are counted in 32 bits. The count never goes back, so it leaves them exactly if the last line
does. -/
def Scan.overflow? (scan : Scan) (name : String) : Option Overflow :=
  if scan.lastLine < 0x100000000 then none else some (.lineNumber name)

/-- The state of an assembly. -/
structure Session where
  object : Object
  errors : Array AsmError := #[]
  events : Array Event := #[]
  /-- The first sum that left the machine's range. Nothing that is done behind it counts. -/
  overflow : Option Overflow := none

/-- A file that has been opened: its one place, the name it was reached by, and its text. -/
structure SourceFile where
  place : Place
  name : String
  text : String

namespace SourceFile

/-- Why a file cannot be assembled. -/
inductive Fault where
  | circular
  | unreadable (fault : FileFault)

/-- Opens a file, unless it is already open further out. -/
def read (tree : FileTree) (outer : List Place) (path : String) : Except Fault SourceFile :=
  match tree.locate path with
  | .error fault => .error (.unreadable fault)
  | .ok place =>
    if place ∈ outer then .error .circular
    else match tree.readText path with
      | .error fault => .error (.unreadable fault)
      | .ok text => .ok { place, name := path, text }

theorem place_of_read {tree : FileTree} {outer : List Place} {path : String} {file : SourceFile}
    (found : read tree outer path = .ok file) :
    file.place ∉ outer ∧ ∃ content, (file.place, .file content) ∈ tree.nodes := by
  unfold read at found
  split at found
  · cases found
  · next place located =>
    split at found
    · cases found
    · next free =>
      split at found
      · cases found
      · next text opened =>
        cases found
        obtain ⟨content, held⟩ := FileTree.contentAt_of_readText located opened
        exact ⟨free, content, FileTree.mem_of_contentAt held⟩

end SourceFile

namespace FileTree

/-- The number of nodes that are not open yet. -/
def remaining (tree : FileTree) (outer : List Place) : Nat :=
  (tree.nodes.filter fun node => node.1 ∉ outer).length

/-- Opening a file of the tree leaves fewer to open. -/
theorem remaining_cons_lt {tree : FileTree} {outer : List Place} {place : Place} {node : FileNode}
    (free : place ∉ outer) (member : (place, node) ∈ tree.nodes) :
    tree.remaining (place :: outer) < tree.remaining outer := by
  have narrowed : tree.nodes.filter (fun node => node.1 ∉ place :: outer) =
      (tree.nodes.filter (fun node => node.1 ∉ outer)).filter (fun node => node.1 ≠ place) := by
    simp [List.filter_filter]
  unfold remaining
  rw [narrowed, List.length_filter_lt_length_iff_exists]
  exact ⟨(place, node), by simp [member, free], by simp⟩

end FileTree

namespace Session

def fail (session : Session) (error : AsmError) : Session :=
  { session with errors := session.errors.push error }

def note (session : Session) (event : Event) : Session :=
  { session with events := session.events.push event }

/-- Takes over an object and notes the warnings that are new in it. -/
def advance (session : Session) (object : Object) : Session :=
  let fresh := object.warnings.extract session.object.warnings.size object.warnings.size
  { session with object, events := session.events ++ fresh.map Event.warning }

/-- Runs one statement; an include is handed back. -/
def step (session : Session) (tokens : List Token) :
    Session × Option Statement.IncludeRequest :=
  match Statement.run tokens session.object with
  | .ok request object => (session.advance object, request)
  | .error error object => ((session.advance object).fail error, none)

/-- Reads a text: its lexical faults are reported before any of its statements is run. -/
def scan (session : Session) (name text : String) : Session × List (List Token) :=
  let scan := tokenize name text
  let session := session.note (.tokenized name scan.tokens.length)
  let faults := scan.faults.map fun (loc, fault) => AsmError.lexical loc fault
  ({ session with
    errors := session.errors ++ faults.toArray
    overflow := session.overflow.or (scan.overflow? name) }, statements scan.tokens)

/-- A file that cannot be read is charged to the include statement, if a file is open around it. -/
def blame (outer : List Place) (path : String) (site : Location) : SourceFile.Fault → AsmError
  | .circular => .statement site (.circularInclude path)
  | .unreadable fault =>
    if outer.isEmpty then .unreadable path fault else .includeFailed site path fault

/-- Runs statements in order. `outer` holds the places of the files that are open, the innermost
first, and `directory` is what included paths are seen from. No file is opened inside itself, so the
files that are not open bound the depth. -/
def run (tree : FileTree) (outer : List Place) (directory : String)
    (statements : List (List Token)) (session : Session) : Session :=
  match statements with
  | [] => session
  | tokens :: rest =>
    let (session, request) := session.step tokens
    let session := match request with
      | none => session
      | some request =>
        let path := Path.join directory request.file
        match _ : SourceFile.read tree outer path with
        | .error fault => session.fail (blame outer path request.loc fault)
        | .ok file =>
          let session :=
            if outer.isEmpty then session else session.note (.including path request.loc)
          let (session, inner) := session.scan file.name file.text
          run tree (file.place :: outer) (Path.directory file.name) inner session
    run tree outer directory rest session
termination_by (tree.remaining outer, statements.length)
decreasing_by
  · obtain ⟨free, _, member⟩ := SourceFile.place_of_read ‹SourceFile.read tree outer _ = .ok _›
    exact Prod.Lex.left _ _ (FileTree.remaining_cons_lt free member)
  · exact Prod.Lex.right _ (by simp)

/-- A session fails as a whole if it met any error. -/
def result (session : Session) : Except Aborted Unit :=
  if session.errors.isEmpty then .ok () else .error { errors := session.errors.toList }

/-- The session, unless a sum left the machine's range in it. -/
def completed (session : Session) : Except Overflow Session :=
  match session.overflow with
  | none => .ok session
  | some cause => .error cause

end Session

/-- Assembles a text into an object. Its includes are seen from the directory of `name`. -/
def assembleSource (tree : FileTree) (name text : String) (object : Object) : Session :=
  let (session, statements) := Session.scan { object } name text
  Session.run tree [] (Path.directory name) statements session

/-- Assembles a file and all that it includes into an object. -/
def assembleFile (tree : FileTree) (path : String) (object : Object) : Session :=
  match SourceFile.read tree [] path with
  | .error fault => Session.fail { object } (Session.blame [] path .builtIn fault)
  | .ok file =>
    let (session, statements) := Session.scan { object } file.name file.text
    Session.run tree [file.place] (Path.directory file.name) statements session

end GlulxAsm
