import GlulxAsm.Files.Fault
import GlulxAsm.Files.Path

/-! File trees: the directories and files that an assembly can see. Nodes are known by their place,
the segments from the root down; a path of any spelling leads to at most one place. -/
namespace GlulxAsm

inductive FileNode where
  | directory
  | file (content : ByteArray)

/-- Segments from the root. -/
abbrev Place := List String

structure FileTree where
  nodes : List (Place × FileNode) := []
  /-- Where relative paths start. -/
  current : Place := []

namespace FileTree

def node? (tree : FileTree) (place : Place) : Option FileNode :=
  if place = [] then some .directory else tree.nodes.lookup place

/-- Puts a node at a place; a node that stands there is replaced. -/
def set (tree : FileTree) (place : Place) (node : FileNode) : FileTree :=
  { tree with nodes := (tree.nodes.filter (·.1 != place)) ++ [(place, node)] }

/-- Makes every directory on the way to a place that is not there yet. -/
def makeParents (tree : FileTree) (place : Place) : FileTree :=
  (List.range place.length).foldl (fun tree depth =>
    let above := place.take depth
    if (tree.node? above).isSome then tree else tree.set above .directory) tree

/-- Adds a node and the directories above it. -/
def insert (tree : FileTree) (place : Place) (node : FileNode) : FileTree :=
  (tree.makeParents place).set place node

/-- The most bytes that the name of a node may have. -/
def maxNameBytes : Nat := 255

/-- Paths of this many bytes lead nowhere when a file is read or written. -/
def pathBytesLimit : Nat := 4096

/-- Follows segments from a place. Each segment, a trailing slash included, needs a directory to be
looked up in, and the first that fails decides. -/
def walk (tree : FileTree) (place : Place) : List String → Except FileFault Place
  | [] => .ok place
  | segment :: rest =>
    match tree.node? place with
    | none => .error .notFound
    | some (.file _) => .error .notDirectory
    | some .directory =>
      if segment.isEmpty || segment == "." then tree.walk place rest
      else if segment == ".." then tree.walk place.dropLast rest
      else if maxNameBytes < segment.utf8ByteSize then .error .nameTooLong
      else if (tree.node? (place ++ [segment])).isSome then tree.walk (place ++ [segment]) rest
      else .error .notFound

def start (tree : FileTree) (path : String) : Place :=
  if Path.isAbsolute path then [] else tree.current

/-- The one place that a path leads to, however long it is. There are no symbolic links in a tree, so only
dots and slashes give one place several spellings. -/
def locate (tree : FileTree) (path : String) : Except FileFault Place :=
  if path.contains (Char.ofNat 0) then .error .nulInName
  else if path.isEmpty then .error .notFound
  else tree.walk (tree.start path) (Path.segments path)

def contentAt (tree : FileTree) (place : Place) : Except FileFault ByteArray :=
  match tree.node? place with
  | some (.file content) => .ok content
  | some .directory => .error .isDirectory
  | none => .error .notFound

/-- Refuses paths that no file can be read or written by. -/
def checkPath (path : String) : Except FileFault Unit :=
  if path.contains (Char.ofNat 0) then .error .nulInName
  else if pathBytesLimit ≤ path.utf8ByteSize then .error .nameTooLong
  else if path.isEmpty then .error .notFound
  else .ok ()

def read (tree : FileTree) (path : String) : Except FileFault ByteArray := do
  checkPath path
  tree.contentAt (← tree.locate path)

theorem mem_of_contentAt {tree : FileTree} {place : Place} {content : ByteArray}
    (found : tree.contentAt place = .ok content) : (place, .file content) ∈ tree.nodes := by
  unfold contentAt node? at found
  by_cases root : place = []
  · simp [root] at found
  · simp only [root, ↓reduceIte] at found
    split at found
    · next held =>
      cases found
      obtain ⟨before, after, split, _⟩ := List.lookup_eq_some_iff.mp held
      simp [split]
    · cases found
    · cases found

def decode (content : ByteArray) : Except FileFault String :=
  match String.fromUTF8? content with
  | some text => .ok text
  | none => .error .invalidText

def readText (tree : FileTree) (path : String) : Except FileFault String := do
  decode (← tree.read path)

/-- A text that can be read stands at the place of its path. -/
theorem contentAt_of_readText {tree : FileTree} {path text : String} {place : Place}
    (located : tree.locate path = .ok place) (opened : tree.readText path = .ok text) :
    ∃ content, tree.contentAt place = .ok content := by
  unfold readText read at opened
  rw [located] at opened
  cases passed : checkPath path with
  | error fault => rw [passed] at opened; cases opened
  | ok _ =>
    rw [passed] at opened
    cases held : tree.contentAt place with
    | error fault =>
      change (tree.contentAt place >>= decode) = .ok text at opened
      rw [held] at opened; cases opened
    | ok content => exact ⟨content, rfl⟩

def isDirectory (tree : FileTree) (path : String) : Bool :=
  match (tree.locate path).toOption.bind tree.node? with
  | some .directory => true
  | _ => false

/-- Divides segments into those before the last named one, that one, and whether slashes follow it. -/
def splitLast (path : String) : List String × String × Bool :=
  let segments := (Path.segments path).reverse
  let named := segments.dropWhile String.isEmpty
  (named.tail.reverse, named.headD "", named.length < segments.length)

/-- The directory in which the last segment of a path is to be made. -/
def locateParent (tree : FileTree) (path : String) : Except FileFault Place := do
  checkPath path
  -- the empty segment behind the parents asks for a directory
  tree.walk (tree.start path) ((splitLast path).1 ++ [""])

/-- Writes a file, new or old. -/
def write (tree : FileTree) (path : String) (content : ByteArray) : Except FileFault FileTree := do
  let parent ← tree.locateParent path
  let (_, name, slashed) := splitLast path
  if slashed || name.isEmpty || name == "." || name == ".." then throw .isDirectory
  if maxNameBytes < name.utf8ByteSize then throw .nameTooLong
  match tree.node? (parent ++ [name]) with
  | some .directory => throw .isDirectory
  | _ => return tree.set (parent ++ [name]) (.file content)

/-- Makes one directory. -/
def makeDirectory (tree : FileTree) (path : String) : Except FileFault FileTree := do
  let parent ← tree.locateParent path
  let (_, name, _) := splitLast path
  if name.isEmpty || name == "." || name == ".." then throw .occupied
  if maxNameBytes < name.utf8ByteSize then throw .nameTooLong
  match tree.node? (parent ++ [name]) with
  | some _ => throw .occupied
  | none => return tree.set (parent ++ [name]) .directory

/-- A directory that stands already is as good as a new one. -/
def ensureDirectory (tree : FileTree) (path : String) : Except FileFault FileTree :=
  match tree.makeDirectory path with
  | .ok tree => .ok tree
  | .error .occupied => if tree.isDirectory path then .ok tree else .error .occupied
  | .error fault => .error fault

/-- Makes a directory and those above it, as far as `depth` allows; what was made before a failure
stays. -/
def makeDirectoriesWithin (depth : Nat) (tree : FileTree) (path : String) :
    FileTree × Except FileFault Unit :=
  match depth with
  | 0 => (tree, .error .notFound)
  | depth + 1 =>
    if path.isEmpty then (tree, .ok ())
    else match tree.ensureDirectory path with
      | .ok tree => (tree, .ok ())
      | .error .notFound =>
        match Path.parent? path with
        | none => (tree, .error .notFound)
        | some parent =>
          match makeDirectoriesWithin depth tree parent with
          | (tree, .error fault) => (tree, .error fault)
          | (tree, .ok ()) =>
            match tree.ensureDirectory path with
            | .ok tree => (tree, .ok ())
            | .error fault => (tree, .error fault)
      | .error fault => (tree, .error fault)

/-- Makes a directory and all that are missing above it. A parent's path is shorter, so the length of
the path bounds the depth. -/
def makeDirectories (tree : FileTree) (path : String) : FileTree × Except FileFault Unit :=
  makeDirectoriesWithin (path.length + 1) tree path

end FileTree

end GlulxAsm
