/-! Paths as text. Segments are divided by slashes; a path that starts with a slash is absolute. -/
namespace GlulxAsm.Path

def isAbsolute (path : String) : Bool := path.startsWith "/"

/-- What stands between the slashes of a path. -/
def segments (path : String) : List String := (path.toList.splitOn '/').map String.ofList

/-- A path as seen from a directory. An absolute path stays as it is. -/
def join (directory path : String) : String :=
  if isAbsolute path || directory.isEmpty then path
  else if directory.endsWith "/" then directory ++ path
  else directory ++ "/" ++ path

/-- Drops the last segments that name nothing from reversed segments: empty ones, and dots except a
dot in front of the whole path. -/
def dropNameless : List String → List String
  | [] => []
  | [first] => if first.isEmpty then [] else [first]
  | segment :: before =>
    if segment.isEmpty || segment == "." then dropNameless before else segment :: before

/-- The path without its last named segment; the root and the empty path have none. -/
def parent? (path : String) : Option String :=
  match dropNameless (segments path).reverse with
  | [] => none
  | _ :: before =>
    match dropNameless before with
    | [] => some (if isAbsolute path then "/" else "")
    | kept => some ("/".intercalate kept.reverse)

/-- The directory that the includes of a file are read from. -/
def directory (path : String) : String := (parent? path).getD ""

end GlulxAsm.Path
