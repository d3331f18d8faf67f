/-! Labels, and the header that the label of a function writes. -/
namespace GlulxAsm

inductive LabelKind where
  | builtIn
  | general
  | object
  | string
  | stackFunction
  | localFunction
  | data
deriving DecidableEq

namespace LabelKind

def text : LabelKind → String
  | builtIn => "BuiltIn"
  | general => "General"
  | object => "Object"
  | string => "String"
  | stackFunction => "StackFunction"
  | localFunction => "LocalFunction"
  | data => "Data"

/-- The first byte of a function header; other kinds have none. -/
def functionTag? : LabelKind → Option UInt8
  | stackFunction => some 0xc0
  | localFunction => some 0xc1
  | _ => none

def isFunction (kind : LabelKind) : Bool := kind.functionTag?.isSome

end LabelKind

/-- A name for the position of whatever follows. Only functions have locals. -/
structure Label where
  name : String
  kind : LabelKind
  locals : UInt32 := 0
deriving DecidableEq

namespace Label

def general (name : String) : Label := { name, kind := .general }

/-- Pairs of slot size and count, 255 four-byte locals a pair at most, the rest in the last pair. -/
def localPairs (locals : Nat) : List UInt8 :=
  (List.replicate (locals / 255) [4, 255]).flatten ++
    if locals % 255 = 0 then [] else [4, UInt8.ofNat (locals % 255)]

/-- The number of bytes that the label writes. -/
def size (label : Label) : Nat :=
  if label.kind.isFunction then 1 + 2 * ((label.locals.toNat + 254) / 255) + 2 else 0

/-- A function header is its tag, the pairs of its locals and a pair of zeros. -/
def encode (label : Label) : List UInt8 :=
  match label.kind.functionTag? with
  | some tag => tag :: localPairs label.locals.toNat ++ [0, 0]
  | none => []

def text (label : Label) : String :=
  if label.kind.isFunction then
    s!"{label.name}: {label.kind.text} locals={label.locals.toNat}"
  else s!"{label.name}: {label.kind.text}"

end Label

end GlulxAsm
