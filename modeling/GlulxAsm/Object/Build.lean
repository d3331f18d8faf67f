import GlulxAsm.Image
import GlulxAsm.Object.Layout

/-! From a laid-out object to an image: names are replaced by their values, then the fragments are
written in order. -/
namespace GlulxAsm

namespace Object

/-- The function that the program starts with. -/
def entryName : String := "main"

/-- The value of a name in this object. -/
def value? (object : Object) (name : String) : Option Int32 :=
  nameValue? object.symbols object.constants name

/-- The position of the entry function. -/
def entryPoint (object : Object) : Except AsmError UInt32 :=
  match object.symbols.get? entryName with
  | some symbol => if symbol.kind.isFunction then .ok symbol.position else .error .missingEntryPoint
  | none => .error .missingEntryPoint

/-- The second pass: every name in an operand is replaced by its value. It stops at the first that has
none; operands before it stay resolved. -/
def resolve : Build Unit := do
  expectStage .positioned .resolution
  let object ← get
  let (rom, undefined) := Fragment.resolveAll object.value? object.rom.toList
  set { object with rom := rom.toArray }
  if let some error := undefined then reject error
  let (ram, undefined) := Fragment.resolveAll object.value? object.ram.toList
  modify fun object => { object with ram := ram.toArray }
  if let some error := undefined then reject error
  modify fun object => { object with stage := .resolved }

/-- Writes the image of an object without names, and says where its program starts. -/
def encode (entry : UInt32) : Build Image := do
  expectStage .resolved .encoding
  let object ← get
  match Header.create object.romEnd object.codeSize object.stackSize entry with
  | .error cause => throw (.overflow cause)
  | .ok header =>
    match Image.write object.rom.toList object.ram.toList header with
    | .error error => reject error
    | .ok image =>
      set { object with stage := .encoded }
      return image

/-- Runs the passes that are still to be run and writes the image. -/
def build : Build Image := do
  if (← get).stage = .accumulating then layout
  match (← get).entryPoint with
  | .error error => reject error
  | .ok entry =>
    if (← get).stage = .positioned then resolve
    encode entry

end Object

end GlulxAsm
