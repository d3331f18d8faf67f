import GlulxAsm.Page
import GlulxAsm.Settings
import GlulxAsm.StringPool
import GlulxAsm.Symbol

/-! Objects: all that an assembly collects before the image is written. -/
namespace GlulxAsm

structure Object where
  rom : Array Fragment := #[]
  ram : Array Fragment := #[]
  /-- New fragments go to ROM. -/
  toRom : Bool := false
  symbols : SymbolTable := {}
  constants : ConstantTable := {}
  strings : StringPool := {}
  stackSize : UInt32 := 0
  stage : Stage := .accumulating
  /-- The first address of RAM, once fragments have positions. -/
  romEnd : UInt32 := 0
  /-- The end of the last fragment, once fragments have positions. -/
  codeSize : UInt32 := 0
  warnings : Array Warning := #[]

namespace Object

/-- An operation that either succeeds or reports an error, and changes the object in both cases. -/
abbrev Action := EStateM AsmError Object

/-- The word behind the header by which tools recognise the assembler. -/
def signature : UInt32 := 0x47474153

/-- The label in front of all other fragments of RAM. -/
def startOfRam : String := "_startOfRAM"

def warn (object : Object) (warning : Warning) : Object :=
  { object with warnings := object.warnings.push warning }

/-- Sets the stack size, rounded up to a page. Only sizes in the last page of 32 bits do not survive
the rounding; `setStackSize?` refuses them. -/
def setStackSize (object : Object) (bytes : UInt32) : Object :=
  let rounded := UInt32.ofNat (Page.roundUp bytes.toNat)
  let object := if rounded = bytes then object else object.warn (.stackSizeRounded bytes rounded)
  { object with stackSize := rounded }

def setStackSize? (object : Object) (bytes : UInt32) : Except Overflow Object :=
  match Page.roundUp? bytes with
  | some _ => .ok (object.setStackSize bytes)
  | none => .error (.stackSize bytes)

/-- A new object holds the label of RAM's start and, if asked for, the signature. -/
def create (settings : Settings) : Except Overflow Object :=
  let ramLabel : Fragment := { body := .label { name := startOfRam, kind := .builtIn }, loc := .builtIn }
  let mark : Fragment := { body := .data (.word signature), loc := .builtIn }
  setStackSize? {
    rom := if settings.romSignature then #[mark] else #[]
    ram := #[ramLabel] } settings.stackSize

def selectRom (object : Object) (toRom : Bool) : Object := { object with toRom }

/-- Adds a fragment to the selected segment. -/
def add (body : Fragment.Body) (loc : Location) : Action Unit := do
  let object ← get
  if object.stage ≠ .accumulating then
    throw (.misuse loc .addedAfterLayout)
  let fragment : Fragment := { body, loc }
  if object.toRom then modify fun object => { object with rom := object.rom.push fragment }
  else modify fun object => { object with ram := object.ram.push fragment }

/-- Defines a constant; a second definition replaces the first and is noted. -/
def addConstant (object : Object) (name : String) (value : Int32) (loc : Location) : Object :=
  let known := (object.constants.get? name).isSome
  let object := { object with constants := object.constants.define name { value, loc } }
  if known then object.warn (.constantRedefined name loc) else object

/-- The label of a string literal. -/
def intern (object : Object) (content : String) : Object × String :=
  let (strings, index) := object.strings.intern content
  ({ object with strings }, StringPool.label index)

/-- Gives a string literal a further label; the counted one is returned. -/
def addAlias (object : Object) (label content : String) : Object × String :=
  let (strings, index) := object.strings.addAlias label content
  ({ object with strings }, StringPool.label index)

end Object

end GlulxAsm
