import GlulxAsm.Number.Decimal
import GlulxAsm.Text.Hex
import GlulxAsm.Word

/-! Operands: what a number or a name refers to, and how many bytes its value takes. The width is
fixed when the operand is made and survives resolution, so sizes are known before positions. -/
namespace GlulxAsm

/-- How an operand is read. -/
inductive Mode where
  /-- The value itself. -/
  | constant
  /-- The contents of an address. -/
  | memory
  /-- A local variable by its slot; slot -1 is the top of the stack. -/
  | slot
  /-- The contents of an address counted from the start of RAM. -/
  | ram
deriving DecidableEq

namespace Mode

/-- The part of the addressing nibble that tells the mode. -/
def code : Mode → UInt8
  | constant => 0
  | memory => 4
  | slot => 8
  | ram => 12

def sigil : Mode → String
  | constant => ""
  | memory => "*"
  | slot => "#"
  | ram => "@"

end Mode

/-- How many bytes an operand's value takes. -/
inductive Width where
  | zero
  | one
  | two
  | four
deriving DecidableEq

namespace Width

def bytes : Width → Nat
  | zero => 0
  | one => 1
  | two => 2
  | four => 4

/-- The part of the addressing nibble that tells the width. -/
def code : Width → UInt8
  | zero => 0
  | one => 1
  | two => 2
  | four => 3

/-- The least width that holds a value with its sign. -/
def ofSigned (value : Int32) : Width :=
  if value = 0 then zero
  else if -128 ≤ value.toInt ∧ value.toInt ≤ 127 then one
  else if -32768 ≤ value.toInt ∧ value.toInt ≤ 32767 then two
  else four

/-- The least positive width that holds a value without a sign. -/
def ofUnsigned (value : UInt32) : Width :=
  if value.toNat ≤ 0xff then one
  else if value.toNat ≤ 0xffff then two
  else four

/-- The low bytes of a value, most significant first. -/
def encode (width : Width) (value : Int32) : List UInt8 :=
  match width with
  | zero => []
  | one => [value.toUInt32.toUInt8]
  | two => Word.halfBytes value.toUInt32
  | four => Word.bytes value.toUInt32

@[simp] theorem length_encode (width : Width) (value : Int32) :
    (width.encode value).length = width.bytes := by
  cases width <;> rfl

end Width

inductive Value where
  | literal (value : Int32)
  | symbol (name : String)
deriving DecidableEq

structure Operand where
  mode : Mode
  value : Value
  width : Width
deriving DecidableEq

namespace Operand

/-- The slot number of the top of the stack. -/
def stackTop : Int32 := -1

/-- Local variables are addressed by byte offset, four bytes a slot. -/
def scaled (mode : Mode) (value : Int32) : Int32 :=
  if mode = .slot ∧ value ≠ stackTop then value * 4 else value

/-- Constants keep their sign. Addresses and offsets have none and take at least one byte; the stack
takes none. -/
def widthFor (mode : Mode) (value : Int32) : Width :=
  match mode with
  | .constant => .ofSigned value
  | .slot => if value = stackTop then .zero else .ofUnsigned (scaled .slot value).toUInt32
  | mode => .ofUnsigned (scaled mode value).toUInt32

def literal (mode : Mode) (value : Int32) : Operand :=
  ⟨mode, .literal value, widthFor mode value⟩

def constant (value : Int32) : Operand := literal .constant value

def stack : Operand := literal .slot stackTop

/-- A name that is not known yet takes four bytes, whatever it turns out to be. -/
def symbol (mode : Mode) (name : String) : Operand := ⟨mode, .symbol name, .four⟩

/-- The mode that the first character of an identifier asks for, and the name behind it. -/
def splitSigil : List Char → Mode × List Char
  | '*' :: name => (.memory, name)
  | '#' :: name => (.slot, name)
  | name => (.constant, name)

/-- The operand that an identifier stands for. Constants known by now are put in at once and win
over numbers of the same spelling. -/
def ofIdent (constant? : String → Option Int32) (text : String) : Operand :=
  if text = "sp" then stack
  else
    let (mode, name) := splitSigil text.toList
    match constant? (String.ofList name) with
    | some value => literal mode value
    | none =>
      match Number.signed? 32 name with
      | some value => literal mode (Int32.ofInt value)
      | none => symbol mode (String.ofList name)

def literal? (operand : Operand) : Option Int32 :=
  match operand.value with
  | .literal value => some value
  | .symbol _ => none

def symbol? (operand : Operand) : Option String :=
  match operand.value with
  | .literal _ => none
  | .symbol name => some name

/-- Gives a constant operand four bytes. -/
def widened (operand : Operand) : Operand :=
  if operand.mode = .constant then { operand with width := .four } else operand

def nibble (operand : Operand) : UInt8 := operand.width.code + operand.mode.code

/-- Puts the value of a name in its place, or reports the name that has none. -/
def resolve (value? : String → Option Int32) (operand : Operand) : Except String Operand :=
  match operand.value with
  | .literal _ => .ok operand
  | .symbol name =>
    match value? name with
    | some value => .ok { operand with value := .literal value }
    | none => .error name

/-- Resolves operands from the left up to the first undefined name; those before it stay resolved
and the rest stays as it was. -/
def resolveAll (value? : String → Option Int32) : List Operand → List Operand × Option String
  | [] => ([], none)
  | operand :: rest =>
    match operand.resolve value? with
    | .error name => (operand :: rest, some name)
    | .ok resolved =>
      let (later, undefined) := resolveAll value? rest
      (resolved :: later, undefined)

/-- The number that goes into the image, unless a branch makes an offset of it. -/
def machineValue? (operand : Operand) : Option Int32 :=
  operand.literal?.map (scaled operand.mode)

def text (operand : Operand) : String :=
  if operand.mode = .slot ∧ operand.value = .literal stackTop then "sp"
  else
    let shown := match operand.value with
      | .literal value => Text.address value.toUInt32.toNat
      | .symbol name => name
    s!"{operand.mode.sigil}{shown}/{operand.width.bytes}"

end Operand

end GlulxAsm
