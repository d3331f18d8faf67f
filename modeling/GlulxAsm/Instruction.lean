import GlulxAsm.Mnemonic
import GlulxAsm.Operand

/-! Instructions and their encoding: the opcode in one, two or four bytes, the addressing nibbles two
a byte, then the operand values, all big-endian. -/
namespace GlulxAsm

namespace Opcode

/-- Small opcodes take one or two bytes; the top bits of the first byte tell how many follow. -/
def encode (opcode : UInt32) : List UInt8 :=
  if opcode ≤ 0x7f then [opcode.toUInt8]
  else if opcode ≤ 0x3fff then Word.halfBytes (opcode ||| 0x8000)
  else Word.bytes (opcode ||| 0xc0000000)

def width (opcode : UInt32) : Nat :=
  if opcode ≤ 0x7f then 1 else if opcode ≤ 0x3fff then 2 else 4

@[simp] theorem length_encode (opcode : UInt32) : (encode opcode).length = width opcode := by
  unfold encode width; split
  · rfl
  · split <;> rfl

end Opcode

structure Instruction where
  mnemonic : Mnemonic
  operands : List Operand
deriving DecidableEq

namespace Instruction

/-- Changes the last operand of a list. -/
def mapLast (f : Operand → Operand) : List Operand → List Operand
  | [] => []
  | [operand] => [f operand]
  | operand :: rest => operand :: mapLast f rest

/-- A branch target that is a constant is stored as an offset, which can need more room than the
target itself, so it always gets four bytes. -/
def make (mnemonic : Mnemonic) (operands : List Operand) : Instruction :=
  ⟨mnemonic, if mnemonic.branch then mapLast Operand.widened operands else operands⟩

/-- Addressing nibbles, the first operand of a pair in the low half. -/
def modeBytes : List Operand → List UInt8
  | [] => []
  | [only] => [only.nibble]
  | low :: high :: rest => (low.nibble ||| high.nibble <<< 4) :: modeBytes rest

/-- The number of bytes that the instruction takes. -/
def size (instruction : Instruction) : Nat :=
  Opcode.width instruction.mnemonic.opcode + (instruction.operands.length + 1) / 2 +
    instruction.operands.foldr (·.width.bytes + ·) 0

/-- The number of bytes in 32 bits, unless it leaves them. -/
def size? (instruction : Instruction) : Option UInt32 := Word.ofNat? instruction.size

/-- The offset stored for a branch: counted from the end of the instruction, two added because the
offsets 0 and 1 mean a return. -/
def branchOffset (target : Int32) (position size : UInt32) : Int32 :=
  target - (position + size).toInt32 + 2

def resolve (value? : String → Option Int32) (instruction : Instruction) :
    Instruction × Option String :=
  let (operands, undefined) := Operand.resolveAll value? instruction.operands
  ({ instruction with operands }, undefined)

/-- The values as written, or the first operand that still is a name. `final` turns the machine value
of a constant last operand into what a branch stores. -/
def valuesFrom (final : Int32 → Int32) : List Operand → Except Operand (List Int32)
  | [] => .ok []
  | operand :: rest =>
    match operand.machineValue? with
    | none => .error operand
    | some value =>
      let stored := if rest.isEmpty && operand.mode = .constant then final value else value
      (valuesFrom final rest).map (stored :: ·)

/-- The values as written at a position. -/
def values (instruction : Instruction) (position : UInt32) : Except Operand (List Int32) :=
  let size := UInt32.ofNat instruction.size
  valuesFrom (fun target =>
    if instruction.mnemonic.branch then branchOffset target position size else target)
    instruction.operands

/-- The instruction as written at a position, or the first operand that still is a name. -/
def encode (instruction : Instruction) (position : UInt32) : Except Operand (List UInt8) := do
  let values ← instruction.values position
  return Opcode.encode instruction.mnemonic.opcode ++ modeBytes instruction.operands ++
    (List.zipWith (fun operand value => operand.width.encode value)
      instruction.operands values).flatten

def text (instruction : Instruction) : String :=
  " ".intercalate (instruction.mnemonic.name :: instruction.operands.map Operand.text)

end Instruction

end GlulxAsm
