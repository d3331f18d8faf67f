import GlulxAsm.Data
import GlulxAsm.Error
import GlulxAsm.Instruction
import GlulxAsm.Label
import GlulxAsm.WordTable

/-! Fragments: the pieces that an image is laid out from. A fragment knows its size before its
position, and writes exactly that many bytes once its names are resolved. -/
namespace GlulxAsm

namespace Fragment

inductive Body where
  | instruction (instruction : Instruction)
  | label (label : Label)
  | data (data : Data)
  | words (table : WordTable)
deriving DecidableEq

/-- Bytes written, and what stopped the writing. -/
structure Emission where
  bytes : List UInt8
  fault : Option Misuse := none
deriving DecidableEq

namespace Body

/-- The number of bytes that the body takes, without a limit. -/
def extent : Body → Nat
  | instruction i => i.size
  | label l => l.size
  | data d => d.bytes.length
  | words table => 4 * table.words

/-- What the body writes at a position. An unresolved instruction writes nothing; an unresolved table
writes the words before its first name. -/
def emit (position : UInt32) : Body → Emission
  | instruction i =>
    match i.encode position with
    | .ok bytes => { bytes }
    | .error operand => { bytes := [], fault := some (.unresolvedOperand i.mnemonic.name operand) }
  | label l => { bytes := l.encode }
  | data d => { bytes := d.bytes }
  | words table =>
    match table.encode with
    | (bytes, some item) => { bytes, fault := some (.unresolvedWord item) }
    | (bytes, none) => { bytes }

def resolve (value? : String → Option Int32) : Body → Body × Option String
  | instruction i => let (i, undefined) := i.resolve value?; (instruction i, undefined)
  | words table => let (table, undefined) := table.resolve value?; (words table, undefined)
  | label l => (label l, none)
  | data d => (data d, none)

def text : Body → String
  | instruction i => i.text
  | label l => l.text
  | data d => s!"data [{d.bytes.length} bytes]"
  | words table => table.text

end Body

end Fragment

/-- One element of a segment. The position is missing until layout. -/
structure Fragment where
  body : Fragment.Body
  loc : Location
  position : Option UInt32 := none
deriving DecidableEq

namespace Fragment

def label? (fragment : Fragment) : Option Label :=
  match fragment.body with
  | .label l => some l
  | _ => none

/-- The size as layout counts it, in 32 bits. -/
def size (fragment : Fragment) : UInt32 := UInt32.ofNat fragment.body.extent

/-- The size, unless counting its bytes leaves the machine's range: that of an instruction is counted in
32 bits, and others are counted in 64 bits and then cut. -/
def size? (fragment : Fragment) : Except Overflow UInt32 :=
  match fragment.body with
  | .instruction i => i.size?.elim (.error (.instructionSize i.size)) .ok
  | body =>
    if body.extent < 0x10000000000000000 then .ok fragment.size
    else .error (.tableSize (body.extent / 4))

/-- Resolves the names in a fragment; the first undefined one is charged to its location. -/
def resolve (value? : String → Option Int32) (fragment : Fragment) : Fragment × Option AsmError :=
  let (body, undefined) := fragment.body.resolve value?
  ({ fragment with body }, undefined.map (AsmError.undefinedSymbol fragment.loc))

/-- Resolves fragments in order and stops behind the first that has an undefined name. -/
def resolveAll (value? : String → Option Int32) : List Fragment → List Fragment × Option AsmError
  | [] => ([], none)
  | fragment :: rest =>
    match fragment.resolve value? with
    | (resolved, some error) => (resolved :: rest, some error)
    | (resolved, none) =>
      let (later, error) := resolveAll value? rest
      (resolved :: later, error)

/-- Writes a fragment to an output that holds `offset` bytes. The output must have reached the
fragment's position, and the fragment must fill its size. -/
def emit (fragment : Fragment) (offset : Nat) : Emission :=
  match fragment.position with
  | none => { bytes := [], fault := some .unplaced }
  | some position =>
    if offset ≠ position.toNat then
      { bytes := [], fault := some (.misplaced position offset) }
    else
      let emission := fragment.body.emit position
      let written := emission.bytes.length
      if emission.fault.isNone && written != fragment.size.toNat then
        { emission with fault := some (.resized fragment.size written) }
      else emission

/-- The bytes of fragments in order, from an output that holds `offset` bytes. -/
def emitAll (offset : Nat) : List Fragment → Except AsmError (List UInt8)
  | [] => .ok []
  | fragment :: rest =>
    let emission := fragment.emit offset
    match emission.fault with
    | some cause => .error (.misuse fragment.loc cause)
    | none => (emitAll (offset + emission.bytes.length) rest).map (emission.bytes ++ ·)

def text (fragment : Fragment) : String := s!"{fragment.body.text} @{fragment.loc.text}"

end Fragment

end GlulxAsm
