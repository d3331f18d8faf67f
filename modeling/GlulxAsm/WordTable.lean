import GlulxAsm.Operand

/-! Tables of four-byte words whose entries may be names. A table with a capacity takes that many words
whatever it holds. -/
namespace GlulxAsm

structure WordTable where
  items : List Operand := []
  capacity : Option Nat := none
deriving DecidableEq

namespace WordTable

/-- A table of `count` items has room for one more. -/
def hasRoom (capacity : Option Nat) (count : Nat) : Bool := capacity.all (count < ·)

/-- Fails with the capacity that the items exceed. -/
def ofItems (capacity : Option Nat) (items : List Operand) : Except Nat WordTable :=
  match capacity with
  | some limit => if limit < items.length then .error limit else .ok { items, capacity }
  | none => .ok { items, capacity }

def words (table : WordTable) : Nat := max table.items.length (table.capacity.getD 0)

def resolve (value? : String → Option Int32) (table : WordTable) : WordTable × Option String :=
  let (items, undefined) := Operand.resolveAll value? table.items
  ({ table with items }, undefined)

/-- The words of items up to the first that still is a name, and that one. -/
def encodeItems : List Operand → List UInt8 × Option Operand
  | [] => ([], none)
  | item :: rest =>
    match item.machineValue? with
    | none => ([], some item)
    | some value =>
      let (later, unresolved) := encodeItems rest
      (Word.bytes value.toUInt32 ++ later, unresolved)

/-- Behind the items the table is filled with zero words. -/
def encode (table : WordTable) : List UInt8 × Option Operand :=
  match encodeItems table.items with
  | (bytes, some item) => (bytes, some item)
  | (bytes, none) =>
    (bytes ++ List.replicate (4 * (table.words - table.items.length)) 0, none)

def text (table : WordTable) : String :=
  let items := " ".intercalate (table.items.map Operand.text)
  s!"words [{items}] x{table.words}"

end WordTable

end GlulxAsm
