/-! Big-endian words in byte strings. Byte strings are lists, so that they can be taken apart by
position; files hold byte arrays. -/
namespace GlulxAsm.Word

/-- A number as a word, if it fits in 32 bits. -/
def ofNat? (value : Nat) : Option UInt32 :=
  if value < 0x100000000 then some (UInt32.ofNat value) else none

/-- The four bytes of a word, most significant first. -/
def bytes (word : UInt32) : List UInt8 :=
  [(word >>> 24).toUInt8, (word >>> 16).toUInt8, (word >>> 8).toUInt8, word.toUInt8]

/-- The low two bytes of a word, most significant first. -/
def halfBytes (word : UInt32) : List UInt8 :=
  [(word >>> 8).toUInt8, word.toUInt8]

def ofBytes (a b c d : UInt8) : UInt32 :=
  a.toUInt32 <<< 24 ||| b.toUInt32 <<< 16 ||| c.toUInt32 <<< 8 ||| d.toUInt32

/-- The word at an offset, if all four of its bytes are there. -/
def read? (content : List UInt8) (offset : Nat) : Option UInt32 :=
  match content.drop offset with
  | a :: b :: c :: d :: _ => some (ofBytes a b c d)
  | _ => none

/-- Replaces the four bytes at an offset. -/
def write (content : List UInt8) (offset : Nat) (word : UInt32) : List UInt8 :=
  content.take offset ++ bytes word ++ content.drop (offset + 4)

@[simp] theorem length_bytes (word : UInt32) : (bytes word).length = 4 := rfl

@[simp] theorem length_halfBytes (word : UInt32) : (halfBytes word).length = 2 := rfl

end GlulxAsm.Word
