import GlulxAsm.StringCode

/-! Blocks of bytes with known contents. -/
namespace GlulxAsm

structure Data where
  bytes : List UInt8
deriving DecidableEq

namespace Data

def zeroed (length : Nat) : Data := ⟨List.replicate length 0⟩

def word (value : UInt32) : Data := ⟨Word.bytes value⟩

/-- The bytes, with zeros behind them up to a least length. -/
def padded (least : Nat) (bytes : List UInt8) : Data :=
  ⟨bytes ++ List.replicate (least - bytes.length) 0⟩

/-- A string in the coding that suits its characters. -/
def string (text : String) : Data := ⟨StringCode.automaticBytes text.toList⟩

end Data

end GlulxAsm
