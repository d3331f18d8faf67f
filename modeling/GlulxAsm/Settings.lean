/-! What an assembly can be told beforehand. -/
namespace GlulxAsm

structure Settings where
  /-- Bytes of stack that the image asks for, before rounding up to a page. -/
  stackSize : UInt32 := 2048
  /-- Put the assembler's signature word right behind the header. -/
  romSignature : Bool := true
deriving DecidableEq

end GlulxAsm
