/-! Memory is divided into pages of 256 bytes; RAM and the image end on page boundaries. -/
namespace GlulxAsm.Page

def size : Nat := 256

/-- The least multiple of the page size that is not below `n`. -/
def roundUp (n : Nat) : Nat := (n + (size - 1)) / size * size

/-- The page end at or above an address, if 32 bits can hold it. -/
def roundUp? (address : UInt32) : Option UInt32 :=
  let rounded := roundUp address.toNat
  if rounded < 0x100000000 then some (UInt32.ofNat rounded) else none

end GlulxAsm.Page
