import GlulxAsm.Error
import GlulxAsm.Page
import GlulxAsm.Word

/-! The header of an image: nine words that say how memory is laid out and where the program starts. -/
namespace GlulxAsm

structure Header where
  magic : UInt32
  version : UInt32
  ramStart : UInt32
  extStart : UInt32
  endMem : UInt32
  stackSize : UInt32
  startFunc : UInt32
  decodingTable : UInt32
  checksum : UInt32
deriving DecidableEq

namespace Header

def glulxMagic : UInt32 := 0x476c756c

def glulxVersion : UInt32 := 0x00030102

/-- The number of bytes of a header. -/
def size : Nat := 36

/-- Where the checksum stands in the header. -/
def checksumOffset : Nat := 32

/-- The header of an image whose fragments end at `codeSize`; the image itself ends on a page. The
checksum starts out zero. -/
def create (romEnd codeSize stackSize entry : UInt32) : Except Overflow Header :=
  match Page.roundUp? codeSize with
  | none => .error (.imageSize codeSize)
  | some imageEnd => .ok {
      magic := glulxMagic
      version := glulxVersion
      ramStart := romEnd
      extStart := imageEnd
      endMem := imageEnd
      stackSize
      startFunc := entry
      decodingTable := 0
      checksum := 0 }

def words (header : Header) : List UInt32 :=
  [header.magic, header.version, header.ramStart, header.extStart, header.endMem,
    header.stackSize, header.startFunc, header.decodingTable, header.checksum]

def bytes (header : Header) : List UInt8 := header.words.flatMap Word.bytes

@[simp] theorem length_bytes (header : Header) : header.bytes.length = size := rfl

/-- Reads the header in front of an image. -/
def read? (content : List UInt8) : Option Header := do
  return {
    magic := ← Word.read? content 0
    version := ← Word.read? content 4
    ramStart := ← Word.read? content 8
    extStart := ← Word.read? content 12
    endMem := ← Word.read? content 16
    stackSize := ← Word.read? content 20
    startFunc := ← Word.read? content 24
    decodingTable := ← Word.read? content 28
    checksum := ← Word.read? content 32 }

end Header

end GlulxAsm
