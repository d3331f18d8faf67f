import GlulxAsm.Fragment
import GlulxAsm.Header

/-! Finished images: how fragments become one, and the checks that any image can be put to. -/
namespace GlulxAsm

/-- The word at an offset, if it is there. The end of the word must be a 64-bit number, whatever the
length of the content. -/
def Word.fetch (content : List UInt8) (offset : Nat) : Except Overflow (Option UInt32) :=
  if 0x10000000000000000 ≤ offset + 4 then .error (.wordOffset offset)
  else .ok (Word.read? content offset)

namespace Checksum

/-- Adds up the big-endian words of a byte string from word `index` on, without the word that holds
the checksum. Missing bytes of a last word are zero. -/
def sumFrom (index : Nat) (sum : UInt32) : List UInt8 → UInt32
  | a :: b :: c :: d :: rest => sumFrom (index + 1) (add index sum (Word.ofBytes a b c d)) rest
  | [a, b, c] => add index sum (Word.ofBytes a b c 0)
  | [a, b] => add index sum (Word.ofBytes a b 0 0)
  | [a] => add index sum (Word.ofBytes a 0 0 0)
  | [] => sum
where
  add (index : Nat) (sum word : UInt32) : UInt32 :=
    if 4 * index = Header.checksumOffset then sum else sum + word

end Checksum

/-- The sum of all words of an image modulo 2^32, its checksum field read as zero. -/
def checksum (content : List UInt8) : UInt32 := Checksum.sumFrom 0 0 content

structure Image where
  bytes : List UInt8
  header : Header
deriving DecidableEq

/-- Why bytes are no sound image. -/
inductive ImageFault where
  | tooShort (length : Nat)
  | badMagic (found : UInt32)
  | ramMisaligned (ramStart : UInt32)
  | lengthMisaligned (length : Nat)
  | lengthMismatch (extStart : UInt32) (length : Nat)
  | checksumMismatch (stored computed : UInt32)
deriving DecidableEq

namespace ImageFault

def message : ImageFault → String
  | tooShort length => s!"image is {length} bytes, shorter than the header"
  | badMagic found => s!"bad magic {Text.word found}"
  | ramMisaligned ramStart =>
    s!"RAMSTART {Text.address ramStart.toNat} is not a multiple of 256"
  | lengthMisaligned length =>
    s!"image length {Text.address (length % 4294967296)} is not a multiple of 256"
  | lengthMismatch extStart length =>
    s!"EXTSTART {Text.address extStart.toNat} does not match image length {Text.address length}"
  | checksumMismatch stored computed =>
    s!"checksum {Text.word stored} does not match computed {Text.word computed}"

end ImageFault

namespace Image

/-- Takes bytes for an image. Only the header is read; `verify` has the checks. -/
def ofBytes (content : List UInt8) : Except ImageFault Image :=
  match Header.read? content with
  | some header => .ok ⟨content, header⟩
  | none => .error (.tooShort content.length)

/-- The first check that an image fails, if any. -/
def verify (image : Image) : Except ImageFault Unit :=
  let header := image.header
  let length := image.bytes.length
  let computed := GlulxAsm.checksum image.bytes
  if header.magic ≠ Header.glulxMagic then .error (.badMagic header.magic)
  else if header.ramStart.toNat % Page.size ≠ 0 then .error (.ramMisaligned header.ramStart)
  else if length % Page.size ≠ 0 then .error (.lengthMisaligned length)
  else if header.extStart.toNat ≠ length then .error (.lengthMismatch header.extStart length)
  else if computed ≠ header.checksum then .error (.checksumMismatch header.checksum computed)
  else .ok ()

/-- Writes ROM from offset 0, puts the header over its first bytes, writes RAM behind it, fills up to
the end of the image and stores the checksum. -/
def write (rom ram : List Fragment) (header : Header) : Except AsmError Image := do
  let romBytes ← Fragment.emitAll 0 rom
  let romLength := romBytes.length
  if romLength ≠ header.ramStart.toNat ∨ romLength < Header.size then
    throw (.misuse .builtIn (.romEnd romLength header.ramStart))
  let ramBytes ← Fragment.emitAll romLength ram
  let length := romLength + ramBytes.length
  if header.extStart.toNat < length then
    throw (.misuse .builtIn (.ramEnd header.extStart))
  let blank := { header with checksum := 0 }
  let content := blank.bytes ++ romBytes.drop Header.size ++ ramBytes ++
    List.replicate (header.extStart.toNat - length) 0
  let sum := GlulxAsm.checksum content
  return ⟨Word.write content Header.checksumOffset sum, { header with checksum := sum }⟩

end Image

end GlulxAsm
