import GlulxAsm.Word

/-! Strings as the virtual machine stores them: one byte a character behind the tag 0xE0, or one word a
code point behind the tag word 0xE2000000, closed by a zero. -/
namespace GlulxAsm

inductive StringCode where
  /-- Basic if every character is ASCII, unicode otherwise. -/
  | automatic
  | basic
  | unicode
deriving DecidableEq

namespace StringCode

def basicTag : UInt8 := 0xe0

def unicodeTag : UInt32 := 0xe2000000

def unicodeBytes (text : List Char) : List UInt8 :=
  Word.bytes unicodeTag ++ text.flatMap (fun c => Word.bytes c.val) ++ Word.bytes 0

/-- Meant for characters up to 0xFF; of others only the low byte is kept. -/
def basicBytes (text : List Char) : List UInt8 :=
  basicTag :: text.map (fun c => c.val.toUInt8) ++ [0]

/-- The automatic choice has no failing case. -/
def automaticBytes (text : List Char) : List UInt8 :=
  if text.any (fun c => 0x7f < c.toNat) then unicodeBytes text else basicBytes text

/-- A basic string fails with its first character above 0xFF. -/
def encode (code : StringCode) (text : String) : Except Char (List UInt8) :=
  match code with
  | automatic => .ok (automaticBytes text.toList)
  | unicode => .ok (unicodeBytes text.toList)
  | basic =>
    match text.toList.find? (fun c => 0xff < c.toNat) with
    | some c => .error c
    | none => .ok (basicBytes text.toList)

end StringCode

end GlulxAsm
