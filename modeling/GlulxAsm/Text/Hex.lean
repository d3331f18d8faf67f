/-! Hexadecimal and padded text of numbers. -/
namespace GlulxAsm.Text

/-- Lower-case hexadecimal digits without leading zeros. -/
def hexDigits (n : Nat) : List Char := Nat.toDigits 16 n

/-- At least `width` hexadecimal digits, with zeros in front. -/
def hexPadded (width n : Nat) : String :=
  let digits := hexDigits n
  String.ofList (List.replicate (width - digits.length) '0' ++ digits)

/-- An address as `0x` and its digits. -/
def address (n : Nat) : String := "0x" ++ String.ofList (hexDigits n)

/-- A word as `0x` and eight digits. -/
def word (w : UInt32) : String := "0x" ++ hexPadded 8 w.toNat

/-- Blanks behind the text until it is `width` characters long. -/
def padRight (width : Nat) (text : String) : String :=
  text ++ String.ofList (List.replicate (width - text.length) ' ')

end GlulxAsm.Text
