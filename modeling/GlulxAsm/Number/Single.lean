import GlulxAsm.Number.Decimal

/-! Single-precision numbers by their bit patterns: a ratio of naturals is rounded to the nearest
representable number, a half to the even neighbour. -/
namespace GlulxAsm.Number.Single

def infinity : Nat := 0x7f800000

def signBit : Nat := 0x80000000

/-- The quotient rounded to the nearest natural; an exact half goes to the even neighbour. -/
def roundDiv (num den : Nat) : Nat :=
  let quotient := num / den
  let twice := 2 * (num % den)
  if den < twice ∨ (twice = den ∧ quotient % 2 = 1) then quotient + 1 else quotient

/-- The exponent `e` with `2 ^ e ≤ num / den < 2 ^ (e + 1)`, for positive arguments. -/
def binaryExponent (num den : Nat) : Int :=
  let guess : Int := (num.log2 : Int) - (den.log2 : Int)
  let reached :=
    if 0 ≤ guess then den <<< guess.toNat ≤ num else den ≤ num <<< (-guess).toNat
  if reached then guess else guess - 1

/-- The bit pattern of `num / den`. The unit in the last place is `2 ^ (step - 149)`; a significand
that rounds up to the next power of two carries into the exponent field by itself. -/
def ofRatio (num den : Nat) : Nat :=
  if num = 0 then 0
  else
    let step := (max (binaryExponent num den) (-126) + 126).toNat
    let significand :=
      if step ≤ 149 then roundDiv (num <<< (149 - step)) den
      else roundDiv num (den <<< (step - 149))
    min (step <<< 23 + significand) infinity

/-- Reads a decimal with one point and an optional minus sign: `1.5`, `5.`, `-.25`. -/
def ofText? (text : List Char) : Option UInt32 :=
  let (sign, body) := match text with
    | '-' :: body => (signBit, body)
    | body => (0, body)
  let whole := body.takeWhile Char.isDigit
  match body.dropWhile Char.isDigit with
  | '.' :: fraction =>
    if fraction.all Char.isDigit && !(whole ++ fraction).isEmpty then
      let unit := Nat.pow 10 fraction.length
      some (UInt32.ofNat (sign + ofRatio (ofDigits 10 (whole ++ fraction)) unit))
    else none
  | _ => none

end GlulxAsm.Number.Single
