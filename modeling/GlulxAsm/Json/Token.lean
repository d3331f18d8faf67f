import GlulxAsm.Text.Class

/-! Tokens of JSON text. Strings and numbers are kept as written; only their form is checked. -/
namespace GlulxAsm.Json

inductive Token where
  | beginArray
  | endArray
  | beginObject
  | endObject
  | comma
  | colon
  | true
  | false
  | null
  | number (text : List Char)
  /-- What stands between the quotes, escapes included. -/
  | string (raw : List Char)
deriving DecidableEq

def isBlank (c : Char) : Bool := c == ' ' || c == '\t' || c == '\n' || c == '\r'

/-- One digit or more at the front are dropped. -/
def dropDigits? (text : List Char) : Option (List Char) :=
  if (text.takeWhile Char.isDigit).isEmpty then none else some (text.dropWhile Char.isDigit)

/-- A whole number has no zero in front of other digits. -/
def dropWhole? : List Char → Option (List Char)
  | '0' :: rest => some rest
  | text => dropDigits? text

def dropFraction? : List Char → Option (List Char)
  | '.' :: rest => dropDigits? rest
  | rest => some rest

def dropExponent? : List Char → Option (List Char)
  | 'e' :: rest | 'E' :: rest =>
    match rest with
    | '+' :: digits | '-' :: digits => dropDigits? digits
    | digits => dropDigits? digits
  | rest => some rest

/-- A number is a whole number with an optional sign, fraction and exponent. -/
def isNumber (text : List Char) : Bool :=
  let unsigned := match text with
    | '-' :: rest => rest
    | rest => rest
  (do dropExponent? (← dropFraction? (← dropWhole? unsigned))) == some []

def isNumberChar (c : Char) : Bool :=
  c.isDigit || c == '-' || c == '+' || c == '.' || c == 'e' || c == 'E'

/-- Divides text behind an opening quote into what stands in front of the closing one and what
follows it. Controls are refused, and every backslash must start an escape; `raw` holds what was
read so far in reverse. -/
def splitString? (raw : List Char) : List Char → Option (List Char × List Char)
  | [] => none
  | '"' :: rest => some (raw.reverse, rest)
  | '\\' :: 'u' :: a :: b :: c :: d :: rest =>
    if [a, b, c, d].all Text.isHexDigit then
      splitString? (d :: c :: b :: a :: 'u' :: '\\' :: raw) rest
    else none
  | '\\' :: c :: rest =>
    if "\"\\/bfnrt".toList.contains c then splitString? (c :: '\\' :: raw) rest else none
  | c :: rest => if c == '\\' || c.toNat < 0x20 then none else splitString? (c :: raw) rest

theorem splitString?_rest_lt {raw text content rest : List Char}
    (split : splitString? raw text = some (content, rest)) : rest.length < text.length := by
  fun_induction splitString? raw text <;> grind

/-- The token of a word, if it is one of the three. -/
def word? (text : List Char) : Option Token :=
  if text = "true".toList then some .true
  else if text = "false".toList then some .false
  else if text = "null".toList then some .null
  else none

def punctuation? : Char → Option Token
  | '[' => some .beginArray
  | ']' => some .endArray
  | '\x7b' => some .beginObject
  | '\x7d' => some .endObject
  | ',' => some .comma
  | ':' => some .colon
  | _ => none

/-- The tokens of a text, behind those read so far; none if any part of it is malformed. -/
def tokensFrom (read : Array Token) (text : List Char) : Option (Array Token) :=
  match text with
  | [] => some read
  | c :: rest =>
    if isBlank c then tokensFrom read rest
    else if c == '"' then
      match _ : splitString? [] rest with
      | some (raw, rest) => tokensFrom (read.push (.string raw)) rest
      | none => none
    else if c == '-' || c.isDigit then
      let number := c :: rest.takeWhile isNumberChar
      if isNumber number then tokensFrom (read.push (.number number)) (rest.dropWhile isNumberChar)
      else none
    else if c.isAlpha then
      match word? (c :: rest.takeWhile Char.isAlpha) with
      | some word => tokensFrom (read.push word) (rest.dropWhile Char.isAlpha)
      | none => none
    else
      match punctuation? c with
      | some mark => tokensFrom (read.push mark) rest
      | none => none
termination_by text.length
decreasing_by
  · simp
  · have := splitString?_rest_lt ‹splitString? [] _ = some _›
    simp only [List.length_cons]; omega
  · have := (List.dropWhile_sublist (l := rest) isNumberChar).length_le
    simp only [List.length_cons]; omega
  · have := (List.dropWhile_sublist (l := rest) Char.isAlpha).length_le
    simp only [List.length_cons]; omega
  · simp

def tokens? (text : String) : Option (List Token) :=
  (tokensFrom #[] text.toList).map Array.toList

end GlulxAsm.Json
