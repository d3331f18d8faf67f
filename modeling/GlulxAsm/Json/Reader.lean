import GlulxAsm.Json.Token
import GlulxAsm.Number.Decimal

/-! Reading JSON values from tokens: strings with their escapes undone, and values that are passed over
whatever they hold. -/
namespace GlulxAsm.Json

/-- The code that four hexadecimal digits spell. -/
def unit (a b c d : Char) : Nat := Number.ofDigits 16 [a, b, c, d]

/-- A character from its code. Two halves of a pair make one character; a half alone makes none. -/
def escape? : Char → Option Char
  | '"' => some '"'
  | '\\' => some '\\'
  | '/' => some '/'
  | 'b' => some '\x08'
  | 'f' => some '\x0c'
  | 'n' => some '\n'
  | 'r' => some '\r'
  | 't' => some '\t'
  | _ => none

/-- Undoes the escapes of a string, if each stands for a character. Codes in the range of pair halves
must come as a high half and a low half. -/
def unescape? : List Char → Option (List Char)
  | [] => some []
  | '\\' :: 'u' :: a :: b :: c :: d :: '\\' :: 'u' :: a' :: b' :: c' :: d' :: rest => do
    let high := unit a b c d
    let low := unit a' b' c' d'
    if 0xd800 ≤ high ∧ high < 0xdc00 then
      if 0xdc00 ≤ low ∧ low < 0xe000 then
        return Char.ofNat (0x10000 + (high - 0xd800) * 0x400 + (low - 0xdc00)) :: (← unescape? rest)
      else none
    else if 0xdc00 ≤ high ∧ high < 0xe000 then none
    else return Char.ofNat high :: (← unescape? ('\\' :: 'u' :: a' :: b' :: c' :: d' :: rest))
  | '\\' :: 'u' :: a :: b :: c :: d :: rest => do
    let code := unit a b c d
    if 0xd800 ≤ code ∧ code < 0xe000 then none
    else return Char.ofNat code :: (← unescape? rest)
  | '\\' :: c :: rest => do return (← escape? c) :: (← unescape? rest)
  | c :: rest => do return c :: (← unescape? rest)

/-- What a place in nested arrays and objects expects next. -/
inductive Expected where
  | value
  | firstItem
  | key
  | firstKey
  | colon
  | separator
deriving DecidableEq

/-- What a value is part of. -/
inductive Frame where
  | array
  | object
deriving DecidableEq

/-- Passes over one token where a value may start. -/
def passValue (frames : List Frame) : Token → Option (Expected × List Frame)
  | .beginArray => some (.firstItem, .array :: frames)
  | .beginObject => some (.firstKey, .object :: frames)
  | .true | .false | .null | .number _ | .string _ => some (.separator, frames)
  | _ => none

/-- Passes over one token inside `frames`. -/
def pass (expected : Expected) (frames : List Frame) (token : Token) :
    Option (Expected × List Frame) :=
  match expected, frames, token with
  | .value, frames, token => passValue frames token
  | .firstItem, .array :: outer, .endArray => some (.separator, outer)
  | .firstItem, frames, token => passValue frames token
  | .firstKey, .object :: outer, .endObject => some (.separator, outer)
  | .firstKey, frames, .string _ => some (.colon, frames)
  | .key, frames, .string _ => some (.colon, frames)
  | .colon, frames, .colon => some (.value, frames)
  | .separator, .array :: outer, .endArray => some (.separator, outer)
  | .separator, .object :: outer, .endObject => some (.separator, outer)
  | .separator, .array :: outer, .comma => some (.value, .array :: outer)
  | .separator, .object :: outer, .comma => some (.key, .object :: outer)
  | _, _, _ => none

/-- The tokens behind the value that is being passed over. -/
def skipFrom (expected : Expected) (frames : List Frame) : List Token → Option (List Token)
  | [] => none
  | token :: rest =>
    match pass expected frames token with
    | none => none
    | some (.separator, []) => some rest
    | some (expected, frames) => skipFrom expected frames rest

/-- The tokens behind one value of any kind. -/
def skipValue (tokens : List Token) : Option (List Token) := skipFrom .value [] tokens

theorem skipFrom_lt {expected : Expected} {frames : List Frame} {tokens rest : List Token}
    (skipped : skipFrom expected frames tokens = some rest) : rest.length < tokens.length := by
  fun_induction skipFrom expected frames tokens <;> grind

end GlulxAsm.Json
