import GlulxAsm.Json.Reader
import GlulxAsm.Settings

/-! Settings as JSON: an object whose members may be missing, or an array of the same values in order.
Members of other names are passed over; a member given twice or of the wrong type is refused. -/
namespace GlulxAsm.Settings

open Json (Token)

/-- A number without sign, fraction and exponent that fits 32 bits. -/
def stackSize? : Token → Option UInt32
  | .number text => do
    let value ← Number.natural? text
    if value < 0x100000000 then some (UInt32.ofNat value) else none
  | _ => none

def romSignature? : Token → Option Bool
  | .true => some true
  | .false => some false
  | _ => none

/-- The members that have been read. -/
structure Members where
  stackSize : Option UInt32 := none
  romSignature : Option Bool := none

def Members.settings (members : Members) : Settings :=
  let defaults : Settings := {}
  { stackSize := members.stackSize.getD defaults.stackSize
    romSignature := members.romSignature.getD defaults.romSignature }

/-- A member that has not been read yet takes the value of one token. -/
def first? {α : Type} (read : Option α) (value? : Token → Option α) :
    List Token → Option (α × List Token)
  | token :: rest => if read.isSome then none else (value? token).map (·, rest)
  | [] => none

theorem first?_lt {α : Type} {read : Option α} {value? : Token → Option α} {tokens rest : List Token}
    {value : α} (found : first? read value? tokens = some (value, rest)) :
    rest.length < tokens.length := by
  cases tokens with
  | nil => cases found
  | cons token later =>
    simp only [first?] at found
    split at found
    · cases found
    · obtain ⟨_, _, same⟩ := Option.map_eq_some_iff.mp found
      cases same; simp

/-- One member by its name, and the tokens behind it. -/
def member? (members : Members) (name : List Char) (tokens : List Token) :
    Option (Members × List Token) :=
  if name = "stack_size".toList then
    (first? members.stackSize stackSize? tokens).map fun (value, rest) =>
      ({ members with stackSize := some value }, rest)
  else if name = "rom_signature".toList then
    (first? members.romSignature romSignature? tokens).map fun (value, rest) =>
      ({ members with romSignature := some value }, rest)
  else (Json.skipValue tokens).map (members, ·)

theorem member?_lt {members found : Members} {name : List Char} {tokens rest : List Token}
    (read : member? members name tokens = some (found, rest)) : rest.length < tokens.length := by
  unfold member? at read
  split at read
  · obtain ⟨⟨value, _⟩, taken, same⟩ := Option.map_eq_some_iff.mp read
    cases same; exact first?_lt taken
  · split at read
    · obtain ⟨⟨value, _⟩, taken, same⟩ := Option.map_eq_some_iff.mp read
      cases same; exact first?_lt taken
    · obtain ⟨_, skipped, same⟩ := Option.map_eq_some_iff.mp read
      cases same; exact Json.skipFrom_lt skipped

/-- The members from a name on, up to the end of the object. -/
def members? (members : Members) (tokens : List Token) : Option (Members × List Token) :=
  match tokens with
  | .string raw :: .colon :: value => do
    let name ← Json.unescape? raw
    match _ : member? members name value with
    | some (found, .comma :: rest) => members? found rest
    | some (found, .endObject :: rest) => some (found, rest)
    | _ => none
  | _ => none
termination_by tokens.length
decreasing_by
  have := member?_lt ‹member? members _ value = some _›
  simp only [List.length_cons] at this ⊢; omega

/-- Settings and nothing behind them. -/
def ofTokens? : List Token → Option Settings
  | [.beginObject, .endObject] => some {}
  | .beginObject :: rest =>
    match members? {} rest with
    | some (members, []) => some members.settings
    | _ => none
  | [.beginArray, .endArray] => some {}
  | [.beginArray, size, .endArray] => do
    return Members.settings { stackSize := ← stackSize? size }
  | [.beginArray, size, .comma, signature, .endArray] => do
    return Members.settings {
      stackSize := ← stackSize? size
      romSignature := ← romSignature? signature }
  | _ => none

def ofJson? (text : String) : Option Settings := do ofTokens? (← Json.tokens? text)

end GlulxAsm.Settings
