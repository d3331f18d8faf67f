import GlulxAsm.Proofs.Positional
import GlulxAsm.Proofs.Printing
import Mathlib.Data.List.TakeWhile

/-! Integer literals of any length. A text that is one number is read as the number modulo 2^32 if 32 bits
can hold it with or without a sign, and else is a single fault; zeros in front do not count. -/
namespace GlulxAsm

namespace Number

/-- The ten digits of decimal numbers. -/
def decimalChars : List Char := digitChars.take 10

theorem isDigit_of_mem {digit : Char} (known : digit ∈ decimalChars) : digit.isDigit = true := by
  have each : decimalChars.all Char.isDigit = true := by decide
  exact List.all_eq_true.mp each digit known

private theorem isHexDigit_of_mem {digit : Char} (known : digit ∈ digitChars) :
    Text.isHexDigit digit = true := by
  have each : digitChars.all Text.isHexDigit = true := by decide
  exact List.all_eq_true.mp each digit known

private theorem natural?_eq_numeral {digits : List Char} (filled : digits ≠ [])
    (known : ∀ digit ∈ digits, digit ∈ decimalChars) : natural? digits = some (numeral 10 digits) := by
  have all : digits.all Char.isDigit = true :=
    List.all_eq_true.mpr fun digit member => isDigit_of_mem (known digit member)
  have value := ofDigits_eq_numeral 10 fun digit member => List.mem_of_mem_take (known digit member)
  simp [natural?, filled, all, value]

/-- Digits with a minus sign in front or without one. -/
def signedChars (negative : Bool) (digits : List Char) : List Char :=
  if negative then '-' :: digits else digits

/-- The integer that such digits denote. -/
def signedNumeral (negative : Bool) (digits : List Char) : Int :=
  if negative then -(numeral 10 digits : Int) else numeral 10 digits

private theorem integer?_eq_signedNumeral (negative : Bool) {digits : List Char} (filled : digits ≠ [])
    (known : ∀ digit ∈ digits, digit ∈ decimalChars) :
    integer? (signedChars negative digits) = some (signedNumeral negative digits) := by
  have natural := natural?_eq_numeral filled known
  cases negative with
  | true => simp [signedChars, signedNumeral, integer?, natural]
  | false =>
    simp only [signedChars, signedNumeral, Bool.false_eq_true, if_false]
    unfold integer?
    split
    · exact absurd (known '-' List.mem_cons_self) (by decide)
    · exact absurd (known '+' List.mem_cons_self) (by decide)
    · simp [natural]

private theorem numeral_signed_zeros (negative : Bool) (count : Nat) (digits : List Char) :
    signedNumeral negative (List.replicate count '0' ++ digits) = signedNumeral negative digits := by
  rw [signedNumeral, numeral_zeros, signedNumeral]

end Number

namespace Lexer

open Number

private theorem signedChars_pointless (negative : Bool) {digits : List Char}
    (known : ∀ digit ∈ digits, digit ∈ decimalChars) : (signedChars negative digits).contains '.' = false := by
  have inside : '.' ∉ digits := fun member => absurd (known '.' member) (by decide)
  cases negative with
  | true => simp [signedChars, inside]
  | false => simp [signedChars, inside]

/-- A number that 32 bits can hold passes the 64 bits in between, and any other is a fault of one kind or
another. -/
theorem decimal_toOption (negative : Bool) {digits : List Char} (filled : digits ≠ [])
    (known : ∀ digit ∈ digits, digit ∈ decimalChars) :
    (decimal (signedChars negative digits)).toOption =
      if -0x80000000 ≤ signedNumeral negative digits ∧ signedNumeral negative digits ≤ 0xffffffff then
        some (Int32.ofInt (signedNumeral negative digits)) else none := by
  have whole := integer?_eq_signedNumeral negative filled known
  have pointless := signedChars_pointless negative known
  generalize signedNumeral negative digits = number at whole ⊢
  generalize signedChars negative digits = text at whole pointless ⊢
  have signed : signed? 64 text =
      if -0x8000000000000000 ≤ number ∧ number < 0x8000000000000000 then some number else none := by
    rw [signed?, whole, Option.filter_some]
    simp only [Bool.and_eq_true, decide_eq_true_eq]
    rfl
  simp only [decimal, pointless, signed, Bool.false_eq_true, if_false]
  by_cases fits : -0x80000000 ≤ number ∧ number ≤ 0xffffffff
  · have narrow : -0x80000000 ≤ number ∧ number < 0x100000000 := by omega
    have wide : -0x8000000000000000 ≤ number ∧ number < 0x8000000000000000 := by omega
    simp only [if_pos wide, if_pos narrow, if_pos fits]
    rfl
  · have narrow : ¬ (-0x80000000 ≤ number ∧ number < 0x100000000) := by omega
    rw [if_neg fits]
    by_cases wide : -0x8000000000000000 ≤ number ∧ number < 0x8000000000000000
    · simp only [if_pos wide, if_neg narrow]
      rfl
    · simp only [if_neg wide]
      rfl

private theorem hex_toOption {digits : List Char} (known : ∀ digit ∈ digits, digit ∈ digitChars) :
    (hex digits).toOption =
      if digits ≠ [] ∧ numeral 16 digits < 0x100000000 then
        some (Int32.ofInt (numeral 16 digits)) else none := by
  have fits : (digits.isEmpty || decide (0x100000000 ≤ numeral 16 digits)) = true ↔
      ¬ (digits ≠ [] ∧ numeral 16 digits < 0x100000000) := by
    rw [Bool.or_eq_true, List.isEmpty_iff, decide_eq_true_eq, not_and_or, not_not, Nat.not_lt]
  rw [hex, ofDigits_eq_numeral 16 known]
  simp only [fits, ite_not]
  split
  · rfl
  · rfl

end Lexer

namespace Scan

/-- The reading of a text that is one number and nothing else. -/
def ofNumber (file : String) : Except LexicalFault Int32 → Scan
  | .ok value => ⟨[⟨.int value, ⟨file, 1⟩⟩, ⟨.endOfStatement, ⟨file, 1⟩⟩], []⟩
  | .error fault => ⟨[⟨.endOfStatement, ⟨file, 1⟩⟩], [(⟨file, 1⟩, fault)]⟩

/-- The text stands for a number. If it is in range, the text is one token whose value is the number modulo
2^32, and if not, the text is one fault and no token. -/
structure ReadsAs (scan : Scan) (number : Int) (inRange : Prop) : Prop where
  token_iff : (∃ value, scan.tokens.map (·.kind) = [.int value, .endOfStatement] ∧ scan.faults = []) ↔
    inRange
  value : ∀ value, scan.tokens.map (·.kind) = [.int value, .endOfStatement] →
    value.toInt % 0x100000000 = number % 0x100000000
  fault : ¬ inRange → scan.tokens.map (·.kind) = [.endOfStatement] ∧ scan.faults.length = 1

/-- The same tokens, and faults at the same places. -/
def Agrees (one two : Scan) : Prop :=
  one.tokens = two.tokens ∧ one.faults.map (·.1) = two.faults.map (·.1)

variable {result other : Except LexicalFault Int32} {number : Int} {inRange : Prop} [Decidable inRange]

private theorem ofNumber_readsAs (file : String)
    (outcome : result.toOption = if inRange then some (Int32.ofInt number) else none) :
    (ofNumber file result).ReadsAs number inRange := by
  cases result with
  | ok value =>
    split at outcome
    · next fits =>
      obtain rfl : value = Int32.ofInt number := Option.some.inj outcome
      refine ⟨iff_of_true ⟨_, rfl, rfl⟩ fits, ?_, fun outside => absurd fits outside⟩
      intro value same
      obtain rfl : Int32.ofInt number = value := by simpa [ofNumber] using same
      rw [Int32.toInt_ofInt]
      exact Int.bmod_emod
    · cases outcome
  | error fault =>
    split at outcome
    · cases outcome
    · next outside =>
      refine ⟨iff_of_false ?_ outside, ?_, fun _ => ⟨rfl, rfl⟩⟩
      · rintro ⟨value, same, _⟩
        simp [ofNumber] at same
      · intro value same
        simp [ofNumber] at same

private theorem ofNumber_agrees (file : String) (same : result.toOption = other.toOption) :
    (ofNumber file result).Agrees (ofNumber file other) := by
  cases result with
  | ok value =>
    cases other with
    | ok again =>
      cases same
      exact ⟨rfl, rfl⟩
    | error fault => cases same
  | error fault =>
    cases other with
    | ok again => cases same
    | error again => exact ⟨rfl, rfl⟩

end Scan

theorem tokenize_number (file : String) {first : Char} {rest : List Char}
    {result : Except LexicalFault Int32} (read : Lexer.step 1 first rest = .number 1 result []) :
    tokenize file (String.ofList (first :: rest)) = .ofNumber file result := by
  have lexemes : Lexer.lexemes (String.ofList (first :: rest)) =
      [⟨1, result.map .int⟩, ⟨1, .ok .endOfStatement⟩] := by
    rw [Lexer.lexemes, String.toList_ofList]
    change Lexer.lexemesFrom 1 (first :: rest) = _
    rw [Lexer.lexemesFrom_cons, read]
    cases result with
    | ok value => simp [Lexer.Step.number, Lexer.Step.token, Except.map]
    | error fault => simp [Lexer.Step.number, Lexer.Step.fault, Lexer.restOfLine, Except.map]
  simp only [tokenize, lexemes]
  cases result with
  | ok value => rfl
  | error fault => rfl

open Number

private theorem tokenize_decimal (file : String) (negative : Bool) {digits : List Char} (filled : digits ≠ [])
    (known : ∀ digit ∈ digits, digit ∈ decimalChars) :
    tokenize file (String.ofList (signedChars negative digits)) =
      .ofNumber file (Lexer.decimal (signedChars negative digits)) := by
  have inside {rest : List Char} (known : ∀ digit ∈ rest, digit ∈ decimalChars) :
      ∀ digit ∈ rest, Lexer.isDecimalChar digit = true := by
    intro digit member
    simp [Lexer.isDecimalChar, isDigit_of_mem (known digit member)]
  obtain ⟨first, rest, text, leading, behind⟩ : ∃ first rest, signedChars negative digits = first :: rest ∧
      (first = '-' ∨ first.isDigit = true) ∧ ∀ digit ∈ rest, Lexer.isDecimalChar digit = true := by
    cases negative with
    | true => exact ⟨'-', digits, rfl, .inl rfl, inside known⟩
    | false =>
      obtain ⟨first, rest, rfl⟩ := List.exists_cons_of_ne_nil filled
      rw [List.forall_mem_cons] at known
      exact ⟨first, rest, rfl, .inr (isDigit_of_mem known.1), inside known.2⟩
  rw [text]
  apply tokenize_number
  rw [Lexer.step_number leading, List.takeWhile_eq_self_iff.mpr behind,
    List.dropWhile_eq_nil_iff.mpr behind]

private theorem tokenize_hex (file : String) {digits : List Char}
    (known : ∀ digit ∈ digits, digit ∈ digitChars) :
    tokenize file (String.ofList ('$' :: digits)) = .ofNumber file (Lexer.hex digits) := by
  have behind : ∀ digit ∈ digits, Text.isHexDigit digit = true :=
    fun digit member => isHexDigit_of_mem (known digit member)
  have read : Lexer.step 1 '$' digits = .number 1
      (Lexer.hex (digits.takeWhile Text.isHexDigit)) (digits.dropWhile Text.isHexDigit) := rfl
  apply tokenize_number
  rw [read, List.takeWhile_eq_self_iff.mpr behind, List.dropWhile_eq_nil_iff.mpr behind]

/-- Zeros are digits. -/
theorem forall_mem_zeros {digits chars : List Char} (zero : '0' ∈ chars)
    (known : ∀ digit ∈ digits, digit ∈ chars) (count : Nat) :
    ∀ digit ∈ List.replicate count '0' ++ digits, digit ∈ chars := by
  intro digit member
  rcases List.mem_append.mp member with front | behind
  · rw [List.eq_of_mem_replicate front]
    exact zero
  · exact known digit behind

/-- A decimal number of any length is a token exactly if it is a 32-bit number with or without a sign, and a
hexadecimal number exactly if it has a digit and is below 2^32. Zeros in front of the digits change neither
the tokens nor the places of faults. -/
theorem integer_literals (file : String) :
    (∀ negative digits, digits ≠ [] → (∀ digit ∈ digits, digit ∈ decimalChars) →
      (tokenize file (String.ofList (signedChars negative digits))).ReadsAs (signedNumeral negative digits)
        (-0x80000000 ≤ signedNumeral negative digits ∧ signedNumeral negative digits ≤ 0xffffffff) ∧
      ∀ count, Scan.Agrees
        (tokenize file (String.ofList (signedChars negative (List.replicate count '0' ++ digits))))
        (tokenize file (String.ofList (signedChars negative digits)))) ∧
    (∀ digits, (∀ digit ∈ digits, digit ∈ digitChars) →
      (tokenize file (String.ofList ('$' :: digits))).ReadsAs (numeral 16 digits)
        (digits ≠ [] ∧ numeral 16 digits < 0x100000000) ∧
      ∀ count, digits ≠ [] → Scan.Agrees
        (tokenize file (String.ofList ('$' :: (List.replicate count '0' ++ digits))))
        (tokenize file (String.ofList ('$' :: digits)))) := by
  constructor
  · intro negative digits filled known
    have value := Lexer.decimal_toOption negative filled known
    rw [tokenize_decimal file negative filled known]
    refine ⟨Scan.ofNumber_readsAs file value, fun count => ?_⟩
    have longer : List.replicate count '0' ++ digits ≠ [] := by simp [filled]
    have among := forall_mem_zeros (by decide) known count
    rw [tokenize_decimal file negative longer among]
    apply Scan.ofNumber_agrees
    rw [Lexer.decimal_toOption negative longer among, value, numeral_signed_zeros]
  · intro digits known
    have value := Lexer.hex_toOption known
    rw [tokenize_hex file known]
    refine ⟨Scan.ofNumber_readsAs file value, fun count filled => ?_⟩
    have longer : List.replicate count '0' ++ digits ≠ [] := by simp [filled]
    have among := forall_mem_zeros (by decide) known count
    rw [tokenize_hex file among]
    apply Scan.ofNumber_agrees
    rw [Lexer.hex_toOption among, value, numeral_zeros]
    simp [filled]

/-- The least number is a token, the number behind the greatest is a fault, nine digits of which the first is
a zero are as good as eight, and a dollar sign alone is a fault. -/
theorem integer_literals_edges :
    (∃ value, (tokenize "t.ga" "-2147483648").tokens.map (·.kind) = [.int value, .endOfStatement]) ∧
    (tokenize "t.ga" "4294967296").tokens.map (·.kind) = [.endOfStatement] ∧
    (tokenize "t.ga" "4294967296").faults.length = 1 ∧
    (tokenize "t.ga" "$0fFFFFFFF").tokens = (tokenize "t.ga" "$fFFFFFFF").tokens ∧
    (tokenize "t.ga" "$").faults.length = 1 := by
  have decimals (text : String) (all : text.toList.all decimalChars.contains = true) :
      ∀ digit ∈ text.toList, digit ∈ decimalChars := by
    simpa using all
  have least : signedNumeral true "2147483648".toList = -0x80000000 := by decide
  have beyond : signedNumeral false "4294967296".toList = 0x100000000 := by decide
  have hexadecimal : ∀ digit ∈ "fFFFFFFF".toList, digit ∈ digitChars := by simp [digitChars]
  obtain ⟨tens, sixteens⟩ := integer_literals "t.ga"
  obtain ⟨lowest, _⟩ := tens true "2147483648".toList (by decide) (decimals _ (by decide))
  obtain ⟨above, _⟩ := tens false "4294967296".toList (by decide) (decimals _ (by decide))
  obtain ⟨_, zeros⟩ := sixteens "fFFFFFFF".toList hexadecimal
  obtain ⟨lone, _⟩ := sixteens [] (by simp)
  obtain ⟨value, token, _⟩ := lowest.token_iff.mpr (by rw [least]; decide)
  obtain ⟨tokenless, one⟩ := above.fault (by rw [beyond]; decide)
  obtain ⟨_, empty⟩ := lone.fault (by simp)
  exact ⟨⟨value, token⟩, tokenless, one, (zeros 1 (by decide)).1, empty⟩

end GlulxAsm
