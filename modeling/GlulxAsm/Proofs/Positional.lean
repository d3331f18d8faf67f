import GlulxAsm.Number.Decimal

/-! The value of digits by their places. A reader multiplies and adds from the left; what it comes to is the
sum of the digits, each as often as the digits behind it make it count. -/
namespace GlulxAsm.Number

/-- A digit counts as often as the base to the number of digits behind it says. -/
def positional (base : Nat) : List Nat → Nat
  | [] => 0
  | digit :: rest => digit * Nat.pow base rest.length + positional base rest

private theorem foldl_eq_positional (base start : Nat) (digits : List Nat) :
    digits.foldl (fun value digit => value * base + digit) start =
      start * Nat.pow base digits.length + positional base digits := by
  induction digits generalizing start with
  | nil => simp [positional]
  | cons digit rest ih =>
    have place : Nat.pow base (rest.length + 1) = base * Nat.pow base rest.length := Nat.pow_succ'
    rw [List.foldl_cons, ih, positional, List.length_cons, place, Nat.add_mul, Nat.mul_assoc,
      Nat.add_assoc]

private theorem positional_zeros (base count : Nat) (digits : List Nat) :
    positional base (List.replicate count 0 ++ digits) = positional base digits := by
  induction count with
  | zero => rfl
  | succ count ih => rw [List.replicate_succ, List.cons_append, positional, Nat.zero_mul, Nat.zero_add, ih]

/-- The digits, in the order of their values; those above nine come in two cases. -/
def digitChars : List Char :=
  ['0', '1', '2', '3', '4', '5', '6', '7', '8', '9', 'a', 'b', 'c', 'd', 'e', 'f',
    'A', 'B', 'C', 'D', 'E', 'F']

/-- The number that a string of digits denotes. -/
def numeral (base : Nat) (digits : List Char) : Nat :=
  positional base (digits.map fun digit => digitChars.idxOf digit.toLower)

private theorem digitValue_eq {digit : Char} (known : digit ∈ digitChars) :
    digitValue digit = digitChars.idxOf digit.toLower := by
  have each : digitChars.all (fun digit => digitValue digit == digitChars.idxOf digit.toLower) = true := by
    decide
  exact beq_iff_eq.mp (List.all_eq_true.mp each digit known)

theorem ofDigits_eq_numeral (base : Nat) {digits : List Char}
    (known : ∀ digit ∈ digits, digit ∈ digitChars) : ofDigits base digits = numeral base digits := by
  have values : digits.map digitValue = digits.map fun digit => digitChars.idxOf digit.toLower :=
    List.map_congr_left fun digit member => digitValue_eq (known digit member)
  rw [ofDigits, numeral, ← values, ← List.foldl_map (f := digitValue)
    (g := fun value digit => value * base + digit), foldl_eq_positional, Nat.zero_mul, Nat.zero_add]

theorem numeral_zeros (base count : Nat) (digits : List Char) :
    numeral base (List.replicate count '0' ++ digits) = numeral base digits := by
  have zero : digitChars.idxOf '0'.toLower = 0 := by decide
  rw [numeral, List.map_append, List.map_replicate, zero, positional_zeros, numeral]

end GlulxAsm.Number
