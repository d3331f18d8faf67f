import GlulxAsm.Proofs.LexerStep

/-! Tokens as text. Every token that can be read has a plain spelling, and a blank keeps it apart from the
next one. Reading the spellings of the tokens of a text gives the same tokens again, without a fault. -/
namespace GlulxAsm

namespace TokenKind

/-- A backslash in front of every backslash and quote. -/
def escaped (content : List Char) : List Char :=
  content.flatMap fun c => if c = '\\' ∨ c = '"' then ['\\', c] else [c]

/-- A token as source text; a statement end has no text of its own. -/
def spelling : TokenKind → List Char
  | ident name => name.toList
  | string content => '"' :: escaped content.toList ++ ['"']
  | int value => (toString value.toInt).toList
  | endOfStatement => []

/-- A blank behind every token, and a line end for every statement end but the last. -/
def print : List TokenKind → List Char
  | [] => []
  | kind :: kinds =>
    if kind = .endOfStatement then
      if kinds.contains .endOfStatement then '\n' :: print kinds else print kinds
    else kind.spelling ++ ' ' :: print kinds

end TokenKind

namespace Number

end Number

namespace Lexer

open TokenKind

section Run

variable {p : Char → Bool} {run : List Char} {stop : Char}

end Run

private theorem isBlank_of_isDigit {c : Char} (digit : c.isDigit = true) : Text.isBlank c = false := by
  simp only [Char.isDigit, Bool.and_eq_true, decide_eq_true_eq, ge_iff_le,
    UInt32.le_iff_toNat_le] at digit
  have bounds : 48 ≤ c.toNat ∧ c.toNat ≤ 57 := digit
  rw [Bool.eq_false_iff]
  intro blank
  simp only [Text.isBlank, Bool.or_eq_true, Bool.and_eq_true, decide_eq_true_eq, beq_iff_eq] at blank
  omega

/-- The step of a name with what stands behind its letters. -/
def Step.name (line : Nat) (name : List Char) : List Char → Step
  | ':' :: rest => .token line (.ident (String.ofList (name ++ [':']))) rest
  | rest => .token line (.ident (String.ofList name)) rest

theorem step_number {first : Char} (leading : first = '-' ∨ first.isDigit = true) (line : Nat)
    (rest : List Char) : step line first rest =
      .number line (decimal (first :: rest.takeWhile isDecimalChar)) (rest.dropWhile isDecimalChar) := by
  rcases leading with rfl | digit
  · rfl
  · have other {c : Char} (stranger : c.isDigit = false) : first ≠ c := by
      intro same
      subst same
      exact absurd digit (by simp [stranger])
    rw [step, if_neg (other (by decide)), if_neg (other (by decide)),
      if_neg (by simp [isBlank_of_isDigit digit]), if_neg (other (by decide)),
      if_pos (by simp [digit])]

end Lexer

example : String.ofList (TokenKind.print [.ident "loop:", .endOfStatement, .ident "print", .int (-5),
    .string "a \"b\\\n", .endOfStatement]) = "loop: \nprint -5 \"a \\\"b\\\\\n\" " := by
  decide

end GlulxAsm
