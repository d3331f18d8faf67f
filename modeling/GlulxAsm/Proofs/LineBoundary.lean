import GlulxAsm.Token.Lexer
import Mathlib.Data.List.Basic

/-! Where lines meet. Reading never looks past a line end, except for the closing quote of a string. So
what is read behind a line end does not depend on what stands in front of it, and its lines are only
counted on. -/
namespace GlulxAsm

namespace Lexer

section Stop

variable {p : Char → Bool} {c : Char}

theorem takeWhile_append_stop (stop : p c = false) (text more : List Char) :
    (text ++ c :: more).takeWhile p = text.takeWhile p := by
  induction text with
  | nil => simp [stop]
  | cons first rest ih =>
    by_cases taken : p first = true
    · simp [taken, ih]
    · simp [taken]

theorem dropWhile_append_stop (stop : p c = false) (text more : List Char) :
    (text ++ c :: more).dropWhile p = text.dropWhile p ++ c :: more := by
  induction text with
  | nil => simp [stop]
  | cons first rest ih =>
    by_cases taken : p first = true
    · simp [taken, ih]
    · simp [taken]

theorem count_dropWhile (passed : ∀ c, p c = true → c ≠ '\n') (text : List Char) :
    (text.dropWhile p).count '\n' = text.count '\n' := by
  induction text with
  | nil => rfl
  | cons first rest ih =>
    by_cases taken : p first = true
    · simp [taken, ih, passed first taken]
    · simp [taken]

end Stop

private theorem restOfLine_append (text more : List Char) :
    restOfLine (text ++ '\n' :: more) = restOfLine text ++ '\n' :: more :=
  dropWhile_append_stop (by decide) text more

private theorem count_restOfLine (text : List Char) : (restOfLine text).count '\n' = text.count '\n' :=
  count_dropWhile (by simp) text

/-- A string that is closed, or broken in another way, ends without a look at the next line. -/
theorem readString_append (start line : Nat) (content text more : List Char)
    (closed : ∀ charged, (readString start line content text).content ≠
      .error (charged, .unterminatedString)) :
    readString start line content (text ++ '\n' :: more) =
      { readString start line content text with
        rest := (readString start line content text).rest ++ '\n' :: more } := by
  fun_induction readString start line content text with
  | case1 => exact absurd rfl (closed _)
  | case2 line content rest => simp [readString]
  | case3 => exact absurd rfl (closed _)
  | case4 line content rest digits c found ih =>
    have same : (rest ++ '\n' :: more).takeWhile Text.isHexDigit = digits :=
      takeWhile_append_stop (by decide) rest more
    rw [List.cons_append, List.cons_append, readString]
    simp only [same, found, dropWhile_append_stop (show Text.isHexDigit '\n' = false by decide)]
    exact ih closed
  | case5 line content rest digits missing =>
    have same : (rest ++ '\n' :: more).takeWhile Text.isHexDigit = digits :=
      takeWhile_append_stop (by decide) rest more
    rw [List.cons_append, List.cons_append, readString]
    simp only [same, missing, dropWhile_append_stop (show Text.isHexDigit '\n' = false by decide)]
  | case6 line content c rest other added found ih =>
    rw [List.cons_append, List.cons_append, readString]
    · simp only [found]
      exact ih closed
    · exact other
  | case7 line content c rest other missing =>
    rw [List.cons_append, List.cons_append, readString]
    · simp only [missing]
    · exact other
  | case8 line content c rest quote lone code escape ih =>
    have plain : c ≠ '\\' := by
      rintro rfl
      cases rest with
      | nil => exact lone rfl rfl
      | cons next rest => exact escape next rest rfl rfl
    rw [List.cons_append, readString]
    · exact ih closed
    · exact quote
    · exact fun slash => absurd slash plain
    · exact fun _ slash => absurd slash plain
    · exact fun _ _ slash => absurd slash plain

/-- The line of the lexeme is counted on. -/
def Lexeme.later (count : Nat) (lexeme : Lexeme) : Lexeme :=
  { lexeme with line := lexeme.line + count }

private theorem lineAfter_add (line count : Nat) (c : Char) :
    lineAfter (line + count) c = lineAfter line c + count := by
  unfold lineAfter
  split
  · omega
  · rfl

private theorem readString_later (start line count : Nat) (content text : List Char) :
    readString (start + count) (line + count) content text =
      { content := (readString start line content text).content.mapError fun (charged, fault) =>
          (charged + count, fault)
        line := (readString start line content text).line + count
        rest := (readString start line content text).rest } := by
  fun_induction readString start line content text with
  | case1 => simp [readString, Except.mapError]
  | case2 line content rest => simp [readString, Except.mapError]
  | case3 => simp [readString, Except.mapError]
  | case4 line content rest digits c found ih =>
    rw [readString]
    simp only [digits] at found
    simp only [found]
    exact ih
  | case5 line content rest digits missing =>
    rw [readString]
    simp only [digits] at missing
    simp only [missing]
    rfl
  | case6 line content c rest other added found ih =>
    rw [readString]
    · simp only [found]
      exact ih
    · exact other
  | case7 line content c rest other missing =>
    rw [readString]
    · simp only [missing]
      rw [lineAfter_add]
      rfl
    · exact other
  | case8 line content c rest quote lone code escape ih =>
    rw [readString, lineAfter_add]
    · exact ih
    · exact quote
    · exact lone
    · exact code
    · exact escape

theorem lineAfter_count (line : Nat) (c : Char) (rest : List Char) :
    lineAfter line c + rest.count '\n' = line + (c :: rest).count '\n' := by
  unfold lineAfter
  split
  · next feed =>
    rw [feed, List.count_cons_self]
    omega
  · next other => rw [List.count_cons_of_ne other]

/-- Every line end that was passed is counted. -/
theorem readString_lines (start line : Nat) (content text : List Char) :
    (readString start line content text).line +
      (readString start line content text).rest.count '\n' = line + text.count '\n' := by
  have digitless (rest : List Char) :
      (rest.dropWhile Text.isHexDigit).count '\n' = rest.count '\n' := by
    refine count_dropWhile ?_ rest
    rintro _ digit rfl
    revert digit
    decide
  fun_induction readString start line content text with
  | case1 => rfl
  | case2 line content rest => simp
  | case3 => simp
  | case4 line content rest digits c found ih => simp [ih, digitless]
  | case5 line content rest digits missing => simp [digitless]
  | case6 line content c rest other added found ih =>
    have feedless : c ≠ '\n' := by
      rintro rfl
      cases found
    simp [ih, feedless]
  | case7 line content c rest other missing =>
    rw [lineAfter_count]
    simp
  | case8 line content c rest quote lone code escape ih => rw [ih, lineAfter_count]

def Step.later (count : Nat) (step : Step) : Step :=
  { step with lexeme := step.lexeme.map (·.later count), line := step.line + count }

private theorem step_later (line count : Nat) (first : Char) (rest : List Char) :
    step (line + count) first rest = (step line first rest).later count := by
  have number (value : Except LexicalFault Int32) (rest : List Char) :
      Step.number (line + count) value rest = (Step.number line value rest).later count := by
    cases value <;> rfl
  unfold step
  split
  · simp [Step.later, Lexeme.later]
    omega
  split
  · rfl
  split
  · rfl
  split
  · rw [readString_later]
    obtain ⟨content, after, rest⟩ := readString line line [] rest
    cases content <;> rfl
  split
  · exact number _ _
  split
  · exact number _ _
  split
  · dsimp only
    split <;> rfl
  · rfl

theorem step_lines (line : Nat) (first : Char) (rest : List Char) :
    (step line first rest).line + (step line first rest).rest.count '\n' =
      line + (first :: rest).count '\n' := by
  have number (value : Except LexicalFault Int32) (text : List Char) :
      (Step.number line value text).line + (Step.number line value text).rest.count '\n' =
        line + text.count '\n' := by
    cases value with
    | ok value => rfl
    | error fault => simp [Step.number, Step.fault, count_restOfLine]
  have decimals : (rest.dropWhile isDecimalChar).count '\n' = rest.count '\n' :=
    count_dropWhile (by rintro _ digit rfl; revert digit; decide) rest
  have digits : (rest.dropWhile Text.isHexDigit).count '\n' = rest.count '\n' :=
    count_dropWhile (by rintro _ digit rfl; revert digit; decide) rest
  have letters : (rest.dropWhile isIdentChar).count '\n' = rest.count '\n' :=
    count_dropWhile (by rintro _ letter rfl; revert letter; decide) rest
  by_cases feed : first = '\n'
  · simp [step, feed]
    omega
  rw [List.count_cons_of_ne feed]
  unfold step
  rw [if_neg feed]
  split
  · simp [count_restOfLine]
  split
  · rfl
  split
  · have lines := readString_lines line line [] rest
    revert lines
    obtain ⟨content, after, behind⟩ := readString line line [] rest
    intro lines
    cases content with
    | ok content => exact lines
    | error fault => simpa [Step.fault, count_restOfLine] using lines
  split
  · rw [number, decimals]
  split
  · rw [number, digits]
  split
  · dsimp only
    split
    · next behind found =>
      rw [← letters, found]
      simp [Step.token]
    · exact congrArg (line + ·) letters
  · simp [Step.fault, count_restOfLine]

/-- The step of a string that has been read. -/
def Step.string (line : Nat) (reading : StringReading) : Step :=
  match reading.content with
  | .ok content => ⟨some ⟨line, .ok (.string (String.ofList content))⟩, reading.line, reading.rest⟩
  | .error (charged, fault) => .fault charged reading.line fault reading.rest

theorem step_quote (line : Nat) (rest : List Char) :
    step line '"' rest = .string line (readString line line [] rest) := rfl

/-- Only an open string looks past the end of its line. -/
theorem step_append (line : Nat) (first : Char) (rest more : List Char)
    (closed : ∀ charged, (step line first rest).lexeme ≠ some ⟨charged, .error .unterminatedString⟩) :
    step line first (rest ++ '\n' :: more) =
      { step line first rest with rest := (step line first rest).rest ++ '\n' :: more } := by
  have number (value : Except LexicalFault Int32) (text : List Char) :
      Step.number line value (text ++ '\n' :: more) = { Step.number line value text with
        rest := (Step.number line value text).rest ++ '\n' :: more } := by
    cases value with
    | ok value => rfl
    | error fault => simp [Step.number, Step.fault, restOfLine_append]
  by_cases quote : first = '"'
  · subst quote
    rw [step_quote] at closed
    rw [step_quote, step_quote, readString_append]
    · obtain ⟨content, after, behind⟩ := readString line line [] rest
      cases content with
      | ok content => rfl
      | error fault => simp [Step.string, Step.fault, restOfLine_append]
    · intro charged broken
      refine closed charged ?_
      simp [Step.string, broken, Step.fault]
  unfold step
  simp only [if_neg quote]
  split
  · rfl
  split
  · simp [restOfLine_append]
  split
  · rfl
  split
  · rw [takeWhile_append_stop (by decide), dropWhile_append_stop (by decide), number]
  split
  · rw [takeWhile_append_stop (by decide), dropWhile_append_stop (by decide), number]
  split
  · rw [takeWhile_append_stop (by decide), dropWhile_append_stop (by decide)]
    cases rest.dropWhile isIdentChar with
    | nil => rfl
    | cons next behind =>
      by_cases colon : next = ':'
      · subst colon
        rfl
      · simp [colon, Step.token]
  · simp [Step.fault, restOfLine_append]

/-- The lexemes of a text that starts on a line. -/
def lexemesFrom (line : Nat) (text : List Char) : List Lexeme := (scan #[] line text).toList

/-- To show something of every text, go from what a step leaves to the text in front of the step. -/
theorem text_induction {motive : Nat → List Char → Prop} (nil : ∀ line, motive line [])
    (cons : ∀ line first rest, motive (step line first rest).line (step line first rest).rest →
      motive line (first :: rest)) (line : Nat) (text : List Char) : motive line text := by
  match text with
  | [] => exact nil line
  | first :: rest =>
    have shorter := step_rest_le line first rest
    exact cons line first rest (text_induction nil cons _ _)
termination_by text.length

private theorem toList_scan (read : Array Lexeme) (line : Nat) (text : List Char) :
    (scan read line text).toList = read.toList ++ lexemesFrom line text := by
  unfold lexemesFrom
  induction line, text using text_induction generalizing read with
  | nil line => simp [scan]
  | cons line first rest ih =>
    rw [scan, scan]
    cases (step line first rest).lexeme with
    | none => exact ih read
    | some lexeme =>
      dsimp only
      rw [ih, ih (#[].push lexeme)]
      simp

@[simp] theorem lexemesFrom_nil (line : Nat) :
    lexemesFrom line [] = [⟨line, .ok .endOfStatement⟩] := by
  simp [lexemesFrom, scan]

theorem lexemesFrom_cons (line : Nat) (first : Char) (rest : List Char) :
    lexemesFrom line (first :: rest) = (step line first rest).lexeme.toList ++
      lexemesFrom (step line first rest).line (step line first rest).rest := by
  rw [lexemesFrom, scan]
  cases (step line first rest).lexeme with
  | none => simp [toList_scan]
  | some lexeme => simp [toList_scan]

theorem lexemesFrom_later (line count : Nat) (text : List Char) :
    lexemesFrom (line + count) text = (lexemesFrom line text).map (·.later count) := by
  induction line, text using text_induction with
  | nil line => simp [Lexeme.later]
  | cons line first rest ih =>
    rw [lexemesFrom_cons, lexemesFrom_cons, step_later, List.map_append, ← ih]
    obtain ⟨lexeme, after, behind⟩ := step line first rest
    cases lexeme <;> rfl

theorem lexemesFrom_append {line : Nat} {text : List Char}
    (closed : ∀ lexeme ∈ lexemesFrom line text, lexeme.content ≠ .error .unterminatedString)
    (more : List Char) :
    lexemesFrom line (text ++ '\n' :: more) =
      lexemesFrom line text ++ lexemesFrom (line + text.count '\n' + 1) more := by
  induction line, text using text_induction with
  | nil line => simp [lexemesFrom_cons, step]
  | cons line first rest ih =>
    rw [lexemesFrom_cons] at closed
    have stepped := step_append line first rest more (by
      intro charged broken
      exact closed ⟨charged, .error .unterminatedString⟩ (by simp [broken]) rfl)
    rw [List.cons_append, lexemesFrom_cons, stepped, lexemesFrom_cons, List.append_assoc,
      ih fun lexeme member => closed lexeme (List.mem_append_right _ member), step_lines]

/-- What the lexemes of a text say, without their lines. -/
def contents (text : List Char) : List (Except LexicalFault TokenKind) :=
  (lexemesFrom 1 text).map (·.content)

end Lexer

end GlulxAsm
