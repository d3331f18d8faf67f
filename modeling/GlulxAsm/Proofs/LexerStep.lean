import GlulxAsm.Proofs.LineBoundary

/-! What one step of reading can come to: a blank, a token, a fault that leaves the rest of the text to
be read from a line end on, or a string that is still open at the end of the text. Every lexeme of a text
is the end of the text or comes from one such step. -/
namespace GlulxAsm.Lexer

/-- The first character of a name. The tests for blanks and digits are made before the one for names. -/
structure StartsName (first : Char) : Prop where
  visible : Text.isBlank first = false
  digitless : first.isDigit = false
  start : isIdentStart first = true

/-- The tokens that a text can spell: a name is a run of letters, with a colon behind it or not. -/
inductive Spelled : TokenKind → Prop where
  | name {first : Char} {letters : List Char} (starts : StartsName first)
      (inside : ∀ letter ∈ letters, isIdentChar letter = true) :
      Spelled (.ident (String.ofList (first :: letters)))
  | label {first : Char} {letters : List Char} (starts : StartsName first)
      (inside : ∀ letter ∈ letters, isIdentChar letter = true) :
      Spelled (.ident (String.ofList (first :: letters ++ [':'])))
  | string (content : String) : Spelled (.string content)
  | int (value : Int32) : Spelled (.int value)
  | endOfStatement : Spelled .endOfStatement

/-- What reading a string that starts on `start` comes to, from `text` on `line` on. -/
inductive StringReading.Outcome (start line : Nat) (text : List Char) : StringReading → Prop where
  | closed {content : List Char} {after : Nat} {behind : List Char} (below : line ≤ after)
      (tail : behind <:+ text) : Outcome start line text ⟨.ok content, after, behind⟩
  | broken {fault : LexicalFault} {charged after : Nat} {behind : List Char}
      (ended : fault ≠ .unterminatedString) (below : line ≤ charged) (reached : charged ≤ after)
      (stays : fault ≠ .unknownEscape '\n' → after = charged) (tail : behind <:+ text) :
      Outcome start line text ⟨.error (charged, fault), after, behind⟩
  | unclosed {after : Nat} (below : line ≤ after) :
      Outcome start line text ⟨.error (start, .unterminatedString), after, []⟩

/-- What was read in front does not matter. -/
theorem StringReading.Outcome.extend {start line later : Nat} {text rest : List Char}
    {reading : StringReading} (outcome : Outcome start later rest reading) (below : line ≤ later)
    (tail : rest <:+ text) : Outcome start line text reading := by
  cases outcome with
  | closed further ends => exact .closed (Nat.le_trans below further) (ends.trans tail)
  | broken ended further reached stays ends =>
    exact .broken ended (Nat.le_trans below further) reached stays (ends.trans tail)
  | unclosed further => exact .unclosed (Nat.le_trans below further)

private theorem le_lineAfter (line : Nat) (c : Char) : line ≤ lineAfter line c := by
  unfold lineAfter
  split
  · exact Nat.le_succ line
  · exact Nat.le_refl line

private theorem readString_outcome (start line : Nat) (content text : List Char) :
    (readString start line content text).Outcome start line text := by
  have code (rest : List Char) : rest.dropWhile Text.isHexDigit <:+ '\\' :: 'x' :: rest :=
    (List.dropWhile_suffix _).trans ⟨['\\', 'x'], rfl⟩
  fun_induction readString start line content text with
  | case1 => exact .unclosed (Nat.le_refl _)
  | case2 line content rest => exact .closed (Nat.le_refl _) (List.suffix_cons _ _)
  | case3 => exact .unclosed (Nat.le_refl _)
  | case4 line content rest digits c found ih => exact ih.extend (Nat.le_refl _) (code rest)
  | case5 line content rest digits missing =>
    exact .broken (by simp) (Nat.le_refl _) (Nat.le_refl _) (fun _ => rfl) (code rest)
  | case6 line content c rest other added found ih =>
    exact ih.extend (Nat.le_refl _) ⟨['\\', c], rfl⟩
  | case7 line content c rest other missing =>
    refine .broken (by simp) (Nat.le_refl _) (le_lineAfter line c) ?_ ⟨['\\', c], rfl⟩
    intro feedless
    apply if_neg
    intro feed
    exact feedless (congrArg LexicalFault.unknownEscape feed)
  | case8 line content c rest quote lone code escape ih =>
    exact ih.extend (le_lineAfter line c) (List.suffix_cons _ _)

/-- What a step from `line` on comes to, with `rest` behind its first character. -/
inductive Step.Outcome (line : Nat) (rest : List Char) : Step → Prop where
  | skipped {behind : List Char} (tail : behind <:+ rest) : Outcome line rest ⟨none, line, behind⟩
  | read {kind : TokenKind} {after : Nat} {behind : List Char} (spelled : Spelled kind)
      (below : line ≤ after) (tail : behind <:+ rest) :
      Outcome line rest ⟨some ⟨line, .ok kind⟩, after, behind⟩
  | failed {fault : LexicalFault} {charged after : Nat} {behind : List Char}
      (ended : fault ≠ .unterminatedString) (below : line ≤ charged) (reached : charged ≤ after)
      (stays : fault ≠ .unknownEscape '\n' → after = charged) (tail : behind <:+ rest) :
      Outcome line rest ⟨some ⟨charged, .error fault⟩, after, restOfLine behind⟩
  | unclosed {after : Nat} (below : line ≤ after) :
      Outcome line rest ⟨some ⟨line, .error .unterminatedString⟩, after, []⟩

namespace Step.Outcome

variable {line charged : Nat} {rest : List Char} {fault : LexicalFault} {step : Step}

theorem tail (outcome : step.Outcome line rest) : step.rest <:+ rest := by
  cases outcome with
  | skipped tail => exact tail
  | read spelled below tail => exact tail
  | failed ended below reached stays tail => exact (List.dropWhile_suffix _).trans tail
  | unclosed below => exact List.nil_suffix

theorem below (outcome : step.Outcome line rest) : line ≤ step.line := by
  cases outcome with
  | skipped tail => exact Nat.le_refl _
  | read spelled below tail => exact below
  | failed ended below reached stays tail => exact Nat.le_trans below reached
  | unclosed below => exact below

/-- A lexeme is charged to a line that the step went through. -/
theorem bounds {lexeme : Lexeme} (outcome : step.Outcome line rest)
    (found : step.lexeme = some lexeme) : line ≤ lexeme.line ∧ lexeme.line ≤ step.line := by
  cases outcome with
  | skipped tail => cases found
  | read spelled below tail =>
    cases found
    exact ⟨Nat.le_refl _, below⟩
  | failed ended below reached stays tail =>
    cases found
    exact ⟨below, reached⟩
  | unclosed below =>
    cases found
    exact ⟨Nat.le_refl _, below⟩

theorem spelled {kind : TokenKind} {line' : Nat} (outcome : step.Outcome line rest)
    (found : step.lexeme = some ⟨line', .ok kind⟩) : Spelled kind := by
  cases outcome with
  | skipped tail => cases found
  | read spelled below tail =>
    cases found
    exact spelled
  | failed ended below reached stays tail => cases found
  | unclosed below => cases found

/-- Reading goes on at the end of the line that a fault is charged to. -/
theorem resumes (outcome : step.Outcome line rest)
    (found : step.lexeme = some ⟨charged, .error fault⟩) (ended : fault ≠ .unterminatedString)
    (stays : fault ≠ .unknownEscape '\n') :
    step.line = charged ∧ ∃ behind, step.rest = restOfLine behind := by
  cases outcome with
  | skipped tail => cases found
  | read spelled below tail => cases found
  | @failed _ _ _ behind _ below reached same tail =>
    cases found
    exact ⟨same stays, behind, rfl⟩
  | unclosed below =>
    cases found
    exact absurd rfl ended

/-- Nothing is left behind a string that is not closed. -/
theorem exhausts (outcome : step.Outcome line rest)
    (found : step.lexeme = some ⟨charged, .error .unterminatedString⟩) : step.rest = [] := by
  cases outcome with
  | skipped tail => cases found
  | read spelled below tail => cases found
  | failed ended below reached stays tail =>
    cases found
    exact absurd rfl ended
  | unclosed below => rfl

end Step.Outcome

private theorem string_outcome {line : Nat} {rest : List Char} {reading : StringReading}
    (outcome : reading.Outcome line line rest) : (Step.string line reading).Outcome line rest := by
  cases outcome with
  | closed below tail => exact .read (.string _) below tail
  | broken ended below reached stays tail => exact .failed ended below reached stays tail
  | unclosed below => exact .unclosed below

private theorem decimal_ended (text : List Char) : decimal text ≠ .error .unterminatedString := by
  unfold decimal
  split
  · split
    · simp
    · simp
  · split
    · simp
    · split
      · simp
      · simp

private theorem hex_ended (digits : List Char) : hex digits ≠ .error .unterminatedString := by
  unfold hex
  dsimp only
  split
  · simp
  · simp

private theorem number_outcome {line : Nat} {value : Except LexicalFault Int32} {behind rest : List Char}
    (ended : value ≠ .error .unterminatedString) (tail : behind <:+ rest) :
    (Step.number line value behind).Outcome line rest := by
  cases value with
  | ok value => exact .read (.int value) (Nat.le_refl _) tail
  | error fault =>
    refine .failed ?_ (Nat.le_refl _) (Nat.le_refl _) (fun _ => rfl) tail
    intro same
    exact ended (congrArg Except.error same)

theorem step_outcome (line : Nat) (first : Char) (rest : List Char) :
    (step line first rest).Outcome line rest := by
  by_cases quote : first = '"'
  · subst quote
    exact string_outcome (readString_outcome line line [] rest)
  unfold step
  simp only [if_neg quote]
  split
  · exact .read .endOfStatement (Nat.le_succ line) (List.suffix_refl _)
  split
  · exact .skipped (List.dropWhile_suffix _)
  split
  · exact .skipped (List.suffix_refl _)
  next visible =>
  split
  · exact number_outcome (decimal_ended _) (List.dropWhile_suffix _)
  next digitless =>
  split
  · exact number_outcome (hex_ended _) (List.dropWhile_suffix _)
  split
  · next start =>
    have ordinary : first ≠ '-' ∧ first.isDigit = false := by
      simpa using digitless
    have starts : StartsName first := ⟨by simpa using visible, ordinary.2, start⟩
    have inside : ∀ letter ∈ rest.takeWhile isIdentChar, isIdentChar letter = true :=
      List.all_eq_true.mp List.all_takeWhile
    have tail : rest.dropWhile isIdentChar <:+ rest := List.dropWhile_suffix _
    split
    · next more found =>
      rw [found] at tail
      exact .read (.label starts inside) (Nat.le_refl _) ((List.suffix_cons _ _).trans tail)
    · exact .read (.name starts inside) (Nat.le_refl _) tail
  · exact .failed (by simp) (Nat.le_refl _) (Nat.le_refl _) (fun _ => rfl) (List.suffix_refl _)

/-- The text read as far as `left`, which starts on `point`, with `earlier` found on the way. -/
structure ReadUpTo (line : Nat) (text : List Char) (earlier : List Lexeme) (point : Nat)
    (left : List Char) : Prop where
  tail : left <:+ text
  lines : point + left.count '\n' = line + text.count '\n'
  whole : lexemesFrom line text = earlier ++ lexemesFrom point left
  below : line ≤ point
  before : ∀ lexeme ∈ earlier, lexeme.line ≤ point

namespace ReadUpTo

variable {line point further : Nat} {text left rest : List Char} {earlier more : List Lexeme}

theorem start (line : Nat) (text : List Char) : ReadUpTo line text [] line text where
  tail := List.suffix_refl _
  lines := rfl
  whole := rfl
  below := Nat.le_refl _
  before := by simp

theorem step (line : Nat) (first : Char) (rest : List Char) :
    ReadUpTo line (first :: rest) (Lexer.step line first rest).lexeme.toList
      (Lexer.step line first rest).line (Lexer.step line first rest).rest where
  tail := (step_outcome line first rest).tail.trans (List.suffix_cons _ _)
  lines := step_lines line first rest
  whole := lexemesFrom_cons line first rest
  below := (step_outcome line first rest).below
  before := by
    intro lexeme member
    exact ((step_outcome line first rest).bounds (Option.mem_toList.mp member)).2

theorem trans (front : ReadUpTo line text earlier point left)
    (back : ReadUpTo point left more further rest) :
    ReadUpTo line text (earlier ++ more) further rest where
  tail := back.tail.trans front.tail
  lines := back.lines.trans front.lines
  whole := by rw [front.whole, back.whole, List.append_assoc]
  below := Nat.le_trans front.below back.below
  before := by
    intro lexeme member
    rcases List.mem_append.mp member with passed | last
    · exact Nat.le_trans (front.before lexeme passed) back.below
    · exact back.before lexeme last

end ReadUpTo

/-- A lexeme closes the text, or it comes from a step somewhere in it. -/
theorem exists_step {line : Nat} {text : List Char} {lexeme : Lexeme}
    (member : lexeme ∈ lexemesFrom line text) : ∃ earlier point left,
      ReadUpTo line text earlier point left ∧
      ((left = [] ∧ lexeme = ⟨point, .ok .endOfStatement⟩) ∨
        ∃ first rest, left = first :: rest ∧ (step point first rest).lexeme = some lexeme) := by
  induction line, text using text_induction with
  | nil line => exact ⟨[], line, [], .start line [], .inl ⟨rfl, by simpa using member⟩⟩
  | cons line first rest ih =>
    rw [lexemesFrom_cons] at member
    rcases List.mem_append.mp member with now | later
    · exact ⟨[], line, first :: rest, .start _ _, .inr ⟨first, rest, rfl, by simpa using now⟩⟩
    · obtain ⟨earlier, point, left, reading, found⟩ := ih later
      exact ⟨_, point, left, (ReadUpTo.step line first rest).trans reading, found⟩

end GlulxAsm.Lexer
