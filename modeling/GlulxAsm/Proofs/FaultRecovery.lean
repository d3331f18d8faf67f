import GlulxAsm.Proofs.LexerStep

/-! What a fault costs. A text is read line by line, so the lines behind a fault are read as if they stood
alone, counted on from where they stand. Two faults take more than their line: a string that is never
closed takes the rest of the text, and an escape of a line end takes the next line. -/
namespace GlulxAsm

/-- The place so many lines further down. -/
def Location.later (count : Nat) (loc : Location) : Location := { loc with line := loc.line + count }

namespace Scan

instance : Append Scan where
  append front back := ⟨front.tokens ++ back.tokens, front.faults ++ back.faults⟩

/-- The same reading so many lines further down. -/
def later (count : Nat) (scan : Scan) : Scan :=
  { tokens := scan.tokens.map fun token => { token with loc := token.loc.later count }
    faults := scan.faults.map fun (loc, fault) => (loc.later count, fault) }

private theorem tokens_append (front back : Scan) :
    (front ++ back).tokens = front.tokens ++ back.tokens := rfl

end Scan

namespace Lexer

/-- Lexemes sorted into tokens and faults. -/
def sorted (file : String) (lexemes : List Lexeme) : Scan :=
  { tokens := lexemes.filterMap fun lexeme =>
      lexeme.content.toOption.map fun kind => ⟨kind, ⟨file, lexeme.line⟩⟩
    faults := lexemes.filterMap fun lexeme =>
      match lexeme.content with
      | .error fault => some (⟨file, lexeme.line⟩, fault)
      | .ok _ => none }

theorem tokenize_eq (file source : String) :
    tokenize file source = sorted file (lexemesFrom 1 source.toList) := rfl

variable {file : String}

theorem sorted_append (front back : List Lexeme) :
    sorted file (front ++ back) = sorted file front ++ sorted file back := by
  simp only [sorted, List.filterMap_append]
  rfl

theorem sorted_later (count : Nat) (lexemes : List Lexeme) :
    sorted file (lexemes.map (·.later count)) = (sorted file lexemes).later count := by
  simp only [sorted, Scan.later, List.filterMap_map, List.map_filterMap, Scan.mk.injEq]
  constructor
  · apply List.filterMap_congr
    intro lexeme _
    cases content : lexeme.content <;> simp [Lexeme.later, content, Except.toOption, Location.later]
  · apply List.filterMap_congr
    intro lexeme _
    cases content : lexeme.content <;> simp [Lexeme.later, content, Location.later]

theorem mem_faults_iff {lexemes : List Lexeme} {loc : Location} {fault : LexicalFault} :
    (loc, fault) ∈ (sorted file lexemes).faults ↔
      loc.file = file ∧ ⟨loc.line, .error fault⟩ ∈ lexemes := by
  simp only [sorted, List.mem_filterMap]
  constructor
  · intro found
    obtain ⟨⟨line, content⟩, member, reported⟩ := found
    cases content with
    | ok kind => cases reported
    | error fault =>
      cases reported
      exact ⟨rfl, member⟩
  · intro found
    obtain ⟨named, member⟩ := found
    subst named
    exact ⟨_, member, rfl⟩

end Lexer

/-- A line end outside any string divides a text into two that are read apart. -/
theorem tokenize_append_line (file front back : String)
    (closed : ∀ loc, (loc, LexicalFault.unterminatedString) ∉ (tokenize file front).faults) :
    tokenize file (front ++ "\n" ++ back) =
      tokenize file front ++ (tokenize file back).later (1 + front.toList.count '\n') := by
  have whole : (front ++ "\n" ++ back).toList = front.toList ++ '\n' :: back.toList := by
    simp
  have counted : 1 + front.toList.count '\n' + 1 = 1 + (1 + front.toList.count '\n') := by
    omega
  simp only [Lexer.tokenize_eq] at closed ⊢
  rw [whole, Lexer.lexemesFrom_append, Lexer.sorted_append, counted, Lexer.lexemesFrom_later,
    Lexer.sorted_later]
  intro lexeme member broken
  obtain ⟨line, content⟩ := lexeme
  subst broken
  exact closed ⟨file, line⟩ (Lexer.mem_faults_iff.mpr ⟨rfl, member⟩)

/-- A string that spans two lines and a fault in front of the cut, an open string behind it. -/
theorem tokenize_append_line_string :
    (∀ loc, (loc, LexicalFault.unterminatedString) ∉
      (tokenize "t.ga" "say \"two\nlines\"\n@ x").faults) ∧
    tokenize "t.ga" "say \"two\nlines\"\n@ x\nquit $\n\"open" =
      tokenize "t.ga" "say \"two\nlines\"\n@ x" ++ (tokenize "t.ga" "quit $\n\"open").later 3 := by
  have faults : (tokenize "t.ga" "say \"two\nlines\"\n@ x").faults =
      [(⟨"t.ga", 3⟩, .unexpectedCharacter '@')] := by
    decide +kernel
  have closed : ∀ loc, (loc, LexicalFault.unterminatedString) ∉
      (tokenize "t.ga" "say \"two\nlines\"\n@ x").faults := by
    intro loc
    simp [faults]
  exact ⟨closed, tokenize_append_line "t.ga" "say \"two\nlines\"\n@ x" "quit $\n\"open" closed⟩

namespace Lexer

/-- Two tails of a text that start behind line ends are one if as many lines follow. -/
theorem tail_unique {one two text : List Char} (first : '\n' :: one <:+ text)
    (second : '\n' :: two <:+ text) (same : one.count '\n' = two.count '\n') : one = two := by
  -- A tail that is longer by anything is longer by the line end it starts with.
  have equal {short long : List Char} (tail : '\n' :: short <:+ '\n' :: long)
      (same : short.count '\n' = long.count '\n') : short = long := by
    rcases List.suffix_cons_iff.mp tail with whole | inner
    · exact (List.cons.inj whole).2
    · have bound := inner.sublist.count_le '\n'
      rw [List.count_cons_self] at bound
      omega
  rcases List.suffix_or_suffix_of_suffix first second with inner | inner
  · exact equal inner same
  · exact (equal inner same.symm).symm

private theorem restOfLine_cases (text : List Char) :
    restOfLine text = [] ∨ ∃ back, restOfLine text = '\n' :: back := by
  induction text with
  | nil => exact .inl rfl
  | cons first rest ih =>
    by_cases feed : first = '\n'
    · subst feed
      exact .inr ⟨rest, rfl⟩
    · have passed : restOfLine (first :: rest) = restOfLine rest :=
        List.dropWhile_cons_of_pos (by simpa using feed)
      rw [passed]
      exact ih

/-- Behind a fault, a text is read from the end of its line on. -/
theorem exists_readUpTo_fault {line charged : Nat} {text : List Char} {fault : LexicalFault}
    (member : ⟨charged, .error fault⟩ ∈ lexemesFrom line text)
    (ended : fault ≠ .unterminatedString) (stays : fault ≠ .unknownEscape '\n') :
    ∃ earlier behind, ReadUpTo line text earlier charged (restOfLine behind) := by
  obtain ⟨earlier, point, _, reading, ⟨_, closing⟩ | ⟨first, rest, rfl, found⟩⟩ := exists_step member
  · cases closing
  · obtain ⟨same, behind, left⟩ := (step_outcome point first rest).resumes found ended stays
    have further := reading.trans (.step point first rest)
    rw [same, left] at further
    exact ⟨_, behind, further⟩

/-- Only the end of the text stands behind a string that is not closed, and what was read before it
does not lie on a later line. -/
theorem lexemesFrom_unclosed {line charged : Nat} {text : List Char}
    (member : ⟨charged, .error .unterminatedString⟩ ∈ lexemesFrom line text) :
    ∃ earlier, lexemesFrom line text = earlier ++
        [⟨charged, .error .unterminatedString⟩, ⟨line + text.count '\n', .ok .endOfStatement⟩] ∧
      ∀ lexeme ∈ earlier, lexeme.line ≤ charged := by
  obtain ⟨earlier, point, _, reading, ⟨_, closing⟩ | ⟨first, rest, rfl, found⟩⟩ := exists_step member
  · cases closing
  · have outcome := step_outcome point first rest
    have further := reading.trans (.step point first rest)
    have last : (step point first rest).line = line + text.count '\n' := by
      simpa [outcome.exhausts found] using further.lines
    refine ⟨earlier, ?_, ?_⟩
    · rw [further.whole, outcome.exhausts found, last, found]
      simp
    · intro lexeme present
      exact Nat.le_trans (reading.before lexeme present) (outcome.bounds found).1

end Lexer

/-- What stands behind the end of a line is read as a text of its own, counted on. -/
def ResumesBehind (file source : String) (line : Nat) : Prop :=
  ∀ front back : String, source = front ++ "\n" ++ back → front.toList.count '\n' + 1 = line →
    ∃ earlier : Scan, tokenize file source = earlier ++ (tokenize file back).later line

private theorem resumesBehind_of_readUpTo {file source : String} {line : Nat}
    {earlier : List Lexer.Lexeme} {behind : List Char}
    (reading : Lexer.ReadUpTo 1 source.toList earlier line (Lexer.restOfLine behind)) :
    ResumesBehind file source line := by
  intro front back whole placed
  obtain ⟨tail, counted, joined, _, _⟩ := reading
  have spelled : source.toList = front.toList ++ '\n' :: back.toList := by
    simp [whole]
  have lines : (Lexer.restOfLine behind).count '\n' = back.toList.count '\n' + 1 := by
    rw [spelled, List.count_append, List.count_cons_self] at counted
    omega
  rcases Lexer.restOfLine_cases behind with left | ⟨more, left⟩
  · simp [left] at lines
  · rw [left] at tail joined lines
    have same : more = back.toList := by
      refine Lexer.tail_unique tail ⟨front.toList, spelled.symm⟩ ?_
      rw [List.count_cons_self] at lines
      omega
    have fed : Lexer.lexemesFrom line ('\n' :: back.toList) =
        ⟨line, .ok .endOfStatement⟩ :: (Lexer.lexemesFrom 1 back.toList).map (·.later line) := by
      rw [Lexer.lexemesFrom_cons, ← Lexer.lexemesFrom_later, Nat.add_comm 1 line]
      rfl
    refine ⟨Lexer.sorted file (earlier ++ [⟨line, .ok .endOfStatement⟩]), ?_⟩
    rw [Lexer.tokenize_eq, Lexer.tokenize_eq, ← Lexer.sorted_later, ← Lexer.sorted_append, joined,
      same, fed, List.append_cons]

/-- A fault costs the rest of the line that it is charged to. A string that is not closed costs the rest of
the text: it is the last fault, and no token of a later line is left but the one that closes the text. -/
theorem fault_recovery (file source : String) {loc : Location} {fault : LexicalFault}
    (reported : (loc, fault) ∈ (tokenize file source).faults) :
    (fault ≠ .unterminatedString → fault ≠ .unknownEscape '\n' →
      ResumesBehind file source loc.line) ∧
    (fault = .unterminatedString → ∃ (tokens : List Token) (faults : List (Location × LexicalFault)),
      (tokenize file source).faults = faults ++ [(loc, .unterminatedString)] ∧
      (tokenize file source).tokens =
        tokens ++ [⟨.endOfStatement, ⟨file, 1 + source.toList.count '\n'⟩⟩] ∧
      ∀ token ∈ tokens, token.loc.line ≤ loc.line) := by
  rw [Lexer.tokenize_eq, Lexer.mem_faults_iff] at reported
  obtain ⟨named, member⟩ := reported
  constructor
  · intro ended stays
    obtain ⟨earlier, behind, reading⟩ := Lexer.exists_readUpTo_fault member ended stays
    exact resumesBehind_of_readUpTo reading
  · intro unclosed
    subst unclosed
    obtain ⟨earlier, whole, before⟩ := Lexer.lexemesFrom_unclosed member
    obtain ⟨_, line⟩ := loc
    subst named
    rw [Lexer.tokenize_eq, whole, Lexer.sorted_append]
    refine ⟨(Lexer.sorted _ earlier).tokens, (Lexer.sorted _ earlier).faults, rfl, rfl, ?_⟩
    intro token present
    obtain ⟨lexeme, inside, read⟩ := List.mem_filterMap.mp present
    obtain ⟨kind, _, placed⟩ := Option.map_eq_some_iff.mp read
    rw [← placed]
    exact before lexeme inside

/-- A bad escape on the second line of a string, and a string that is open at the end of the text. -/
theorem fault_recovery_strings :
    ((⟨"t.ga", 2⟩, .unknownEscape 'q') ∈
        (tokenize "t.ga" "say \"two\nlines\\q\" x\nquit").faults ∧
      ∃ earlier : Scan, tokenize "t.ga" "say \"two\nlines\\q\" x\nquit" =
        earlier ++ (tokenize "t.ga" "quit").later 2) ∧
    ((⟨"t.ga", 1⟩, .unterminatedString) ∈ (tokenize "t.ga" "say \"open\nnop\n").faults ∧
      ∃ tokens : List Token, (tokenize "t.ga" "say \"open\nnop\n").tokens =
          tokens ++ [⟨.endOfStatement, ⟨"t.ga", 3⟩⟩] ∧ ∀ token ∈ tokens, token.loc.line ≤ 1) := by
  have broken : (⟨"t.ga", 2⟩, .unknownEscape 'q') ∈
      (tokenize "t.ga" "say \"two\nlines\\q\" x\nquit").faults := by
    decide +kernel
  have unclosed : (⟨"t.ga", 1⟩, .unterminatedString) ∈
      (tokenize "t.ga" "say \"open\nnop\n").faults := by
    decide +kernel
  obtain ⟨tokens, _, _, closing, before⟩ := (fault_recovery "t.ga" _ unclosed).2 rfl
  refine ⟨⟨broken, ?_⟩, unclosed, tokens, closing, before⟩
  exact (fault_recovery "t.ga" _ broken).1 (by decide) (by decide) "say \"two\nlines\\q\" x" "quit"
    rfl rfl

theorem ResumesBehind.length_le {file source : String} {line : Nat}
    (resumes : ResumesBehind file source line) (front back : String)
    (whole : source = front ++ "\n" ++ back) (placed : front.toList.count '\n' + 1 = line) :
    (tokenize file back).tokens.length ≤ (tokenize file source).tokens.length := by
  obtain ⟨earlier, same⟩ := resumes front back whole placed
  rw [same, Scan.tokens_append, List.length_append, Scan.later, List.length_map]
  exact Nat.le_add_left _ _

/-- An open string takes the lines behind its own, and the escape of a line end takes the next one. -/
theorem faults_cross_lines :
    ((tokenize "t.ga" "\"open\nnop\n").faults = [(⟨"t.ga", 1⟩, .unterminatedString)] ∧
      ¬ ResumesBehind "t.ga" "\"open\nnop\n" 1) ∧
    ((tokenize "t.ga" "\"\\\nnop\n").faults = [(⟨"t.ga", 1⟩, .unknownEscape '\n')] ∧
      ¬ ResumesBehind "t.ga" "\"\\\nnop\n" 1) := by
  have evaluated : (tokenize "t.ga" "nop\n").tokens.length = 3 ∧
      (tokenize "t.ga" "\"open\nnop\n").faults = [(⟨"t.ga", 1⟩, .unterminatedString)] ∧
      (tokenize "t.ga" "\"open\nnop\n").tokens.length = 1 ∧
      (tokenize "t.ga" "\"\\\nnop\n").faults = [(⟨"t.ga", 1⟩, .unknownEscape '\n')] ∧
      (tokenize "t.ga" "\"\\\nnop\n").tokens.length = 2 := by
    decide +kernel
  obtain ⟨alone, unclosed, lost, escaped, less⟩ := evaluated
  refine ⟨⟨unclosed, ?_⟩, escaped, ?_⟩
  · intro resumes
    have bound := resumes.length_le "\"open" "nop\n" rfl rfl
    omega
  · intro resumes
    have bound := resumes.length_le "\"\\" "nop\n" rfl rfl
    omega

end GlulxAsm
