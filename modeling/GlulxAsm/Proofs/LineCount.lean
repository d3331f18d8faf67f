import GlulxAsm.Proofs.IncludeError

/-! The lines of a text. They are counted from one, and the last number is the largest. An assembly leaves
the 32 bits of the count exactly if a text that it reads has more lines, and then at the first such text. -/
namespace GlulxAsm

namespace Lexer

/-- Every text is read to its end. -/
theorem exists_readUpTo_end (line : Nat) (text : List Char) :
    ∃ earlier point, ReadUpTo line text earlier point [] := by
  induction line, text using text_induction with
  | nil line => exact ⟨[], line, .start line []⟩
  | cons line first rest ih =>
    obtain ⟨earlier, point, reading⟩ := ih
    exact ⟨_, point, (ReadUpTo.step line first rest).trans reading⟩

/-- The last lexeme of a text closes it, on a line that no other one is behind. -/
theorem lexemes_end (source : String) :
    ∃ earlier, lexemes source =
        earlier ++ [⟨1 + source.toList.count '\n', .ok .endOfStatement⟩] ∧
      ∀ lexeme ∈ earlier, lexeme.line ≤ 1 + source.toList.count '\n' := by
  obtain ⟨earlier, point, reading⟩ := exists_readUpTo_end 1 source.toList
  obtain rfl : point = 1 + source.toList.count '\n' := reading.lines
  refine ⟨earlier, ?_, reading.before⟩
  rw [← lexemesFrom_nil]
  exact reading.whole

end Lexer

theorem lastLine_tokenize (file source : String) :
    (tokenize file source).lastLine = 1 + source.toList.count '\n' := by
  obtain ⟨earlier, whole, _⟩ := Lexer.lexemes_end source
  simp [Scan.lastLine, tokenize, whole, Except.toOption]

/-- No token and no fault is charged to a line behind the last. -/
theorem line_le_lastLine (file source : String) :
    (∀ token ∈ (tokenize file source).tokens, token.loc.line ≤ (tokenize file source).lastLine) ∧
      ∀ fault ∈ (tokenize file source).faults, fault.1.line ≤ (tokenize file source).lastLine := by
  rw [lastLine_tokenize]
  obtain ⟨earlier, whole, before⟩ := Lexer.lexemes_end source
  have bound : ∀ lexeme ∈ Lexer.lexemes source, lexeme.line ≤ 1 + source.toList.count '\n' := by
    rw [whole, List.forall_mem_append, List.forall_mem_singleton]
    exact ⟨before, Nat.le_refl _⟩
  constructor
  · intro token member
    obtain ⟨lexeme, present, found⟩ := List.mem_filterMap.mp member
    obtain ⟨kind, _, rfl⟩ := Option.map_eq_some_iff.mp found
    exact bound lexeme present
  · intro fault member
    obtain ⟨lexeme, present, found⟩ := List.mem_filterMap.mp member
    split at found
    · cases found
      exact bound lexeme present
    · cases found

/-- A text that is read under a name. -/
structure NamedText where
  name : String
  text : String

namespace NamedText

/-- The text has more lines than 32 bits can count. -/
def Overlong (named : NamedText) : Prop := 0xffffffff ≤ named.text.toList.count '\n'

instance (named : NamedText) : Decidable named.Overlong :=
  inferInstanceAs (Decidable (_ ≤ _))

def overflow? (named : NamedText) : Option Overflow :=
  if named.Overlong then some (.lineNumber named.name) else none

private theorem overflow?_eq_some_iff {named : NamedText} {cause : Overflow} :
    named.overflow? = some cause ↔ named.Overlong ∧ cause = .lineNumber named.name := by
  unfold overflow?
  split
  · next long => simp [long, eq_comm]
  · next short => simp [short]

theorem overflow?_eq_none_iff {named : NamedText} : named.overflow? = none ↔ ¬ named.Overlong := by
  unfold overflow?
  split
  · next long => simp [long]
  · next short => simp [short]

private theorem overflow?_tokenize (name text : String) :
    (tokenize name text).overflow? name = overflow? ⟨name, text⟩ := by
  have lines : Overlong ⟨name, text⟩ ↔ ¬ 1 + text.toList.count '\n' < 0x100000000 := by
    show 0xffffffff ≤ text.toList.count '\n' ↔ _
    omega
  rw [Scan.overflow?, lastLine_tokenize, overflow?]
  simp only [lines, ite_not]

end NamedText

/-- The text of the file that an include statement opens, if it opens one. -/
def Attempt.text? (tree : FileTree) (attempt : Attempt) : Option NamedText :=
  (SourceFile.read tree attempt.stack attempt.path).toOption.map fun file => ⟨file.name, file.text⟩

namespace Session

private theorem step_overflow (session : Session) (tokens : List Token) :
    (session.step tokens).1.overflow = session.overflow := by
  unfold step
  split <;> rfl

theorem scan_overflow (session : Session) (name text : String) :
    (session.scan name text).1.overflow = session.overflow.or (NamedText.overflow? ⟨name, text⟩) := by
  rw [← NamedText.overflow?_tokenize]
  rfl

private theorem enter_overflow (session : Session) (outer : List Place) (path : String) (site : Location)
    (file : SourceFile) : (session.enter outer path site file).1.overflow =
      session.overflow.or (NamedText.overflow? ⟨file.name, file.text⟩) := by
  unfold enter
  rw [scan_overflow]
  split <;> rfl

end Session

namespace Traversal

variable {tree : FileTree}

theorem openFile_overflow (traversal : Traversal) (path : String) (site : Location) :
    (openFile tree path site traversal).session.overflow = traversal.session.overflow.or
      ((Attempt.text? tree ⟨traversal.stack, path, site⟩).bind NamedText.overflow?) := by
  obtain ⟨tasks, stack, session⟩ := traversal
  cases read : SourceFile.read tree stack path with
  | ok file =>
    rw [openFile_read read, Session.enter_overflow, Attempt.text?, read]
    rfl
  | error fault =>
    rw [openFile_unread read, Attempt.text?, read]
    exact (Option.or_none ..).symm

/-- A run goes out of range with the first text that does. -/
theorem Leads.overflow {before after : Traversal} {states : List Traversal}
    (leads : Leads tree before states after) :
    after.session.overflow = before.session.overflow.or
      (((states.filterMap attempt?).filterMap (Attempt.text? tree)).findSome?
        NamedText.overflow?) := by
  rw [leads.foldl (fun found attempt =>
    found.or ((attempt.text? tree).bind NamedText.overflow?)) Session.step_overflow openFile_overflow]
  generalize states.filterMap attempt? = attempts
  generalize before.session.overflow = found
  induction attempts generalizing found with
  | nil => simp
  | cons attempt rest ih =>
    rw [List.foldl_cons, ih, Option.or_assoc]
    cases opened : attempt.text? tree with
    | none => simp [opened]
    | some text => cases excess : text.overflow? <;> simp [opened, excess]

end Traversal

namespace Source

open Traversal

/-- The text that an assembly starts with, if there is one. -/
def rootText? (tree : FileTree) : Source → Option NamedText
  | .text name content => some ⟨name, content⟩
  | .file path => Attempt.text? tree ⟨[], path, .builtIn⟩

/-- The texts that are read by an assembly that goes through these states, in order. -/
def texts (tree : FileTree) (source : Source) (states : List Traversal) : List NamedText :=
  (source.rootText? tree).toList ++ (states.filterMap attempt?).filterMap (Attempt.text? tree)

private theorem start_overflow (tree : FileTree) (object : Object) (source : Source) :
    (source.start tree object).session.overflow =
      (source.rootText? tree).bind NamedText.overflow? := by
  cases source with
  | text name content => exact Session.scan_overflow { object } name content
  | file path => exact openFile_overflow ⟨[], [], { object }⟩ path .builtIn

theorem assemble_overflow {tree : FileTree} {object : Object} {source : Source}
    {states : List Traversal}
    (leads : Leads tree (source.start tree object) states ⟨[], [], source.assemble tree object⟩) :
    (source.assemble tree object).overflow =
      (source.texts tree states).findSome? NamedText.overflow? := by
  have found := leads.overflow
  rw [start_overflow] at found
  rw [texts, List.findSome?_append, found]
  cases source.rootText? tree <;> simp

/-- The first text with more lines than can be counted, of those that the assembly of a source reads, has
this name. -/
def Overruns (tree : FileTree) (object : Object) (source : Source) (name : String) : Prop :=
  ∃ states earlier text later,
    Leads tree (source.start tree object) states ⟨[], [], source.assemble tree object⟩ ∧
      source.texts tree states = earlier ++ ⟨name, text⟩ :: later ∧
      (∀ other ∈ earlier, ¬ other.Overlong) ∧ NamedText.Overlong ⟨name, text⟩

theorem assemble_overflow_iff (tree : FileTree) (object : Object) (source : Source)
    (cause : Overflow) :
    (source.assemble tree object).overflow = some cause ↔
      ∃ name, cause = .lineNumber name ∧ source.Overruns tree object name := by
  constructor
  · intro stopped
    obtain ⟨states, leads⟩ := source.start_leads tree object
    rw [assemble_overflow leads, List.findSome?_eq_some_iff] at stopped
    obtain ⟨earlier, ⟨name, text⟩, later, read, excess, short⟩ := stopped
    obtain ⟨long, rfl⟩ := NamedText.overflow?_eq_some_iff.mp excess
    refine ⟨name, rfl, states, earlier, text, later, leads, read, ?_, long⟩
    intro other member
    exact NamedText.overflow?_eq_none_iff.mp (short other member)
  · rintro ⟨name, rfl, states, earlier, text, later, leads, read, short, long⟩
    rw [assemble_overflow leads, List.findSome?_eq_some_iff]
    refine ⟨earlier, ⟨name, text⟩, later, read, NamedText.overflow?_eq_some_iff.mpr ⟨long, rfl⟩, ?_⟩
    intro other member
    exact NamedText.overflow?_eq_none_iff.mpr (short other member)

/-- All lines fit in 32 bits in the texts that are read by an assembly that stays in range. -/
theorem lines_in_range {tree : FileTree} {object : Object} {source : Source}
    {states : List Traversal}
    (leads : Leads tree (source.start tree object) states ⟨[], [], source.assemble tree object⟩)
    (inRange : (source.assemble tree object).overflow = none) {named : NamedText}
    (read : named ∈ source.texts tree states) :
    (∀ token ∈ (tokenize named.name named.text).tokens, token.loc.line < 0x100000000) ∧
      ∀ fault ∈ (tokenize named.name named.text).faults, fault.1.line < 0x100000000 := by
  rw [assemble_overflow leads, List.findSome?_eq_none_iff] at inRange
  have short := NamedText.overflow?_eq_none_iff.mp (inRange named read)
  have last : (tokenize named.name named.text).lastLine < 0x100000000 := by
    rw [lastLine_tokenize]
    unfold NamedText.Overlong at short
    omega
  obtain ⟨tokens, faults⟩ := line_le_lastLine named.name named.text
  constructor
  · intro token member
    exact Nat.lt_of_le_of_lt (tokens token member) last
  · intro fault member
    exact Nat.lt_of_le_of_lt (faults fault member) last

/-- A text that is too long is the first that is read. -/
theorem overruns_text (tree : FileTree) (object : Object) {name text : String}
    (long : NamedText.Overlong ⟨name, text⟩) : Overruns tree object (.text name text) name := by
  obtain ⟨states, leads⟩ := start_leads tree object (.text name text)
  exact ⟨states, [], text, _, leads, rfl, by simp, long⟩

end Source

end GlulxAsm
