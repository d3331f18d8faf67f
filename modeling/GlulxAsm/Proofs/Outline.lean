import GlulxAsm.Proofs.Grammar
import GlulxAsm.Proofs.Inclusion

/-! What assembling a text comes to without places. If no file is included, the errors and the object
follow from the kinds of the tokens, statement by statement, and the image follows from the object. -/
namespace GlulxAsm

/-- No file is asked for: the word behind the labels is not `include`. -/
def Statement.IncludeFree (kinds : List TokenKind) : Prop :=
  (kinds.dropWhile TokenKind.isLabel).head? ≠ some (.ident "include")

/-- The object and the errors of a session, both without places. -/
structure Outline where
  object : Object
  errors : List AsmError := []

namespace Outline

/-- Runs one statement. -/
def step (outline : Outline) (tokens : List Token) : Outline :=
  match (Statement.run tokens).run outline.object with
  | .ok _ object => { outline with object }
  | .error error object => ⟨object, outline.errors ++ [error]⟩

/-- Runs statements in order. -/
def steps (outline : Outline) (statements : List (List Token)) : Outline :=
  statements.foldl step outline

end Outline

namespace Session

open Object

def outline (session : Session) : Outline :=
  ⟨session.object.unlocated, session.errors.toList.map AsmError.unlocated⟩

private theorem outline_step (session : Session) (tokens : List Token) :
    (session.step tokens).1.outline = session.outline.step (tokens.map Token.unlocated) := by
  have mirrored : (Statement.run (tokens.map Token.unlocated)).run session.outline.object =
      forget AsmError.unlocated _ ((Statement.run tokens).run session.object) :=
    Statement.run_mirrors tokens session.object
  rw [Outline.step, mirrored, step]
  change (match (Statement.run tokens).run session.object with
    | .ok request object => (session.advance object, request)
    | .error error object => ((session.advance object).fail error, none)).1.outline = _
  cases (Statement.run tokens).run session.object with
  | ok request object => rfl
  | error error object => simp [outline, forget, fail, advance]

private theorem step_request_eq_none {session : Session} {tokens : List Token}
    (free : Statement.IncludeFree (tokens.map (·.kind))) : (session.step tokens).2 = none := by
  unfold step
  split
  · next success => exact Statement.run_request_eq_none free success
  · rfl

private theorem outline_run {statements : List (List Token)}
    (free : ∀ tokens ∈ statements, Statement.IncludeFree (tokens.map (·.kind))) (tree : FileTree)
    (outer : List Place) (directory : String) (session : Session) :
    (run tree outer directory statements session).outline =
      session.outline.steps (statements.map (·.map Token.unlocated)) := by
  induction statements generalizing session with
  | nil =>
    rw [run_nil]
    rfl
  | cons tokens rest ih =>
    rw [List.forall_mem_cons] at free
    have stepped : session.step tokens = ((session.step tokens).1, none) :=
      Prod.ext rfl (step_request_eq_none free.1)
    rw [run_cons, run_plain stepped, ih free.2, outline_step]
    rfl

/-- Sessions of one outline have both failed, for the same causes, or neither has. -/
theorem result_agree {one two : Session} (same : one.outline = two.outline) :
    (∃ aborted again, one.result = .error aborted ∧ two.result = .error again ∧
      aborted.errors.map AsmError.unlocated = again.errors.map AsmError.unlocated) ∨
    (one.result = .ok () ∧ two.result = .ok ()) := by
  have causes : one.errors.toList.map AsmError.unlocated =
      two.errors.toList.map AsmError.unlocated := congrArg Outline.errors same
  by_cases clean : one.errors = #[]
  · have other : two.errors = #[] := by simpa [clean] using causes
    exact .inr ⟨by simp [result, clean], by simp [result, other]⟩
  · have other : two.errors ≠ #[] := by
      intro empty
      simp [empty, clean] at causes
    exact .inl ⟨⟨one.errors.toList⟩, ⟨two.errors.toList⟩, by simp [result, clean],
      by simp [result, other], causes⟩

end Session

/-- The statements of a text by the kinds of their tokens; empty ones are left out. -/
def statementKinds (name text : String) : List (List TokenKind) :=
  (statements (tokenize name text).tokens).map (·.map (·.kind))

/-- Tokens of these kinds, at no place. -/
def unplaced (kinds : List TokenKind) : List Token := kinds.map (⟨·, .builtIn⟩)

private theorem statements_unplaced (name text : String) :
    (statements (tokenize name text).tokens).map (·.map Token.unlocated) =
      (statementKinds name text).map unplaced := by
  simp [statementKinds, unplaced, Token.unlocated, Function.comp_def]

/-- A text without includes is assembled by its statements, and these matter only by their kinds. -/
theorem outline_assembleSource {name text : String}
    (free : ∀ kinds ∈ statementKinds name text, Statement.IncludeFree kinds) (tree : FileTree)
    (object : Object) :
    (assembleSource tree name text object).outline =
      Outline.steps ⟨object.unlocated, (tokenize name text).faults.map (.lexical .builtIn ·.2)⟩
        ((statementKinds name text).map unplaced) := by
  have started : (Session.scan { object } name text).1.outline =
      ⟨object.unlocated, (tokenize name text).faults.map (.lexical .builtIn ·.2)⟩ := by
    simp [Session.outline, Session.scan, Session.note, AsmError.unlocated, Function.comp_def]
  unfold assembleSource
  rw [Session.outline_run, started]
  · exact congrArg _ (statements_unplaced name text)
  · intro tokens member
    exact free _ (List.mem_map_of_mem member)

/-- Two texts of the same statements, without includes and lexical faults, are both rejected for the same
causes, or they are both assembled, and then they have the same image or no image for the same cause. -/
theorem kinds_determine_image {name text other spelling : String}
    (same : statementKinds name text = statementKinds other spelling)
    (free : ∀ kinds ∈ statementKinds name text, Statement.IncludeFree kinds)
    (faultless : (tokenize name text).faults = [])
    (flawless : (tokenize other spelling).faults = []) (tree forest : FileTree) (object : Object) :
    let one := assembleSource tree name text object
    let two := assembleSource forest other spelling object
    (∃ aborted again, one.result = .error aborted ∧ two.result = .error again ∧
      aborted.errors.map AsmError.unlocated = again.errors.map AsmError.unlocated) ∨
    (one.result = .ok () ∧ two.result = .ok () ∧
      ((∃ image left right, Object.build.run one.object = .ok image left ∧
          Object.build.run two.object = .ok image right) ∨
        (∃ failure again left right, Object.build.run one.object = .error failure left ∧
          Object.build.run two.object = .error again right ∧
          failure.unlocated = again.unlocated))) := by
  intro one two
  have outlines : one.outline = two.outline := by
    rw [outline_assembleSource free, faultless, same, ← flawless, ← outline_assembleSource]
    rwa [← same]
  rcases Session.result_agree outlines with rejected | ⟨assembled, again⟩
  · exact .inl rejected
  · exact .inr ⟨assembled, again, Object.build_agree (congrArg Outline.object outlines)⟩

/-- A text with an entry and one instruction, and the same with comments, blank lines and a number in
another base. -/
def spellings : String × String :=
  ("function main 10\nquit\n", "; twice\n\n  function main $a ; ten\n\nquit")

theorem kinds_determine_image_spellings :
    statementKinds "a.ga" spellings.1 = statementKinds "b.ga" spellings.2 ∧
    ∃ fresh image left right, Object.create {} = .ok fresh ∧
      Object.build.run (assembleSource {} "a.ga" spellings.1 fresh).object = .ok image left ∧
      Object.build.run (assembleSource {} "b.ga" spellings.2 fresh).object = .ok image right := by
  have evaluated : statementKinds "a.ga" spellings.1 =
        [[.ident "function", .ident "main", .int 10], [.ident "quit"]] ∧
      statementKinds "b.ga" spellings.2 =
        [[.ident "function", .ident "main", .int 10], [.ident "quit"]] ∧
      (tokenize "a.ga" spellings.1).faults = [] ∧ (tokenize "b.ga" spellings.2).faults = [] ∧
      (Source.built? "a.ga" spellings.1).any (fun _ => true) = true := by
    decide +kernel
  obtain ⟨first, second, faultless, flawless, builds⟩ := evaluated
  obtain ⟨built, ⟨made, assembled, collected, success⟩, _⟩ := Source.builds_of_any builds {}
  rw [← collected] at success
  have same : statementKinds "a.ga" spellings.1 = statementKinds "b.ga" spellings.2 :=
    first.trans second.symm
  have free : ∀ kinds ∈ statementKinds "a.ga" spellings.1, Statement.IncludeFree kinds := by
    rw [first]
    simp [Statement.IncludeFree, TokenKind.isLabel]
  rcases kinds_determine_image same free faultless flawless {} {} built.fresh with
    ⟨_, _, rejected, _⟩ | ⟨_, _, ⟨_, _, right, one, two⟩ | ⟨_, _, _, _, one, _⟩⟩
  · cases assembled.symm.trans rejected
  · exact ⟨same, built.fresh, _, _, right, made, one, two⟩
  · cases success.symm.trans one

end GlulxAsm
