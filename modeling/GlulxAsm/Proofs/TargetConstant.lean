import GlulxAsm.Proofs.Accord
import GlulxAsm.Proofs.Outline

/-! Branch targets that are constants. A target may be met before its constant is defined or behind that, or
the program may hold the number itself: the instruction has the same size and the same bytes. So a constant
that only branches use may be defined anywhere in a text. -/
namespace GlulxAsm

namespace Lexer

/-- An identifier with no sigil in front and no colon behind. -/
structure IsName (name : String) : Prop where
  start : name.toList.head?.any isIdentStart = true
  star : name.toList.head? ≠ some '*'
  hash : name.toList.head? ≠ some '#'
  letters : name.toList.tail.all isIdentChar = true

private theorem not_isDigit_of_isIdentStart {first : Char} (start : isIdentStart first = true) :
    first.isDigit = false := by
  rw [Bool.eq_false_iff]
  intro digit
  have ascii : first.toNat < 0x80 := by
    simp only [Char.isDigit, Bool.and_eq_true, decide_eq_true_eq, ge_iff_le,
      UInt32.le_iff_toNat_le] at digit
    exact Nat.lt_of_le_of_lt digit.2 (by decide)
  simp only [isIdentStart, Text.isAlphabetic, if_pos ascii, Bool.or_eq_true, beq_iff_eq] at start
  rcases start with ((letter | rfl) | rfl) | rfl
  · delta Char.isAlpha Char.isUpper Char.isLower at letter
    simp only [Char.isDigit, Bool.or_eq_true, Bool.and_eq_true, decide_eq_true_eq, ge_iff_le,
      UInt32.le_iff_toNat_le] at digit letter
    have nine : '9'.val.toNat < 'A'.val.toNat ∧ '9'.val.toNat < 'a'.val.toNat := by decide
    omega
  · exact absurd digit (by decide)
  · exact absurd digit (by decide)
  · exact absurd digit (by decide)

namespace IsName

variable {name : String}

theorem exists_cons (isName : IsName name) :
    ∃ first rest, name.toList = first :: rest ∧ isIdentStart first = true ∧
      ∀ letter ∈ rest, isIdentChar letter = true := by
  obtain ⟨start, _, _, letters⟩ := isName
  cases whole : name.toList with
  | nil => simp [whole] at start
  | cons first rest =>
    rw [whole] at start letters
    exact ⟨first, rest, rfl, by simpa using start, by simpa using letters⟩

theorem getLast?_ne_colon (isName : IsName name) : name.toList.getLast? ≠ some ':' := by
  obtain ⟨first, rest, whole, start, letters⟩ := isName.exists_cons
  intro last
  rw [whole] at last
  rcases List.mem_cons.mp (List.mem_of_getLast? last) with rfl | inside
  · exact absurd start (by decide)
  · exact absurd (letters _ inside) (by decide)

private theorem signed?_eq_none (isName : IsName name) : Number.signed? 32 name.toList = none := by
  obtain ⟨first, rest, whole, start, _⟩ := isName.exists_cons
  have digit := not_isDigit_of_isIdentStart start
  have natural : Number.natural? (first :: rest) = none := by
    simp [Number.natural?, digit]
  have integer : Number.integer? (first :: rest) = none := by
    unfold Number.integer?
    split
    · next same =>
      cases same
      exact absurd start (by decide)
    · next same =>
      cases same
      exact absurd start (by decide)
    · rw [natural]
      rfl
  rw [whole, Number.signed?, integer]
  rfl

theorem plain (isName : IsName name) (other : name ≠ "sp") : Operand.Plain name :=
  ⟨isName.star, isName.hash, isName.signed?_eq_none, other⟩

theorem isOperandName (isName : IsName name) : Statement.isOperandName name = true := by
  have star : name ≠ "*" := fun same => isName.star (by rw [same]; rfl)
  have hash : name ≠ "#" := fun same => isName.hash (by rw [same]; rfl)
  simp [Statement.isOperandName, isName.getLast?_ne_colon, star, hash]

end IsName

end Lexer

namespace Instruction

private theorem mapLast_concat (f : Operand → Operand) (front : List Operand) (last : Operand) :
    mapLast f (front ++ [last]) = front ++ [f last] := by
  induction front with
  | nil => rfl
  | cons operand rest ih =>
    rw [List.cons_append, mapLast, ih, List.cons_append]
    simp

end Instruction

namespace Statement

open Object

variable {name : String} {value : Int32} {bound : Option Int32}

/-- A mnemonic in front of as many operands as it takes makes an instruction. -/
theorem run_mnemonic {mnemonic : Mnemonic} (known : mnemonic ∈ Mnemonic.table) (loc : Location)
    (args : List Token) :
    run (⟨.ident mnemonic.name, loc⟩ :: args) =
      if args.length = mnemonic.operands then do
        perform loc (.instruction mnemonic args)
        return none
      else throw (.statement loc (.operandCount mnemonic.name mnemonic.operands args.length)) := by
  have word : Directive.ident "statement" ⟨.ident mnemonic.name, loc⟩ = .ok mnemonic.name := rfl
  simp only [run, word, MonadExcept.ofExcept, pure_bind, Mnemonic.labelName?_name known]
  rw [Directive.read_mnemonic known, Directive.readInstruction, Mnemonic.find?_name known]
  by_cases count : args.length = mnemonic.operands
  · simp only [if_pos count, pure_bind]
  · simp only [if_neg count]
    rfl

/-- A label in front is a fragment of its own. -/
theorem run_label (stem : String) (loc : Location) (args : List Token) :
    run (⟨.ident (stem ++ ":"), loc⟩ :: args) =
      Object.add (.label (.general stem)) loc >>= fun _ => run args := by
  have word : Directive.ident "statement" ⟨.ident (stem ++ ":"), loc⟩ = .ok (stem ++ ":") := rfl
  have labelled : labelName? (stem ++ ":") = some stem := (labelName?_eq_some_iff _ _).mpr rfl
  simp only [run, word, MonadExcept.ofExcept, pure_bind, labelled]

/-- How a target is written: by its name or by its value. The name of the stack never means the value. -/
inductive Target (name : String) (value : Int32) : TokenKind → Prop where
  | name : Target name value (.ident name)
  | value (other : name ≠ "sp") : Target name value (.int value)

private theorem target_accord (isName : Lexer.IsName name) (possible : bound = none ∨ bound = some value)
    {kind : TokenKind} (written : Target name value kind) (loc : Location) :
    Accord name value bound
      (fun one two => one.widened.pinned name value = two.widened.pinned name value)
      (operand ⟨kind, loc⟩) (operand ⟨.ident name, loc⟩) := by
  have ran (object : Object) : (operand ⟨.ident name, loc⟩).run object =
      .ok (.ofIdent object.constants.value? name) object := by
    unfold operand
    dsimp only
    rw [if_pos isName.isOperandName]
    rfl
  intro one two twins
  rw [ran two]
  by_cases stack : name = "sp"
  · cases written with
    | name =>
      rw [ran one]
      refine .done ?_ twins
      rw [Operand.ofIdent, Operand.ofIdent, if_pos stack, if_pos stack]
    | value other => exact absurd stack other
  · have plain := isName.plain stack
    have bare : Mode.constant.sigil ++ name = name := String.empty_append
    have early {object : Object} (known : object.constants.value? name = some value) :
        Operand.ofIdent object.constants.value? name = .literal .constant value := by
      have found := Operand.ofIdent_known plain (by decide : Mode.constant ≠ .ram) known
      rwa [bare] at found
    rw [early twins.known]
    cases written with
    | value other => exact .done rfl twins
    | name =>
      rw [ran one]
      refine .done ?_ twins
      rcases possible with rfl | rfl
      · have found := Operand.ofIdent_unknown plain (by decide : Mode.constant ≠ .ram) twins.bound
        rw [bare] at found
        rw [found]
        simp [Operand.symbol, Operand.literal, Operand.widened, Operand.pinned]
      · rw [early twins.bound]

/-- Operands that differ in the last one at most, and there only until its value is put in. -/
def SameTarget (name : String) (value : Int32) (one two : List Operand) : Prop :=
  ∃ (front : List Operand) (first second : Operand), one = front ++ [first] ∧ two = front ++ [second] ∧
    first.widened.pinned name value = second.widened.pinned name value

private theorem operands_accord (isName : Lexer.IsName name) (possible : bound = none ∨ bound = some value)
    {operands : List Token} (avoid : ∀ token ∈ operands, token.kind.Avoids name)
    {kind : TokenKind} (written : Target name value kind) (loc : Location) :
    Accord name value bound (SameTarget name value)
      ((operands ++ [(⟨kind, loc⟩ : Token)]).mapM operand)
      ((operands ++ [(⟨.ident name, loc⟩ : Token)]).mapM operand) := by
  rw [List.mapM_append, List.mapM_append]
  refine .bind (.mapM fun token member => operand_accord (avoid token member)) ?_
  rintro front _ rfl
  rw [List.mapM_cons, List.mapM_cons, List.mapM_nil]
  simp only [bind_assoc, pure_bind]
  refine .bind (target_accord isName possible written loc) ?_
  intro first second same
  exact .pure ⟨front, first, second, rfl, rfl, same⟩

/-- A branch treats twins alike, however its target is written. -/
theorem run_accord_branch (isName : Lexer.IsName name)
    (possible : bound = none ∨ bound = some value) {mnemonic : Mnemonic}
    (known : mnemonic ∈ Mnemonic.table) (branch : mnemonic.branch = true) {operands : List Token}
    (avoid : ∀ token ∈ operands, token.kind.Avoids name) {kind : TokenKind}
    (written : Target name value kind) (loc : Location) :
    Accord name value bound Eq (run (⟨.ident mnemonic.name, loc⟩ :: (operands ++ [⟨kind, loc⟩])))
      (run (⟨.ident mnemonic.name, loc⟩ :: (operands ++ [⟨.ident name, loc⟩]))) := by
  have performed : Accord name value bound Eq
      (perform loc (.instruction mnemonic (operands ++ [⟨kind, loc⟩])))
      (perform loc (.instruction mnemonic (operands ++ [⟨.ident name, loc⟩]))) := by
    refine .bind (operands_accord isName possible avoid written loc) ?_
    rintro _ _ ⟨front, first, second, rfl, rfl, same⟩
    refine add_accord loc ?_
    simp only [Instruction.make, branch, if_true, Instruction.mapLast_concat, Fragment.Body.pinned,
      List.map_append, List.map_cons, List.map_nil, same]
  rw [run_mnemonic known, run_mnemonic known, List.length_append, List.length_append]
  simp only [List.length_singleton]
  split
  · exact .bind performed fun _ _ _ => .pure rfl
  · exact .throw _ _

end Statement

/-- Statements that name a constant only as the target of a branch. -/
inductive TargetsOnly (name : String) : List TokenKind → Prop where
  | absent {kinds : List TokenKind} (avoid : ∀ kind ∈ kinds, kind.Avoids name) :
      TargetsOnly name kinds
  | branch {mnemonic : Mnemonic} {operands : List TokenKind} (known : mnemonic ∈ Mnemonic.table)
      (jumps : mnemonic.branch = true) (apart : mnemonic.name ≠ name)
      (avoid : ∀ kind ∈ operands, kind.Avoids name) :
      TargetsOnly name (.ident mnemonic.name :: (operands ++ [.ident name]))
  | labelled (stem : String) {rest : List TokenKind} (behind : TargetsOnly name rest) :
      TargetsOnly name (.ident (stem ++ ":") :: rest)

/-- A way to write a program: the name stays or its value takes its place. -/
structure Spelling (name : String) (value : Int32) (spell : TokenKind → TokenKind) : Prop where
  target : Statement.Target name value (spell (.ident name))
  others : ∀ kind, kind ≠ .ident name → spell kind = kind

namespace Statement

open Object

variable {name : String} {value : Int32} {bound : Option Int32}

private theorem run_accord (isName : Lexer.IsName name) (possible : bound = none ∨ bound = some value)
    {spell : TokenKind → TokenKind} (spelling : Spelling name value spell) {kinds : List TokenKind}
    (targets : TargetsOnly name kinds) :
    Accord name value bound Eq (run (unplaced (kinds.map spell))) (run (unplaced kinds)) := by
  have avoided {kinds : List TokenKind} (avoid : ∀ kind ∈ kinds, kind.Avoids name) :
      kinds.map spell = kinds ∧ ∀ token ∈ unplaced kinds, token.kind.Avoids name := by
    constructor
    · refine (List.map_congr_left fun kind member => ?_).trans (List.map_id' kinds)
      exact spelling.others kind (avoid kind member).bare
    · intro token member
      obtain ⟨kind, present, rfl⟩ := List.mem_map.mp member
      exact avoid kind present
  induction targets with
  | absent avoid =>
    rw [(avoided avoid).1]
    exact run_accord_of_avoids (avoided avoid).2
  | branch known jumps apart avoid =>
    obtain ⟨same, tokens⟩ := avoided avoid
    have word := spelling.others (.ident _) (fun same => apart (TokenKind.ident.inj same))
    have branched := run_accord_branch isName possible known jumps tokens spelling.target .builtIn
    rw [List.map_cons, List.map_append, List.map_cons, List.map_nil, word, same]
    simpa [unplaced] using branched
  | @labelled stem rest behind ih =>
    have colon : stem ++ ":" ≠ name := by
      rintro rfl
      exact isName.getLast?_ne_colon (by simp [String.toList_append])
    have word := spelling.others (.ident _) (fun same => colon (TokenKind.ident.inj same))
    rw [List.map_cons, word]
    change Accord name value bound Eq (run (_ :: unplaced _)) (run (_ :: unplaced _))
    rw [run_label, run_label]
    exact .bind (add_accord _ rfl) fun _ _ _ => ih

end Statement

namespace Outline

variable {name : String} {value : Int32} {bound : Option Int32}

/-- Two runs of a program: both have failed, or neither has and their objects are twins. -/
inductive Twins (name : String) (value : Int32) (bound : Option Int32) : Outline → Outline → Prop where
  | failed {one two : Outline} (first : one.errors ≠ []) (second : two.errors ≠ []) :
      Twins name value bound one two
  | clean {one two : Object} (twins : Object.Twins name value bound one two) :
      Twins name value bound ⟨one, []⟩ ⟨two, []⟩

private theorem step_errors_ne_nil {outline : Outline} (failed : outline.errors ≠ []) (tokens : List Token) :
    (outline.step tokens).errors ≠ [] := by
  unfold step
  split
  · exact failed
  · simp

theorem Twins.step {one two : Outline} (twins : Twins name value bound one two)
    {tokens others : List Token}
    (accord : Object.Accord name value bound Eq (Statement.run tokens) (Statement.run others)) :
    Twins name value bound (one.step tokens) (two.step others) := by
  cases twins with
  | failed first second => exact .failed (step_errors_ne_nil first _) (step_errors_ne_nil second _)
  | @clean one two twins =>
    have outcome := accord one two twins
    unfold Outline.step
    generalize (Statement.run tokens).run one = left, (Statement.run others).run two = right at outcome
    cases outcome with
    | done results twins => exact .clean twins
    | failed => exact .failed (by simp) (by simp)

theorem Twins.steps (isName : Lexer.IsName name) (possible : bound = none ∨ bound = some value)
    {spell : TokenKind → TokenKind} (spelling : Spelling name value spell)
    {program : List (List TokenKind)} (targets : ∀ kinds ∈ program, TargetsOnly name kinds)
    {one two : Outline} (twins : Twins name value bound one two) :
    Twins name value bound (one.steps ((program.map (·.map spell)).map unplaced))
      (two.steps (program.map unplaced)) := by
  induction program generalizing one two with
  | nil => exact twins
  | cons kinds rest ih =>
    rw [List.forall_mem_cons] at targets
    exact ih targets.2 (twins.step (Statement.run_accord isName possible spelling targets.1))

/-- The statement that defines the constant. -/
def definition (name : String) (value : Int32) : List TokenKind :=
  [.ident "constant", .ident name, .int value]

private theorem step_definition (name : String) (value : Int32) (outline : Outline) :
    outline.step (unplaced (definition name value)) =
      { outline with object := outline.object.addConstant name value .builtIn } := rfl

theorem Twins.define {one two : Outline} (twins : Twins name value none one two) :
    Twins name value (some value) (one.step (unplaced (definition name value))) two := by
  rw [step_definition]
  cases twins with
  | failed first second => exact .failed first second
  | clean twins => exact .clean twins.addConstant

/-- The image that the outline of a session leads to. -/
def image? (outline : Outline) : Option Image :=
  if outline.errors = [] then Object.build.run' outline.object else none

private theorem Twins.image?_eq {one two : Outline} (twins : Twins name value (some value) one two) :
    one.image? = two.image? := by
  cases twins with
  | failed first second => rw [image?, image?, if_neg first, if_neg second]
  | clean twins => exact twins.build_eq

/-- A definition anywhere leads to the same image as one in front of all statements, however targets are
written. -/
theorem image?_definition (isName : Lexer.IsName name) {spell : TokenKind → TokenKind}
    (spelling : Spelling name value spell) {front back : List (List TokenKind)}
    (targets : ∀ kinds ∈ front ++ back, TargetsOnly name kinds) {object : Object}
    (unknown : object.constants.value? name = none) (fresh : object.stage = .accumulating)
    {errors others : List AsmError} (same : errors = [] ↔ others = []) :
    (steps ⟨object, errors⟩ ((front.map (·.map spell) ++ definition name value ::
        back.map (·.map spell)).map unplaced)).image? =
      (steps ⟨object.addConstant name value .builtIn, others⟩
        ((front ++ back).map unplaced)).image? := by
  have start : Twins name value none ⟨object, errors⟩
      ⟨object.addConstant name value .builtIn, others⟩ := by
    by_cases clean : errors = []
    · rw [clean, same.mp clean]
      exact .clean (Object.twins_addConstant unknown fresh)
    · exact .failed clean (fun empty => clean (same.mpr empty))
  rw [List.forall_mem_append] at targets
  have middle := (start.steps isName (.inl rfl) spelling targets.1).define
  have final := middle.steps isName (.inr rfl) spelling targets.2
  rw [List.map_append, List.map_cons, List.map_append, steps, steps, List.foldl_append,
    List.foldl_append]
  exact final.image?_eq

end Outline

/-- The image of a text that is assembled into an object, unless its assembly or the build fails. -/
def imageOf? (tree : FileTree) (name text : String) (object : Object) : Option Image :=
  let session := assembleSource tree name text object
  session.result.toOption.bind fun _ => Object.build.run' session.object

private theorem Object.run'_unlocated (object : Object) :
    build.run' object.unlocated = build.run' object := by
  have same := build_unlocated object
  cases ran : build.run object with
  | error failure result => rw [run'_of_error ran, run'_of_error (same.trans (congrArg _ ran))]
  | ok image result => rw [run'_of_ok ran, run'_of_ok (same.trans (congrArg _ ran)), id]

private theorem imageOf?_eq (tree : FileTree) (name text : String) (object : Object) :
    imageOf? tree name text object = (assembleSource tree name text object).outline.image? := by
  rw [imageOf?, Outline.image?, Session.outline, Object.run'_unlocated, Session.result]
  by_cases clean : (assembleSource tree name text object).errors = #[]
  · simp [clean, Except.toOption]
  · simp [clean, Except.toOption]

private theorem Object.create_constants {settings : Settings} {object : Object}
    (made : create settings = .ok object) (name : String) : object.constants.value? name = none := by
  obtain ⟨_, _, _, rfl⟩ := create_eq made
  exact ConstantTable.value?_empty name

/-- The text has these statements and, somewhere among them, the definition of a constant. -/
def DefinesAmong (name text target : String) (value : Int32) (program : List (List TokenKind)) :
    Prop :=
  ∃ front back, front ++ back = program ∧
    statementKinds name text = front ++ Outline.definition target value :: back

/-- The kind with the value in the place of the name. -/
def TokenKind.literalFor (target : String) (value : Int32) (kind : TokenKind) : TokenKind :=
  if kind = .ident target then .int value else kind

section Target

variable {target : String} {value : Int32} {program : List (List TokenKind)}

private theorem Spelling.eq_of_ident {spell : TokenKind → TokenKind} (spelling : Spelling target value spell)
    {kind : TokenKind} {word : String} (same : spell kind = .ident word) : kind = .ident word := by
  by_cases own : kind = .ident target
  · have written := spelling.target
    rw [← own, same] at written
    cases written with
    | name => exact own
  · rw [← spelling.others kind own, same]

private theorem Spelling.isLabel_eq (isName : Lexer.IsName target) {spell : TokenKind → TokenKind}
    (spelling : Spelling target value spell) (kind : TokenKind) :
    (spell kind).isLabel = kind.isLabel := by
  by_cases own : kind = .ident target
  · subst kind
    have unlabelled : (TokenKind.ident target).isLabel = false := by
      simp [TokenKind.isLabel, isName.getLast?_ne_colon]
    have written := spelling.target
    generalize spell (.ident target) = kind at written
    cases written with
    | name => rfl
    | value => exact unlabelled.symm
  · rw [spelling.others kind own]

private theorem Spelling.includeFree (isName : Lexer.IsName target) {spell : TokenKind → TokenKind}
    (spelling : Spelling target value spell) {kinds : List TokenKind}
    (free : Statement.IncludeFree kinds) : Statement.IncludeFree (kinds.map spell) := by
  have labels : TokenKind.isLabel ∘ spell = TokenKind.isLabel :=
    funext (spelling.isLabel_eq isName)
  intro asked
  rw [List.dropWhile_map, labels, List.head?_map, Option.map_eq_some_iff] at asked
  obtain ⟨kind, first, same⟩ := asked
  rw [spelling.eq_of_ident same] at first
  exact free first

/-- The image of a text with a definition somewhere is that of its other statements with the constant known
from the start. -/
theorem imageOf?_definition (isName : Lexer.IsName target) {spell : TokenKind → TokenKind}
    (spelling : Spelling target value spell) (targets : ∀ kinds ∈ program, TargetsOnly target kinds)
    (free : ∀ kinds ∈ program, Statement.IncludeFree kinds) {name text : String}
    (defines : DefinesAmong name text target value (program.map (·.map spell))) (tree : FileTree)
    {object : Object} (unknown : object.constants.value? target = none)
    (fresh : object.stage = .accumulating) {errors : List AsmError}
    (same : (tokenize name text).faults = [] ↔ errors = []) :
    imageOf? tree name text object =
      (Outline.steps ⟨object.unlocated.addConstant target value .builtIn, errors⟩
        (program.map unplaced)).image? := by
  obtain ⟨_, _, whole, kinds⟩ := defines
  obtain ⟨front, back, rfl, rfl, rfl⟩ := List.append_eq_map_iff.mp whole
  have plain : ∀ kinds ∈ statementKinds name text, Statement.IncludeFree kinds := by
    have spelled : ∀ kinds ∈ (front ++ back).map (·.map spell), Statement.IncludeFree kinds := by
      rw [List.forall_mem_map]
      exact fun kinds member => spelling.includeFree isName (free kinds member)
    rw [List.map_append, List.forall_mem_append] at spelled
    rw [kinds, List.forall_mem_append, List.forall_mem_cons]
    exact ⟨spelled.1, by simp [Statement.IncludeFree, Outline.definition, TokenKind.isLabel], spelled.2⟩
  have unset : object.unlocated.constants.value? target = none := by
    rw [← unknown]
    exact congrFun object.constants.value?_unlocated target
  have faults : (tokenize name text).faults.map (fun fault => AsmError.lexical .builtIn fault.2) = [] ↔
      errors = [] := by
    rw [List.map_eq_nil_iff, same]
  rw [imageOf?_eq, outline_assembleSource plain, kinds]
  exact Outline.image?_definition isName spelling targets unset fresh faults

/-- Neither the place of the definition nor the way to write the targets matters. -/
theorem imageOf?_eq_of_spellings (isName : Lexer.IsName target)
    (targets : ∀ kinds ∈ program, TargetsOnly target kinds)
    (free : ∀ kinds ∈ program, Statement.IncludeFree kinds) {spell respell : TokenKind → TokenKind}
    (first : Spelling target value spell) (second : Spelling target value respell)
    {name text other again : String}
    (one : DefinesAmong name text target value (program.map (·.map spell)))
    (two : DefinesAmong other again target value (program.map (·.map respell)))
    (lexical : (tokenize name text).faults = [] ↔ (tokenize other again).faults = [])
    (tree : FileTree) {settings : Settings} {object : Object}
    (made : Object.create settings = .ok object) :
    imageOf? tree name text object = imageOf? tree other again object := by
  have unknown := Object.create_constants made target
  have fresh := (Object.create_fresh made).1
  let errors := (tokenize name text).faults.map fun fault => AsmError.lexical .builtIn fault.2
  have own : (tokenize name text).faults = [] ↔ errors = [] := List.map_eq_nil_iff.symm
  rw [imageOf?_definition isName first targets free one tree unknown fresh own,
    imageOf?_definition isName second targets free two tree unknown fresh (lexical.symm.trans own)]

/-- A constant that is named only as the target of branches may be defined anywhere in a text: the image is
the same, or there is none. The targets may also be written as its value, unless they name the stack. -/
theorem target_constant_anywhere (isName : Lexer.IsName target)
    (targets : ∀ kinds ∈ program, TargetsOnly target kinds)
    (free : ∀ kinds ∈ program, Statement.IncludeFree kinds) {name text other again : String}
    (one : DefinesAmong name text target value program)
    (two : DefinesAmong other again target value program)
    (lexical : (tokenize name text).faults = [] ↔ (tokenize other again).faults = [])
    (tree : FileTree) {settings : Settings} {object : Object}
    (made : Object.create settings = .ok object) :
    imageOf? tree name text object = imageOf? tree other again object ∧
      (target ≠ "sp" → ∀ third literal : String,
        DefinesAmong third literal target value
          (program.map (·.map (TokenKind.literalFor target value))) →
        ((tokenize name text).faults = [] ↔ (tokenize third literal).faults = []) →
        imageOf? tree name text object = imageOf? tree third literal object) := by
  have named : Spelling target value id := ⟨.name, fun _ _ => rfl⟩
  have unchanged : program.map (·.map id) = program := by simp
  rw [← unchanged] at one two
  refine ⟨imageOf?_eq_of_spellings isName targets free named named one two lexical tree made, ?_⟩
  intro apart third literal three faults
  have numbered : Spelling target value (TokenKind.literalFor target value) := {
    target := by
      rw [TokenKind.literalFor, if_pos rfl]
      exact .value apart
    others := fun kind different => if_neg different }
  exact imageOf?_eq_of_spellings isName targets free named numbered one three faults tree made

end Target

/-- A function with a branch whose target is the name of a label too. -/
def looping : List (List TokenKind) :=
  [[.ident "function", .ident "main", .int 0],
    [.ident "out:", .ident "jz", .int 0, .ident "out"],
    [.ident "quit"]]

/-- Texts of these statements, with the constant defined in front and at the end, and with its value in the
place of its name. -/
def placements : String × String × String :=
  ("constant out 1\nfunction main 0\nout: jz 0 out\nquit\n",
    "function main 0\nout: jz 0 out\nquit\nconstant out 1\n",
    "function main 0\nconstant out 1\nout: jz 0 1\nquit\n")

private theorem looping_targetsOnly : ∀ kinds ∈ looping, TargetsOnly "out" kinds := by
  have jz : (⟨"jz", 0x22, 2, true⟩ : Mnemonic) ∈ Mnemonic.table := by decide +kernel
  have branch := @TargetsOnly.branch "out" _ [.int 0] jz rfl (by decide) (by decide)
  simp only [looping, List.forall_mem_cons]
  exact ⟨.absent (by decide), .labelled "out" branch, .absent (by decide), by simp⟩

theorem target_constant_anywhere_placements :
    ∃ fresh image, Object.create {} = .ok fresh ∧
      imageOf? {} "a.ga" placements.1 fresh = some image ∧
      imageOf? {} "b.ga" placements.2.1 fresh = some image ∧
      imageOf? {} "c.ga" placements.2.2 fresh = some image := by
  have evaluated : statementKinds "a.ga" placements.1 = Outline.definition "out" 1 :: looping ∧
      statementKinds "b.ga" placements.2.1 = looping ++ [Outline.definition "out" 1] ∧
      statementKinds "c.ga" placements.2.2 =
        (looping.map (·.map (TokenKind.literalFor "out" 1))).take 1 ++ Outline.definition "out" 1 ::
          (looping.map (·.map (TokenKind.literalFor "out" 1))).drop 1 ∧
      (tokenize "a.ga" placements.1).faults = [] ∧ (tokenize "b.ga" placements.2.1).faults = [] ∧
      (tokenize "c.ga" placements.2.2).faults = [] ∧
      (Source.built? "a.ga" placements.1).any (fun _ => true) = true := by
    decide +kernel
  obtain ⟨first, second, third, faultless, flawless, clean, builds⟩ := evaluated
  obtain ⟨built, ⟨made, assembled, collected, success⟩, _⟩ := Source.builds_of_any builds {}
  rw [← collected] at success
  have image : imageOf? {} "a.ga" placements.1 built.fresh = some built.image := by
    have assembled : (assembleSource {} "a.ga" placements.1 built.fresh).result = .ok () := assembled
    have success : Object.build.run (assembleSource {} "a.ga" placements.1 built.fresh).object =
      .ok built.image built.result := success
    rw [imageOf?, assembled]
    exact Object.run'_of_ok success
  have isName : Lexer.IsName "out" := ⟨by decide, by decide, by decide, by decide⟩
  have free : ∀ kinds ∈ looping, Statement.IncludeFree kinds := by
    simp [looping, Statement.IncludeFree, TokenKind.isLabel]
  obtain ⟨same, literal⟩ := target_constant_anywhere isName looping_targetsOnly free
    ⟨[], looping, rfl, first⟩ ⟨looping, [], List.append_nil _, second⟩
    (iff_of_true faultless flawless) {} made
  have numbered := literal (by decide) "c.ga" placements.2.2
    ⟨_, _, List.take_append_drop 1 _, third⟩ (iff_of_true faultless clean)
  exact ⟨built.fresh, built.image, made, image, same ▸ image, numbered ▸ image⟩

end GlulxAsm
