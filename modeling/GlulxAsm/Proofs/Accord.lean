import GlulxAsm.Proofs.Grammar
import GlulxAsm.Proofs.Pinned

/-! Two runs of the same statements on twins: objects that differ only in what they know of one constant.
Statements that do not spell its name read the same operands in both, so that twins stay twins. -/
namespace GlulxAsm

namespace TokenKind

/-- The name is not spelled, with or without a sigil. -/
structure Avoids (name : String) (kind : TokenKind) : Prop where
  bare : kind ≠ .ident name
  star : kind ≠ .ident ("*" ++ name)
  hash : kind ≠ .ident ("#" ++ name)

instance (name : String) (kind : TokenKind) : Decidable (Avoids name kind) :=
  decidable_of_iff (kind ≠ .ident name ∧ kind ≠ .ident ("*" ++ name) ∧ kind ≠ .ident ("#" ++ name))
    ⟨fun ⟨bare, star, hash⟩ => ⟨bare, star, hash⟩, fun ⟨bare, star, hash⟩ => ⟨bare, star, hash⟩⟩

private theorem Avoids.splitSigil_ne {name text : String} (avoids : Avoids name (.ident text)) :
    String.ofList (Operand.splitSigil text.toList).2 ≠ name := by
  rintro rfl
  obtain ⟨bare, star, hash⟩ := avoids
  unfold Operand.splitSigil at bare star hash
  split at bare
  · next rest spelled =>
    refine star (congrArg ident (String.toList_inj.mp ?_))
    simp [spelled, String.toList_append]
  · next rest spelled =>
    refine hash (congrArg ident (String.toList_inj.mp ?_))
    simp [spelled, String.toList_append]
  · exact bare (by simp)

end TokenKind

namespace ConstantTable

variable {name other : String}

private theorem define_comm (apart : other ≠ name) (table : ConstantTable) (first second : Constant) :
    (table.define other first).define name second = (table.define name second).define other first := by
  refine ext_get? fun key => ?_
  simp only [get?_define]
  by_cases own : name = key
  · subst key
    simp [apart]
  · simp [own]

private theorem define_define (table : ConstantTable) (constant : Constant) :
    (table.define name constant).define name constant = table.define name constant := by
  refine ext_get? fun key => ?_
  simp only [get?_define]
  split <;> rfl

end ConstantTable

namespace Operand

/-- Only the value of the name behind the sigil matters. -/
theorem ofIdent_congr {one two : String → Option Int32} {text : String}
    (same : one (String.ofList (splitSigil text.toList).2) =
      two (String.ofList (splitSigil text.toList).2)) : ofIdent one text = ofIdent two text := by
  unfold ofIdent
  dsimp only
  rw [same]

end Operand

namespace Object

/-- Two objects that differ only in what they know of a constant: the second knows it, and the first knows it
or holds its name in the places where the second has the value. -/
structure Twins (name : String) (value : Int32) (bound : Option Int32) (one two : Object) : Prop where
  same : one.pinned name value = two.pinned name value
  bound : one.constants.value? name = bound
  known : two.constants.value? name = some value
  fresh : one.stage = .accumulating

variable {name : String} {value : Int32} {bound : Option Int32}

theorem Twins.get?_eq {one two : Object} (twins : Twins name value bound one two) {other : String}
    (apart : other ≠ name) : one.constants.get? other = two.constants.get? other := by
  have same := congrArg (·.constants.get? other) twins.same
  simpa only [pinned, ConstantTable.get?_define, if_neg apart.symm] using same

/-- What becomes of twins: both runs fail, or they leave twins and related results. -/
inductive Outcome {α β : Type} (name : String) (value : Int32) (bound : Option Int32)
    (related : α → β → Prop) :
    EStateM.Result AsmError Object α → EStateM.Result AsmError Object β → Prop where
  | done {one two : Object} {first : α} {second : β} (results : related first second)
      (twins : Twins name value bound one two) :
      Outcome name value bound related (.ok first one) (.ok second two)
  | failed {one two : Object} {first second : AsmError} :
      Outcome name value bound related (.error first one) (.error second two)

/-- Two actions that treat twins alike. -/
def Accord {α β : Type} (name : String) (value : Int32) (bound : Option Int32)
    (related : α → β → Prop) (action : Action α) (other : Action β) : Prop :=
  ∀ one two, Twins name value bound one two →
    Outcome name value bound related (action.run one) (other.run two)

namespace Accord

variable {α β γ δ : Type} {related : α → β → Prop} {action : Action α} {other : Action β}

theorem pure {first : α} {second : β} (results : related first second) :
    Accord name value bound related (Pure.pure first) (Pure.pure second) :=
  fun _ _ twins => .done results twins

theorem throw (first second : AsmError) :
    Accord name value bound related (throw first) (throw second) :=
  fun _ _ _ => .failed

theorem modify {change : Object → Object}
    (kept : ∀ one two, Twins name value bound one two →
      Twins name value bound (change one) (change two)) :
    Accord name value bound Eq (modify change : Action Unit) (modify change) :=
  fun one two twins => .done rfl (kept one two twins)

theorem bind {next : α → Action γ} {following : β → Action δ} {final : γ → δ → Prop}
    (first : Accord name value bound related action other)
    (second : ∀ one two, related one two → Accord name value bound final (next one) (following two)) :
    Accord name value bound final (action >>= next) (other >>= following) := by
  intro one two twins
  have outcome := first one two twins
  rw [EStateM.run_bind, EStateM.run_bind]
  generalize action.run one = left, other.run two = right at outcome
  cases outcome with
  | done results twins => exact second _ _ results _ _ twins
  | failed => exact .failed

theorem mapM {each : α → Action β} {items : List α}
    (steady : ∀ item ∈ items, Accord name value bound Eq (each item) (each item)) :
    Accord name value bound Eq (items.mapM each) (items.mapM each) := by
  induction items with
  | nil => exact pure rfl
  | cons item rest ih =>
    rw [List.forall_mem_cons] at steady
    rw [List.mapM_cons]
    refine bind steady.1 ?_
    rintro one _ rfl
    refine bind (ih steady.2) ?_
    rintro others _ rfl
    exact pure rfl

end Accord

theorem Twins.stage_eq {one two : Object} (twins : Twins name value bound one two) :
    two.stage = .accumulating := by
  have same : one.stage = two.stage := congrArg (fun object => object.stage) twins.same
  exact same.symm.trans twins.fresh

/-- The object with one more fragment in the selected segment. -/
def collect (object : Object) (fragment : Fragment) : Object :=
  if object.toRom then { object with rom := object.rom.push fragment }
  else { object with ram := object.ram.push fragment }

theorem run_add {object : Object} (fresh : object.stage = .accumulating) (body : Fragment.Body)
    (loc : Location) : (add body loc).run object = .ok () (object.collect { body, loc }) := by
  obtain ⟨rom, ram, toRom, symbols, constants, strings, stackSize, stage, _⟩ := object
  subst fresh
  cases toRom <;> rfl

private theorem pinned_collect (object : Object) (fragment : Fragment) :
    (object.collect fragment).pinned name value =
      (object.pinned name value).collect (fragment.pinned name value) := by
  have selection : (object.pinned name value).toRom = object.toRom := rfl
  unfold collect
  rw [selection]
  split <;> simp [pinned]

private theorem constants_collect (object : Object) (fragment : Fragment) :
    (object.collect fragment).constants = object.constants := by
  unfold collect
  split <;> rfl

theorem stage_collect (object : Object) (fragment : Fragment) :
    (object.collect fragment).stage = object.stage := by
  unfold collect
  split <;> rfl

theorem add_accord {body other : Fragment.Body} (loc : Location)
    (same : body.pinned name value = other.pinned name value) :
    Accord name value bound Eq (add body loc) (add other loc) := by
  intro one two twins
  have fragments : Fragment.pinned name value { body, loc } =
      Fragment.pinned name value { body := other, loc } := by
    rw [Fragment.pinned, Fragment.pinned, same]
  rw [run_add twins.fresh, run_add twins.stage_eq]
  refine .done rfl ⟨?_, ?_, ?_, ?_⟩
  · rw [pinned_collect, pinned_collect, twins.same, fragments]
  · rw [constants_collect, twins.bound]
  · rw [constants_collect, twins.known]
  · rw [stage_collect, twins.fresh]

/-- Twins stay twins if both are changed in the same way elsewhere. -/
theorem Twins.change {one two : Object} (twins : Twins name value bound one two)
    (change : Object → Object)
    (apart : ∀ object, (change object).pinned name value = change (object.pinned name value))
    (constants : ∀ object, (change object).constants = object.constants)
    (stage : ∀ object, (change object).stage = object.stage) :
    Twins name value bound (change one) (change two) where
  same := by rw [apart, apart, twins.same]
  bound := by rw [constants, twins.bound]
  known := by rw [constants, twins.known]
  fresh := by rw [stage, twins.fresh]

private theorem setStackSize_accord (bytes : UInt32) :
    Accord name value bound Eq (modify (·.setStackSize bytes) : Action Unit)
      (modify (·.setStackSize bytes)) := by
  refine .modify fun one two twins => twins.change (·.setStackSize bytes) ?_ ?_ ?_
  all_goals
    intro object
    unfold setStackSize
    dsimp only
    split <;> rfl

private theorem pinned_addConstant {other : String} (apart : other ≠ name) (object : Object)
    (number : Int32) (loc : Location) :
    (object.addConstant other number loc).pinned name value =
      (object.pinned name value).addConstant other number loc := by
  have known : (object.pinned name value).constants.get? other = object.constants.get? other := by
    rw [pinned, ConstantTable.get?_define, if_neg apart.symm]
  unfold addConstant
  rw [known]
  dsimp only
  split
  · simp only [pinned, warn, ConstantTable.define_comm apart]
  · simp only [pinned, ConstantTable.define_comm apart]

theorem constants_addConstant (object : Object) (other : String) (number : Int32) (loc : Location) :
    (object.addConstant other number loc).constants =
      object.constants.define other { value := number, loc } := by
  unfold addConstant
  dsimp only
  split <;> rfl

theorem stage_addConstant (object : Object) (other : String) (number : Int32) (loc : Location) :
    (object.addConstant other number loc).stage = object.stage := by
  unfold addConstant
  dsimp only
  split <;> rfl

private theorem addConstant_accord {other : String} (apart : other ≠ name) (number : Int32)
    (loc : Location) :
    Accord name value bound Eq (modify (·.addConstant other number loc) : Action Unit)
      (modify (·.addConstant other number loc)) := by
  refine .modify fun one two twins => ⟨?_, ?_, ?_, ?_⟩
  · rw [pinned_addConstant apart, pinned_addConstant apart, twins.same]
  · rw [constants_addConstant, ConstantTable.value?_define, if_neg apart, twins.bound]
  · rw [constants_addConstant, ConstantTable.value?_define, if_neg apart, twins.known]
  · rw [stage_addConstant, twins.fresh]

theorem pinned_addConstant_self {object : Object} (unknown : object.constants.value? name = none) :
    (object.addConstant name value .builtIn).pinned name value = object.pinned name value := by
  have absent : object.constants.get? name = none := by simpa [ConstantTable.value?] using unknown
  simp [addConstant, absent, pinned, ConstantTable.define_define]

theorem value?_addConstant (object : Object) (number : Int32) (loc : Location) :
    (object.addConstant name number loc).constants.value? name = some number := by
  rw [constants_addConstant, ConstantTable.value?_define, if_pos rfl]

/-- To define the constant makes a twin of an object that does not know it. -/
theorem twins_addConstant {object : Object} (unknown : object.constants.value? name = none)
    (fresh : object.stage = .accumulating) :
    Twins name value none object (object.addConstant name value .builtIn) where
  same := (pinned_addConstant_self unknown).symm
  bound := unknown
  known := value?_addConstant object value .builtIn
  fresh := fresh

/-- The first of two twins may learn of the constant at any time. -/
theorem Twins.addConstant {one two : Object} (twins : Twins name value none one two) :
    Twins name value (some value) (one.addConstant name value .builtIn) two where
  same := (pinned_addConstant_self twins.bound).trans twins.same
  bound := value?_addConstant one value .builtIn
  known := twins.known
  fresh := (stage_addConstant ..).trans twins.fresh

/-- Twins that both know the constant have the same image or none. -/
theorem Twins.build_eq {one two : Object} (twins : Twins name value (some value) one two) :
    build.run' one = build.run' two := by
  rw [← build_pinned twins.bound twins.fresh, twins.same, build_pinned twins.known twins.stage_eq]

end Object

namespace Statement

open Object

variable {name : String} {value : Int32} {bound : Option Int32}

theorem operand_accord {token : Token} (avoids : token.kind.Avoids name) :
    Accord name value bound Eq (operand token) (operand token) := by
  obtain ⟨kind, loc⟩ := token
  cases kind with
  | int number => exact .pure rfl
  | endOfStatement => exact .throw _ _
  | string content =>
    intro one two twins
    have strings : one.strings = two.strings :=
      congrArg (fun object => object.strings) twins.same
    have labels : (one.intern content).2 = (two.intern content).2 := by
      rw [intern, intern, strings]
    exact .done (congrArg (Operand.symbol .constant) labels)
      (twins.change (fun object => (object.intern content).1) (fun _ => rfl) (fun _ => rfl)
        fun _ => rfl)
  | ident text =>
    unfold operand
    dsimp only
    split
    · intro one two twins
      have same : Operand.ofIdent one.constants.value? text =
          Operand.ofIdent two.constants.value? text := by
        refine Operand.ofIdent_congr ?_
        rw [ConstantTable.value?, ConstantTable.value?, twins.get?_eq avoids.splitSigil_ne]
      exact .done same twins
    · exact .throw _ _

private theorem wordItems_accord (capacity : Option Nat) (count : Nat) {tokens : List Token}
    (avoid : ∀ token ∈ tokens, token.kind.Avoids name) :
    Accord name value bound Eq (wordItems capacity count tokens)
      (wordItems capacity count tokens) := by
  induction tokens generalizing count with
  | nil => exact .pure rfl
  | cons token rest ih =>
    rw [List.forall_mem_cons] at avoid
    unfold wordItems
    refine .bind (operand_accord avoid.1) ?_
    rintro item _ rfl
    split
    · refine .bind (ih _ avoid.2) ?_
      rintro items _ rfl
      exact .pure rfl
    · exact .throw _ _

private theorem addLabelled_accord (loc : Location) (label : String) (kind : LabelKind)
    (body : Fragment.Body) :
    Accord name value bound Eq (addLabelled loc label kind body)
      (addLabelled loc label kind body) :=
  .bind (add_accord loc rfl) fun _ _ _ => add_accord loc rfl

private theorem pushArguments_accord (loc : Location) {tokens : List Token}
    (avoid : ∀ token ∈ tokens, token.kind.Avoids name) :
    Accord name value bound Eq (pushArguments loc tokens) (pushArguments loc tokens) := by
  induction tokens with
  | nil => exact .pure rfl
  | cons token rest ih =>
    rw [List.forall_mem_cons] at avoid
    refine .bind (operand_accord avoid.1) ?_
    rintro argument _ rfl
    exact .bind (add_accord loc rfl) fun _ _ _ => ih avoid.2

private theorem performCall_accord (loc : Location) (mnemonic : Mnemonic) {target destination : Token}
    {arguments : List Token} (head : target.kind.Avoids name)
    (avoid : ∀ token ∈ arguments, token.kind.Avoids name) (last : destination.kind.Avoids name) :
    Accord name value bound Eq (performCall loc mnemonic target arguments destination)
      (performCall loc mnemonic target arguments destination) := by
  refine .bind (operand_accord head) ?_
  rintro target _ rfl
  refine .bind (operand_accord last) ?_
  rintro destination _ rfl
  have backwards : ∀ token ∈ arguments.reverse, token.kind.Avoids name := fun token member =>
    avoid token (List.mem_reverse.mp member)
  exact .bind (pushArguments_accord loc backwards) fun _ _ _ => add_accord loc rfl

end Statement

namespace Directive

/-- No operand spells the name, and it is not defined as a constant. -/
def Avoids (name : String) : Directive → Prop
  | constant other _ => other ≠ name
  | words _ _ items => ∀ token ∈ items, token.kind.Avoids name
  | call _ target arguments destination =>
    target.kind.Avoids name ∧ (∀ token ∈ arguments, token.kind.Avoids name) ∧
      destination.kind.Avoids name
  | instruction _ operands => ∀ token ∈ operands, token.kind.Avoids name
  | _ => True

/-- Whatever is read avoids the name. -/
def ReadsAround (name : String) (reading : Except AsmError Directive) : Prop :=
  ∀ directive, reading = .ok directive → directive.Avoids name

section Reading

variable {name : String}

theorem ReadsAround.ok {directive : Directive} (avoids : directive.Avoids name) :
    ReadsAround name (.ok directive) := by
  intro _ made
  cases made
  exact avoids

theorem ReadsAround.error (error : AsmError) : ReadsAround name (.error error) := nofun

theorem ReadsAround.bind {α : Type} {step : Except AsmError α} {next : α → Except AsmError Directive}
    (each : ∀ value, step = .ok value → ReadsAround name (next value)) :
    ReadsAround name (step >>= next) := by
  intro directive made
  obtain ⟨value, found, rest⟩ := bind_eq_ok_iff.mp made
  exact each value found directive rest

variable (head : String) (loc : Location)

private theorem readStackSize_around (args : List Token) :
    ReadsAround name (readStackSize head loc args) := by
  unfold readStackSize
  split
  · exact .bind fun _ _ => .bind fun _ _ => .ok trivial
  · exact .error _

private theorem readSegment_around (toRom : Bool) (args : List Token) :
    ReadsAround name (readSegment head toRom loc args) := by
  unfold readSegment
  split
  · exact .ok trivial
  · exact .error _

private theorem readInclude_around (args : List Token) : ReadsAround name (readInclude head loc args) := by
  unfold readInclude
  split
  · exact .bind fun _ _ => .ok trivial
  · exact .error _

private theorem readFunction_around (kind : LabelKind) (args : List Token) :
    ReadsAround name (readFunction head kind loc args) := by
  unfold readFunction
  split
  · exact .bind fun _ _ => .bind fun _ _ => .bind fun _ _ => .ok trivial
  · exact .error _

private theorem readString_around (make : String → String → Directive)
    (plain : ∀ label content, (make label content).Avoids name) (args : List Token) :
    ReadsAround name (readString head make loc args) := by
  unfold readString
  split
  · exact .bind fun label _ => .bind fun content _ => .ok (plain label content)
  · exact .error _

private theorem readBytes_around (args : List Token) : ReadsAround name (readBytes head loc args) := by
  unfold readBytes
  split
  · refine .bind fun bits _ => ?_
    split
    · exact .bind fun _ _ => .bind fun _ _ => .ok trivial
    · exact .error _
  · exact .error _

private theorem readBytesFixed_around (args : List Token) :
    ReadsAround name (readBytesFixed head loc args) := by
  unfold readBytesFixed
  split
  · refine .bind fun _ _ => .bind fun _ _ => .bind fun _ _ => ?_
    split
    · exact .bind fun _ _ => .ok trivial
    · exact .error _
  · exact .error _

variable {args : List Token} (avoid : ∀ token ∈ args, token.kind.Avoids name)

include avoid

private theorem readConstant_around : ReadsAround name (readConstant head loc args) := by
  unfold readConstant
  split
  · next first second =>
    refine .bind fun other found => .bind fun _ _ => .ok ?_
    rintro rfl
    exact (avoid first (by simp)).bare (ident_eq_ok_iff.mp found)
  · exact .error _

private theorem readWords_around : ReadsAround name (readWords head loc args) := by
  unfold readWords
  split
  · next label items =>
    exact .bind fun _ _ => .ok fun token member => avoid token (List.mem_cons_of_mem _ member)
  · exact .error _

private theorem readWordsFixed_around : ReadsAround name (readWordsFixed head loc args) := by
  unfold readWordsFixed
  split
  · next label count items =>
    exact .bind fun _ _ => .bind fun _ _ => .bind fun _ _ => .ok fun token member =>
      avoid token (List.mem_cons_of_mem _ (List.mem_cons_of_mem _ member))
  · exact .error _

private theorem readCall_around (mnemonic : Mnemonic) :
    ReadsAround name (readCall head mnemonic loc args) := by
  unfold readCall
  split
  · next target second others =>
    rw [List.forall_mem_cons] at avoid
    have made : (call mnemonic target (second :: others).dropLast
        ((second :: others).getLast (by simp))).Avoids name :=
      ⟨avoid.1, fun token member => avoid.2 token (List.dropLast_subset _ member),
        avoid.2 _ (List.getLast_mem _)⟩
    split
    · exact .ok made
    · exact .ok made
    · exact .error _
  · exact .error _

private theorem readInstruction_around : ReadsAround name (readInstruction head loc args) := by
  unfold readInstruction
  split
  · split
    · exact .ok avoid
    · exact .error _
  · exact .error _

/-- A directive spells only what its operands spell. -/
theorem read_around : ReadsAround name (read head loc args) := by
  unfold read
  split
  · exact readStackSize_around _ loc args
  · exact readSegment_around _ loc true args
  · exact readSegment_around _ loc false args
  · exact readInclude_around _ loc args
  · exact readConstant_around _ loc avoid
  · exact readFunction_around _ loc _ args
  · exact readFunction_around _ loc _ args
  · exact readString_around _ loc addAlias (fun _ _ => trivial) args
  · exact readString_around _ loc string (fun _ _ => trivial) args
  · exact readBytes_around _ loc args
  · exact readBytesFixed_around _ loc args
  · exact readWords_around _ loc avoid
  · exact readWordsFixed_around _ loc avoid
  · exact readCall_around _ loc avoid _
  · exact readCall_around _ loc avoid _
  · exact readInstruction_around _ loc avoid

end Reading

end Directive

namespace Statement

open Object

variable {name : String} {value : Int32} {bound : Option Int32}

private theorem perform_accord (loc : Location) {directive : Directive} (avoids : directive.Avoids name) :
    Accord name value bound Eq (perform loc directive) (perform loc directive) := by
  cases directive with
  | includeFile file => exact .pure rfl
  | stackSize bytes => exact setStackSize_accord bytes
  | selectRom toRom =>
    exact .modify fun one two twins => twins.change (·.selectRom toRom) (fun _ => rfl)
      (fun _ => rfl) fun _ => rfl
  | constant other number => exact addConstant_accord avoids number loc
  | addAlias label content =>
    exact .modify fun one two twins => twins.change (fun object => (object.addAlias label content).1)
      (fun _ => rfl) (fun _ => rfl) fun _ => rfl
  | function label => exact add_accord loc rfl
  | string label content => exact addLabelled_accord loc label .string _
  | data label block => exact addLabelled_accord loc label .data _
  | words label capacity items =>
    refine .bind (wordItems_accord capacity 0 avoids) ?_
    rintro items _ rfl
    exact addLabelled_accord loc label .data _
  | call mnemonic target arguments destination =>
    exact performCall_accord loc mnemonic avoids.1 avoids.2.1 avoids.2.2
  | instruction mnemonic operands =>
    refine .bind (.mapM fun token member => operand_accord (avoids token member)) ?_
    rintro operands _ rfl
    exact add_accord loc rfl

private theorem ofExcept_accord {α : Type} (reading : Except AsmError α) :
    Accord name value bound (fun one two => reading = .ok one ∧ one = two)
      (MonadExcept.ofExcept reading) (MonadExcept.ofExcept reading) := by
  cases reading with
  | error error => exact .throw _ _
  | ok result => exact .pure ⟨rfl, rfl⟩

/-- A statement that does not spell the name treats twins alike. -/
theorem run_accord_of_avoids {tokens : List Token}
    (avoid : ∀ token ∈ tokens, token.kind.Avoids name) :
    Accord name value bound Eq (run tokens) (run tokens) := by
  induction tokens with
  | nil => exact .pure rfl
  | cons head args ih =>
    rw [List.forall_mem_cons] at avoid
    unfold run
    refine .bind (ofExcept_accord _) ?_
    rintro word _ ⟨_, rfl⟩
    split
    · exact .bind (add_accord _ rfl) fun _ _ _ => ih avoid.2
    · refine .bind (ofExcept_accord _) ?_
      rintro directive _ ⟨made, rfl⟩
      have around := Directive.read_around word head.loc avoid.2 directive made
      split
      · exact .pure rfl
      · exact .bind (perform_accord head.loc around) fun _ _ _ => .pure rfl

end Statement

end GlulxAsm
