import GlulxAsm.Proofs.Provenance

/-! When an object accepts what a statement says. As long as there is no layout, the answer depends on
the operands alone and not on what the object holds. -/
namespace GlulxAsm

/-- Numbers, texts and names are operands. Labels and lone sigils are not. -/
inductive TokenKind.IsOperand : TokenKind → Prop where
  | int (value : Int32) : IsOperand (.int value)
  | string (content : String) : IsOperand (.string content)
  | ident {name : String} (unlabelled : ∀ stem, name ≠ stem ++ ":") (star : name ≠ "*")
      (hash : name ≠ "#") : IsOperand (.ident name)

namespace Statement

theorem labelName?_eq_some_iff (name label : String) :
    labelName? name = some label ↔ name = label ++ ":" := by
  unfold labelName?
  constructor
  · intro found
    split at found
    · next last =>
      cases found
      apply String.toList_inj.mp
      rw [String.toList_append, String.toList_ofList]
      exact (List.dropLast_append_getLast? _ last).symm
    · cases found
  · rintro rfl
    simp

theorem labelName?_eq_none_iff (name : String) :
    labelName? name = none ↔ ∀ stem, name ≠ stem ++ ":" := by
  rw [Option.eq_none_iff_forall_ne_some]
  simp only [ne_eq, labelName?_eq_some_iff]

private theorem isOperandName_iff (name : String) :
    isOperandName name = true ↔ TokenKind.IsOperand (.ident name) := by
  have unlabelled : name.toList.getLast? ≠ some ':' ↔ ∀ stem, name ≠ stem ++ ":" := by
    rw [← labelName?_eq_none_iff, labelName?]
    simp
  simp only [isOperandName, Bool.and_eq_true, bne_iff_ne, unlabelled]
  constructor
  · rintro ⟨⟨plain, star⟩, hash⟩
    exact .ident plain star hash
  · intro valid
    cases valid with
    | ident plain star hash => exact ⟨⟨plain, star⟩, hash⟩

end Statement

namespace Object

variable {α β : Type}

/-- On every object without a layout, the action succeeds exactly if the condition holds. -/
def Accepts (action : Action α) (condition : Prop) : Prop :=
  ∀ object, object.stage = .accumulating →
    ((∃ value after, action.run object = .ok value after) ↔ condition)

namespace Accepts

theorem pure (value : α) : Accepts (Pure.pure value) True := by
  intro object _
  simp only [iff_true]
  exact ⟨value, object, rfl⟩

theorem throw (error : AsmError) : Accepts (throw error : Action α) False := by
  intro object _
  simp only [iff_false]
  rintro ⟨value, after, success⟩
  cases success

theorem modify (change : Object → Object) : Accepts (modify change : Action Unit) True := by
  intro object _
  simp only [iff_true]
  exact ⟨(), change object, rfl⟩

theorem congr {action : Action α} {condition other : Prop} (accepts : Accepts action condition)
    (same : condition ↔ other) : Accepts action other := by
  intro object fresh
  rw [accepts object fresh, same]

theorem bind {action : Action α} {next : α → Action β} {first second : Prop}
    (one : Accepts action first) (collecting : Collecting action)
    (two : ∀ value, Accepts (next value) second) : Accepts (action >>= next) (first ∧ second) := by
  intro object fresh
  constructor
  · rintro ⟨value, after, success⟩
    obtain ⟨early, middle, done, rest⟩ := run_bind_ok success
    have stage := (collecting.extends_of_ok done).stage.trans fresh
    exact ⟨(one object fresh).mp ⟨early, middle, done⟩,
      (two early middle stage).mp ⟨value, after, rest⟩⟩
  · rintro ⟨here, behind⟩
    obtain ⟨early, middle, done⟩ := (one object fresh).mpr here
    have stage := (collecting.extends_of_ok done).stage.trans fresh
    obtain ⟨value, after, rest⟩ := (two early middle stage).mpr behind
    refine ⟨value, after, ?_⟩
    rw [EStateM.run_bind, done]
    exact rest

theorem mapM {γ : Type} {action : γ → Action α} {condition : γ → Prop}
    (each : ∀ item, Accepts (action item) (condition item))
    (collecting : ∀ item, Collecting (action item)) (items : List γ) :
    Accepts (items.mapM action) (∀ item ∈ items, condition item) := by
  induction items with
  | nil => exact (pure []).congr (by simp)
  | cons item rest ih =>
    rw [List.mapM_cons]
    refine congr (bind (each item) (collecting item) fun value =>
      bind ih (Collecting.sequential.mapM collecting rest) fun _ => pure _) ?_
    rw [List.forall_mem_cons, and_true]

end Accepts

theorem add_accepts (body : Fragment.Body) (loc : Location) : Accepts (add body loc) True := by
  intro object fresh
  simp only [iff_true]
  cases selected : object.toRom with
  | true =>
    simp only [add, EStateM.run_bind, EStateM.run_get, fresh, selected]
    exact ⟨_, _, rfl⟩
  | false =>
    simp only [add, EStateM.run_bind, EStateM.run_get, fresh, selected]
    exact ⟨_, _, rfl⟩

end Object

theorem run_ofExcept_ok {α : Type} {reading : Except AsmError α} {before after : Object} {value : α}
    (success : (MonadExcept.ofExcept reading : Object.Action α).run before = .ok value after) :
    reading = .ok value ∧ before = after := by
  cases reading with
  | error fault => cases success
  | ok read =>
    cases success
    exact ⟨rfl, rfl⟩

/-- What an object needs of a directive's operands. -/
def Directive.Ready : Directive → Prop
  | words _ capacity items => (∀ item ∈ items, item.kind.IsOperand) ∧
      ∀ limit ∈ capacity, items.length ≤ limit
  | call _ target arguments destination => target.kind.IsOperand ∧ destination.kind.IsOperand ∧
      ∀ argument ∈ arguments, argument.kind.IsOperand
  | instruction _ operands => ∀ operand ∈ operands, operand.kind.IsOperand
  | _ => True

namespace Statement

open Object

theorem operand_accepts (token : Token) : Accepts (operand token) token.kind.IsOperand := by
  unfold operand
  split
  · next value written =>
    exact (Accepts.pure _).congr (by simp [written, TokenKind.IsOperand.int])
  · next content written =>
    intro object _
    rw [written]
    exact iff_of_true ⟨_, _, rfl⟩ (.string content)
  · next name written =>
    rw [written, ← isOperandName_iff]
    split
    · next valid =>
      intro object _
      exact iff_of_true ⟨_, _, rfl⟩ valid
    · next invalid => exact (Accepts.throw _).congr (by simp [invalid])
  · next written =>
    refine (Accepts.throw _).congr (iff_of_false id ?_)
    rw [written]
    intro valid
    cases valid

private theorem wordItems_accepts (capacity : Option Nat) (count : Nat) (tokens : List Token) :
    Accepts (wordItems capacity count tokens) ((∀ token ∈ tokens, token.kind.IsOperand) ∧
      ∀ limit ∈ capacity, tokens = [] ∨ count + tokens.length ≤ limit) := by
  induction tokens generalizing count with
  | nil => exact (Accepts.pure []).congr (by simp)
  | cons token rest ih =>
    unfold wordItems
    by_cases room : WordTable.hasRoom capacity count = true
    · simp only [room, if_true]
      refine (Accepts.bind (operand_accepts token) (operand_collecting token) fun _ =>
        .bind (ih (count + 1)) (wordItems_collecting _ _ _) fun _ => .pure _).congr ?_
      cases capacity with
      | none => simp
      | some limit =>
        have least : count < limit := by simpa [WordTable.hasRoom] using room
        simp only [Option.mem_def, Option.some.injEq, forall_eq', List.forall_mem_cons, and_true,
          List.length_cons, reduceCtorEq, false_or, and_assoc]
        refine and_congr_right fun _ => and_congr_right fun _ => ?_
        constructor
        · rintro (rfl | fits)
          · simp
            omega
          · omega
        · intro fits
          right
          omega
    · simp only [room]
      refine (Accepts.bind (operand_accepts token) (operand_collecting token) fun _ =>
        .throw _).congr ?_
      cases capacity with
      | none => simp [WordTable.hasRoom] at room
      | some limit =>
        have full : ¬ count < limit := by simpa [WordTable.hasRoom] using room
        simp only [and_false, Option.mem_def, Option.some.injEq, forall_eq', List.length_cons,
          reduceCtorEq, false_or, false_iff, not_and]
        intro _
        omega

private theorem addLabelled_accepts (loc : Location) (name : String) (kind : LabelKind)
    (body : Fragment.Body) : Accepts (addLabelled loc name kind body) True :=
  (Accepts.bind (add_accepts _ _) (add_collecting _ _) fun _ => add_accepts _ _).congr (by simp)

private theorem pushArguments_accepts (loc : Location) (tokens : List Token) :
    Accepts (pushArguments loc tokens) (∀ token ∈ tokens, token.kind.IsOperand) := by
  induction tokens with
  | nil => exact (Accepts.pure ()).congr (by simp)
  | cons token rest ih =>
    refine (Accepts.bind (operand_accepts token) (operand_collecting token) fun _ =>
      .bind (add_accepts _ _) (add_collecting _ _) fun _ => ih).congr ?_
    rw [List.forall_mem_cons, true_and]

theorem perform_accepts (loc : Location) (directive : Directive) :
    Accepts (perform loc directive) directive.Ready := by
  cases directive with
  | includeFile file => exact .pure ()
  | stackSize bytes => exact .modify _
  | selectRom toRom => exact .modify _
  | constant name value => exact .modify _
  | addAlias label content => exact .modify _
  | function label => exact add_accepts _ _
  | string label content => exact addLabelled_accepts _ _ _ _
  | data label block => exact addLabelled_accepts _ _ _ _
  | words label capacity items =>
    refine (Accepts.bind (wordItems_accepts capacity 0 items) (wordItems_collecting _ _ _) fun _ =>
      addLabelled_accepts _ _ _ _).congr ?_
    rw [and_true, Directive.Ready]
    refine and_congr_right fun _ => forall₂_congr fun limit _ => ?_
    constructor
    · rintro (rfl | fits)
      · exact Nat.zero_le _
      · omega
    · intro fits
      right
      omega
  | call mnemonic target arguments destination =>
    refine (Accepts.bind (operand_accepts target) (operand_collecting _) fun _ =>
      .bind (operand_accepts destination) (operand_collecting _) fun _ =>
        .bind (pushArguments_accepts loc arguments.reverse) (pushArguments_collecting _ _) fun _ =>
          add_accepts _ _).congr ?_
    simp [Directive.Ready]
  | instruction mnemonic operands =>
    refine (Accepts.bind (.mapM operand_accepts operand_collecting operands)
      (Collecting.sequential.mapM operand_collecting _) fun _ => add_accepts _ _).congr ?_
    rw [and_true, Directive.Ready]

end Statement

end GlulxAsm
