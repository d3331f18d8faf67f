import GlulxAsm.Fragment
import Mathlib.Data.List.Forall2

/-! Resolution only puts values in the place of names. Whatever it reaches, an operand keeps its mode and
its width, so fragments keep their sizes, labels and data, and positions that were found before stay
right. -/
namespace GlulxAsm

/-- What holds on one side of related lists carries over to the other. -/
theorem forall_mem_of_forall₂ {α β : Type} {relation : α → β → Prop} {front : List α}
    {back : List β} {before : α → Prop} {after : β → Prop}
    (related : List.Forall₂ relation front back) (holds : ∀ item ∈ front, before item)
    (carry : ∀ item other, relation item other → before item → after other) :
    ∀ item ∈ back, after item := by
  induction related with
  | nil => simp
  | cons head _ ih =>
    rw [List.forall_mem_cons] at holds ⊢
    exact ⟨carry _ _ head holds.1, ih holds.2⟩

/-- Related lists have related items at every index. -/
theorem forall₂_getElem? {α β : Type} {relation : α → β → Prop} {front : List α}
    {back : List β} (related : List.Forall₂ relation front back) {index : Nat} {item : α}
    (found : front[index]? = some item) :
    ∃ other, back[index]? = some other ∧ relation item other := by
  induction related generalizing index with
  | nil => simp at found
  | @cons first second _ _ head _ ih =>
    cases index with
    | zero =>
      obtain rfl : first = item := by simpa using found
      exact ⟨second, rfl, head⟩
    | succ index => exact ih (by simpa using found)

/-- What is related to two lists in a row is two lists in a row. -/
theorem forall₂_append_left {α β : Type} {relation : α → β → Prop} {front back : List α}
    {whole : List β} (related : List.Forall₂ relation (front ++ back) whole) :
    ∃ first second, whole = first ++ second ∧ List.Forall₂ relation front first ∧
      List.Forall₂ relation back second := by
  induction front generalizing whole with
  | nil => exact ⟨[], whole, rfl, .nil, related⟩
  | cons item rest ih =>
    cases related with
    | @cons _ other _ _ head tail =>
      obtain ⟨first, second, rfl, one, two⟩ := ih tail
      exact ⟨other :: first, second, rfl, .cons head one, two⟩

/-- Related lists one behind the other are related by what the two relations compose to. -/
theorem forall₂_comp {α β γ : Type} {first : α → β → Prop} {second : β → γ → Prop}
    {whole : α → γ → Prop} (compose : ∀ one two three, first one two → second two three →
      whole one three) {front : List α} {middle : List β} {back : List γ}
    (earlier : List.Forall₂ first front middle) (later : List.Forall₂ second middle back) :
    List.Forall₂ whole front back := by
  induction earlier generalizing back with
  | nil =>
    cases later
    exact .nil
  | cons head _ ih =>
    cases later with
    | cons next rest => exact .cons (compose _ _ _ head next) (ih rest)

variable {meaning wider : String → Int32 → Prop} {value? : String → Option Int32}

namespace Operand

/-- The later operand is the earlier one, or has a value that its name may mean. -/
def Resolves (meaning : String → Int32 → Prop) (earlier later : Operand) : Prop :=
  later = earlier ∨ ∃ name value, earlier.value = .symbol name ∧ meaning name value ∧
    later = { earlier with value := .literal value }

theorem Resolves.mode_eq {earlier later : Operand}
    (resolves : Resolves meaning earlier later) : later.mode = earlier.mode := by
  rcases resolves with rfl | ⟨_, _, _, _, rfl⟩ <;> rfl

theorem Resolves.width_eq {earlier later : Operand}
    (resolves : Resolves meaning earlier later) : later.width = earlier.width := by
  rcases resolves with rfl | ⟨_, _, _, _, rfl⟩ <;> rfl

theorem Resolves.mono {earlier later : Operand}
    (resolves : Resolves meaning earlier later)
    (weaken : ∀ name value, meaning name value → wider name value) :
    Resolves wider earlier later := by
  rcases resolves with same | ⟨name, value, symbolic, means, same⟩
  · exact .inl same
  · exact .inr ⟨name, value, symbolic, weaken name value means, same⟩

theorem Resolves.trans {first second third : Operand}
    (one : Resolves meaning first second) (two : Resolves meaning second third) :
    Resolves meaning first third := by
  rcases one with rfl | ⟨name, value, symbolic, means, rfl⟩
  · exact two
  · rcases two with rfl | ⟨_, _, literal, _⟩
    · exact .inr ⟨name, value, symbolic, means, rfl⟩
    · cases literal

/-- A name whose place was taken has a value of that name there. -/
theorem Resolves.meaning_of_literal {earlier later : Operand}
    {name : String} {value : Int32} (resolves : Resolves meaning earlier later)
    (symbolic : earlier.value = .symbol name) (literal : later.value = .literal value) :
    meaning name value := by
  rcases resolves with rfl | ⟨other, result, found, means, rfl⟩
  · rw [symbolic] at literal
    cases literal
  · rw [symbolic] at found
    cases found
    cases literal
    exact means

/-- The last operand becomes the last operand. -/
theorem Resolves.getLast? {earlier later : List Operand} {last : Operand}
    (operands : List.Forall₂ (Resolves meaning) earlier later)
    (found : earlier.getLast? = some last) :
    ∃ final, later.getLast? = some final ∧ Resolves meaning last final := by
  induction operands with
  | nil => cases found
  | @cons head next rest others one more ih =>
    cases more with
    | nil =>
      cases found
      exact ⟨next, rfl, one⟩
    | cons two many =>
      obtain ⟨final, present, resolves⟩ := ih (by simpa using found)
      exact ⟨final, by simpa using present, resolves⟩

/-- The names that stand in a list of operands. -/
def names (operands : List Operand) : List String := operands.filterMap symbol?

theorem resolve_ok {operand resolved : Operand}
    (success : operand.resolve value? = .ok resolved) :
    Resolves (fun name value => value? name = some value) operand resolved ∧
      resolved.symbol? = none := by
  unfold resolve at success
  split at success
  · next literal =>
    cases success
    exact ⟨.inl rfl, by simp [symbol?, literal]⟩
  · next name symbolic =>
    split at success
    · next value found =>
      cases success
      exact ⟨.inr ⟨name, value, symbolic, found, rfl⟩, rfl⟩
    · cases success

theorem resolve_error {operand : Operand} {name : String}
    (failure : operand.resolve value? = .error name) :
    operand.symbol? = some name ∧ value? name = none := by
  unfold resolve at failure
  split at failure
  · cases failure
  · next symbolic =>
    split at failure
    · cases failure
    · next missing =>
      cases failure
      exact ⟨by simp [symbol?, symbolic], missing⟩

theorem resolveAll_resolves (value? : String → Option Int32) (operands : List Operand) :
    List.Forall₂ (Resolves fun name value => value? name = some value) operands
      (resolveAll value? operands).1 := by
  induction operands with
  | nil => exact .nil
  | cons operand rest ih =>
    cases found : operand.resolve value? with
    | error name =>
      simp only [resolveAll, found]
      exact .cons (.inl rfl) (List.forall₂_same.mpr fun _ _ => .inl rfl)
    | ok resolved =>
      simp only [resolveAll, found]
      exact .cons (resolve_ok found).1 ih

theorem names_resolveAll {operands : List Operand}
    (complete : (resolveAll value? operands).2 = none) :
    names (resolveAll value? operands).1 = [] := by
  induction operands with
  | nil => rfl
  | cons operand rest ih =>
    cases found : operand.resolve value? with
    | error name => simp [resolveAll, found] at complete
    | ok resolved =>
      simp only [resolveAll, found] at complete ⊢
      simpa [names, (resolve_ok found).2] using ih complete

/-- Resolution is complete exactly if every name has a value. -/
theorem resolveAll_complete_iff (value? : String → Option Int32) (operands : List Operand) :
    (resolveAll value? operands).2 = none ↔ ∀ name ∈ names operands, value? name ≠ none := by
  induction operands with
  | nil => simp [resolveAll, names]
  | cons operand rest ih =>
    cases found : operand.resolve value? with
    | error name =>
      obtain ⟨symbolic, missing⟩ := resolve_error found
      simp [resolveAll, found, names, symbolic, missing]
    | ok resolved =>
      simp only [resolveAll, found, ih]
      obtain same | ⟨name, value, symbolic, known, same⟩ := (resolve_ok found).1
      · have literal : operand.symbol? = none := same ▸ (resolve_ok found).2
        simp [names, literal]
      · have named : operand.symbol? = some name := by simp [symbol?, symbolic]
        simp [names, named, known]

end Operand

namespace Fragment

namespace Body

/-- The operands of a body; labels and data have none. -/
def operands : Body → List Operand
  | instruction i => i.operands
  | words table => table.items
  | label _ => []
  | data _ => []

/-- The later body is the earlier one with some names replaced by values that they may mean. -/
inductive Resolves (meaning : String → Int32 → Prop) : Body → Body → Prop where
  | instruction {mnemonic : Mnemonic} {earlier later : List Operand}
      (operands : List.Forall₂ (Operand.Resolves meaning) earlier later) :
      Resolves meaning (.instruction ⟨mnemonic, earlier⟩) (.instruction ⟨mnemonic, later⟩)
  | words {capacity : Option Nat} {earlier later : List Operand}
      (items : List.Forall₂ (Operand.Resolves meaning) earlier later) :
      Resolves meaning (.words ⟨earlier, capacity⟩) (.words ⟨later, capacity⟩)
  | label (label : Label) : Resolves meaning (.label label) (.label label)
  | data (data : Data) : Resolves meaning (.data data) (.data data)

theorem Resolves.refl (meaning : String → Int32 → Prop) (body : Body) :
    Resolves meaning body body := by
  have same (operands : List Operand) :
      List.Forall₂ (Operand.Resolves meaning) operands operands :=
    List.forall₂_same.mpr fun _ _ => .inl rfl
  cases body with
  | instruction i => exact .instruction (same _)
  | words table => exact .words (same _)
  | label l => exact .label l
  | data d => exact .data d

theorem Resolves.mono {earlier later : Body}
    (resolves : Resolves meaning earlier later)
    (weaken : ∀ name value, meaning name value → wider name value) :
    Resolves wider earlier later := by
  cases resolves with
  | instruction operands => exact .instruction (operands.imp fun _ _ one => one.mono weaken)
  | words items => exact .words (items.imp fun _ _ one => one.mono weaken)
  | label l => exact .label l
  | data d => exact .data d

theorem Resolves.trans {first second third : Body}
    (one : Resolves meaning first second) (two : Resolves meaning second third) :
    Resolves meaning first third := by
  cases one with
  | instruction operands =>
    cases two with
    | instruction more =>
      exact .instruction (forall₂_comp (fun _ _ _ one two => one.trans two) operands more)
  | words items =>
    cases two with
    | words more => exact .words (forall₂_comp (fun _ _ _ one two => one.trans two) items more)
  | label l => exact two
  | data d => exact two

theorem Resolves.eq_of_data {data : Data} {later : Body}
    (resolves : Resolves meaning (.data data) later) : later = .data data := by
  cases resolves
  rfl

theorem Resolves.exists_instruction {earlier : Instruction} {later : Body}
    (resolves : Resolves meaning (.instruction earlier) later) :
    ∃ operands, later = .instruction ⟨earlier.mnemonic, operands⟩ ∧
      List.Forall₂ (Operand.Resolves meaning) earlier.operands operands := by
  cases resolves with
  | instruction operands => exact ⟨_, rfl, operands⟩

theorem widths_eq {earlier later : List Operand}
    (operands : List.Forall₂ (Operand.Resolves meaning) earlier later) :
    later.foldr (·.width.bytes + ·) 0 = earlier.foldr (·.width.bytes + ·) 0 := by
  induction operands with
  | nil => rfl
  | cons head _ ih => simp [head.width_eq, ih]

theorem Resolves.extent_eq {earlier later : Body}
    (resolves : Resolves meaning earlier later) : later.extent = earlier.extent := by
  cases resolves with
  | instruction operands =>
    simp [extent, Instruction.size, widths_eq operands, operands.length_eq]
  | words items => simp [extent, WordTable.words, items.length_eq]
  | label l => rfl
  | data d => rfl

theorem resolve_resolves (value? : String → Option Int32) (body : Body) :
    Resolves (fun name value => value? name = some value) body (body.resolve value?).1 := by
  cases body with
  | instruction i => exact .instruction (Operand.resolveAll_resolves value? i.operands)
  | words table => exact .words (Operand.resolveAll_resolves value? table.items)
  | label l => exact .label l
  | data d => exact .data d

private theorem resolve_complete_iff (value? : String → Option Int32) (body : Body) :
    (body.resolve value?).2 = none ↔
      ∀ name ∈ Operand.names body.operands, value? name ≠ none := by
  cases body with
  | instruction i => exact Operand.resolveAll_complete_iff value? i.operands
  | words table => exact Operand.resolveAll_complete_iff value? table.items
  | label l => simp [resolve, operands, Operand.names]
  | data d => simp [resolve, operands, Operand.names]

private theorem names_resolve {body : Body}
    (complete : (body.resolve value?).2 = none) :
    Operand.names (body.resolve value?).1.operands = [] := by
  cases body with
  | instruction i => exact Operand.names_resolveAll complete
  | words table => exact Operand.names_resolveAll complete
  | label l => rfl
  | data d => rfl

end Body

/-- The later fragment is the earlier one with some names replaced; it has not moved. -/
structure Resolves (meaning : String → Int32 → Prop) (earlier later : Fragment) : Prop where
  body : Body.Resolves meaning earlier.body later.body
  loc : later.loc = earlier.loc
  position : later.position = earlier.position

theorem Resolves.refl (meaning : String → Int32 → Prop) (fragment : Fragment) :
    Resolves meaning fragment fragment := ⟨.refl _ _, rfl, rfl⟩

theorem Resolves.size_eq {earlier later : Fragment}
    (resolves : Resolves meaning earlier later) : later.size = earlier.size := by
  rw [size, size, resolves.body.extent_eq]

theorem Body.Resolves.label?_eq {earlier later : Fragment}
    (resolves : Body.Resolves meaning earlier.body later.body) : later.label? = earlier.label? := by
  obtain ⟨earlier, _, _⟩ := earlier
  obtain ⟨later, _, _⟩ := later
  cases resolves <;> rfl

theorem Resolves.label?_eq {earlier later : Fragment}
    (resolves : Resolves meaning earlier later) : later.label? = earlier.label? :=
  resolves.body.label?_eq

theorem resolve_resolves (value? : String → Option Int32) (fragment : Fragment) :
    Resolves (fun name value => value? name = some value) fragment (fragment.resolve value?).1 :=
  ⟨Body.resolve_resolves value? fragment.body, rfl, rfl⟩

theorem resolveAll_resolves (value? : String → Option Int32) (fragments : List Fragment) :
    List.Forall₂ (Resolves fun name value => value? name = some value) fragments
      (resolveAll value? fragments).1 := by
  induction fragments with
  | nil => exact .nil
  | cons fragment rest ih =>
    have head := resolve_resolves value? fragment
    match found : fragment.resolve value? with
    | (resolved, some error) =>
      simp only [resolveAll, found]
      exact .cons (by rwa [found] at head) (List.forall₂_same.mpr fun _ _ => .refl _ _)
    | (resolved, none) =>
      simp only [resolveAll, found]
      exact .cons (by rwa [found] at head) ih

theorem names_resolveAll {fragments : List Fragment}
    (complete : (resolveAll value? fragments).2 = none) :
    ∀ fragment ∈ (resolveAll value? fragments).1, Operand.names fragment.body.operands = [] := by
  induction fragments with
  | nil => simp [resolveAll]
  | cons fragment rest ih =>
    match found : fragment.resolve value? with
    | (resolved, some error) => simp [resolveAll, found] at complete
    | (resolved, none) =>
      simp only [resolveAll, found] at complete ⊢
      have done : (fragment.body.resolve value?).2 = none := by
        simpa [resolve] using congrArg Prod.snd found
      have same : (fragment.body.resolve value?).1 = resolved.body :=
        congrArg (·.1.body) found
      rintro later (_ | ⟨_, member⟩)
      · rw [← same]
        exact Body.names_resolve done
      · exact ih complete later member

/-- The names in the operands of fragments. -/
def operandNames (fragments : List Fragment) : List String :=
  fragments.flatMap fun fragment => Operand.names fragment.body.operands

@[simp] theorem operandNames_nil : operandNames [] = [] := rfl

@[simp] theorem operandNames_cons (fragment : Fragment) (rest : List Fragment) :
    operandNames (fragment :: rest) =
      Operand.names fragment.body.operands ++ operandNames rest := by
  simp [operandNames]

@[simp] theorem operandNames_append (front back : List Fragment) :
    operandNames (front ++ back) = operandNames front ++ operandNames back := by
  simp [operandNames]

/-- Fragments are resolved completely exactly if every name in them has a value. -/
theorem resolveAll_complete_iff (value? : String → Option Int32) (fragments : List Fragment) :
    (resolveAll value? fragments).2 = none ↔
      ∀ name ∈ operandNames fragments, value? name ≠ none := by
  induction fragments with
  | nil => simp [resolveAll]
  | cons fragment rest ih =>
    have head := Body.resolve_complete_iff value? fragment.body
    rw [operandNames_cons, List.forall_mem_append, ← ih, ← head]
    cases found : (fragment.body.resolve value?).2 with
    | none => simp [resolveAll, resolve, found]
    | some name => simp [resolveAll, resolve, found]

end Fragment

end GlulxAsm
