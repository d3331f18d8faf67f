import GlulxAsm.Proofs.LaidOut

/-! A fragment from its collection to the image. It keeps its number in its segment, and what changes in
it are names that get the values of constants or of labels. -/
namespace GlulxAsm

namespace Object

open Fragment

/-- The number of a fragment among those collected for its segment. -/
inductive Slot where
  | rom (index : Nat)
  | ram (index : Nat)

/-- The fragment with a number. Layout puts the room for the header in front of ROM. -/
def collected? (object : Object) : Slot → Option Fragment
  | .rom index => object.rom.toList[if object.stage = .accumulating then index else index + 1]?
  | .ram index => object.ram.toList[index]?

/-- Collected fragments stand behind the room for the header. -/
theorem mem_of_collected? {object : Object} {slot : Slot} {fragment reserve : Fragment}
    {rest : List Fragment} (later : object.stage ≠ .accumulating)
    (whole : object.rom.toList = reserve :: rest) (found : object.collected? slot = some fragment) :
    fragment ∈ rest ++ object.ram.toList := by
  cases slot with
  | rom index =>
    simp only [collected?, later, if_false, whole, List.getElem?_cons_succ] at found
    exact List.mem_append_left _ (List.mem_of_getElem? found)
  | ram index => exact List.mem_append_right _ (List.mem_of_getElem? found)

/-- A value that the name may have been replaced by: unless there is a constant of the name, the
position of its label. -/
def Denotes (object : Object) (name : String) (value : Int32) : Prop :=
  object.stage ≠ .accumulating ∧ (object.constants.get? name = none →
    (object.symbols.position? name).map UInt32.toInt32 = some value)

private theorem value?_denotes {object : Object} {name : String} {value : Int32}
    (later : object.stage ≠ .accumulating) (found : object.value? name = some value) :
    object.Denotes name value := by
  refine ⟨later, fun free => ?_⟩
  simpa [Object.value?, nameValue?, ConstantTable.value?, free] using found

/-- Every fragment is still there, with names replaced by what they denote, and names go on to denote
what they did. -/
structure Evolves (before after : Object) : Prop where
  kept : ∀ slot fragment, before.collected? slot = some fragment →
    ∃ later, after.collected? slot = some later ∧
      Body.Resolves after.Denotes fragment.body later.body
  denotes : ∀ name value, before.Denotes name value → after.Denotes name value

theorem Evolves.refl (object : Object) : Evolves object object where
  kept _ fragment found := ⟨fragment, found, .refl _ _⟩
  denotes _ _ means := means

theorem Evolves.trans {first second third : Object} (one : Evolves first second)
    (two : Evolves second third) : Evolves first third where
  kept slot fragment found := by
    obtain ⟨middle, present, earlier⟩ := one.kept slot fragment found
    obtain ⟨last, again, later⟩ := two.kept slot middle present
    exact ⟨last, again, (earlier.mono two.denotes).trans later⟩
  denotes name value means := two.denotes name value (one.denotes name value means)

private theorem prefix_getElem? {front whole : List Fragment} (front_whole : front <+: whole)
    {index : Nat} {fragment : Fragment} (found : front[index]? = some fragment) :
    whole[index]? = some fragment := by
  obtain ⟨rest, rfl⟩ := front_whole
  rw [List.getElem?_append_left (List.getElem?_eq_some_iff.mp found).1]
  exact found

/-- What is collected later does not change what a slot holds. -/
theorem Extends.collected?_eq {before after : Object} (extended : Extends before after) {slot : Slot}
    {fragment : Fragment} (found : before.collected? slot = some fragment) :
    after.collected? slot = some fragment := by
  cases slot with
  | rom index =>
    simp only [collected?, extended.stage] at found ⊢
    exact prefix_getElem? extended.rom found
  | ram index => exact prefix_getElem? extended.ram found

theorem Extends.evolves {before after : Object} (extended : Extends before after) :
    Evolves before after where
  kept slot fragment found := ⟨fragment, extended.collected?_eq found, .refl _ _⟩
  denotes name value := by
    rintro ⟨later, means⟩
    refine ⟨extended.stage ▸ later, fun free => ?_⟩
    rw [extended.symbols]
    exact means (extended.constants name free)

private theorem layout_evolves {object result : Object} (success : layout.run object = .ok () result) :
    Evolves object result := by
  obtain ⟨fresh, romSize, romEnd, codeSize, _, _, _, rfl⟩ := layout_ok success
  refine ⟨?_, fun _ _ means => absurd fresh means.1⟩
  intro slot fragment found
  cases slot with
  | rom index =>
    have collected : object.fullRom[index + 1]? = some fragment := by
      simp only [collected?, fresh, if_true] at found
      rw [fullRom, List.cons_append, List.getElem?_cons_succ]
      exact prefix_getElem? (List.prefix_append _ _) found
    obtain ⟨placed, present, same, _⟩ :=
      forall₂_getElem? (place_contents 0 object.symbols object.fullRom) collected
    refine ⟨placed, ?_, same ▸ .refl _ _⟩
    simp only [collected?, reduceCtorEq, if_false, Array.toList_push]
    exact prefix_getElem? (List.prefix_append _ _) present
  | ram index =>
    obtain ⟨placed, present, same, _⟩ := forall₂_getElem? (place_contents romEnd _ _) found
    exact ⟨placed, present, same ▸ .refl _ _⟩

private theorem resolve_evolves (object : Object) : Evolves object (leftBy (resolve.run object)) := by
  by_cases positioned : object.stage = .positioned
  · obtain ⟨rom, ram, stage, same, romSteps, ramSteps, moved⟩ := resolve_frame object
    have early : object.stage ≠ .accumulating := by simp [positioned]
    have later : stage ≠ .accumulating := by
      rcases moved with kept | ⟨_, resolved⟩
      · exact kept ▸ early
      · simp [resolved]
    rw [same]
    have means (name : String) (value : Int32) : object.Denotes name value →
        Denotes { object with rom, ram, stage } name value := fun known => ⟨later, known.2⟩
    refine ⟨?_, means⟩
    intro slot fragment found
    cases slot with
    | rom index =>
      simp only [collected?, early, later, if_false] at found ⊢
      obtain ⟨resolved, present, one⟩ := forall₂_getElem? romSteps found
      exact ⟨resolved, present, one.body.mono fun name value known =>
        means name value (value?_denotes early known)⟩
    | ram index =>
      obtain ⟨resolved, present, one⟩ := forall₂_getElem? ramSteps found
      exact ⟨resolved, present, one.body.mono fun name value known =>
        means name value (value?_denotes early known)⟩
  · rw [resolve_unchanged positioned]
    exact .refl object

theorem Step.evolves {before after : Object} (step : Step before after)
    (room : ¬ after.Overfull) : Evolves before after := by
  cases step with
  | gather step => exact step.extends.evolves
  | layout success => exact layout_evolves success
  | layoutRejected failure =>
    by_cases stage : before.stage = .accumulating
    · exact absurd (layout_overfull stage failure) room
    · rw [layout_unchanged stage failure]
      exact .refl before
  | resolve => exact resolve_evolves before
  | encode resolved =>
    refine ⟨?_, fun name value means => ⟨by simp, means.2⟩⟩
    intro slot fragment found
    refine ⟨fragment, ?_, .refl _ _⟩
    simpa [collected?, resolved] using found

/-- An object that is left with room has kept all its fragments. -/
theorem Steps.evolves {before after : Object} (steps : Steps before after)
    (room : ¬ after.Overfull) : Evolves before after := by
  induction steps with
  | refl => exact .refl before
  | tail _ step ih => exact (ih fun excess => room (step.overfull excess)).trans (step.evolves room)

end Object

end GlulxAsm
