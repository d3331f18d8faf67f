import GlulxAsm.Proofs.Consistency
import GlulxAsm.Proofs.Provenance

/-! Assembling only adds to an object, whether it succeeds or not. A statement that fails halfway and a
file that is included are rows of collecting steps like any other. -/
namespace GlulxAsm

namespace Object

private theorem warn_warnings (object : Object) (warning : Warning) :
    object.warnings.toList <+: (object.warn warning).warnings.toList := by
  simp [warn]

/-- Warnings are only added. -/
theorem Gathers.warnings {before after : Object} (step : Gathers before after) :
    before.warnings.toList <+: after.warnings.toList := by
  cases step with
  | setStackSize bytes =>
    unfold Object.setStackSize
    dsimp only
    split
    · exact List.prefix_refl _
    · exact warn_warnings before _
  | addConstant name value loc =>
    unfold Object.addConstant
    dsimp only
    split
    · exact warn_warnings _ _
    · exact List.prefix_refl _
  | selectRom toRom => exact List.prefix_refl _
  | intern content => exact List.prefix_refl _
  | addAlias label content => exact List.prefix_refl _
  | addRom body loc fresh selected => exact List.prefix_refl _
  | addRam body loc fresh selected => exact List.prefix_refl _

theorem Collects.warnings {before after : Object} (steps : Collects before after) :
    before.warnings.toList <+: after.warnings.toList := by
  induction steps with
  | refl => exact List.prefix_refl _
  | tail _ step ih => exact ih.trans step.warnings

/-- The stack takes whole pages. -/
def StackPaged (object : Object) : Prop := Page.size ∣ object.stackSize.toNat

theorem setStackSize_stackPaged (object : Object) (bytes : UInt32) :
    (object.setStackSize bytes).StackPaged := by
  -- A size that leaves the range wraps around, and so to a page, too.
  have wrapped : (object.setStackSize bytes).stackSize.toNat =
      Page.roundUp bytes.toNat % 0x100000000 := UInt32.toNat_ofNat
  rw [StackPaged, wrapped]
  apply (Nat.dvd_mod_iff _).mpr (Page.dvd_roundUp _)
  decide

private theorem addConstant_stackSize (object : Object) (name : String) (value : Int32) (loc : Location) :
    (object.addConstant name value loc).stackSize = object.stackSize := by
  unfold addConstant
  dsimp only
  split <;> rfl

theorem Gathers.stackPaged {before after : Object} (step : Gathers before after)
    (paged : before.StackPaged) : after.StackPaged := by
  cases step with
  | setStackSize bytes => exact setStackSize_stackPaged before bytes
  | addConstant name value loc =>
    rw [StackPaged, addConstant_stackSize]
    exact paged
  | selectRom toRom => exact paged
  | intern content => exact paged
  | addAlias label content => exact paged
  | addRom body loc fresh selected => exact paged
  | addRam body loc fresh selected => exact paged

theorem Step.stackPaged {before after : Object} (step : Step before after)
    (paged : before.StackPaged) : after.StackPaged := by
  cases step with
  | gather step => exact step.stackPaged paged
  | layout success =>
    obtain ⟨_, _, _, _, _, _, _, rfl⟩ := layout_ok success
    exact paged
  | layoutRejected failure =>
    by_cases stage : before.stage = .accumulating
    · obtain ⟨_, _, _, _, _, rfl, _⟩ := layout_rejected stage failure
      exact paged
    · rw [layout_unchanged stage failure]
      exact paged
  | resolve =>
    obtain ⟨_, _, _, same, _⟩ := resolve_frame before
    rw [same]
    exact paged
  | encode => exact paged

theorem Steps.stackPaged {before after : Object} (steps : Steps before after)
    (paged : before.StackPaged) : after.StackPaged := by
  induction steps with
  | refl => exact paged
  | tail _ step ih => exact step.stackPaged ih

theorem Reachable.stackPaged {object : Object} (reachable : object.Reachable) : object.StackPaged := by
  obtain ⟨settings, fresh, operations, made, success⟩ := reachable
  apply (Operation.runAll_steps success).stackPaged
  simp only [create, setStackSize?] at made
  split at made
  · cases made
    exact setStackSize_stackPaged _ _
  · cases made

end Object

open Object in
/-- Whatever is assembled into an object in any stage, and whether or not it is aborted: what the object
holds stays as it is and where it is, and what is new stands behind it. Only an object without a layout
gets fragments. -/
theorem Source.assemble_extends (tree : FileTree) (source : Source) (object : Object) :
    let after := (source.assemble tree object).object
    object.rom.toList <+: after.rom.toList ∧ object.ram.toList <+: after.ram.toList ∧
      object.strings.Extends after.strings ∧ object.warnings.toList <+: after.warnings.toList ∧
      (∀ name, (object.constants.get? name).isSome → (after.constants.get? name).isSome) ∧
      (object.StackPaged → after.StackPaged) ∧ (object.Reachable → object.StackPaged) ∧
      after.symbols = object.symbols ∧ after.stage = object.stage ∧
      after.romEnd = object.romEnd ∧ after.codeSize = object.codeSize ∧
      (object.stage ≠ .accumulating → after.rom = object.rom ∧ after.ram = object.ram) := by
  intro after
  have collected : Collects object after := source.assemble_collects tree object
  have extended := collected.extends
  refine ⟨extended.rom, extended.ram, extended.strings, collected.warnings, ?_,
    collected.steps.stackPaged, Reachable.stackPaged, extended.symbols, extended.stage,
    extended.romEnd, extended.codeSize, extended.frozen⟩
  intro name known
  by_cases missing : after.constants.get? name = none
  · simp [extended.constants name missing] at known
  · exact Option.isSome_iff_ne_none.mpr missing

end GlulxAsm
