import GlulxAsm.Proofs.LaidOut

/-! The life of an object. Its stage only moves forward. Once fragments have positions, no operation adds,
moves or resizes one; only names in operands are replaced, and none is left when all are resolved. An object
gives at most one image. -/
namespace GlulxAsm

/-- How far an object has come. -/
def Stage.rank : Stage → Nat
  | accumulating => 0
  | positioned => 1
  | resolved => 2
  | encoded => 3

namespace Fragment

/-- The bytes of a data block; other bodies have none. -/
def data? (fragment : Fragment) : Option Data :=
  match fragment.body with
  | .data data => some data
  | _ => none

/-- What stays of a fragment when its names are resolved. -/
structure Kept (earlier later : Fragment) : Prop where
  position : later.position = earlier.position
  size : later.size = earlier.size
  label : later.label? = earlier.label?
  data : later.data? = earlier.data?

theorem Kept.refl (fragment : Fragment) : Kept fragment fragment := ⟨rfl, rfl, rfl, rfl⟩

theorem Kept.trans {first second third : Fragment} (one : Kept first second)
    (two : Kept second third) : Kept first third where
  position := two.position.trans one.position
  size := two.size.trans one.size
  label := two.label.trans one.label
  data := two.data.trans one.data

private theorem Body.Resolves.data?_eq {meaning : String → Int32 → Prop} {earlier later : Fragment}
    (resolves : Body.Resolves meaning earlier.body later.body) : later.data? = earlier.data? := by
  obtain ⟨earlier, _, _⟩ := earlier
  obtain ⟨later, _, _⟩ := later
  cases resolves <;> rfl

theorem Resolves.kept {meaning : String → Int32 → Prop} {earlier later : Fragment}
    (resolves : Resolves meaning earlier later) : Kept earlier later where
  position := resolves.position
  size := resolves.size_eq
  label := resolves.label?_eq
  data := resolves.body.data?_eq

end Fragment

namespace Object

open Fragment

/-- What does not change any more once fragments have positions. -/
structure Fixed (before after : Object) : Prop where
  rom : List.Forall₂ Kept before.rom.toList after.rom.toList
  ram : List.Forall₂ Kept before.ram.toList after.ram.toList
  symbols : after.symbols = before.symbols
  romEnd : after.romEnd = before.romEnd
  codeSize : after.codeSize = before.codeSize

theorem Fixed.of_segments {before after : Object} (rom : after.rom = before.rom)
    (ram : after.ram = before.ram) (symbols : after.symbols = before.symbols)
    (romEnd : after.romEnd = before.romEnd) (codeSize : after.codeSize = before.codeSize) :
    Fixed before after := by
  refine ⟨?_, ?_, symbols, romEnd, codeSize⟩
  · rw [rom]
    exact List.forall₂_same.mpr fun fragment _ => .refl fragment
  · rw [ram]
    exact List.forall₂_same.mpr fun fragment _ => .refl fragment

theorem Fixed.refl (object : Object) : Fixed object object := .of_segments rfl rfl rfl rfl rfl

theorem Fixed.trans {first second third : Object} (one : Fixed first second)
    (two : Fixed second third) : Fixed first third where
  rom := forall₂_comp (fun _ _ _ here next => here.trans next) one.rom two.rom
  ram := forall₂_comp (fun _ _ _ here next => here.trans next) one.ram two.ram
  symbols := two.symbols.trans one.symbols
  romEnd := two.romEnd.trans one.romEnd
  codeSize := two.codeSize.trans one.codeSize

theorem Step.fixed {before after : Object} (step : Step before after)
    (later : before.stage ≠ .accumulating) : Fixed before after := by
  cases step with
  | gather step =>
    have extended := step.extends
    obtain ⟨rom, ram⟩ := extended.frozen later
    exact .of_segments rom ram extended.symbols extended.romEnd extended.codeSize
  | layout success => exact absurd (layout_ok success).1 later
  | layoutRejected failure =>
    rw [layout_unchanged later failure]
    exact .refl before
  | resolve =>
    obtain ⟨rom, ram, stage, same, romSteps, ramSteps, _⟩ := resolve_frame before
    rw [same]
    exact ⟨romSteps.imp fun _ _ one => one.kept, ramSteps.imp fun _ _ one => one.kept, rfl, rfl, rfl⟩
  | encode resolved => exact .of_segments rfl rfl rfl rfl rfl

/-- A layout that is rejected leaves the stage as it was. -/
theorem layout_rejected_stage {object result : Object} {error : AsmError}
    (failure : layout.run object = .error (.rejected error) result) :
    result.stage = object.stage := by
  by_cases fresh : object.stage = .accumulating
  · obtain ⟨_, _, rom, ram, symbols, rfl, _⟩ := layout_rejected fresh failure
    rfl
  · rw [layout_unchanged fresh failure]

theorem Step.rank_le {before after : Object} (step : Step before after) :
    before.stage.rank ≤ after.stage.rank := by
  cases step with
  | gather step => exact Nat.le_of_eq (congrArg Stage.rank step.extends.stage.symm)
  | layout success =>
    rw [(layout_ok success).1]
    exact Nat.zero_le _
  | layoutRejected failure =>
    exact Nat.le_of_eq (congrArg Stage.rank (layout_rejected_stage failure).symm)
  | resolve =>
    obtain ⟨rom, ram, stage, same, _, _, kept | ⟨positioned, resolved⟩⟩ := resolve_frame before
    · rw [same]
      exact Nat.le_of_eq (congrArg Stage.rank kept.symm)
    · rw [same, positioned, resolved]
      exact Nat.le_succ 1
  | encode resolved =>
    rw [resolved]
    exact Nat.le_succ 2

theorem Steps.rank_le {before after : Object} (steps : Steps before after) :
    before.stage.rank ≤ after.stage.rank := by
  induction steps with
  | refl => exact Nat.le_refl _
  | tail _ step ih => exact Nat.le_trans ih step.rank_le

/-- An object does not go back to collecting. -/
theorem Steps.stage_ne {before after : Object} (steps : Steps before after)
    (later : before.stage ≠ .accumulating) : after.stage ≠ .accumulating := by
  intro early
  have order := steps.rank_le
  rw [early] at order
  apply later
  cases stage : before.stage with
  | accumulating => rfl
  | _ =>
    rw [stage] at order
    exact absurd order (by decide)

theorem Steps.encoded {before after : Object} (steps : Steps before after)
    (done : before.stage = .encoded) : after.stage = .encoded := by
  have order := steps.rank_le
  rw [done] at order
  cases stage : after.stage with
  | encoded => rfl
  | _ =>
    rw [stage] at order
    exact absurd order (by decide)

/-- Once fragments have positions, whatever is done keeps them. -/
theorem Steps.fixed {before after : Object} (steps : Steps before after)
    (later : before.stage ≠ .accumulating) : Fixed before after := by
  induction steps with
  | refl => exact .refl before
  | tail earlier step ih => exact ih.trans (step.fixed (Steps.stage_ne earlier later))

/-- No name is left in an object whose names are said to be resolved. -/
def Settled (object : Object) : Prop :=
  object.stage = .resolved ∨ object.stage = .encoded →
    operandNames (object.rom.toList ++ object.ram.toList) = []

theorem settled_of_early {object : Object} (early : object.stage.rank ≤ 1) : object.Settled := by
  rintro (resolved | encoded)
  · rw [resolved] at early
    exact absurd early (by decide)
  · rw [encoded] at early
    exact absurd early (by decide)

private theorem operandNames_eq_nil {fragments : List Fragment}
    (nameless : ∀ fragment ∈ fragments, Operand.names fragment.body.operands = []) :
    operandNames fragments = [] := by
  induction fragments with
  | nil => rfl
  | cons fragment rest ih =>
    rw [List.forall_mem_cons] at nameless
    rw [operandNames_cons, nameless.1, ih nameless.2]
    rfl

/-- Resolution leaves no names, or it leaves the object without the stage that says so. -/
theorem resolve_settled {object : Object} (settled : object.Settled) :
    (leftBy (resolve.run object)).Settled := by
  by_cases positioned : object.stage = .positioned
  · cases found : resolve.run object with
    | ok value result =>
      obtain ⟨_, romDone, ramDone, rfl⟩ := resolve_ok found
      intro _
      rw [leftBy, operandNames_append, List.append_eq_nil_iff]
      exact ⟨operandNames_eq_nil (names_resolveAll romDone),
        operandNames_eq_nil (names_resolveAll ramDone)⟩
    | error failure result =>
      apply settled_of_early
      rw [run_resolve, if_pos positioned] at found
      dsimp only at found
      split at found
      · cases found
        simp [leftBy, positioned, Stage.rank]
      · split at found
        · cases found
          simp [leftBy, positioned, Stage.rank]
        · cases found
  · rw [resolve_unchanged positioned]
    exact settled

theorem Step.settled {before after : Object} (step : Step before after)
    (settled : before.Settled) : after.Settled := by
  cases step with
  | gather step =>
    have extended := step.extends
    by_cases fresh : before.stage = .accumulating
    · apply settled_of_early
      rw [extended.stage, fresh]
      decide
    · obtain ⟨rom, ram⟩ := extended.frozen fresh
      intro late
      rw [rom, ram]
      exact settled (extended.stage ▸ late)
  | layout success =>
    obtain ⟨_, _, _, _, _, _, _, rfl⟩ := layout_ok success
    exact settled_of_early (Nat.le_refl 1)
  | layoutRejected failure =>
    by_cases fresh : before.stage = .accumulating
    · apply settled_of_early
      rw [layout_rejected_stage failure, fresh]
      decide
    · rw [layout_unchanged fresh failure]
      exact settled
  | resolve => exact resolve_settled settled
  | encode resolved =>
    intro _
    exact settled (.inl resolved)

theorem Steps.settled {before after : Object} (steps : Steps before after)
    (settled : before.Settled) : after.Settled := by
  induction steps with
  | refl => exact settled
  | tail _ step ih => exact step.settled ih

/-- An object whose image is written gives no other. -/
theorem build_encoded {object result : Object} {image : Image} (done : object.stage = .encoded) :
    build.run object ≠ .ok image result := by
  intro success
  obtain ⟨laid, final, _, _, first, _, second, resolved, _⟩ := build_ok success
  rcases first with ⟨fresh, _⟩ | ⟨_, rfl⟩
  · simp [done] at fresh
  · rcases second with ⟨positioned, _⟩ | ⟨_, rfl⟩
    · simp [done] at positioned
    · simp [done] at resolved

end Object

namespace Operation

open Object Fragment

/-- The image that an operation returns; only builds return one. -/
def image? (object : Object) : Operation → Option Image
  | build =>
    match Object.build.run object with
    | .ok image _ => some image
    | .error _ _ => none
  | _ => none

/-- The images that operations return one after the other, up to a sum out of range. -/
def images (object : Object) : List Operation → List Image
  | [] => []
  | operation :: rest =>
    (operation.image? object).toList ++ (operation.run object).toOption.elim [] (images · rest)

theorem runAll_append {object middle : Object} {front : List Operation}
    (first : runAll object front = .ok middle) (back : List Operation) :
    runAll object (front ++ back) = runAll middle back := by
  rw [runAll] at first ⊢
  rw [List.foldlM_append, first]
  rfl

theorem image?_some {object : Object} {operation : Operation} {image : Image}
    (returned : operation.image? object = some image) :
    ∃ result, Object.build.run object = .ok image result ∧ operation.run object = .ok result := by
  cases operation with
  | build =>
    simp only [image?] at returned
    split at returned
    · next found result success =>
      cases returned
      refine ⟨result, success, ?_⟩
      rw [run, success]
      rfl
    · cases returned
  | _ => cases returned

private theorem images_encoded {object : Object} (done : object.stage = .encoded)
    (operations : List Operation) : images object operations = [] := by
  induction operations generalizing object with
  | nil => rfl
  | cons operation rest ih =>
    have first : operation.image? object = none := by
      apply Option.eq_none_iff_forall_ne_some.mpr
      intro image returned
      obtain ⟨_, success, _⟩ := image?_some returned
      exact build_encoded done success
    cases ran : operation.run object with
    | error cause => simp [images, first, ran, Except.toOption]
    | ok next => simp [images, first, ran, Except.toOption, ih ((run_steps ran).encoded done)]

private theorem length_images_le (object : Object) (operations : List Operation) :
    (images object operations).length ≤ 1 := by
  induction operations generalizing object with
  | nil => exact Nat.zero_le _
  | cons operation rest ih =>
    cases returned : operation.image? object with
    | none =>
      cases ran : operation.run object with
      | error cause => simp [images, returned, ran, Except.toOption]
      | ok next => simpa [images, returned, ran, Except.toOption] using ih next
    | some image =>
      obtain ⟨result, success, ran⟩ := image?_some returned
      have none_later := images_encoded (build_writes success).2.1 rest
      simp [images, returned, ran, Except.toOption, none_later]

/-- Between any two points in the life of an object, the stage has not moved backwards, and if the first
point lies behind the layout, fragments, symbols and both ends are fixed. An object whose stage says so
holds no name any more. All operations together return one image at most. -/
theorem life_of_object {settings : Settings} {fresh : Object} (made : create settings = .ok fresh)
    (operations : List Operation) :
    (∀ front middle back before after, operations = front ++ middle ++ back →
      runAll fresh front = .ok before → runAll before middle = .ok after →
        before.stage.rank ≤ after.stage.rank ∧
        (before.stage ≠ .accumulating → Fixed before after) ∧
        (after.stage = .resolved ∨ after.stage = .encoded →
          operandNames (after.rom.toList ++ after.ram.toList) = [])) ∧
      (images fresh operations).length ≤ 1 := by
  refine ⟨?_, length_images_le fresh operations⟩
  intro front middle back before after _ first second
  have earlier := runAll_steps first
  have steps := runAll_steps second
  have started : fresh.Settled := settled_of_early (by simp [(create_fresh made).1, Stage.rank])
  exact ⟨steps.rank_le, steps.fixed, steps.settled (earlier.settled started)⟩

/-- This object is laid out by itself, then built twice: the second build is refused. -/
theorem life_of_object_branching : ∃ fresh laid done, create {} = .ok fresh ∧
    runAll fresh (branchingOperations ++ [.layout]) = .ok laid ∧
    runAll laid [.selectRom true, .build, .build] = .ok done ∧
    laid.stage.rank ≤ done.stage.rank ∧ Fixed laid done ∧
    operandNames (done.rom.toList ++ done.ram.toList) = [] ∧
    (images fresh (branchingOperations ++ [.layout] ++ [.selectRom true, .build, .build])).length ≤ 1 := by
  have evaluated : (match runAll branching [.layout] with
      | .ok laid =>
        match runAll laid [.selectRom true, .build, .build] with
        | .ok done => decide (laid.stage = .positioned ∧ done.stage = .encoded)
        | .error _ => false
      | .error _ => false) = true := by decide +kernel
  obtain ⟨fresh, made, collected⟩ := branching_collected
  split at evaluated
  · next laid placed =>
    split at evaluated
    · next done built =>
      obtain ⟨positioned, encoded⟩ := of_decide_eq_true evaluated
      have reached := (runAll_append collected [.layout]).trans placed
      obtain ⟨life, single⟩ := life_of_object made
        (branchingOperations ++ [.layout] ++ [.selectRom true, .build, .build])
      obtain ⟨order, fixed, nameless⟩ := life _ _ [] laid done (by simp) reached built
      exact ⟨fresh, laid, done, made, reached, built, order, fixed (by simp [positioned]),
        nameless (.inr encoded), single⟩
    · cases evaluated
  · cases evaluated

end Operation

end GlulxAsm
