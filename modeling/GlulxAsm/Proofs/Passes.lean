import GlulxAsm.Object.Build
import GlulxAsm.Proofs.Gathering
import GlulxAsm.Proofs.Resolution

/-! What the passes over an object can do, said once for every later argument. Layout fails only for want
of room, and then the object needs too much room for good. Resolution only puts values in the place of
names. -/
namespace GlulxAsm

namespace Object

open Fragment

@[simp] theorem run_reject {α : Type} (error : AsmError) (object : Object) :
    (reject error : Build α).run object = .error (.rejected error) object := rfl

theorem run_expectStage (needed : Stage) (pass : Pass) (object : Object) :
    (expectStage needed pass).run object =
      if object.stage = needed then .ok () object
      else .error (.rejected (.misuse .builtIn (.wrongStage pass needed object.stage))) object := by
  unfold expectStage
  by_cases same : object.stage = needed <;> simp [same]

theorem run_layout (object : Object) :
    layout.run object =
      if object.stage = .accumulating then
        let rom := place 0 object.symbols object.fullRom
        let started := { object with rom := rom.fragments.toArray, symbols := rom.symbols }
        match rom.outcome with
        | .error failure => .error failure started
        | .ok romSize =>
          match Page.roundUp? romSize with
          | none => .error (.rejected (.capacity .builtIn .romSize)) started
          | some romEnd =>
            let ram := place romEnd rom.symbols object.ram.toList
            let placed := { started with
              rom := started.rom.push (padding romSize romEnd)
              ram := ram.fragments.toArray
              symbols := ram.symbols }
            match ram.outcome with
            | .error failure => .error failure placed
            | .ok codeSize => .ok () { placed with
                warnings := object.warnings ++ rom.clashes.toArray ++ ram.clashes.toArray
                romEnd
                codeSize
                stage := .positioned }
      else .error (.rejected (.misuse .builtIn
        (.wrongStage .layout .accumulating object.stage))) object := by
  by_cases stage : object.stage = .accumulating
  · simp only [layout, EStateM.run_bind, run_expectStage, if_pos stage, EStateM.run_get,
      EStateM.run_set, MonadExcept.ofExcept]
    cases (place 0 object.symbols object.fullRom).outcome with
    | error failure => rfl
    | ok romSize =>
      simp only [EStateM.run_pure]
      cases Page.roundUp? romSize with
      | none => rfl
      | some romEnd =>
        simp only [EStateM.run_bind, EStateM.run_modify]
        cases (place romEnd (place 0 object.symbols object.fullRom).symbols
          object.ram.toList).outcome with
        | error failure => rfl
        | ok codeSize => rfl
  · simp only [layout, EStateM.run_bind, run_expectStage, if_neg stage]

theorem run_resolve (object : Object) :
    resolve.run object =
      if object.stage = .positioned then
        let rom := resolveAll object.value? object.rom.toList
        let ram := resolveAll object.value? object.ram.toList
        match rom.2 with
        | some error => .error (.rejected error) { object with rom := rom.1.toArray }
        | none =>
          let resolved := { object with rom := rom.1.toArray, ram := ram.1.toArray }
          match ram.2 with
          | some error => .error (.rejected error) resolved
          | none => .ok () { resolved with stage := .resolved }
      else .error (.rejected (.misuse .builtIn
        (.wrongStage .resolution .positioned object.stage))) object := by
  by_cases stage : object.stage = .positioned
  · simp only [resolve, EStateM.run_bind, run_expectStage, if_pos stage, EStateM.run_get,
      EStateM.run_set]
    cases (resolveAll object.value? object.rom.toList).2 with
    | some error => rfl
    | none =>
      simp only [EStateM.run_bind, EStateM.run_modify]
      cases (resolveAll object.value? object.ram.toList).2 with
      | some error => rfl
      | none => rfl
  · simp only [resolve, EStateM.run_bind, run_expectStage, if_neg stage]

theorem run_encode (entry : UInt32) (object : Object) :
    (encode entry).run object =
      if object.stage = .resolved then
        match Header.create object.romEnd object.codeSize object.stackSize entry with
        | .error cause => .error (.overflow cause) object
        | .ok header =>
          match Image.write object.rom.toList object.ram.toList header with
          | .error error => .error (.rejected error) object
          | .ok image => .ok image { object with stage := .encoded }
      else .error (.rejected (.misuse .builtIn
        (.wrongStage .encoding .resolved object.stage))) object := by
  by_cases stage : object.stage = .resolved
  · simp only [encode, EStateM.run_bind, run_expectStage, if_pos stage, EStateM.run_get]
    cases Header.create object.romEnd object.codeSize object.stackSize entry with
    | error cause => rfl
    | ok header =>
      dsimp only
      cases Image.write object.rom.toList object.ram.toList header with
      | error error => rfl
      | ok image => rfl
  · simp only [encode, EStateM.run_bind, run_expectStage, if_neg stage]

/-- A build is a layout, if the object still needs one, then a search for the entry, a resolution, if the
object still needs one, and the writing. -/
theorem run_build (object : Object) :
    build.run object =
      match if object.stage = .accumulating then layout.run object else .ok () object with
      | .error failure result => .error failure result
      | .ok _ laid =>
        match laid.entryPoint with
        | .error error => .error (.rejected error) laid
        | .ok entry =>
          match if laid.stage = .positioned then resolve.run laid else .ok () laid with
          | .error failure result => .error failure result
          | .ok _ done => (encode entry).run done := by
  have ending (laid : Object) (entry : UInt32) :
      (do if (← get).stage = .positioned then resolve
          encode entry : Build Image).run laid =
        match if laid.stage = .positioned then resolve.run laid else .ok () laid with
        | .error failure result => .error failure result
        | .ok _ done => (encode entry).run done := by
    by_cases stage : laid.stage = .positioned
    · simp only [EStateM.run_bind, EStateM.run_get, if_pos stage]
      cases resolve.run laid with
      | error failure result => rfl
      | ok _ done => rfl
    · simp only [EStateM.run_bind, EStateM.run_get, if_neg stage]
  have middle (laid : Object) :
      (do match (← get).entryPoint with
          | .error error => reject error
          | .ok entry =>
            if (← get).stage = .positioned then resolve
            encode entry : Build Image).run laid =
        match laid.entryPoint with
        | .error error => .error (.rejected error) laid
        | .ok entry =>
          match if laid.stage = .positioned then resolve.run laid else .ok () laid with
          | .error failure result => .error failure result
          | .ok _ done => (encode entry).run done := by
    rw [EStateM.run_bind, EStateM.run_get]
    dsimp only
    cases laid.entryPoint with
    | error error => rfl
    | ok entry => exact ending laid entry
  rw [build, EStateM.run_bind, EStateM.run_get]
  dsimp only
  by_cases stage : object.stage = .accumulating
  · rw [if_pos stage, if_pos stage, EStateM.run_bind]
    cases layout.run object with
    | error failure result => rfl
    | ok _ laid => exact middle laid
  · rw [if_neg stage, if_neg stage]
    exact middle object

/-- Where the last fragment would end if addresses had no limit. -/
def demand (object : Object) : Nat :=
  Page.roundUp (totalSize object.fullRom) + totalSize object.ram.toList

theorem layout_ok {object result : Object} (success : layout.run object = .ok () result) :
    object.stage = .accumulating ∧ ∃ romSize romEnd codeSize,
      (place 0 object.symbols object.fullRom).outcome = .ok romSize ∧
      Page.roundUp? romSize = some romEnd ∧
      (place romEnd (place 0 object.symbols object.fullRom).symbols
        object.ram.toList).outcome = .ok codeSize ∧
      result = { object with
        rom := (place 0 object.symbols object.fullRom).fragments.toArray.push
          (padding romSize romEnd)
        ram := (place romEnd (place 0 object.symbols object.fullRom).symbols
          object.ram.toList).fragments.toArray
        symbols := (place romEnd (place 0 object.symbols object.fullRom).symbols
          object.ram.toList).symbols
        warnings := object.warnings ++ (place 0 object.symbols object.fullRom).clashes.toArray ++
          (place romEnd (place 0 object.symbols object.fullRom).symbols
            object.ram.toList).clashes.toArray
        romEnd
        codeSize
        stage := .positioned } := by
  rw [run_layout] at success
  split at success
  · next fresh =>
    dsimp only at success
    split at success
    · cases success
    · next romSize romFits =>
      split at success
      · cases success
      · next romEnd rounded =>
        split at success
        · cases success
        · next codeSize ramFits =>
          cases success
          exact ⟨fresh, romSize, romEnd, codeSize, romFits, rounded, ramFits, rfl⟩
  · cases success

theorem place_stop {position stop : UInt32} {symbols : SymbolTable} {fragments : List Fragment}
    (success : (place position symbols fragments).outcome = .ok stop) :
    stop.toNat = position.toNat + totalSize fragments := by
  rw [(place_tiles success).stop_eq, totalSize_place]

/-- A layout succeeds only if there is room, and then its last fragment ends where it has to. -/
theorem layout_demand {object result : Object} (success : layout.run object = .ok () result) :
    result.codeSize.toNat = object.demand := by
  obtain ⟨_, romSize, romEnd, codeSize, romFits, rounded, ramFits, rfl⟩ := layout_ok success
  have romStop : romSize.toNat = totalSize object.fullRom := by
    simpa using place_stop romFits
  rw [demand, ← romStop, ← Page.roundUp?_some rounded]
  exact place_stop ramFits

/-- The zeros between ROM and RAM, before they have a position. -/
def filler (gap : Nat) : Fragment := { body := .data (.zeroed gap), loc := .builtIn }

/-- Layout leaves the header, ROM, the strings and a filler in ROM, and RAM as it was. -/
theorem layout_segments {object result : Object} (success : layout.run object = .ok () result) :
    ∃ gap < 0x100000000, List.Forall₂ Alike (object.fullRom ++ [filler gap]) result.rom.toList ∧
      List.Forall₂ Alike object.ram.toList result.ram.toList := by
  obtain ⟨_, romSize, romEnd, _, _, _, _, rfl⟩ := layout_ok success
  have last : List.Forall₂ Alike [filler (romEnd.toNat - romSize.toNat)] [padding romSize romEnd] :=
    .cons ⟨rfl, rfl⟩ .nil
  refine ⟨romEnd.toNat - romSize.toNat,
    Nat.lt_of_le_of_lt (Nat.sub_le _ _) romEnd.toNat_lt, ?_, place_contents ..⟩
  rw [Array.toList_push]
  exact List.rel_append (place_contents ..) last

/-- A layout that is rejected lacks room. ROM and RAM do not get smaller by it. -/
theorem layout_rejected {object result : Object} {error : AsmError}
    (fresh : object.stage = .accumulating)
    (failure : layout.run object = .error (.rejected error) result) :
    0x100000000 ≤ object.demand ∧ (∃ loc limit, error = .capacity loc limit) ∧
      ∃ rom ram symbols, result = { object with rom, ram, symbols } ∧
        totalSize object.fullRom ≤ totalSize rom.toList ∧
        totalSize ram.toList = totalSize object.ram.toList := by
  have same := totalSize_place 0 object.symbols object.fullRom
  have grown := Page.le_roundUp (totalSize object.fullRom)
  rw [run_layout, if_pos fresh] at failure
  dsimp only at failure
  split at failure
  · next cause stopped =>
    cases failure
    obtain ⟨excess, loc, found⟩ := place_rejected stopped
    simp only [UInt32.reduceToNat, Nat.zero_add] at excess
    refine ⟨?_, ⟨loc, _, found⟩, _, _, _, rfl, ?_, rfl⟩
    · rw [demand]
      omega
    · exact Nat.le_of_eq same.symm
  · next romSize romFits =>
    have romStop : romSize.toNat = totalSize object.fullRom := by
      simpa using place_stop romFits
    split at failure
    · next missing =>
      cases failure
      have excess := Page.roundUp?_none missing
      rw [romStop] at excess
      refine ⟨?_, ⟨_, _, rfl⟩, _, _, _, rfl, ?_, rfl⟩
      · rw [demand]
        omega
      · exact Nat.le_of_eq same.symm
    · next romEnd rounded =>
      have romEndStop := Page.roundUp?_some rounded
      split at failure
      · next cause stopped =>
        cases failure
        obtain ⟨excess, loc, found⟩ := place_rejected stopped
        refine ⟨?_, ⟨loc, _, found⟩, _, _, _, rfl, ?_, ?_⟩
        · rw [demand, ← romStop, ← romEndStop]
          exact excess
        · simp [same]
        · exact totalSize_place ..
      · cases failure

/-- The bytes of every fragment can be counted. -/
def Countable (object : Object) : Prop :=
  ∀ fragment ∈ object.fullRom ++ object.ram.toList, fragment.body.Countable

instance (object : Object) : Decidable object.Countable :=
  inferInstanceAs (Decidable (∀ _ ∈ _, _))

/-- Only bytes that cannot be counted stop a layout by arithmetic. -/
theorem Countable.layout_in_range {object : Object} (countable : object.Countable) (cause : Overflow)
    (result : Object) : layout.run object ≠ .error (.overflow cause) result := by
  intro failure
  rw [run_layout] at failure
  split at failure
  · dsimp only at failure
    split at failure
    · next stopped =>
      cases failure
      obtain ⟨fragment, member, uncountable⟩ := place_overflow stopped
      exact uncountable (countable fragment (List.mem_append_left _ member))
    · split at failure
      · cases failure
      · split at failure
        · next stopped =>
          cases failure
          obtain ⟨fragment, member, uncountable⟩ := place_overflow stopped
          exact uncountable (countable fragment (List.mem_append_right _ member))
        · cases failure
  · cases failure

/-- Resolution changes ROM, RAM and the stage, and fragments only by giving values to names. -/
theorem resolve_frame (object : Object) :
    ∃ rom ram stage, leftBy (resolve.run object) = { object with rom, ram, stage } ∧
      List.Forall₂ (Resolves fun name value => object.value? name = some value)
        object.rom.toList rom.toList ∧
      List.Forall₂ (Resolves fun name value => object.value? name = some value)
        object.ram.toList ram.toList ∧
      (stage = object.stage ∨ object.stage = .positioned ∧ stage = .resolved) := by
  have romSteps := resolveAll_resolves object.value? object.rom.toList
  have ramSteps := resolveAll_resolves object.value? object.ram.toList
  have same (fragments : List Fragment) :
      List.Forall₂ (Resolves fun name value => object.value? name = some value)
        fragments fragments := List.forall₂_same.mpr fun _ _ => .refl _ _
  rw [run_resolve]
  split
  · next positioned =>
    dsimp only
    split
    · exact ⟨_, _, _, rfl, romSteps, same _, .inl rfl⟩
    · split
      · exact ⟨_, _, _, rfl, romSteps, ramSteps, .inl rfl⟩
      · exact ⟨_, _, _, rfl, romSteps, ramSteps, .inr ⟨positioned, rfl⟩⟩
  · exact ⟨_, _, _, rfl, same _, same _, .inl rfl⟩

theorem resolve_ok {object result : Object} (success : resolve.run object = .ok () result) :
    object.stage = .positioned ∧ (resolveAll object.value? object.rom.toList).2 = none ∧
      (resolveAll object.value? object.ram.toList).2 = none ∧
      result = { object with
        rom := (resolveAll object.value? object.rom.toList).1.toArray
        ram := (resolveAll object.value? object.ram.toList).1.toArray
        stage := .resolved } := by
  rw [run_resolve] at success
  split at success
  · next positioned =>
    dsimp only at success
    split at success
    · cases success
    · next romDone =>
      split at success
      · cases success
      · next ramDone =>
        cases success
        exact ⟨positioned, romDone, ramDone, rfl⟩
  · cases success

theorem build_ok {object result : Object} {image : Image}
    (success : build.run object = .ok image result) :
    ∃ laid done entry header,
      (object.stage = .accumulating ∧ layout.run object = .ok () laid ∨
        object.stage ≠ .accumulating ∧ laid = object) ∧
      laid.entryPoint = .ok entry ∧
      (laid.stage = .positioned ∧ resolve.run laid = .ok () done ∨
        laid.stage ≠ .positioned ∧ done = laid) ∧
      done.stage = .resolved ∧
      Header.create done.romEnd done.codeSize done.stackSize entry = .ok header ∧
      Image.write done.rom.toList done.ram.toList header = .ok image ∧
      result = { done with stage := .encoded } := by
  rw [run_build] at success
  split at success
  · cases success
  · next laid first =>
    split at success
    · cases success
    · next entry entered =>
      split at success
      · cases success
      · next done second =>
        rw [run_encode] at success
        split at success
        · next resolved =>
          split at success
          · cases success
          · next header created =>
            split at success
            · cases success
            · next written =>
              cases success
              refine ⟨laid, done, entry, header, ?_, entered, ?_, resolved, created, written, rfl⟩
              · split at first
                · next fresh => exact .inl ⟨fresh, first⟩
                · next later =>
                  cases first
                  exact .inr ⟨later, rfl⟩
              · split at second
                · next positioned => exact .inl ⟨positioned, second⟩
                · next later =>
                  cases second
                  exact .inr ⟨later, rfl⟩
        · cases success

theorem build_constants {object result : Object} {image : Image}
    (success : build.run object = .ok image result) : result.constants = object.constants := by
  obtain ⟨laid, done, _, _, first, _, second, _, _, _, rfl⟩ := build_ok success
  have laying : laid.constants = object.constants := by
    rcases first with ⟨_, success⟩ | ⟨_, rfl⟩
    · obtain ⟨_, _, _, _, _, _, _, rfl⟩ := layout_ok success
      rfl
    · rfl
  rcases second with ⟨_, success⟩ | ⟨_, rfl⟩
  · obtain ⟨_, _, _, rfl⟩ := resolve_ok success
    exact laying
  · exact laying

end Object

end GlulxAsm
