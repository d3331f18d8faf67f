import GlulxAsm.Proofs.Passes
import GlulxAsm.Proofs.Unlocated

/-! Building without places. The passes over an object read no places either, so that objects that
differ in places only have the same image or fail with the same error. -/
namespace GlulxAsm

namespace Fragment

theorem resolve_unlocated (value? : String → Option Int32) (fragment : Fragment) :
    fragment.unlocated.resolve value? = ((fragment.resolve value?).1.unlocated,
      (fragment.resolve value?).2.map AsmError.unlocated) := by
  simp only [resolve, unlocated, Option.map_map, Prod.mk.injEq, true_and]
  rfl

private theorem resolveAll_unlocated (value? : String → Option Int32) (fragments : List Fragment) :
    resolveAll value? (fragments.map unlocated) =
      ((resolveAll value? fragments).1.map unlocated,
        (resolveAll value? fragments).2.map AsmError.unlocated) := by
  induction fragments with
  | nil => rfl
  | cons fragment rest ih =>
    rw [List.map_cons, resolveAll, resolve_unlocated, resolveAll]
    obtain ⟨resolved, undefined⟩ := fragment.resolve value?
    cases undefined with
    | some error => rfl
    | none =>
      simp only [Option.map_none, ih]
      rfl

private theorem emitAll_unlocated (offset : Nat) (fragments : List Fragment) :
    emitAll offset (fragments.map unlocated) =
      (emitAll offset fragments).mapError AsmError.unlocated := by
  induction fragments generalizing offset with
  | nil => rfl
  | cons fragment rest ih =>
    have same : fragment.unlocated.emit offset = fragment.emit offset := rfl
    rw [List.map_cons, emitAll, emitAll, same]
    cases (fragment.emit offset).fault with
    | some cause => rfl
    | none =>
      dsimp only
      rw [ih]
      cases emitAll (offset + (fragment.emit offset).bytes.length) rest <;> rfl

end Fragment

private theorem StringPool.fragments_unlocated (pool : StringPool) :
    pool.fragments.map Fragment.unlocated = pool.fragments := by
  have each (index : Nat) (entry : Entry) :
      (entryFragments index entry).map Fragment.unlocated = entryFragments index entry := by
    simp [entryFragments, Fragment.unlocated]
  simp [fragments, List.map_flatten, Function.comp_def, each]

private theorem Image.write_unlocated (rom ram : List Fragment) (header : Header) :
    write (rom.map Fragment.unlocated) (ram.map Fragment.unlocated) header =
      (write rom ram header).mapError AsmError.unlocated := by
  simp only [write, Fragment.emitAll_unlocated]
  cases Fragment.emitAll 0 rom with
  | error error => rfl
  | ok romBytes =>
    simp only [Except.mapError, bind, Except.bind]
    split
    · rfl
    · cases Fragment.emitAll romBytes.length ram with
      | error error => rfl
      | ok ramBytes =>
        dsimp only
        split <;> rfl

namespace Object

theorem value?_unlocated (object : Object) : object.unlocated.value? = object.value? := by
  funext name
  simp [value?, nameValue?, unlocated]

private theorem entryPoint_unlocated (object : Object) :
    object.unlocated.entryPoint = object.entryPoint.mapError AsmError.unlocated := by
  have symbols : object.unlocated.symbols = object.symbols.unlocated := rfl
  simp only [entryPoint, symbols, SymbolTable.get?_unlocated]
  cases object.symbols.get? entryName with
  | none => rfl
  | some symbol =>
    simp only [Option.map_some, Symbol.unlocated]
    split <;> rfl

private theorem register_unlocated (symbols : SymbolTable) (fragment : Fragment) (position : UInt32) :
    register symbols.unlocated fragment.unlocated position =
      ((register symbols fragment position).1.unlocated,
        (register symbols fragment position).2.map Warning.unlocated) := by
  have same : fragment.unlocated.label? = fragment.label? := rfl
  unfold register
  rw [same]
  cases fragment.label? with
  | none => rfl
  | some label =>
    have defined : symbols.unlocated.define label.name
        { position, kind := label.kind, loc := fragment.unlocated.loc } = _ :=
      symbols.define_unlocated label.name { position, kind := label.kind, loc := fragment.loc }
    dsimp only
    rw [defined]
    obtain ⟨table, first⟩ := symbols.define label.name
      { position, kind := label.kind, loc := fragment.loc }
    cases first <;> rfl

def Placement.unlocated (placement : Placement) : Placement where
  fragments := placement.fragments.map Fragment.unlocated
  symbols := placement.symbols.unlocated
  clashes := placement.clashes.map Warning.unlocated
  outcome := placement.outcome.mapError Failure.unlocated

private theorem positionAfter_unlocated (fragment : Fragment) (position : UInt32) :
    positionAfter fragment.unlocated position =
      (positionAfter fragment position).mapError Failure.unlocated := by
  have same : fragment.unlocated.size? = fragment.size? := rfl
  unfold positionAfter
  rw [same]
  cases fragment.size? with
  | error cause => rfl
  | ok size =>
    dsimp only
    split <;> rfl

private theorem place_unlocated (position : UInt32) (symbols : SymbolTable) (fragments : List Fragment) :
    place position symbols.unlocated (fragments.map Fragment.unlocated) =
      (place position symbols fragments).unlocated := by
  induction fragments generalizing position symbols with
  | nil => rfl
  | cons fragment rest ih =>
    rw [List.map_cons, place, place, register_unlocated, positionAfter_unlocated]
    dsimp only
    cases positionAfter fragment position with
    | error failure => rfl
    | ok next =>
      dsimp only [Except.mapError]
      rw [ih]
      simp [Placement.unlocated]
      rfl

private theorem fullRom_unlocated (object : Object) :
    object.unlocated.fullRom = object.fullRom.map Fragment.unlocated := by
  simp [fullRom, unlocated, Fragment.unlocated, StringPool.fragments_unlocated]

private theorem layout_unlocated (object : Object) :
    layout.run object.unlocated = forget Failure.unlocated id (layout.run object) := by
  have stage : object.unlocated.stage = object.stage := rfl
  have symbols : object.unlocated.symbols = object.symbols.unlocated := rfl
  have ram : object.unlocated.ram.toList = object.ram.toList.map Fragment.unlocated := by
    simp [unlocated]
  rw [run_layout, run_layout, stage, symbols, ram, fullRom_unlocated, place_unlocated]
  split
  · obtain ⟨romFragments, romSymbols, romClashes, romOutcome⟩ :=
      place 0 object.symbols object.fullRom
    cases romOutcome with
    | error failure => simp [Placement.unlocated, forget, unlocated, Except.mapError]
    | ok romSize =>
      simp only [Placement.unlocated, Except.mapError]
      cases Page.roundUp? romSize with
      | none => simp [forget, unlocated, Failure.unlocated, AsmError.unlocated]
      | some romEnd =>
        simp only [place_unlocated]
        obtain ⟨ramFragments, ramSymbols, ramClashes, ramOutcome⟩ :=
          place romEnd romSymbols object.ram.toList
        cases ramOutcome with
        | error failure =>
          simp [Placement.unlocated, forget, unlocated, Except.mapError, padding, Fragment.unlocated]
        | ok codeSize =>
          simp [Placement.unlocated, forget, unlocated, Except.mapError, padding, Fragment.unlocated]
  · rfl

theorem resolve_unlocated (object : Object) :
    resolve.run object.unlocated = forget Failure.unlocated id (resolve.run object) := by
  have stage : object.unlocated.stage = object.stage := rfl
  have rom : object.unlocated.rom.toList = object.rom.toList.map Fragment.unlocated := by
    simp [unlocated]
  have ram : object.unlocated.ram.toList = object.ram.toList.map Fragment.unlocated := by
    simp [unlocated]
  rw [run_resolve, run_resolve, stage, rom, ram, value?_unlocated, Fragment.resolveAll_unlocated,
    Fragment.resolveAll_unlocated]
  split
  · obtain ⟨romFragments, romError⟩ := Fragment.resolveAll object.value? object.rom.toList
    obtain ⟨ramFragments, ramError⟩ := Fragment.resolveAll object.value? object.ram.toList
    cases romError with
    | some error => simp [forget, unlocated, Failure.unlocated]
    | none =>
      cases ramError with
      | some error => simp [forget, unlocated, Failure.unlocated]
      | none => simp [forget, unlocated]
  · rfl

private theorem encode_unlocated (entry : UInt32) (object : Object) :
    (encode entry).run object.unlocated =
      forget Failure.unlocated id ((encode entry).run object) := by
  have stage : object.unlocated.stage = object.stage := rfl
  have rom : object.unlocated.rom.toList = object.rom.toList.map Fragment.unlocated := by
    simp [unlocated]
  have ram : object.unlocated.ram.toList = object.ram.toList.map Fragment.unlocated := by
    simp [unlocated]
  have create : Header.create object.unlocated.romEnd object.unlocated.codeSize
      object.unlocated.stackSize entry =
        Header.create object.romEnd object.codeSize object.stackSize entry := rfl
  rw [run_encode, run_encode, stage, create, rom, ram]
  split
  · cases Header.create object.romEnd object.codeSize object.stackSize entry with
    | error cause => rfl
    | ok header =>
      dsimp only
      rw [Image.write_unlocated]
      cases Image.write object.rom.toList object.ram.toList header <;> rfl
  · rfl

/-- A build runs a pass in one stage only. -/
theorem staged_unlocated {pass : Build Unit} {stage : Stage}
    (mirrors : ∀ object, pass.run object.unlocated = forget Failure.unlocated id (pass.run object))
    (object : Object) :
    (if object.unlocated.stage = stage then pass.run object.unlocated else .ok () object.unlocated) =
      forget Failure.unlocated id (if object.stage = stage then pass.run object else .ok () object) := by
  have same : object.unlocated.stage = object.stage := rfl
  rw [same]
  split
  · exact mirrors object
  · rfl

theorem build_unlocated (object : Object) :
    build.run object.unlocated = forget Failure.unlocated id (build.run object) := by
  rw [run_build, run_build, staged_unlocated layout_unlocated]
  cases if object.stage = .accumulating then layout.run object else .ok () object with
  | error failure result => rfl
  | ok value laid =>
    dsimp only [forget]
    rw [entryPoint_unlocated]
    cases laid.entryPoint with
    | error error => rfl
    | ok entry =>
      dsimp only [Except.mapError]
      rw [staged_unlocated resolve_unlocated]
      cases if laid.stage = .positioned then resolve.run laid else .ok () laid with
      | error failure result => rfl
      | ok value done => exact encode_unlocated entry done

/-- Objects that differ in places only have the same image, or fail with errors that differ in places
only. -/
theorem build_agree {one two : Object} (same : one.unlocated = two.unlocated) :
    (∃ image left right, build.run one = .ok image left ∧ build.run two = .ok image right) ∨
    (∃ failure other left right, build.run one = .error failure left ∧
      build.run two = .error other right ∧ failure.unlocated = other.unlocated) := by
  have both : forget Failure.unlocated id (build.run one) =
      forget Failure.unlocated id (build.run two) := by
    rw [← build_unlocated, ← build_unlocated, same]
  cases first : build.run one with
  | ok image left =>
    cases second : build.run two with
    | ok other right =>
      rw [first, second] at both
      cases (EStateM.Result.ok.inj both).1
      exact .inl ⟨_, _, _, rfl, rfl⟩
    | error other right =>
      rw [first, second] at both
      cases both
  | error failure left =>
    cases second : build.run two with
    | ok other right =>
      rw [first, second] at both
      cases both
    | error other right =>
      rw [first, second] at both
      exact .inr ⟨_, _, _, _, rfl, rfl, (EStateM.Result.error.inj both).1⟩

end Object

end GlulxAsm
