import GlulxAsm.Proofs.Lifecycle

/-! What can come after a pass has failed. An object without room, or without an entry, never gets an image.
An object with an undefined name does not either, as long as the name stays undefined; but constants can be
defined at any stage, so the name need not stay so. -/
namespace GlulxAsm

variable {value? : String → Option Int32}

namespace Operand

/-- The name that stops a resolution has no value, and stays where it is. -/
theorem resolveAll_undefined {operands : List Operand} {name : String}
    (stopped : (resolveAll value? operands).2 = some name) :
    value? name = none ∧ name ∈ names (resolveAll value? operands).1 := by
  induction operands with
  | nil => cases stopped
  | cons operand rest ih =>
    cases found : operand.resolve value? with
    | error missing =>
      simp only [resolveAll, found] at stopped ⊢
      cases stopped
      obtain ⟨symbolic, undefined⟩ := resolve_error found
      exact ⟨undefined, by simp [names, symbolic]⟩
    | ok resolved =>
      simp only [resolveAll, found] at stopped ⊢
      obtain ⟨undefined, member⟩ := ih stopped
      refine ⟨undefined, ?_⟩
      simp only [names, List.filterMap_cons, (resolve_ok found).2]
      exact member

/-- A name without a meaning is not replaced. -/
theorem mem_names_of_resolves {meaning : String → Int32 → Prop} {earlier later : List Operand}
    {name : String} (operands : List.Forall₂ (Resolves meaning) earlier later)
    (meaningless : ∀ value, ¬ meaning name value) (used : name ∈ names earlier) :
    name ∈ names later := by
  induction operands with
  | nil => exact used
  | @cons first second earlier later head _ ih =>
    rcases head with same | ⟨other, value, symbolic, means, same⟩
    · subst same
      cases found : second.symbol? with
      | none =>
        simp only [names, List.filterMap_cons, found] at used ⊢
        exact ih used
      | some here =>
        simp only [names, List.filterMap_cons, found, List.mem_cons] at used ⊢
        rcases used with here | behind
        · exact .inl here
        · exact .inr (ih behind)
    · have named : first.symbol? = some other := by simp [symbol?, symbolic]
      have plain : second.symbol? = none := by simp [symbol?, same]
      simp only [names, List.filterMap_cons, named, plain, List.mem_cons] at used ⊢
      rcases used with rfl | behind
      · exact absurd means (meaningless value)
      · exact ih behind

end Operand

namespace Fragment

private theorem Body.resolve_undefined {body : Body} {name : String}
    (stopped : (body.resolve value?).2 = some name) :
    value? name = none ∧ name ∈ Operand.names (body.resolve value?).1.operands := by
  cases body with
  | instruction i => exact Operand.resolveAll_undefined stopped
  | words table => exact Operand.resolveAll_undefined stopped
  | label l => cases stopped
  | data d => cases stopped

theorem resolveAll_undefined {fragments : List Fragment} {error : AsmError}
    (stopped : (resolveAll value? fragments).2 = some error) :
    ∃ loc name, error = .undefinedSymbol loc name ∧ value? name = none ∧
      name ∈ operandNames (resolveAll value? fragments).1 := by
  induction fragments with
  | nil => cases stopped
  | cons fragment rest ih =>
    cases found : (fragment.body.resolve value?).2 with
    | some name =>
      obtain ⟨undefined, member⟩ := Body.resolve_undefined found
      simp only [resolveAll, resolve, found, Option.map_some, Option.some.injEq] at stopped ⊢
      exact ⟨fragment.loc, name, stopped.symm, undefined, by simp [member]⟩
    | none =>
      simp only [resolveAll, resolve, found, Option.map_none] at stopped ⊢
      obtain ⟨loc, name, same, undefined, member⟩ := ih stopped
      exact ⟨loc, name, same, undefined, by simp [member]⟩

private theorem Resolves.mem_names {meaning : String → Int32 → Prop} {earlier later : Fragment}
    {name : String} (resolves : Resolves meaning earlier later)
    (meaningless : ∀ value, ¬ meaning name value)
    (used : name ∈ Operand.names earlier.body.operands) :
    name ∈ Operand.names later.body.operands := by
  obtain ⟨earlier, _, _⟩ := earlier
  obtain ⟨later, _, _⟩ := later
  cases resolves.body with
  | instruction operands => exact Operand.mem_names_of_resolves operands meaningless used
  | words items => exact Operand.mem_names_of_resolves items meaningless used
  | label l => exact used
  | data d => exact used

private theorem mem_operandNames_of_resolves {meaning : String → Int32 → Prop}
    {earlier later : List Fragment} {name : String}
    (fragments : List.Forall₂ (Resolves meaning) earlier later)
    (meaningless : ∀ value, ¬ meaning name value) (used : name ∈ operandNames earlier) :
    name ∈ operandNames later := by
  induction fragments with
  | nil => exact used
  | cons head _ ih =>
    rw [operandNames_cons, List.mem_append] at used ⊢
    rcases used with here | behind
    · exact .inl (head.mem_names meaningless here)
    · exact .inr (ih behind)

/-- Fragments that cannot be written were misused. -/
theorem emitAll_error {offset : Nat} {fragments : List Fragment} {error : AsmError}
    (failure : emitAll offset fragments = .error error) : ∃ loc cause, error = .misuse loc cause := by
  induction fragments generalizing offset with
  | nil => cases failure
  | cons fragment rest ih =>
    cases fault : (fragment.emit offset).fault with
    | some cause =>
      simp only [emitAll, fault] at failure
      cases failure
      exact ⟨_, _, rfl⟩
    | none =>
      simp only [emitAll, fault] at failure
      cases later : emitAll (offset + (fragment.emit offset).bytes.length) rest with
      | error found =>
        rw [later] at failure
        cases failure
        exact ih later
      | ok bytes =>
        rw [later] at failure
        cases failure

end Fragment

private theorem Image.write_error {rom ram : List Fragment} {header : Header} {error : AsmError}
    (failure : write rom ram header = .error error) : ∃ loc cause, error = .misuse loc cause := by
  unfold write at failure
  cases romDone : Fragment.emitAll 0 rom with
  | error found =>
    rw [romDone] at failure
    cases failure
    exact Fragment.emitAll_error romDone
  | ok romBytes =>
    rw [romDone] at failure
    simp only [bind, Except.bind] at failure
    split at failure
    · cases failure
      exact ⟨_, _, rfl⟩
    · simp only [pure, Except.pure] at failure
      cases ramDone : Fragment.emitAll romBytes.length ram with
      | error found =>
        rw [ramDone] at failure
        cases failure
        exact Fragment.emitAll_error ramDone
      | ok ramBytes =>
        rw [ramDone] at failure
        dsimp only at failure
        split at failure
        · cases failure
          exact ⟨_, _, rfl⟩
        · cases failure

/-- Errors that end a build for good. -/
inductive AsmError.Fatal : AsmError → Prop where
  | capacity (loc : Location) (limit : Limit) : Fatal (.capacity loc limit)
  | missingEntryPoint : Fatal .missingEntryPoint
  | undefinedSymbol (loc : Location) (name : String) : Fatal (.undefinedSymbol loc name)

theorem AsmError.not_fatal_misuse (loc : Location) (cause : Misuse) : ¬ Fatal (.misuse loc cause) := by
  intro fatal
  cases fatal

namespace Object

open Fragment

/-- A name stands in an operand, and nothing gives it a value. -/
structure Unbound (object : Object) (name : String) : Prop where
  stage : object.stage = .positioned
  used : name ∈ operandNames (object.rom.toList ++ object.ram.toList)
  symbol : object.symbols.get? name = none
  constant : object.constants.get? name = none

/-- Why an object gets no image after an error. -/
inductive Barred (object : Object) : AsmError → Prop where
  | overfull {loc : Location} {limit : Limit} (excess : object.Overfull) :
      Barred object (.capacity loc limit)
  | entryless (later : object.stage ≠ .accumulating)
      (missing : object.entryPoint = .error .missingEntryPoint) : Barred object .missingEntryPoint
  | unbound {loc : Location} {name : String} (unbound : object.Unbound name) :
      Barred object (.undefinedSymbol loc name)

theorem value?_eq_none_iff (object : Object) (name : String) :
    object.value? name = none ↔
      object.constants.get? name = none ∧ object.symbols.get? name = none := by
  simp [Object.value?, nameValue?, ConstantTable.value?, SymbolTable.position?]

private theorem entryPoint_error {object : Object} {error : AsmError}
    (missing : object.entryPoint = .error error) : error = .missingEntryPoint := by
  unfold entryPoint at missing
  split at missing
  · split at missing
    · cases missing
    · cases missing
      rfl
  · cases missing
    rfl

theorem layout_barred {object result : Object} {error : AsmError}
    (failure : layout.run object = .error (.rejected error) result) (fatal : error.Fatal) :
    result.Barred error := by
  by_cases fresh : object.stage = .accumulating
  · obtain ⟨_, ⟨loc, limit, rfl⟩, _⟩ := layout_rejected fresh failure
    exact .overfull (layout_overfull fresh failure)
  · rw [run_layout, if_neg fresh] at failure
    cases failure
    exact absurd fatal (AsmError.not_fatal_misuse _ _)

theorem resolve_barred {object result : Object} {error : AsmError}
    (failure : resolve.run object = .error (.rejected error) result) (fatal : error.Fatal) :
    result.Barred error := by
  by_cases positioned : object.stage = .positioned
  · rw [run_resolve, if_pos positioned] at failure
    dsimp only at failure
    split at failure
    · next stopped =>
      cases failure
      obtain ⟨loc, name, rfl, undefined, member⟩ := resolveAll_undefined stopped
      obtain ⟨constant, symbol⟩ := (value?_eq_none_iff object name).mp undefined
      exact .unbound ⟨positioned, by simp [member], symbol, constant⟩
    · split at failure
      · next stopped =>
        cases failure
        obtain ⟨loc, name, rfl, undefined, member⟩ := resolveAll_undefined stopped
        obtain ⟨constant, symbol⟩ := (value?_eq_none_iff object name).mp undefined
        exact .unbound ⟨positioned, by simp [member], symbol, constant⟩
      · cases failure
  · rw [run_resolve, if_neg positioned] at failure
    cases failure
    exact absurd fatal (AsmError.not_fatal_misuse _ _)

/-- Writing fails by misuse only. -/
theorem encode_error {entry : UInt32} {object result : Object} {error : AsmError}
    (failure : (encode entry).run object = .error (.rejected error) result) :
    ∃ loc cause, error = .misuse loc cause := by
  rw [run_encode] at failure
  split at failure
  · split at failure
    · cases failure
    · split at failure
      · next stopped =>
        cases failure
        exact Image.write_error stopped
      · cases failure
  · cases failure
    exact ⟨_, _, rfl⟩

private theorem build_barred {object result : Object} {error : AsmError}
    (failure : build.run object = .error (.rejected error) result) (fatal : error.Fatal) :
    result.Barred error := by
  rw [run_build] at failure
  split at failure
  · next first =>
    cases failure
    split at first
    · exact layout_barred first fatal
    · cases first
  · next laid first =>
    split at failure
    · next missing =>
      cases failure
      obtain rfl := entryPoint_error missing
      refine .entryless ?_ missing
      split at first
      · obtain ⟨_, _, _, _, _, _, _, rfl⟩ := layout_ok first
        simp
      · next later =>
        cases first
        exact later
    · split at failure
      · next second =>
        cases failure
        split at second
        · exact resolve_barred second fatal
        · cases second
      · obtain ⟨loc, cause, rfl⟩ := encode_error failure
        exact absurd fatal (AsmError.not_fatal_misuse _ _)

/-- A constant that is defined stays so. -/
theorem Step.constants {before after : Object} (step : Step before after) {name : String}
    (free : after.constants.get? name = none) : before.constants.get? name = none := by
  cases step with
  | gather step => exact step.extends.constants name free
  | layout success =>
    obtain ⟨_, _, _, _, _, _, _, rfl⟩ := layout_ok success
    exact free
  | layoutRejected failure =>
    by_cases fresh : before.stage = .accumulating
    · obtain ⟨_, _, _, _, _, rfl, _⟩ := layout_rejected fresh failure
      exact free
    · rwa [layout_unchanged fresh failure] at free
  | resolve =>
    obtain ⟨rom, ram, stage, same, _⟩ := resolve_frame before
    rw [same] at free
    exact free
  | encode resolved => exact free

/-- Resolution does not get past a name without a value. -/
theorem Unbound.resolve {object : Object} {name : String} (unbound : object.Unbound name) :
    (leftBy (resolve.run object)).Unbound name := by
  have undefined := (value?_eq_none_iff object name).mpr ⟨unbound.constant, unbound.symbol⟩
  have stays : (leftBy (Object.resolve.run object)).stage = .positioned := by
    rw [run_resolve, if_pos unbound.stage]
    dsimp only
    split
    · exact unbound.stage
    · next romDone =>
      split
      · exact unbound.stage
      · next ramDone =>
        have used := unbound.used
        rw [operandNames_append, List.mem_append] at used
        rcases used with inRom | inRam
        · exact absurd undefined ((resolveAll_complete_iff ..).mp romDone name inRom)
        · exact absurd undefined ((resolveAll_complete_iff ..).mp ramDone name inRam)
  obtain ⟨rom, ram, stage, same, romSteps, ramSteps, _⟩ := resolve_frame object
  rw [same] at stays ⊢
  refine ⟨stays, ?_, unbound.symbol, unbound.constant⟩
  apply mem_operandNames_of_resolves (List.rel_append romSteps ramSteps) _ unbound.used
  intro value known
  rw [undefined] at known
  cases known

theorem Step.unbound {before after : Object} {name : String} (step : Step before after)
    (free : after.constants.get? name = none) (unbound : before.Unbound name) :
    after.Unbound name := by
  have later : before.stage ≠ .accumulating := by simp [unbound.stage]
  cases step with
  | gather step =>
    have extended := step.extends
    obtain ⟨rom, ram⟩ := extended.frozen later
    refine ⟨extended.stage.trans unbound.stage, ?_, ?_, free⟩
    · rw [rom, ram]
      exact unbound.used
    · rw [extended.symbols]
      exact unbound.symbol
  | layout success => exact absurd (layout_ok success).1 later
  | layoutRejected failure =>
    rw [layout_unchanged later failure]
    exact unbound
  | resolve => exact unbound.resolve
  | encode resolved => simp [unbound.stage] at resolved

theorem Steps.overfull {before after : Object} (steps : Steps before after)
    (excess : before.Overfull) : after.Overfull := by
  induction steps with
  | refl => exact excess
  | tail _ step ih => exact step.overfull ih

/-- A name stays without a value until a constant gives it one. -/
theorem Steps.unbound {before after : Object} {name : String} (steps : Steps before after)
    (free : after.constants.get? name = none) (unbound : before.Unbound name) :
    after.Unbound name := by
  induction steps with
  | refl => exact unbound
  | tail _ step ih => exact step.unbound free (ih (step.constants free))

private theorem Fixed.entryPoint_eq {before after : Object} (fixed : Fixed before after) :
    after.entryPoint = before.entryPoint := by
  rw [entryPoint, entryPoint, fixed.symbols]

/-- Whatever is done, the reason stays, unless a constant takes it away. -/
theorem Barred.steps {before after : Object} {error : AsmError} (barred : before.Barred error)
    (steps : Steps before after) : after.Barred error ∨ ∃ loc name,
      error = .undefinedSymbol loc name ∧ before.constants.get? name = none ∧
        after.constants.get? name ≠ none := by
  cases barred with
  | overfull excess => exact .inl (.overfull (Steps.overfull steps excess))
  | entryless later missing =>
    refine .inl (.entryless (Steps.stage_ne steps later) ?_)
    rw [(Steps.fixed steps later).entryPoint_eq]
    exact missing
  | @unbound loc name unbound =>
    by_cases free : after.constants.get? name = none
    · exact .inl (.unbound (Steps.unbound steps free unbound))
    · exact .inr ⟨loc, name, rfl, unbound.constant, free⟩

private theorem Barred.no_image {object result : Object} {error : AsmError} {image : Image}
    (barred : object.Barred error) : build.run object ≠ .ok image result := by
  intro success
  obtain ⟨laid, done, entry, _, first, entered, second, _⟩ := build_ok success
  cases barred with
  | overfull excess =>
    rcases first with ⟨_, laying⟩ | ⟨later, _⟩
    · exact layout_not_overfull laying excess
    · exact later excess.1
  | entryless later missing =>
    rcases first with ⟨fresh, _⟩ | ⟨_, rfl⟩
    · exact later fresh
    · rw [missing] at entered
      cases entered
  | @unbound loc name unbound =>
    rcases first with ⟨fresh, _⟩ | ⟨_, rfl⟩
    · simp [unbound.stage] at fresh
    · rcases second with ⟨_, resolving⟩ | ⟨other, _⟩
      · obtain ⟨_, _, _, same⟩ := resolve_ok resolving
        have still := unbound.resolve.stage
        rw [resolving, leftBy, same] at still
        cases still
      · exact other unbound.stage

end Object

namespace Operation

open Object

/-- The error that a pass or a build returns. -/
def report? (object : Object) : Operation → Option AsmError
  | layout => rejection? (Object.layout.run object)
  | resolve => rejection? (Object.resolve.run object)
  | build => rejection? (Object.build.run object)
  | _ => none
where
  rejection? {α : Type} : EStateM.Result Failure Object α → Option AsmError
    | .error (.rejected error) _ => some error
    | _ => none

theorem rejection?_some {α : Type} {result : EStateM.Result Failure Object α} {error : AsmError}
    (found : report?.rejection? result = some error) :
    ∃ object, result = .error (.rejected error) object := by
  unfold report?.rejection? at found
  split at found
  · cases found
    exact ⟨_, rfl⟩
  · cases found

/-- An operation that returns a fatal error leaves an object that gets no image as it is. -/
theorem report?_barred {operation : Operation} {before after : Object} {error : AsmError}
    (reported : operation.report? before = some error) (fatal : error.Fatal)
    (left : operation.run before = .ok after) : after.Barred error := by
  cases operation with
  | layout =>
    obtain ⟨result, failure⟩ := rejection?_some reported
    rw [run, failure] at left
    cases left
    exact layout_barred failure fatal
  | resolve =>
    obtain ⟨result, failure⟩ := rejection?_some reported
    rw [run, failure] at left
    cases left
    exact resolve_barred failure fatal
  | build =>
    obtain ⟨result, failure⟩ := rejection?_some reported
    rw [run, failure] at left
    cases left
    exact build_barred failure fatal
  | _ => cases reported

/-- After a fatal error, an image is built only if the error was an undefined name and a constant of that
name has been defined since. Want of room and a missing entry are final. -/
theorem image_after_fatal_error {operation : Operation} {operations : List Operation}
    {before failed later result : Object} {error : AsmError} {image : Image}
    (reported : operation.report? before = some error) (fatal : error.Fatal)
    (left : operation.run before = .ok failed) (continued : runAll failed operations = .ok later)
    (built : Object.build.run later = .ok image result) :
    ∃ loc name, error = .undefinedSymbol loc name ∧ failed.constants.get? name = none ∧
      later.constants.get? name ≠ none := by
  have barred := report?_barred reported fatal left
  rcases barred.steps (runAll_steps continued) with still | defined
  · exact absurd built still.no_image
  · exact defined

/-- A function, and a table with a name that nothing defines. -/
def dangling : List Operation :=
  [.add (.label { name := "main", kind := .localFunction }) .builtIn,
    .add (.words { items := [.symbol .constant "x"] }) .builtIn]

/-- The build of this object fails, and once the name is a constant, a second one succeeds. -/
theorem dangling_rebuilt : ∃ fresh before failed later image result, create {} = .ok fresh ∧
    runAll fresh dangling = .ok before ∧
    report? before .build = some (.undefinedSymbol .builtIn "x") ∧
    run before .build = .ok failed ∧
    runAll failed [.addConstant "x" 5 .builtIn] = .ok later ∧
    Object.build.run later = .ok image result := by
  have evaluated : (match create {} with
      | .error _ => false
      | .ok fresh =>
        match runAll fresh dangling with
        | .error _ => false
        | .ok before =>
          match run before .build with
          | .error _ => false
          | .ok failed =>
            match runAll failed [.addConstant "x" 5 .builtIn] with
            | .error _ => false
            | .ok later =>
              match Object.build.run later with
              | .error _ _ => false
              | .ok _ _ =>
                decide (report? before .build = some (.undefinedSymbol .builtIn "x"))) = true := by
    decide +kernel
  split at evaluated
  · cases evaluated
  · next fresh made =>
    split at evaluated
    · cases evaluated
    · next before reached =>
      split at evaluated
      · cases evaluated
      · next failed left =>
        split at evaluated
        · cases evaluated
        · next later continued =>
          split at evaluated
          · cases evaluated
          · next image result built =>
            exact ⟨fresh, before, failed, later, image, result, made, reached,
              of_decide_eq_true evaluated, left, continued, built⟩

/-- The image of this object comes after the constant. -/
theorem image_after_fatal_error_dangling : ∃ before failed later image result,
    report? before .build = some (.undefinedSymbol .builtIn "x") ∧
    run before .build = .ok failed ∧
    runAll failed [.addConstant "x" 5 .builtIn] = .ok later ∧
    Object.build.run later = .ok image result ∧
    failed.constants.get? "x" = none ∧ later.constants.get? "x" ≠ none := by
  obtain ⟨_, before, failed, later, image, result, _, _, reported, left, continued, built⟩ :=
    dangling_rebuilt
  obtain ⟨loc, name, same, free, defined⟩ := image_after_fatal_error reported
    (.undefinedSymbol .builtIn "x") left continued built
  cases same
  exact ⟨before, failed, later, image, result, reported, left, continued, built, free, defined⟩

/-- It is not so that no image is built after a fatal error. -/
theorem fatal_error_not_final : ¬ ∀ (settings : Settings) (fresh before failed later result : Object)
    (front back : List Operation) (operation : Operation) (error : AsmError) (image : Image),
    create settings = .ok fresh → runAll fresh front = .ok before →
    operation.report? before = some error → error.Fatal →
    operation.run before = .ok failed → runAll failed back = .ok later →
    Object.build.run later ≠ .ok image result := by
  intro final
  obtain ⟨fresh, before, failed, later, image, result, made, reached, reported, left, continued,
    built⟩ := dangling_rebuilt
  exact final {} fresh before failed later result dangling _ .build _ image made reached reported
    (.undefinedSymbol .builtIn "x") left continued built

end Operation

end GlulxAsm
