import GlulxAsm.Proofs.DuplicateLabel
import GlulxAsm.Proofs.FatalError
import GlulxAsm.Proofs.Reference

/-! How far resolution comes. It goes through the operands of ROM and then of RAM, puts values in the place of
names and stops at the first name that has none. Apart from those values it changes nothing, wherever it
stops. -/
namespace GlulxAsm

/-- What stays of an operand when its name is resolved. -/
structure Operand.Intact (earlier later : Operand) : Prop where
  mode : later.mode = earlier.mode
  width : later.width = earlier.width
  nibble : later.nibble = earlier.nibble
  literal : earlier.symbol? = none → later = earlier

theorem Operand.Resolves.intact {meaning : String → Int32 → Prop} {earlier later : Operand}
    (resolves : Operand.Resolves meaning earlier later) : Operand.Intact earlier later where
  mode := resolves.mode_eq
  width := resolves.width_eq
  nibble := by rw [Operand.nibble, Operand.nibble, resolves.mode_eq, resolves.width_eq]
  literal nameless := by
    rcases resolves with same | ⟨name, _, symbolic, _⟩
    · exact same
    · simp [Operand.symbol?, symbolic] at nameless

namespace Fragment

namespace Body

def mnemonic? : Body → Option Mnemonic
  | instruction i => some i.mnemonic
  | _ => none

/-- The capacity of a word table, if the body is one. -/
def capacity? : Body → Option (Option Nat)
  | words table => some table.capacity
  | _ => none

private theorem Resolves.mnemonic?_eq {meaning : String → Int32 → Prop} {earlier later : Body}
    (resolves : Resolves meaning earlier later) : later.mnemonic? = earlier.mnemonic? := by
  cases resolves <;> rfl

private theorem Resolves.capacity?_eq {meaning : String → Int32 → Prop} {earlier later : Body}
    (resolves : Resolves meaning earlier later) : later.capacity? = earlier.capacity? := by
  cases resolves <;> rfl

end Body

/-- All that stays of a fragment when its names are resolved, with all that stays of its operands. -/
structure Intact (earlier later : Fragment) : Prop extends Kept earlier later where
  loc : later.loc = earlier.loc
  mnemonic : later.body.mnemonic? = earlier.body.mnemonic?
  capacity : later.body.capacity? = earlier.body.capacity?
  operands : List.Forall₂ Operand.Intact earlier.body.operands later.body.operands

theorem Resolves.intact {meaning : String → Int32 → Prop} {earlier later : Fragment}
    (resolves : Resolves meaning earlier later) : Intact earlier later where
  toKept := resolves.kept
  loc := resolves.loc
  mnemonic := resolves.body.mnemonic?_eq
  capacity := resolves.body.capacity?_eq
  operands := resolves.body.operands.imp fun _ _ operand => operand.intact

/-- An operand with the place of its fragment. -/
structure Use where
  loc : Location
  operand : Operand

/-- The operands of fragments, in order. -/
def uses (fragments : List Fragment) : List Use :=
  fragments.flatMap fun fragment => fragment.body.operands.map (Use.mk fragment.loc)

@[simp] theorem uses_cons (fragment : Fragment) (rest : List Fragment) :
    uses (fragment :: rest) = fragment.body.operands.map (Use.mk fragment.loc) ++ uses rest := by
  simp [uses]

@[simp] theorem uses_append (front back : List Fragment) :
    uses (front ++ back) = uses front ++ uses back := by
  simp [uses]

/-- The later operand has a value that the name of the earlier one means. A literal stays. -/
inductive Use.Settles (meaning : String → Int32 → Prop) : Use → Use → Prop where
  | literal {loc : Location} {operand : Operand} (nameless : operand.symbol? = none) :
      Settles meaning ⟨loc, operand⟩ ⟨loc, operand⟩
  | name {loc : Location} {operand : Operand} {name : String} {value : Int32}
      (symbolic : operand.symbol? = some name) (means : meaning name value) :
      Settles meaning ⟨loc, operand⟩ ⟨loc, { operand with value := .literal value }⟩

theorem Use.Settles.mono {meaning wider : String → Int32 → Prop} {earlier later : Use}
    (settles : Settles meaning earlier later)
    (weaken : ∀ name value, meaning name value → wider name value) :
    Settles wider earlier later := by
  cases settles with
  | literal nameless => exact .literal nameless
  | name symbolic means => exact .name symbolic (weaken _ _ means)

/-- A name that is settled means something. -/
theorem Use.Settles.meaning {meaning : String → Int32 → Prop} {earlier later : Use} {name : String}
    (settles : Settles meaning earlier later) (symbolic : earlier.operand.symbol? = some name) :
    ∃ value, meaning name value := by
  cases settles with
  | literal nameless => simp [nameless] at symbolic
  | @name _ _ _ value other means =>
    obtain rfl := Option.some.inj (other.symm.trans symbolic)
    exact ⟨value, means⟩

end Fragment

open Fragment

variable {value? : String → Option Int32}

private theorem Operand.resolve_settles {operand resolved : Operand} (loc : Location)
    (success : operand.resolve value? = .ok resolved) :
    Use.Settles (fun name value => value? name = some value) ⟨loc, operand⟩ ⟨loc, resolved⟩ := by
  obtain ⟨same | ⟨name, value, symbolic, known, rfl⟩, nameless⟩ := resolve_ok success
  · subst same
    exact .literal nameless
  · exact .name (by simp [symbol?, symbolic]) known

/-- How far a resolution comes: to the end, or to the first name without a value. It leaves that name and all
that follows. -/
inductive Progress (value? : String → Option Int32) : List Use → List Use → Option AsmError → Prop where
  | complete {uses settled : List Use}
      (front : List.Forall₂ (Use.Settles fun name value => value? name = some value) uses settled) :
      Progress value? uses settled none
  | stopped {uses settled back : List Use} (culprit : Use) {name : String}
      (front : List.Forall₂ (Use.Settles fun name value => value? name = some value) uses settled)
      (symbolic : culprit.operand.symbol? = some name) (undefined : value? name = none) :
      Progress value? (uses ++ culprit :: back) (settled ++ culprit :: back)
        (some (.undefinedSymbol culprit.loc name))

namespace Progress

/-- A complete resolution goes on with what follows. -/
theorem append {front back settled later : List Use} {error : Option AsmError}
    (first : Progress value? front settled none) (second : Progress value? back later error) :
    Progress value? (front ++ back) (settled ++ later) error := by
  cases first with
  | complete one =>
    cases second with
    | complete two => exact .complete (List.rel_append one two)
    | stopped culprit two symbolic undefined =>
      rw [← List.append_assoc, ← List.append_assoc]
      exact .stopped culprit (List.rel_append one two) symbolic undefined

/-- A resolution that has stopped does not touch what follows. -/
theorem halt {front settled : List Use} {error : AsmError}
    (first : Progress value? front settled (some error)) (back : List Use) :
    Progress value? (front ++ back) (settled ++ back) (some error) := by
  cases first with
  | stopped culprit one symbolic undefined =>
    rw [List.append_assoc, List.append_assoc, List.cons_append]
    exact .stopped culprit one symbolic undefined

theorem settles {before after : List Use} (progress : Progress value? before after none) :
    List.Forall₂ (Use.Settles fun name value => value? name = some value) before after := by
  generalize outcome : none = error at progress
  cases progress with
  | complete front => exact front
  | stopped => cases outcome

theorem culprit {before after : List Use} {error : AsmError}
    (progress : Progress value? before after (some error)) :
    ∃ front culprit back name settled, before = front ++ culprit :: back ∧
      after = settled ++ culprit :: back ∧ error = .undefinedSymbol culprit.loc name ∧
      culprit.operand.symbol? = some name ∧ value? name = none ∧
      List.Forall₂ (Use.Settles fun name value => value? name = some value) front settled := by
  cases progress with
  | stopped culprit front symbolic undefined =>
    exact ⟨_, culprit, _, _, _, rfl, rfl, rfl, symbolic, undefined, front⟩

end Progress

theorem Operand.resolveAll_progress (value? : String → Option Int32) (loc : Location)
    (operands : List Operand) :
    Progress value? (operands.map (Use.mk loc)) ((resolveAll value? operands).1.map (Use.mk loc))
      ((resolveAll value? operands).2.map (AsmError.undefinedSymbol loc)) := by
  induction operands with
  | nil => exact .complete .nil
  | cons operand rest ih =>
    cases found : operand.resolve value? with
    | error name =>
      obtain ⟨symbolic, undefined⟩ := resolve_error found
      simp only [resolveAll, found]
      exact .stopped ⟨loc, operand⟩ .nil symbolic undefined
    | ok resolved =>
      simp only [resolveAll, found]
      exact .append (.complete (.cons (resolve_settles loc found) .nil)) ih

namespace Fragment

/-- A body is resolved as the list of its operands is. -/
theorem Body.resolve_operands (value? : String → Option Int32) (body : Body) :
    (body.resolve value?).1.operands = (Operand.resolveAll value? body.operands).1 ∧
      (body.resolve value?).2 = (Operand.resolveAll value? body.operands).2 := by
  cases body <;> exact ⟨rfl, rfl⟩

theorem resolve_progress (value? : String → Option Int32) (fragment : Fragment) :
    Progress value? (fragment.body.operands.map (Use.mk fragment.loc))
      ((fragment.resolve value?).1.body.operands.map (Use.mk (fragment.resolve value?).1.loc))
      (fragment.resolve value?).2 := by
  obtain ⟨operands, undefined⟩ := Body.resolve_operands value? fragment.body
  simp only [resolve, operands, undefined]
  exact Operand.resolveAll_progress value? fragment.loc fragment.body.operands

theorem resolveAll_progress (value? : String → Option Int32) (fragments : List Fragment) :
    Progress value? (uses fragments) (uses (resolveAll value? fragments).1)
      (resolveAll value? fragments).2 := by
  induction fragments with
  | nil => exact .complete .nil
  | cons fragment rest ih =>
    have head := resolve_progress value? fragment
    match found : fragment.resolve value? with
    | (resolved, some error) =>
      rw [found] at head
      simp only [resolveAll, found, uses_cons]
      exact head.halt (uses rest)
    | (resolved, none) =>
      rw [found] at head
      simp only [resolveAll, found, uses_cons]
      exact head.append ih

end Fragment

namespace Object

/-- The operands of ROM and then those of RAM. -/
def uses (object : Object) : List Use := Fragment.uses (object.rom.toList ++ object.ram.toList)

/-- Resolution stops at the first name without a value, or comes to the end. -/
theorem resolve_progress {object : Object} (positioned : object.stage = .positioned) :
    (∃ result, resolve.run object = .ok () result ∧ result.stage = .resolved ∧
      Progress object.value? object.uses result.uses none) ∨
    (∃ error result, resolve.run object = .error (.rejected error) result ∧
      result.stage = .positioned ∧
      Progress object.value? object.uses result.uses (some error)) := by
  have rom := resolveAll_progress object.value? object.rom.toList
  have ram := resolveAll_progress object.value? object.ram.toList
  rw [run_resolve, if_pos positioned]
  dsimp only
  split
  · next error stopped =>
    rw [stopped] at rom
    refine .inr ⟨error, _, rfl, positioned, ?_⟩
    simpa [uses] using rom.halt _
  · next done =>
    rw [done] at rom
    split
    · next error stopped =>
      rw [stopped] at ram
      refine .inr ⟨error, _, rfl, positioned, ?_⟩
      simpa [uses] using rom.append ram
    · next finished =>
      rw [finished] at ram
      refine .inl ⟨_, rfl, rfl, ?_⟩
      simpa [uses] using rom.append ram

/-- A name is known if it has a constant or if a label has it. -/
def Knows (object : Object) (name : String) : Prop :=
  object.constants.get? name ≠ none ∨
    ∃ fragment ∈ object.rom.toList ++ object.ram.toList, ∃ label,
      fragment.label? = some label ∧ label.name = name

theorem Laid.registers {object : Object} (laid : object.Laid) :
    Registers object.symbols (object.rom.toList ++ object.ram.toList) :=
  ⟨laid.placed, laid.symbols⟩

theorem Laid.knows_iff {object : Object} (laid : object.Laid) (name : String) :
    object.Knows name ↔ object.value? name ≠ none := by
  rw [Knows, ← laid.registers.get?_ne_none_iff, ne_eq, ne_eq, ne_eq, value?_eq_none_iff,
    not_and_or]

theorem Reachable.laid {object : Object} (reachable : object.Reachable)
    (positioned : object.stage = .positioned) : object.Laid := by
  cases reachable.sound with
  | fresh stage => simp [positioned] at stage
  | overfull overfull => exact absurd overfull.1 (by simp [positioned])
  | laid _ laid => exact laid

/-- Every name in these operands is known. -/
def KnowsAll (object : Object) (uses : List Use) : Prop :=
  ∀ use ∈ uses, ∀ name, use.operand.symbol? = some name → object.Knows name

/-- The later operands have the values that the names of the earlier ones stand for. -/
def SettlesAll (object : Object) (earlier later : List Use) : Prop :=
  List.Forall₂ (Use.Settles (Stands object.constants (object.rom.toList ++ object.ram.toList)))
    earlier later

private theorem Laid.settlesAll {object : Object} (laid : object.Laid) {uses settled : List Use}
    (settles : List.Forall₂ (Use.Settles fun name value => object.value? name = some value)
      uses settled) : object.SettlesAll uses settled :=
  settles.imp fun _ _ one => one.mono fun _ _ found => laid.stands found

private theorem Laid.knowsAll {object : Object} (laid : object.Laid) {uses settled : List Use}
    (settles : List.Forall₂ (Use.Settles fun name value => object.value? name = some value)
      uses settled) : object.KnowsAll uses := by
  induction settles with
  | nil => simp [KnowsAll]
  | cons head _ ih =>
    rw [KnowsAll, List.forall_mem_cons]
    refine ⟨?_, ih⟩
    intro name symbolic
    obtain ⟨value, found⟩ := head.meaning symbolic
    simp [laid.knows_iff, found]

/-- Resolution succeeds exactly if every name is known. It stops at the first unknown name otherwise and
reports it with its place; names before it have their values by then, and from there on nothing has changed.
In either case only operands with a name have changed, and of those only the value. -/
theorem resolve_outcome {object : Object} (reachable : object.Reachable)
    (positioned : object.stage = .positioned) :
    ((∃ result, resolve.run object = .ok () result) ↔ object.KnowsAll object.uses) ∧
    (∀ result, resolve.run object = .ok () result →
      result.stage = .resolved ∧ object.SettlesAll object.uses result.uses) ∧
    (∀ failure result, resolve.run object = .error failure result →
      ∃ front culprit back name settled, object.uses = front ++ culprit :: back ∧
        object.KnowsAll front ∧ culprit.operand.symbol? = some name ∧ ¬ object.Knows name ∧
        failure = .rejected (.undefinedSymbol culprit.loc name) ∧ result.stage = .positioned ∧
        result.uses = settled ++ culprit :: back ∧ object.SettlesAll front settled) ∧
    ∃ rom ram stage, leftBy (resolve.run object) = { object with rom, ram, stage } ∧
      List.Forall₂ Intact object.rom.toList rom.toList ∧
      List.Forall₂ Intact object.ram.toList ram.toList := by
  have laid := reachable.laid positioned
  obtain ⟨rom, ram, stage, frame, romSteps, ramSteps, _⟩ := resolve_frame object
  have intact : ∃ rom ram stage, leftBy (resolve.run object) = { object with rom, ram, stage } ∧
      List.Forall₂ Intact object.rom.toList rom.toList ∧
      List.Forall₂ Intact object.ram.toList ram.toList :=
    ⟨rom, ram, stage, frame, romSteps.imp fun _ _ one => one.intact,
      ramSteps.imp fun _ _ one => one.intact⟩
  obtain ⟨result, success, done, progress⟩ | ⟨error, result, failure, stays, progress⟩ :=
    resolve_progress positioned
  · have known := laid.knowsAll progress.settles
    rw [success] at intact ⊢
    refine ⟨⟨fun _ => known, fun _ => ⟨result, rfl⟩⟩, ?_, ?_, intact⟩
    · rintro _ ⟨⟩
      exact ⟨done, laid.settlesAll progress.settles⟩
    · rintro _ _ ⟨⟩
  · obtain ⟨front, culprit, back, name, settled, before, after, rfl, symbolic, undefined, settles⟩ :=
      progress.culprit
    have unknown : ¬ object.Knows name := by simp [laid.knows_iff, undefined]
    rw [failure] at intact ⊢
    refine ⟨⟨?_, ?_⟩, ?_, ?_, intact⟩
    · rintro ⟨_, ⟨⟩⟩
    · intro known
      exact absurd (known culprit (by simp [before]) name symbolic) unknown
    · rintro _ ⟨⟩
    · rintro _ _ ⟨⟩
      exact ⟨front, culprit, back, name, settled, before, laid.knowsAll settles, symbolic, unknown,
        rfl, stays, after, laid.settlesAll settles⟩

/-- What adds an unknown name between two known ones. -/
def strandedOperations : List Operation :=
  [ .add (.words { items := ["main", "nowhere", "main"].map (.symbol .constant) }) ⟨"a", 5⟩,
    .layout]

/-- Of five operands the fourth has an unknown name: the two names before it get their values, the one behind
it does not. -/
theorem resolve_outcome_contested : ∃ laid result front culprit back settled, laid.Reachable ∧
    laid.stage = .positioned ∧
    resolve.run laid = .error (.rejected (.undefinedSymbol ⟨"a", 5⟩ "nowhere")) result ∧
    laid.uses = front ++ culprit :: back ∧ laid.KnowsAll front ∧ culprit.loc = ⟨"a", 5⟩ ∧
    culprit.operand.symbol? = some "nowhere" ∧ ¬ laid.Knows "nowhere" ∧
    result.uses = settled ++ culprit :: back ∧ laid.SettlesAll front settled := by
  have evaluated : (Operation.runAll contested strandedOperations).toOption.any (fun laid =>
      decide (laid.stage = .positioned ∧ Operation.report? laid .resolve =
        some (.undefinedSymbol ⟨"a", 5⟩ "nowhere"))) = true := by decide +kernel
  cases ran : Operation.runAll contested strandedOperations with
  | error => cases ran ▸ evaluated
  | ok laid =>
    rw [ran] at evaluated
    obtain ⟨positioned, reported⟩ := of_decide_eq_true evaluated
    obtain ⟨result, stopped⟩ := Operation.rejection?_some reported
    obtain ⟨fresh, made, collected⟩ := contested_collected
    have reachable : laid.Reachable :=
      ⟨{}, fresh, _, made, (Operation.runAll_append collected strandedOperations).trans ran⟩
    obtain ⟨_, _, culprits, _⟩ := resolve_outcome reachable positioned
    obtain ⟨front, culprit, back, name, settled, before, known, symbolic, unknown, cause, _, after,
      settles⟩ := culprits _ result stopped
    obtain ⟨place, rfl⟩ : culprit.loc = ⟨"a", 5⟩ ∧ name = "nowhere" := by
      simpa [eq_comm] using cause
    exact ⟨laid, result, front, culprit, back, settled, reachable, positioned, stopped, before,
      known, place, symbolic, unknown, after, settles⟩

end Object

end GlulxAsm
