import GlulxAsm.Proofs.Passes

/-! Everything that can be done to an object from outside, in any order. Each operation is a row of
steps; an error that is reported leaves an object to go on with, a sum out of range does not. -/
namespace GlulxAsm

/-- What can be done to an object. -/
inductive Operation where
  | selectRom (toRom : Bool)
  | setStackSize (bytes : UInt32)
  | addConstant (name : String) (value : Int32) (loc : Location)
  | intern (content : String)
  | addAlias (label content : String)
  | add (body : Fragment.Body) (loc : Location)
  | assembleSource (tree : FileTree) (name text : String)
  | assembleFile (tree : FileTree) (path : String)
  | layout
  | resolve
  | build

namespace Operation

open Object

/-- The object to go on with, unless a sum left the machine's range. -/
def survivor {α : Type} : EStateM.Result Failure Object α → Except Overflow Object
  | .ok _ object => .ok object
  | .error (.rejected _) object => .ok object
  | .error (.overflow cause) _ => .error cause

theorem survivor_ok {α : Type} {result : EStateM.Result Failure Object α} {object : Object}
    (alive : survivor result = .ok object) : leftBy result = object := by
  unfold survivor at alive
  split at alive <;> cases alive <;> rfl

def run (object : Object) : Operation → Except Overflow Object
  | selectRom toRom => .ok (object.selectRom toRom)
  | setStackSize bytes => object.setStackSize? bytes
  | addConstant name value loc => .ok (object.addConstant name value loc)
  | intern content => .ok (object.intern content).1
  | addAlias label content => .ok (object.addAlias label content).1
  | add body loc => .ok (leftBy ((Object.add body loc).run object))
  | assembleSource tree name text =>
    (GlulxAsm.assembleSource tree name text object).completed.map (·.object)
  | assembleFile tree path => (GlulxAsm.assembleFile tree path object).completed.map (·.object)
  | layout => survivor (Object.layout.run object)
  | resolve => survivor (Object.resolve.run object)
  | build => survivor (Object.build.run object)

def runAll (object : Object) (operations : List Operation) : Except Overflow Object :=
  operations.foldlM run object

private theorem map_completed_ok {session : Session} {object : Object}
    (alive : session.completed.map (·.object) = .ok object) :
    session.overflow = none ∧ session.object = object := by
  unfold Session.completed at alive
  split at alive
  · next inRange =>
    cases alive
    exact ⟨inRange, rfl⟩
  · cases alive

/-- Operations other than the passes. -/
def collects : Operation → Bool
  | layout | resolve | build => false
  | _ => true

theorem run_collects {operation : Operation} {before after : Object}
    (collecting : operation.collects = true) (success : operation.run before = .ok after) :
    Collects before after := by
  cases operation with
  | selectRom toRom =>
    cases success
    exact .single (.selectRom before toRom)
  | setStackSize bytes =>
    simp only [run, setStackSize?] at success
    split at success
    · cases success
      exact .single (.setStackSize before bytes)
    · cases success
  | addConstant name value loc =>
    cases success
    exact .single (.addConstant before name value loc)
  | intern content =>
    cases success
    exact .single (.intern before content)
  | addAlias label content =>
    cases success
    exact .single (.addAlias before label content)
  | add body loc =>
    cases success
    exact add_collecting body loc before
  | assembleSource tree name text =>
    obtain ⟨_, rfl⟩ := map_completed_ok success
    exact assembleSource_collects tree name text before
  | assembleFile tree path =>
    obtain ⟨_, rfl⟩ := map_completed_ok success
    exact assembleFile_collects tree path before
  | layout => cases collecting
  | resolve => cases collecting
  | build => cases collecting

end Operation

namespace Object

/-- One step of an object's life: a step of collecting, a pass, or the end of a build. -/
inductive Step : Object → Object → Prop where
  | gather {before after : Object} (step : Gathers before after) : Step before after
  | layout {before after : Object} (success : layout.run before = .ok () after) :
      Step before after
  | layoutRejected {before after : Object} {error : AsmError}
      (failure : layout.run before = .error (.rejected error) after) : Step before after
  | resolve (before : Object) : Step before (leftBy (resolve.run before))
  | encode (before : Object) (resolved : before.stage = .resolved) :
      Step before { before with stage := .encoded }

/-- Any number of steps. -/
abbrev Steps : Object → Object → Prop := Relation.ReflTransGen Step

theorem Collects.steps {before after : Object} (collected : Collects before after) :
    Steps before after :=
  Relation.ReflTransGen.mono (fun _ _ step => Step.gather step) before after collected

theorem layout_steps {before after : Object}
    (alive : Operation.survivor (layout.run before) = .ok after) : Steps before after := by
  cases found : layout.run before with
  | ok _ object =>
    rw [found] at alive
    cases alive
    exact .single (.layout found)
  | error failure object =>
    rw [found] at alive
    cases failure with
    | rejected error =>
      cases alive
      exact .single (.layoutRejected found)
    | overflow cause => cases alive

private theorem encode_steps (entry : UInt32) (before : Object) :
    Steps before (leftBy ((encode entry).run before)) := by
  rw [run_encode]
  split
  · next resolved =>
    split
    · exact .refl
    · split
      · exact .refl
      · exact .single (.encode before resolved)
  · exact .refl

theorem build_steps {before after : Object}
    (alive : Operation.survivor (build.run before) = .ok after) : Steps before after := by
  rw [run_build] at alive
  split at alive
  · next failure result first =>
    split at first
    · apply layout_steps
      rw [first]
      cases failure <;> exact alive
    · cases first
  · next laid first =>
    have laying : Steps before laid := by
      split at first
      · exact .single (.layout first)
      · cases first
        exact .refl
    split at alive
    · cases alive
      exact laying
    · next entry _ =>
      have resolving := Step.resolve laid
      split at alive
      · next failure result second =>
        split at second
        · rw [second] at resolving
          have same := Operation.survivor_ok alive
          exact laying.tail (same ▸ resolving)
        · cases second
      · next done second =>
        have finished : Steps laid done := by
          split at second
          · rw [second] at resolving
            exact .single resolving
          · cases second
            exact .refl
        have written := encode_steps entry done
        rw [Operation.survivor_ok alive] at written
        exact (laying.trans finished).trans written

/-- A build that returns an image has written the fragments that it leaves behind. -/
theorem build_writes {object result : Object} {image : Image}
    (success : build.run object = .ok image result) :
    Steps object result ∧ result.stage = .encoded ∧ ∃ entry header,
      Header.create result.romEnd result.codeSize result.stackSize entry = .ok header ∧
      Image.write result.rom.toList result.ram.toList header = .ok image := by
  have steps : Steps object result := by
    apply build_steps
    rw [success]
    rfl
  obtain ⟨_, done, entry, header, _, _, _, _, created, written, rfl⟩ := build_ok success
  exact ⟨steps, rfl, entry, header, created, written⟩

end Object

namespace Operation

open Object

theorem run_steps {operation : Operation} {before after : Object}
    (success : operation.run before = .ok after) : Steps before after := by
  by_cases collecting : operation.collects = true
  · exact (run_collects collecting success).steps
  · cases operation with
    | layout => exact layout_steps success
    | resolve =>
      rw [← survivor_ok success]
      exact .single (.resolve before)
    | build => exact build_steps success
    | _ => exact absurd rfl collecting

theorem runAll_cons {before after : Object} {operation : Operation} {rest : List Operation}
    (success : runAll before (operation :: rest) = .ok after) :
    ∃ middle, operation.run before = .ok middle ∧ runAll middle rest = .ok after := by
  rw [runAll, List.foldlM_cons] at success
  cases found : operation.run before with
  | error cause =>
    rw [found] at success
    cases success
  | ok middle =>
    rw [found] at success
    exact ⟨middle, rfl, success⟩

theorem runAll_steps {operations : List Operation} {before after : Object}
    (success : runAll before operations = .ok after) : Steps before after := by
  induction operations generalizing before with
  | nil =>
    cases success
    exact .refl
  | cons operation rest ih =>
    obtain ⟨middle, first, later⟩ := runAll_cons success
    exact (run_steps first).trans (ih later)

end Operation

namespace Object

/-- An object that operations can make of a new one. -/
def Reachable (object : Object) : Prop :=
  ∃ settings fresh operations, create settings = .ok fresh ∧
    Operation.runAll fresh operations = .ok object

/-- The settings choose a new object's ROM, stack and warnings, and nothing else of it. -/
theorem create_eq {settings : Settings} {object : Object} (made : create settings = .ok object) :
    ∃ rom stackSize warnings, object = {
      rom
      ram := #[{ body := .label { name := startOfRam, kind := .builtIn }, loc := .builtIn }]
      stackSize
      warnings } := by
  simp only [create, setStackSize?] at made
  split at made
  · cases made
    simp only [setStackSize]
    split
    · exact ⟨_, _, _, rfl⟩
    · exact ⟨_, _, _, rfl⟩
  · cases made

theorem create_fresh {settings : Settings} {object : Object} (made : create settings = .ok object) :
    object.stage = .accumulating ∧ ∀ name, object.symbols.get? name = none := by
  obtain ⟨_, _, _, rfl⟩ := create_eq made
  exact ⟨rfl, SymbolTable.get?_empty⟩

/-- A function in ROM that branches to RAM, from where a branch leads back to it. -/
def branching : Object :=
  let jump : Mnemonic := { name := "jump", opcode := 0x20, operands := 1, branch := true }
  { rom := #[
      { body := .data (.word signature), loc := .builtIn },
      { body := .label { name := "main", kind := .localFunction, locals := 2 }, loc := .builtIn },
      { body := .instruction (.make jump [.symbol .constant "again"]), loc := .builtIn }]
    ram := #[
      { body := .label { name := startOfRam, kind := .builtIn }, loc := .builtIn },
      { body := .words { items := [.symbol .constant "main"] }, loc := .builtIn },
      { body := .label (.general "again"), loc := .builtIn },
      { body := .instruction (.make jump [.symbol .constant "main"]), loc := .builtIn }]
    stackSize := 2048 }

/-- What makes this object of a new one. -/
def branchingOperations : List Operation :=
  let jump : Mnemonic := { name := "jump", opcode := 0x20, operands := 1, branch := true }
  [ .selectRom true,
    .add (.label { name := "main", kind := .localFunction, locals := 2 }) .builtIn,
    .add (.instruction (.make jump [.symbol .constant "again"])) .builtIn,
    .selectRom false,
    .add (.words { items := [.symbol .constant "main"] }) .builtIn,
    .add (.label (.general "again")) .builtIn,
    .add (.instruction (.make jump [.symbol .constant "main"])) .builtIn]

theorem branching_collected : ∃ fresh, create {} = .ok fresh ∧
    Operation.runAll fresh branchingOperations = .ok branching := by
  have made : create {} = .ok {
      rom := branching.rom.take 1
      ram := branching.ram.take 1
      stackSize := branching.stackSize } := by
    simp [create, setStackSize?, setStackSize, Page.roundUp?, Page.roundUp, Page.size, branching]
  exact ⟨_, made, rfl⟩

theorem branching_reachable : branching.Reachable := by
  obtain ⟨fresh, made, collected⟩ := branching_collected
  exact ⟨{}, fresh, branchingOperations, made, collected⟩

/-- A run succeeds with something that passes a test. -/
def passes {ε α : Type} (test : α → Object → Bool) : EStateM.Result ε Object α → Bool
  | .ok value object => test value object
  | .error _ _ => false

theorem exists_of_passes {ε α : Type} {test : α → Object → Bool} {outcome : EStateM.Result ε Object α}
    (evaluated : passes test outcome = true) :
    ∃ value object, outcome = .ok value object ∧ test value object = true := by
  cases outcome with
  | ok value object => exact ⟨value, object, rfl, evaluated⟩
  | error => cases evaluated

theorem branching_builds : ∃ image result, build.run branching = .ok image result := by
  have evaluated : passes (fun _ _ => true) (build.run branching) = true := by decide +kernel
  obtain ⟨image, result, success, _⟩ := exists_of_passes evaluated
  exact ⟨image, result, success⟩

/-- A function in ROM, a string and a function in RAM, all three by the name of the entry. -/
def contested : Object :=
  { rom := #[
      { body := .data (.word signature), loc := .builtIn },
      { body := .label { name := "main", kind := .stackFunction, locals := 300 }, loc := ⟨"a", 1⟩ }]
    ram := #[
      { body := .label { name := startOfRam, kind := .builtIn }, loc := .builtIn },
      { body := .label { name := "main", kind := .localFunction }, loc := ⟨"a", 2⟩ },
      { body := .words { items := [.symbol .constant "main", .constant 7] }, loc := ⟨"a", 3⟩ },
      { body := .label (.general "_string0"), loc := ⟨"a", 4⟩ }]
    strings := (StringPool.addAlias {} "main" "hi").1
    stackSize := 2048 }

/-- What makes this object of a new one. -/
def contestedOperations : List Operation :=
  [ .selectRom true,
    .add (.label { name := "main", kind := .stackFunction, locals := 300 }) ⟨"a", 1⟩,
    .selectRom false,
    .addAlias "main" "hi",
    .add (.label { name := "main", kind := .localFunction }) ⟨"a", 2⟩,
    .add (.words { items := [.symbol .constant "main", .constant 7] }) ⟨"a", 3⟩,
    .add (.label (.general "_string0")) ⟨"a", 4⟩]

theorem contested_collected : ∃ fresh, create {} = .ok fresh ∧
    Operation.runAll fresh contestedOperations = .ok contested := by
  have made : create {} = .ok {
      rom := contested.rom.take 1
      ram := contested.ram.take 1
      stackSize := contested.stackSize } := by
    simp [create, setStackSize?, setStackSize, Page.roundUp?, Page.roundUp, Page.size, contested]
  exact ⟨_, made, by with_unfolding_all rfl⟩

theorem contested_reachable : contested.Reachable := by
  obtain ⟨fresh, made, collected⟩ := contested_collected
  exact ⟨{}, fresh, contestedOperations, made, collected⟩

end Object

end GlulxAsm
