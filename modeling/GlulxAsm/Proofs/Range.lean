import GlulxAsm.Proofs.LineCount

/-! Sums that leave the machine's range. Setting a stack size and writing an image round up to a page, and
both leave the range exactly if what they round lies in the last page of 32 bits. Layout rounds too, but
reports what does not fit. Reading a text counts its lines, and leaves the range exactly if there are more
than 32 bits can count. -/
namespace GlulxAsm

/-- Only addresses inside the last page cannot be rounded up. -/
theorem Page.roundUp?_eq_none_iff (address : UInt32) :
    roundUp? address = none ↔ 0xffffff00 < address.toNat := by
  unfold roundUp? roundUp size
  dsimp only
  split
  · next fits =>
    simp only [reduceCtorEq, false_iff]
    omega
  · next excess =>
    simp only [true_iff]
    omega

theorem Header.create_error_iff (romEnd codeSize stackSize entry : UInt32) (cause : Overflow) :
    create romEnd codeSize stackSize entry = .error cause ↔
      0xffffff00 < codeSize.toNat ∧ cause = .imageSize codeSize := by
  rw [← Page.roundUp?_eq_none_iff, create]
  cases Page.roundUp? codeSize <;> simp [eq_comm]

namespace Object

open Fragment

theorem setStackSize?_error_iff (object : Object) (bytes : UInt32) (cause : Overflow) :
    object.setStackSize? bytes = .error cause ↔
      0xffffff00 < bytes.toNat ∧ cause = .stackSize bytes := by
  rw [← Page.roundUp?_eq_none_iff, setStackSize?]
  cases Page.roundUp? bytes <;> simp [eq_comm]

theorem create_error_iff (settings : Settings) (cause : Overflow) :
    create settings = .error cause ↔
      0xffffff00 < settings.stackSize.toNat ∧ cause = .stackSize settings.stackSize :=
  setStackSize?_error_iff _ _ _

theorem resolve_in_range (object : Object) (cause : Overflow) (result : Object) :
    resolve.run object ≠ .error (.overflow cause) result := by
  rw [run_resolve]
  split
  · dsimp only
    split
    · simp
    · split <;> simp
  · simp

private theorem encode_error_iff (entry : UInt32) (object : Object) (cause : Overflow) (result : Object) :
    (encode entry).run object = .error (.overflow cause) result ↔
      object.stage = .resolved ∧ 0xffffff00 < object.codeSize.toNat ∧
        cause = .imageSize object.codeSize ∧ result = object := by
  rw [run_encode]
  by_cases resolved : object.stage = .resolved
  · rw [if_pos resolved]
    have range := Header.create_error_iff object.romEnd object.codeSize object.stackSize entry
    cases created : Header.create object.romEnd object.codeSize object.stackSize entry with
    | error found =>
      obtain ⟨large, rfl⟩ := (range found).mp created
      simp [resolved, large, eq_comm]
    | ok header =>
      have small : ¬ 0xffffff00 < object.codeSize.toNat := by
        intro large
        have excess := (range _).mpr ⟨large, rfl⟩
        rw [created] at excess
        cases excess
      simp only [small, false_and, and_false, iff_false]
      cases Image.write object.rom.toList object.ram.toList header <;> simp
  · simp [resolved]

/-- What a build makes of an object before it writes the image: all fragments have positions, the entry is
known and no name is left. -/
structure Readies (object done : Object) : Prop where
  passed : ∃ laid entry,
    (if object.stage = .accumulating then layout.run object = .ok () laid else laid = object) ∧
    laid.entryPoint = .ok entry ∧
    (if laid.stage = .positioned then resolve.run laid = .ok () done else done = laid)
  resolved : done.stage = .resolved

/-- A build leaves the range exactly if all is ready and the code ends inside the last page. -/
theorem build_error_iff {object : Object} (countable : object.Countable) (cause : Overflow)
    (result : Object) :
    build.run object = .error (.overflow cause) result ↔
      object.Readies result ∧ 0xffffff00 < result.codeSize.toNat ∧
        cause = .imageSize result.codeSize := by
  rw [run_build]
  constructor
  · intro failure
    split at failure
    · next found object first =>
      cases failure
      split at first
      · exact absurd first (countable.layout_in_range cause result)
      · cases first
    · next laid first =>
      split at failure
      · cases failure
      · next entry entered =>
        split at failure
        · next found object second =>
          cases failure
          split at second
          · exact absurd second (resolve_in_range laid cause result)
          · cases second
        · next done second =>
          obtain ⟨resolved, large, rfl, rfl⟩ := (encode_error_iff ..).mp failure
          refine ⟨⟨⟨laid, entry, ?_, entered, ?_⟩, resolved⟩, large, rfl⟩
          · split at first
            · next fresh => rwa [if_pos fresh]
            · next later =>
              cases first
              rw [if_neg later]
          · split at second
            · next positioned => rwa [if_pos positioned]
            · next later =>
              cases second
              rw [if_neg later]
  · rintro ⟨⟨⟨laid, entry, first, entered, second⟩, resolved⟩, large, rfl⟩
    have laying : (if object.stage = .accumulating then layout.run object else .ok () object) =
        .ok () laid := by
      split at first
      · next fresh => rwa [if_pos fresh]
      · next later => rw [if_neg later, first]
    have settling : (if laid.stage = .positioned then resolve.run laid else .ok () laid) =
        .ok () result := by
      split at second
      · next positioned => rwa [if_pos positioned]
      · next later => rw [if_neg later, second]
    simp only [laying, entered, settling]
    exact (encode_error_iff ..).mpr ⟨resolved, large, rfl, rfl⟩

end Object

namespace Operation

open Object

/-- The source that an operation assembles, if it does. -/
def source? : Operation → Option (FileTree × Source)
  | assembleSource tree name text => some (tree, .text name text)
  | assembleFile tree path => some (tree, .file path)
  | _ => none

private theorem run_source {operation : Operation} {tree : FileTree} {source : Source}
    (assembles : operation.source? = some (tree, source)) (object : Object) :
    operation.run object = (source.assemble tree object).completed.map (·.object) := by
  cases operation <;> cases assembles <;> rfl

private theorem map_completed_error_iff (session : Session) (cause : Overflow) :
    session.completed.map (·.object) = .error cause ↔ session.overflow = some cause := by
  unfold Session.completed
  split
  · next inRange => simp [Except.map, inRange]
  · next found stopped => simp [Except.map, stopped]

/-- The operations that leave the range, and by what. -/
inductive Exceeds (object : Object) : Operation → Overflow → Prop where
  | stackSize {bytes : UInt32} (large : 0xffffff00 < bytes.toNat) :
      Exceeds object (.setStackSize bytes) (.stackSize bytes)
  | imageSize {done : Object} (ready : object.Readies done)
      (large : 0xffffff00 < done.codeSize.toNat) :
      Exceeds object .build (.imageSize done.codeSize)
  | lineNumber {operation : Operation} {tree : FileTree} {source : Source} {name : String}
      (assembles : operation.source? = some (tree, source))
      (long : source.Overruns tree object name) : Exceeds object operation (.lineNumber name)

theorem source_error_iff {operation : Operation} {tree : FileTree} {source : Source}
    (assembles : operation.source? = some (tree, source)) (object : Object) (cause : Overflow) :
    operation.run object = .error cause ↔
      ∃ name, cause = .lineNumber name ∧ source.Overruns tree object name := by
  rw [run_source assembles, map_completed_error_iff, source.assemble_overflow_iff]

private theorem survivor_error_iff {α : Type} (result : EStateM.Result Failure Object α) (cause : Overflow) :
    survivor result = .error cause ↔ ∃ object, result = .error (.overflow cause) object := by
  match result with
  | .ok _ _ => simp [survivor]
  | .error (.rejected _) _ => simp [survivor]
  | .error (.overflow _) _ => simp [survivor]

private theorem run_error_iff {object : Object} {operation : Operation}
    (countable : operation.collects = false → object.Countable) (cause : Overflow) :
    operation.run object = .error cause ↔ Exceeds object operation cause := by
  constructor
  · intro failure
    cases operation with
    | setStackSize bytes =>
      obtain ⟨large, rfl⟩ := (setStackSize?_error_iff ..).mp failure
      exact .stackSize large
    | layout =>
      obtain ⟨result, failed⟩ := (survivor_error_iff ..).mp failure
      exact absurd failed ((countable rfl).layout_in_range cause result)
    | resolve =>
      obtain ⟨result, failed⟩ := (survivor_error_iff ..).mp failure
      exact absurd failed (resolve_in_range object cause result)
    | build =>
      obtain ⟨result, failed⟩ := (survivor_error_iff ..).mp failure
      obtain ⟨ready, large, rfl⟩ := (build_error_iff (countable rfl) cause result).mp failed
      exact .imageSize ready large
    | assembleSource | assembleFile =>
      obtain ⟨name, rfl, long⟩ := (source_error_iff rfl object cause).mp failure
      exact .lineNumber rfl long
    | _ => cases failure
  · intro exceeds
    cases exceeds with
    | stackSize large => exact (setStackSize?_error_iff ..).mpr ⟨large, rfl⟩
    | imageSize ready large =>
      apply (survivor_error_iff ..).mpr
      exact ⟨_, (build_error_iff (countable rfl) _ _).mpr ⟨ready, large, rfl⟩⟩
    | lineNumber assembles long => exact (source_error_iff assembles ..).mpr ⟨_, rfl, long⟩

/-- A run ends at the first operation that leaves the range. -/
theorem runAll_error_iff (object : Object) (operations : List Operation) (cause : Overflow) :
    runAll object operations = .error cause ↔ ∃ front operation back middle,
      operations = front ++ operation :: back ∧ runAll object front = .ok middle ∧
        operation.run middle = .error cause := by
  constructor
  · intro failure
    induction operations generalizing object with
    | nil => cases failure
    | cons operation rest ih =>
      cases first : operation.run object with
      | error found =>
        rw [runAll, List.foldlM_cons, first] at failure
        cases failure
        exact ⟨[], operation, rest, object, rfl, rfl, first⟩
      | ok next =>
        rw [runAll, List.foldlM_cons, first] at failure
        obtain ⟨front, last, back, middle, rfl, reached, stopped⟩ := ih next failure
        refine ⟨operation :: front, last, back, middle, rfl, ?_, stopped⟩
        rw [runAll, List.foldlM_cons, first]
        exact reached
  · rintro ⟨front, operation, back, middle, rfl, reached, stopped⟩
    rw [runAll] at reached ⊢
    rw [List.foldlM_append, reached]
    simp only [bind, Except.bind, List.foldlM_cons, stopped]

/-- Operations on a new object. -/
def start (settings : Settings) (operations : List Operation) : Except Overflow Object := do
  runAll (← create settings) operations

theorem start_of_create {settings : Settings} {fresh : Object} (made : create settings = .ok fresh)
    (operations : List Operation) : start settings operations = runAll fresh operations := by
  rw [start, made]
  rfl

/-- If fragments can be counted whenever a pass is run, an assembly leaves the range exactly if a stack
size, at the beginning or later, lies inside the last page, if a text is read that has more lines than 32
bits can count, or if a build is ready to write code that ends inside the last page. All other sizes are
accepted or reported. -/
theorem start_error_iff {settings : Settings} {operations : List Operation}
    (countable : ∀ front operation back object, operations = front ++ operation :: back →
      start settings front = .ok object → operation.collects = false → object.Countable)
    (cause : Overflow) :
    start settings operations = .error cause ↔
      (0xffffff00 < settings.stackSize.toNat ∧ cause = .stackSize settings.stackSize) ∨
      ∃ front operation back object, operations = front ++ operation :: back ∧
        start settings front = .ok object ∧ Exceeds object operation cause := by
  cases made : create settings with
  | error found =>
    have stopped (all : List Operation) : start settings all = .error found := by
      rw [start, made]
      rfl
    obtain ⟨large, rfl⟩ := (create_error_iff settings found).mp made
    simp [stopped, large, eq_comm]
  | ok fresh =>
    have small : ¬ 0xffffff00 < settings.stackSize.toNat := by
      intro large
      have excess := (create_error_iff settings _).mpr ⟨large, rfl⟩
      rw [made] at excess
      cases excess
    simp only [small, false_and, false_or, start_of_create made, runAll_error_iff] at countable ⊢
    constructor
    · rintro ⟨front, operation, back, middle, whole, reached, stopped⟩
      have counted := countable front operation back middle whole reached
      exact ⟨front, operation, back, middle, whole, reached, (run_error_iff counted _).mp stopped⟩
    · rintro ⟨front, operation, back, middle, whole, reached, exceeds⟩
      have counted := countable front operation back middle whole reached
      exact ⟨front, operation, back, middle, whole, reached, (run_error_iff counted _).mpr exceeds⟩

/-- A function in ROM, and tables in RAM, none larger than a source can ask for, that end four bytes inside
the last page. -/
def brimming : List Operation :=
  let table (words : Nat) : Operation := .add (.words { capacity := some words }) .builtIn
  [.selectRom true, .add (.label { name := "main", kind := .localFunction }) .builtIn,
    .selectRom false] ++ List.replicate 255 (table 0x400000) ++ [table 0x3fff81]

private theorem brimming_countable (front : List Operation) (operation : Operation) (back : List Operation)
    (object : Object) (whole : brimming ++ [.build] = front ++ operation :: back)
    (reached : start {} front = .ok object) (pass : operation.collects = false) :
    object.Countable := by
  have collecting : ∀ operation ∈ brimming, operation.collects = true := by decide +kernel
  have counted : (match start {} brimming with
      | .ok object => decide object.Countable
      | .error _ => true) = true := by decide +kernel
  obtain rfl : front = brimming := by
    rcases List.append_eq_append_iff.mp whole with ⟨more, rfl, rest⟩ | ⟨more, same, rest⟩
    · cases more with
      | nil => simp
      | cons other others => simp at rest
    · cases more with
      | nil => simpa using same.symm
      | cons other others =>
        obtain ⟨rfl, _⟩ := List.cons.inj rest
        have member : operation ∈ brimming := by simp [same]
        simp [collecting operation member] at pass
  rw [reached] at counted
  exact of_decide_eq_true counted

theorem brimming_fails : start {} (brimming ++ [.build]) = .error (.imageSize 0xffffff04) := by
  have found : (match start {} (brimming ++ [.build]) with
      | .ok _ => false
      | .error cause => decide (cause = .imageSize 0xffffff04)) = true := by decide +kernel
  split at found
  · cases found
  · next cause reached => rw [reached, of_decide_eq_true found]

/-- The code of this object ends at 0xffffff04, and its image cannot end on a page. -/
theorem start_error_iff_brimming :
    start {} (brimming ++ [.build]) = .error (.imageSize 0xffffff04) ∧
      ∃ front operation back object, brimming ++ [.build] = front ++ operation :: back ∧
        start {} front = .ok object ∧ Exceeds object operation (.imageSize 0xffffff04) := by
  have small : ¬ 0xffffff00 < (({} : Settings).stackSize).toNat := by decide
  refine ⟨brimming_fails, ?_⟩
  rcases (start_error_iff brimming_countable _).mp brimming_fails with ⟨large, _⟩ | stops
  · exact absurd large small
  · exact stops

/-- So many line ends that the lines cannot be counted. -/
def endless : String := String.ofList (List.replicate 0xffffffff '\n')

private theorem endless_overlong (name : String) : NamedText.Overlong ⟨name, endless⟩ := by
  unfold NamedText.Overlong endless
  rw [String.toList_ofList, List.count_replicate_self]

/-- Sizes in the last page are not reported: not that of a stack, whether it is set at the beginning or
later, and not that of a program. Nor are lines that cannot be counted. -/
theorem start_leaves_range :
    start { stackSize := 0xffffffff } [] = .error (.stackSize 0xffffffff) ∧
      start {} [.setStackSize 0xffffff01] = .error (.stackSize 0xffffff01) ∧
      start {} (brimming ++ [.build]) = .error (.imageSize 0xffffff04) ∧
      start {} [.assembleSource {} "t.ga" endless] = .error (.lineNumber "t.ga") := by
  have early : create { stackSize := 0xffffffff } = .error (.stackSize 0xffffffff) :=
    (create_error_iff _ _).mpr ⟨by decide, rfl⟩
  have late (object : Object) : object.setStackSize? 0xffffff01 = .error (.stackSize 0xffffff01) :=
    (setStackSize?_error_iff _ _ _).mpr ⟨by decide, rfl⟩
  have long (object : Object) :
      (assembleSource {} "t.ga" endless).run object = .error (.lineNumber "t.ga") :=
    (source_error_iff rfl object _).mpr ⟨_, rfl, Source.overruns_text _ _ (endless_overlong _)⟩
  obtain ⟨fresh, made, _⟩ := branching_collected
  refine ⟨?_, ?_, brimming_fails, ?_⟩
  · rw [start, early]
    rfl
  · rw [start_of_create made, runAll, List.foldlM_cons, run, late]
    rfl
  · rw [start_of_create made, runAll, List.foldlM_cons, long]
    rfl

end Operation

end GlulxAsm
