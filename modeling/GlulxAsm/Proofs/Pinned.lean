import GlulxAsm.Proofs.LateConstant
import GlulxAsm.Proofs.UnlocatedBuild

/-! A name with a known value. Whether the value is put in the place of the name before layout or only by
resolution makes no difference to the image: the operand keeps its width, so that nothing moves, and
resolution puts in the same value. -/
namespace GlulxAsm

variable {name : String} {value : Int32} {value? : String → Option Int32}

namespace Operand

/-- The operand with a value in the place of one name. -/
def pinned (name : String) (value : Int32) (operand : Operand) : Operand :=
  if operand.value = .symbol name then { operand with value := .literal value } else operand

@[simp] theorem width_pinned (operand : Operand) :
    (operand.pinned name value).width = operand.width := by
  unfold pinned
  split <;> rfl

private theorem pinned_of_symbol? {operand : Operand} (nameless : operand.symbol? = none) :
    operand.pinned name value = operand := by
  unfold pinned
  split
  · next symbolic => simp [symbol?, symbolic] at nameless
  · rfl

/-- Resolution catches up with a value that was put in early. -/
theorem resolve_pinned (known : value? name = some value) (operand : Operand) :
    (operand.pinned name value).resolve value? =
      (operand.resolve value?).map (pinned name value) := by
  obtain ⟨mode, content, width⟩ := operand
  cases content with
  | literal number => rfl
  | symbol other =>
    by_cases same : other = name
    · subst other
      simp [pinned, resolve, known, Except.map]
    · simp only [pinned, Value.symbol.injEq, if_neg same, resolve]
      cases value? other <;> rfl

theorem resolveAll_pinned (known : value? name = some value) (operands : List Operand) :
    resolveAll value? (operands.map (pinned name value)) =
      ((resolveAll value? operands).1.map (pinned name value), (resolveAll value? operands).2) := by
  induction operands with
  | nil => rfl
  | cons operand rest ih =>
    rw [List.map_cons, resolveAll, resolve_pinned known, resolveAll]
    cases operand.resolve value? with
    | error missing => rfl
    | ok resolved =>
      simp only [Except.map, ih]
      rfl

private theorem map_pinned_of_names {operands : List Operand} (nameless : names operands = []) :
    operands.map (pinned name value) = operands := by
  rw [names, List.filterMap_eq_nil_iff] at nameless
  refine (List.map_congr_left fun operand member => ?_).trans (List.map_id' operands)
  exact pinned_of_symbol? (nameless operand member)

end Operand

namespace Fragment

namespace Body

/-- The body with a value in the place of one name. -/
def pinned (name : String) (value : Int32) : Body → Body
  | instruction i => instruction { i with operands := i.operands.map (Operand.pinned name value) }
  | words table => words { table with items := table.items.map (Operand.pinned name value) }
  | label l => label l
  | data d => data d

private theorem extent_pinned (body : Body) : (body.pinned name value).extent = body.extent := by
  have widths (operands : List Operand) :
      (operands.map (Operand.pinned name value)).foldr (·.width.bytes + ·) 0 =
        operands.foldr (·.width.bytes + ·) 0 := by
    rw [List.foldr_map]
    simp only [Operand.width_pinned]
  cases body with
  | instruction i => simp only [pinned, extent, Instruction.size, List.length_map, widths]
  | words table => simp only [pinned, extent, WordTable.words, List.length_map]
  | label l => rfl
  | data d => rfl

theorem resolve_pinned (known : value? name = some value) (body : Body) :
    (body.pinned name value).resolve value? =
      ((body.resolve value?).1.pinned name value, (body.resolve value?).2) := by
  cases body with
  | instruction i =>
    simp only [pinned, resolve, Instruction.resolve, Operand.resolveAll_pinned known]
  | words table =>
    simp only [pinned, resolve, WordTable.resolve, Operand.resolveAll_pinned known]
  | label l => rfl
  | data d => rfl

private theorem pinned_of_names {body : Body} (nameless : Operand.names body.operands = []) :
    body.pinned name value = body := by
  cases body with
  | instruction i =>
    have same : i.operands.map (Operand.pinned name value) = i.operands :=
      Operand.map_pinned_of_names nameless
    rw [pinned, same]
  | words table =>
    have same : table.items.map (Operand.pinned name value) = table.items :=
      Operand.map_pinned_of_names nameless
    rw [pinned, same]
  | label l => rfl
  | data d => rfl

end Body

def pinned (name : String) (value : Int32) (fragment : Fragment) : Fragment :=
  { fragment with body := fragment.body.pinned name value }

private theorem label?_pinned (fragment : Fragment) :
    (fragment.pinned name value).label? = fragment.label? := by
  obtain ⟨body, loc, position⟩ := fragment
  cases body <;> rfl

private theorem size?_pinned (fragment : Fragment) :
    (fragment.pinned name value).size? = fragment.size? := by
  obtain ⟨body, loc, position⟩ := fragment
  have same : (body.pinned name value).extent = body.extent := body.extent_pinned
  cases body with
  | instruction i =>
    simp only [Body.pinned, Body.extent] at same
    simp only [size?, pinned, Body.pinned, Instruction.size?, same]
  | words table =>
    simp only [Body.pinned] at same
    simp only [size?, size, pinned, Body.pinned, same]
  | label l => rfl
  | data d => rfl

theorem resolveAll_pinned (known : value? name = some value) (fragments : List Fragment) :
    resolveAll value? (fragments.map (pinned name value)) =
      ((resolveAll value? fragments).1.map (pinned name value),
        (resolveAll value? fragments).2) := by
  induction fragments with
  | nil => rfl
  | cons fragment rest ih =>
    have single : (fragment.pinned name value).resolve value? =
        ((fragment.resolve value?).1.pinned name value, (fragment.resolve value?).2) := by
      simp only [resolve, pinned, Body.resolve_pinned known]
    rw [List.map_cons, resolveAll, single, resolveAll]
    obtain ⟨resolved, undefined⟩ := fragment.resolve value?
    cases undefined with
    | some error => rfl
    | none =>
      simp only [ih]
      rfl

/-- There is nothing left to put in where resolution is complete. -/
theorem map_pinned_of_complete {fragments : List Fragment}
    (complete : (resolveAll value? fragments).2 = none) :
    (resolveAll value? fragments).1.map (pinned name value) = (resolveAll value? fragments).1 := by
  refine (List.map_congr_left fun fragment member => ?_).trans (List.map_id' _)
  rw [pinned, Body.pinned_of_names (names_resolveAll complete fragment member)]

end Fragment

private theorem StringPool.fragments_pinned (pool : StringPool) :
    pool.fragments.map (Fragment.pinned name value) = pool.fragments := by
  have each (index : Nat) (entry : Entry) :
      (entryFragments index entry).map (Fragment.pinned name value) = entryFragments index entry := by
    simp [entryFragments, Fragment.pinned, Fragment.Body.pinned]
  simp [fragments, List.map_flatten, Function.comp_def, each]

namespace Object

open Fragment

/-- The object with a constant defined and its value in the place of its name. -/
def pinned (name : String) (value : Int32) (object : Object) : Object :=
  { object with
    rom := object.rom.map (Fragment.pinned name value)
    ram := object.ram.map (Fragment.pinned name value)
    constants := object.constants.define name { value, loc := .builtIn } }

/-- The outcome of an operation with another object. -/
def leaving {ε α : Type} (change : Object → Object) :
    EStateM.Result ε Object α → EStateM.Result ε Object α
  | .ok result object => .ok result (change object)
  | .error error object => .error error (change object)

private theorem place_pinned (position : UInt32) (symbols : SymbolTable) (fragments : List Fragment) :
    place position symbols (fragments.map (Fragment.pinned name value)) =
      { place position symbols fragments with
        fragments := (place position symbols fragments).fragments.map
          (Fragment.pinned name value) } := by
  induction fragments generalizing position symbols with
  | nil => rfl
  | cons fragment rest ih =>
    have registered : register symbols (fragment.pinned name value) position =
        register symbols fragment position := by
      unfold register
      rw [label?_pinned]
      rfl
    have behind : positionAfter (fragment.pinned name value) position =
        positionAfter fragment position := by
      unfold positionAfter
      rw [size?_pinned]
      rfl
    rw [List.map_cons, place, place, registered, behind]
    cases positionAfter fragment position with
    | error failure => rfl
    | ok next =>
      dsimp only
      rw [ih]
      rfl

private theorem layout_pinned (object : Object) :
    layout.run (object.pinned name value) = leaving (pinned name value) (layout.run object) := by
  have stage : (object.pinned name value).stage = object.stage := rfl
  have symbols : (object.pinned name value).symbols = object.symbols := rfl
  have ram : (object.pinned name value).ram.toList =
      object.ram.toList.map (Fragment.pinned name value) := by
    simp [pinned]
  have rom : (object.pinned name value).fullRom =
      object.fullRom.map (Fragment.pinned name value) := by
    simp [fullRom, pinned, Fragment.pinned, Body.pinned, StringPool.fragments_pinned]
  rw [run_layout, run_layout, stage, symbols, ram, rom, place_pinned]
  split
  · obtain ⟨romFragments, romSymbols, romClashes, romOutcome⟩ :=
      place 0 object.symbols object.fullRom
    cases romOutcome with
    | error failure => simp [leaving, pinned]
    | ok romSize =>
      dsimp only
      cases Page.roundUp? romSize with
      | none => simp [leaving, pinned]
      | some romEnd =>
        simp only [place_pinned]
        obtain ⟨ramFragments, ramSymbols, ramClashes, ramOutcome⟩ :=
          place romEnd romSymbols object.ram.toList
        cases ramOutcome with
        | error failure => simp [leaving, pinned, padding, Fragment.pinned, Body.pinned]
        | ok codeSize => simp [leaving, pinned, padding, Fragment.pinned, Body.pinned]
  · rfl

private theorem value?_pinned {object : Object} (known : object.constants.value? name = some value) :
    (object.pinned name value).value? = object.value? := by
  funext other
  rw [value?, value?, nameValue?, nameValue?, pinned, ConstantTable.value?_define]
  split
  · next same =>
    subst other
    rw [known]
  · rfl

theorem resolve_pinned {object : Object} (known : object.constants.value? name = some value) :
    resolve.run (object.pinned name value) =
      leaving (pinned name value) (resolve.run object) := by
  have stage : (object.pinned name value).stage = object.stage := rfl
  have rom : (object.pinned name value).rom.toList =
      object.rom.toList.map (Fragment.pinned name value) := by
    simp [pinned]
  have ram : (object.pinned name value).ram.toList =
      object.ram.toList.map (Fragment.pinned name value) := by
    simp [pinned]
  have found : object.value? name = some value := by simp [value?, nameValue?, known]
  rw [run_resolve, run_resolve, stage, rom, ram, value?_pinned known, resolveAll_pinned found,
    resolveAll_pinned found]
  split
  · obtain ⟨romFragments, romError⟩ := resolveAll object.value? object.rom.toList
    obtain ⟨ramFragments, ramError⟩ := resolveAll object.value? object.ram.toList
    cases romError with
    | some error => simp [leaving, pinned]
    | none =>
      cases ramError with
      | some error => simp [leaving, pinned]
      | none => simp [leaving, pinned]
  · rfl

theorem run'_of_ok {ε α : Type} {action : EStateM ε Object α} {before after : Object} {value : α}
    (ran : action.run before = .ok value after) : action.run' before = some value := by
  delta EStateM.run'
  rw [ran]

theorem run'_of_error {ε α : Type} {action : EStateM ε Object α} {before after : Object} {failure : ε}
    (ran : action.run before = .error failure after) : action.run' before = none := by
  delta EStateM.run'
  rw [ran]

private theorem run'_eq_of_leaving {ε α : Type} {action : EStateM ε Object α} {one two : Object}
    {change : Object → Object} (same : action.run two = leaving change (action.run one)) :
    action.run' two = action.run' one := by
  cases ran : action.run one with
  | error failure result => rw [run'_of_error ran, run'_of_error (same.trans (congrArg _ ran))]
  | ok value result => rw [run'_of_ok ran, run'_of_ok (same.trans (congrArg _ ran))]

/-- Constants are not looked at any more. -/
theorem encode_constants (entry : UInt32) (object : Object) (constants : ConstantTable) :
    (encode entry).run { object with constants } =
      leaving ({ · with constants }) ((encode entry).run object) := by
  rw [run_encode, run_encode]
  dsimp only
  split
  · cases Header.create object.romEnd object.codeSize object.stackSize entry with
    | error cause => rfl
    | ok header =>
      dsimp only
      cases Image.write object.rom.toList object.ram.toList header <;> rfl
  · rfl

private theorem pinned_of_fragments {object : Object}
    (rom : object.rom.toList.map (Fragment.pinned name value) = object.rom.toList)
    (ram : object.ram.toList.map (Fragment.pinned name value) = object.ram.toList) :
    object.pinned name value =
      { object with constants := object.constants.define name { value, loc := .builtIn } } := by
  rw [← Array.toList_map, Array.toList_inj] at rom ram
  rw [pinned, rom, ram]

/-- A constant that an object knows by the time it is built can be put in beforehand. -/
theorem build_pinned {object : Object} (known : object.constants.value? name = some value)
    (fresh : object.stage = .accumulating) :
    build.run' (object.pinned name value) = build.run' object := by
  have same : (object.pinned name value).stage = object.stage := rfl
  delta EStateM.run'
  rw [run_build, run_build, same, if_pos fresh, if_pos fresh, layout_pinned]
  cases laying : layout.run object with
  | error failure result => rfl
  | ok _ laid =>
    obtain ⟨_, romSize, romEnd, codeSize, _, _, _, whole⟩ := layout_ok laying
    have positioned : laid.stage = .positioned := by rw [whole]
    have kept : laid.constants = object.constants := by rw [whole]
    have entries : (laid.pinned name value).entryPoint = laid.entryPoint := rfl
    have stage : (laid.pinned name value).stage = laid.stage := rfl
    dsimp only [leaving]
    rw [entries, stage, if_pos positioned, if_pos positioned, resolve_pinned (kept ▸ known)]
    cases laid.entryPoint with
    | error error => rfl
    | ok entry =>
      cases resolving : resolve.run laid with
      | error failure result => rfl
      | ok _ done =>
        -- nothing is left to put in, and only the table of constants may differ
        obtain ⟨_, romDone, ramDone, resolved⟩ := resolve_ok resolving
        have rom : done.rom.toList.map (Fragment.pinned name value) = done.rom.toList := by
          rw [resolved]
          exact map_pinned_of_complete romDone
        have ram : done.ram.toList.map (Fragment.pinned name value) = done.ram.toList := by
          rw [resolved]
          exact map_pinned_of_complete ramDone
        dsimp only [leaving]
        rw [pinned_of_fragments rom ram]
        exact run'_eq_of_leaving (encode_constants entry done _)

end Object

end GlulxAsm
