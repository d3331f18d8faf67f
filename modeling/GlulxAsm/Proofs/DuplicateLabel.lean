import GlulxAsm.Proofs.Operation

/-! The first label of a name is its symbol, in ROM, among the strings or in RAM. Every further label of the
name is noted, with the place of the first one and its own, in the order in which layout meets them. -/
namespace GlulxAsm

namespace Fragment

/-- The note on a label whose name an earlier fragment has. -/
def clash? (earlier : List Fragment) (fragment : Fragment) : Option Warning := do
  let label ← fragment.label?
  let first ← earlier.find? (labels label.name)
  return .duplicateLabel label.name first.loc fragment.loc

/-- The notes on all labels that are not the first of their name, in order. -/
def clashes (fragments : List Fragment) : List Warning :=
  (List.range fragments.length).filterMap fun index =>
    fragments[index]?.bind (clash? (fragments.take index))

@[simp] theorem clashes_nil : clashes [] = [] := rfl

/-- One more fragment adds its own note at most. -/
theorem clashes_concat (front : List Fragment) (fragment : Fragment) :
    clashes (front ++ [fragment]) = clashes front ++ (clash? front fragment).toList := by
  have earlier : (List.range front.length).filterMap
      (fun index => (front ++ [fragment])[index]?.bind (clash? ((front ++ [fragment]).take index))) =
        clashes front := by
    apply List.filterMap_congr
    intro index member
    have inside : index < front.length := List.mem_range.mp member
    rw [List.getElem?_append_left inside, List.take_append_of_le_length (Nat.le_of_lt inside)]
  have length : (front ++ [fragment]).length = front.length + 1 := by simp
  rw [clashes, length, List.range_succ, List.filterMap_append, earlier]
  cases note : clash? front fragment <;> simp [note]

theorem clash?_of_unlabelled {earlier : List Fragment} {fragment : Fragment}
    (unlabelled : fragment.label? = none) : clash? earlier fragment = none := by
  simp [clash?, unlabelled]

end Fragment

namespace Object

open Fragment

/-- The symbols are what the first labels of these placed fragments say. -/
structure Registers (symbols : SymbolTable) (fragments : List Fragment) : Prop where
  placed : ∀ fragment ∈ fragments, ∃ position, fragment.position = some position
  known : ∀ name, symbols.get? name = fragments.findSome? (symbol? name)

theorem Registers.empty {symbols : SymbolTable} (unnamed : ∀ name, symbols.get? name = none) :
    Registers symbols [] where
  placed := by simp
  known := unnamed

theorem Registers.get?_eq {symbols : SymbolTable} {fragments : List Fragment}
    (registers : Registers symbols fragments) (name : String) :
    symbols.get? name = (fragments.find? (labels name)).bind (symbol? name) := by
  rw [registers.known, findSome?_symbol? name registers.placed]

/-- The first label of a name gives the symbol its position, its kind and its place. -/
theorem Registers.get?_first {symbols : SymbolTable} {fragments : List Fragment} {name : String}
    {fragment : Fragment} (registers : Registers symbols fragments)
    (first : fragments.find? (labels name) = some fragment) :
    ∃ label position, fragment.label? = some label ∧ fragment.position = some position ∧
      symbols.get? name = some { position, kind := label.kind, loc := fragment.loc } := by
  obtain ⟨position, here⟩ := registers.placed fragment (List.mem_of_find?_eq_some first)
  obtain ⟨label, labelled, named⟩ : ∃ label, fragment.label? = some label ∧ label.name = name := by
    simpa [labels, Option.any_eq_true] using List.find?_some first
  refine ⟨label, position, labelled, here, ?_⟩
  rw [registers.get?_eq, first]
  simp [symbol?, labelled, here, named]

/-- The names with a symbol are the names of labels. -/
theorem Registers.get?_ne_none_iff {symbols : SymbolTable} {fragments : List Fragment}
    (registers : Registers symbols fragments) (name : String) :
    symbols.get? name ≠ none ↔
      ∃ fragment ∈ fragments, ∃ label, fragment.label? = some label ∧ label.name = name := by
  have labelled (fragment : Fragment) : labels name fragment = true ↔
      ∃ label, fragment.label? = some label ∧ label.name = name := by
    simp [labels, Option.any_eq_true]
  simp only [← labelled]
  cases first : fragments.find? (labels name) with
  | none =>
    have none_labelled := List.find?_eq_none.mp first
    simpa [registers.get?_eq, first] using none_labelled
  | some fragment =>
    obtain ⟨_, _, _, _, symbol⟩ := registers.get?_first first
    simp only [symbol, ne_eq, reduceCtorEq, not_false_eq_true, true_iff]
    exact ⟨fragment, List.mem_of_find?_eq_some first, List.find?_some first⟩

/-- A fragment that is registered is noted exactly if its name is taken. -/
theorem Registers.register_note {symbols : SymbolTable} {front : List Fragment}
    (registers : Registers symbols front) (fragment : Fragment) (position : UInt32) :
    (register symbols fragment position).2 =
      (clash? front { fragment with position := some position }).toList := by
  have same : label? { fragment with position := some position } = fragment.label? := rfl
  cases labelled : fragment.label? with
  | none =>
    rw [clash?_of_unlabelled (same.trans labelled)]
    simp [register, labelled]
  | some label =>
    cases first : front.find? (labels label.name) with
    | none =>
      have free : symbols.get? label.name = none := by rw [registers.get?_eq, first, Option.bind_none]
      simp [register, labelled, SymbolTable.define, free, clash?, same, first]
    | some fragment =>
      obtain ⟨_, _, _, _, taken⟩ := registers.get?_first first
      simp [register, labelled, SymbolTable.define, taken, clash?, same, first]

/-- A fragment that is registered joins those before it. -/
theorem Registers.register {symbols : SymbolTable} {front : List Fragment}
    (registers : Registers symbols front) (fragment : Fragment) (position : UInt32) :
    Registers (register symbols fragment position).1
      (front ++ [{ fragment with position := some position }]) where
  placed := by
    intro other member
    rcases List.mem_append.mp member with earlier | last
    · exact registers.placed other earlier
    · rw [List.mem_singleton.mp last]
      exact ⟨position, rfl⟩
  known name := by
    rw [register_get?, registers.known, List.findSome?_append]
    simp

/-- Placing fragments behind others registers them all, and its notes are those that they add. -/
theorem Registers.place {symbols : SymbolTable} {front fragments : List Fragment}
    {position stop : UInt32} (registers : Registers symbols front)
    (success : (place position symbols fragments).outcome = .ok stop) :
    Registers (place position symbols fragments).symbols
        (front ++ (place position symbols fragments).fragments) ∧
      clashes (front ++ (place position symbols fragments).fragments) =
        clashes front ++ (place position symbols fragments).clashes := by
  induction fragments generalizing front position symbols with
  | nil => simpa [Object.place] using registers
  | cons fragment rest ih =>
    cases next : positionAfter fragment position with
    | error failure => simp [Object.place, next] at success
    | ok behind =>
      simp only [Object.place, next] at success ⊢
      obtain ⟨joined, noted⟩ := ih (registers.register fragment position) success
      rw [List.append_cons]
      refine ⟨joined, ?_⟩
      rw [noted, clashes_concat, ← registers.register_note, List.append_assoc]

/-- Layout registers ROM, the strings and RAM in this order, and notes the labels that come too late. -/
theorem layout_registers {object result : Object} (success : layout.run object = .ok () result)
    (unnamed : ∀ name, object.symbols.get? name = none) :
    Registers result.symbols (result.rom.toList ++ result.ram.toList) ∧
      result.warnings.toList =
        object.warnings.toList ++ clashes (result.rom.toList ++ result.ram.toList) := by
  obtain ⟨_, romSize, romEnd, codeSize, romFits, _, ramFits, rfl⟩ := layout_ok success
  obtain ⟨romJoined, romNoted⟩ := (Registers.empty unnamed).place romFits
  rw [List.nil_append] at romJoined romNoted
  have unlabelled : (padding romSize romEnd).label? = none := rfl
  -- The padding is not placed with the others, but registering it would change nothing.
  have padded : Registers (place 0 object.symbols object.fullRom).symbols
      (_ ++ [padding romSize romEnd]) := romJoined.register (padding romSize romEnd) romSize
  obtain ⟨ramJoined, ramNoted⟩ := padded.place ramFits
  refine ⟨by simpa using ramJoined, ?_⟩
  rw [clashes_concat, clash?_of_unlabelled unlabelled, romNoted] at ramNoted
  simpa using ramNoted.symm

/-- A layout of an object without symbols makes a symbol of every name that a label has, and of no other. The
symbol has the position, the kind and the place of the first label of the name. Each further label of a name
is noted once, in order. -/
theorem layout_symbols {object result : Object} (success : layout.run object = .ok () result)
    (unnamed : ∀ name, object.symbols.get? name = none) :
    (∀ name, result.symbols.get? name ≠ none ↔
      ∃ fragment ∈ result.rom.toList ++ result.ram.toList, ∃ label,
        fragment.label? = some label ∧ label.name = name) ∧
    (∀ name fragment, (result.rom.toList ++ result.ram.toList).find? (labels name) = some fragment →
      ∃ label position, fragment.label? = some label ∧ fragment.position = some position ∧
        result.symbols.get? name = some { position, kind := label.kind, loc := fragment.loc }) ∧
    result.warnings.toList =
      object.warnings.toList ++ clashes (result.rom.toList ++ result.ram.toList) := by
  obtain ⟨registers, noted⟩ := layout_registers success unnamed
  exact ⟨registers.get?_ne_none_iff, fun _ _ first => registers.get?_first first, noted⟩

/-- Two labels by the name of the entry come too late, one of them that of a string, and so does a label by
the name of a string. -/
theorem layout_symbols_contested : ∃ result, layout.run contested = .ok () result ∧
    (∀ name, contested.symbols.get? name = none) ∧ result.symbols.get? entryName ≠ none ∧
    result.warnings.toList = clashes (result.rom.toList ++ result.ram.toList) ∧
    clashes (result.rom.toList ++ result.ram.toList) = [
      .duplicateLabel "main" ⟨"a", 1⟩ .builtIn,
      .duplicateLabel "main" ⟨"a", 1⟩ ⟨"a", 2⟩,
      .duplicateLabel "_string0" .builtIn ⟨"a", 4⟩] := by
  have evaluated : passes (fun _ result => decide (
      (∃ fragment ∈ result.rom.toList ++ result.ram.toList,
        fragment.label?.map (·.name) = some entryName) ∧
      clashes (result.rom.toList ++ result.ram.toList) = [
        .duplicateLabel "main" ⟨"a", 1⟩ .builtIn,
        .duplicateLabel "main" ⟨"a", 1⟩ ⟨"a", 2⟩,
        .duplicateLabel "_string0" .builtIn ⟨"a", 4⟩])) (layout.run contested) = true := by
    decide +kernel
  have unnamed : ∀ name, contested.symbols.get? name = none := SymbolTable.get?_empty
  obtain ⟨_, result, success, passed⟩ := exists_of_passes evaluated
  obtain ⟨⟨fragment, member, labelled⟩, late⟩ := of_decide_eq_true passed
  obtain ⟨domain, _, noted⟩ := layout_symbols success unnamed
  refine ⟨result, success, unnamed, ?_, noted, late⟩
  obtain ⟨label, found, named⟩ := Option.map_eq_some_iff.mp labelled
  exact (domain entryName).mpr ⟨fragment, member, label, found, named⟩

end Object

end GlulxAsm
