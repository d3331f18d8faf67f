import GlulxAsm.Proofs.Decoder
import GlulxAsm.Proofs.Evolution
import GlulxAsm.Proofs.ImageContents

/-! Branches reach their labels. The offset that stands in the image leads from the end of the branch to
the first label of the name, and as no label lies inside an instruction, it is never one of the two offsets
that mean a return. -/
namespace GlulxAsm

namespace Instruction

/-- The values of an instruction end with the one of its constant last operand. -/
theorem valueBytes_last {final : Int32 → Int32} {operands : List Operand} {values : List Int32}
    {target : Operand} {value : Int32} (success : valuesFrom final operands = .ok values)
    (last : operands.getLast? = some target) (constant : target.mode = .constant)
    (literal : target.machineValue? = some value) :
    ∃ front, valueBytes operands values = front ++ target.width.encode (final value) := by
  induction operands generalizing values with
  | nil => cases last
  | cons operand rest ih =>
    obtain ⟨own, others, found, later, rfl⟩ := valuesFrom_cons_ok success
    cases rest with
    | nil =>
      obtain rfl : operand = target := by simpa using last
      obtain rfl : own = value := Option.some.inj (found.symm.trans literal)
      exact ⟨[], by simp [valueBytes, constant]⟩
    | cons next more =>
      obtain ⟨front, same⟩ := ih later (by simpa using last)
      refine ⟨operand.width.encode own ++ front, ?_⟩
      rw [List.append_assoc, ← same]
      simp [valueBytes]

/-- A branch with a known target ends with its offset in four bytes. -/
theorem encode_branch {instruction : Instruction} {position : UInt32} {bytes : List UInt8}
    {target : Operand} {value : Int32} (success : instruction.encode position = .ok bytes)
    (branch : instruction.mnemonic.branch = true)
    (last : instruction.operands.getLast? = some target) (constant : target.mode = .constant)
    (wide : target.width = .four) (literal : target.value = .literal value) :
    ∃ front, 2 ≤ front.length ∧ bytes = front ++ Word.bytes
      (branchOffset value position (UInt32.ofNat instruction.size)).toUInt32 := by
  obtain ⟨values, found, rfl⟩ := (encode_eq_ok_iff instruction position bytes).mp success
  have known : target.machineValue? = some value := by
    simp [Operand.machineValue?, Operand.literal?, literal, Operand.scaled, constant]
  obtain ⟨front, same⟩ := valueBytes_last found last constant known
  have some : instruction.operands ≠ [] := by
    intro empty
    simp [empty] at last
  have count : 0 < instruction.operands.length := List.length_pos_iff.mpr some
  refine ⟨Opcode.encode instruction.mnemonic.opcode ++ modeBytes instruction.operands ++ front,
    ?_, ?_⟩
  · have opcode : 0 < Opcode.width instruction.mnemonic.opcode := by
      unfold Opcode.width
      split <;> [skip; split] <;> decide
    simp only [List.length_append, Opcode.length_encode, length_modeBytes]
    omega
  · simp [same, wide, Width.encode, branch]

/-- An offset to a target outside the instruction leads there and is not 0 or 1. -/
theorem branchOffset_reaches {position size target : UInt32}
    (fits : position.toNat + size.toNat < 0x100000000) (long : 2 < size.toNat)
    (outside : target.toNat ≤ position.toNat ∨ position.toNat + size.toNat ≤ target.toNat) :
    branchOffset target.toInt32 position size ≠ 0 ∧
      branchOffset target.toInt32 position size ≠ 1 ∧
      ((position.toNat : Int) + size.toNat + (branchOffset target.toInt32 position size).toInt - 2) %
        0x100000000 = target.toNat := by
  have bound := target.toNat_lt
  have stop : (position + size).toNat = position.toNat + size.toNat := by
    rw [UInt32.toNat_add, Nat.mod_eq_of_lt fits]
  have signed (word : UInt32) : word.toInt32.toInt = (word.toNat : Int).bmod (0x100000000) :=
    BitVec.toInt_eq_toNat_bmod word.toBitVec
  have offset : (branchOffset target.toInt32 position size).toInt =
      ((target.toNat : Int) - (position.toNat + size.toNat : Nat) + 2).bmod (0x100000000) := by
    have two : (2 : Int32).toInt = 2 := rfl
    rw [branchOffset, Int32.toInt_add, Int32.toInt_sub, signed target, signed (position + size),
      stop, two, Int.bmod_sub_bmod, Int.sub_bmod_bmod, Int.bmod_add_bmod]
  generalize branchOffset target.toInt32 position size = stored at offset ⊢
  rw [Int.bmod_def] at offset
  refine ⟨?_, ?_, ?_⟩
  · rintro rfl
    rw [Int32.toInt_zero] at offset
    split at offset <;> omega
  · rintro rfl
    have one : (1 : Int32).toInt = 1 := rfl
    rw [one] at offset
    split at offset <;> omega
  · split at offset <;> omega

end Instruction

namespace Object

open Fragment

/-- The target of a branch is what its name denotes, in four bytes. -/
theorem branch_target {mnemonic : Mnemonic} {operands resolved : List Operand} {target : Operand}
    {name : String} {meaning : String → Int32 → Prop} (branch : mnemonic.branch = true)
    (last : operands.getLast? = some target) (constant : target.mode = .constant)
    (symbolic : target.value = .symbol name)
    (steps : List.Forall₂ (Operand.Resolves meaning)
      (Instruction.make mnemonic operands).operands resolved)
    (complete : Operand.names resolved = []) :
    ∃ final value, resolved.getLast? = some final ∧ final.mode = .constant ∧
      final.width = .four ∧ final.value = .literal value ∧ meaning name value := by
  have widened : (Instruction.make mnemonic operands).operands.getLast? =
      some { target with width := .four } := by
    simp [Instruction.make, branch, Instruction.getLast?_mapLast, last, Operand.widened, constant]
  obtain ⟨final, present, one⟩ := Operand.Resolves.getLast? steps widened
  have known : final.symbol? = none :=
    List.filterMap_eq_nil_iff.mp complete final (List.mem_of_getLast? present)
  cases literal : final.value with
  | symbol other => simp [Operand.symbol?, literal] at known
  | literal value =>
    exact ⟨final, value, present, one.mode_eq.trans constant, one.width_eq, literal,
      one.meaning_of_literal symbolic literal⟩

/-- In a laid-out object, the offset of a written branch leads to its label. -/
theorem Laid.written_branch {object : Object} (laid : object.Laid) {content : List UInt8}
    {placed label : Fragment} {instruction : Instruction} {final : Operand} {goal : UInt32}
    (member : placed ∈ object.rom.toList ++ object.ram.toList) (written : placed.WrittenIn content)
    (shape : placed.body = .instruction instruction) (branch : instruction.mnemonic.branch = true)
    (last : instruction.operands.getLast? = some final) (constant : final.mode = .constant)
    (wide : final.width = .four) (literal : final.value = .literal goal.toInt32)
    (present : label ∈ object.rom.toList ++ object.ram.toList) {kind : Label}
    (labelled : label.label? = some kind) (there : label.position = some goal) :
    ∃ position offset, placed.position = some position ∧
      Word.read? content (position.toNat + instruction.size - 4) = some offset ∧
      offset.toInt32 ≠ 0 ∧ offset.toInt32 ≠ 1 ∧
      ((position.toNat : Int) + instruction.size + offset.toInt32.toInt - 2) % 0x100000000 =
        goal.toNat := by
  have tiles := laid.rom.append laid.ram
  obtain ⟨position, here, _, inside⟩ := tiles.bounds member
  obtain ⟨same, again, emitted⟩ := written
  obtain rfl : position = same := Option.some.inj (here.symm.trans again)
  have whole : (placed.emit position.toNat).fault = none := congrArg Emission.fault emitted
  obtain ⟨other, placement, _, emission, length⟩ := emit_whole whole
  obtain rfl : position = other := Option.some.inj (here.symm.trans placement)
  rw [shape] at emission
  rw [emission] at whole length
  have encoded := Body.emit_instruction whole
  obtain ⟨front, long, parts⟩ :=
    Instruction.encode_branch encoded branch last constant wide literal
  have sized : UInt32.ofNat instruction.size = placed.size := by
    rw [Fragment.size, shape]
    rfl
  have size : instruction.size = placed.size.toNat := by
    rw [← length, Instruction.length_encode encoded]
  have ending : front.length + 4 = instruction.size := by
    rw [← Instruction.length_encode encoded, parts, List.length_append, Word.length_bytes]
  have different : placed ≠ label := by
    rintro rfl
    simp [label?, shape] at labelled
  have outside := tiles.apart member present different here there
  have bound := object.codeSize.toNat_lt
  have fits : position.toNat + placed.size.toNat < 0x100000000 := by omega
  have room : 2 < placed.size.toNat := by omega
  have beyond : goal.toNat ≤ position.toNat ∨ position.toNat + placed.size.toNat ≤ goal.toNat := by
    omega
  obtain ⟨notZero, notOne, reaches⟩ := Instruction.branchOffset_reaches fits room beyond
  refine ⟨position, (Instruction.branchOffset goal.toInt32 position placed.size).toUInt32, here,
    ?_, notZero, notOne, ?_⟩
  · have start : position.toNat + instruction.size - 4 = position.toNat + front.length := by omega
    rw [start]
    exact WrittenIn.read_word ⟨position, here, emitted⟩ here
      (by rw [emission, parts, sized, List.append_nil])
  · rw [size]
    exact reaches

/-- A branch to a label that no constant hides. Whatever else is done between its collection and the
build, the offset in its last four bytes leads to the first label of the name, and it is not one of the
offsets that mean a return. -/
theorem branch_reaches_label {start object result : Object} {operations : List Operation}
    {image : Image} {slot : Slot} {fragment : Fragment} {mnemonic : Mnemonic}
    {operands : List Operand} {target : Operand} {name : String} (reachable : start.Reachable)
    (continued : Operation.runAll start operations = .ok object)
    (success : build.run object = .ok image result) (found : start.collected? slot = some fragment)
    (made : fragment.body = .instruction (.make mnemonic operands))
    (branch : mnemonic.branch = true) (last : operands.getLast? = some target)
    (constant : target.mode = .constant) (symbolic : target.value = .symbol name)
    (free : object.constants.get? name = none) :
    ∃ placed resolved position label goal offset, result.collected? slot = some placed ∧
      placed.body = .instruction ⟨mnemonic, resolved⟩ ∧ placed.position = some position ∧
      (result.rom.toList ++ result.ram.toList).find? (labels name) = some label ∧
      label.position = some goal ∧
      Word.read? image.bytes (position.toNat + (Instruction.make mnemonic operands).size - 4) =
        some offset ∧
      offset.toInt32 ≠ 0 ∧ offset.toInt32 ≠ 1 ∧
      ((position.toNat : Int) + (Instruction.make mnemonic operands).size +
        offset.toInt32.toInt - 2) % 0x100000000 = goal.toNat := by
  have earlier := Operation.runAll_steps continued
  obtain ⟨building, stage, _, header, _, written⟩ := build_writes success
  have laid := build_laid (earlier.sound reachable.sound) success
  have later : result.stage ≠ .accumulating := by simp [stage]
  have evolved := Steps.evolves (earlier.trans building) fun excess => later excess.1
  obtain ⟨placed, present, resolves⟩ := evolved.kept slot fragment found
  rw [made] at resolves
  obtain ⟨resolved, (shape : placed.body = .instruction ⟨mnemonic, resolved⟩), steps⟩ :=
    resolves.exists_instruction
  obtain ⟨reserve, rest, whole, zeros⟩ := laid.reserve
  have member := mem_of_collected? later whole present
  rw [whole] at written
  have inImage := Image.write_written (reserve_size zeros) written placed member
  have complete := inImage.names_eq_nil
  rw [shape] at complete
  obtain ⟨final, value, final_last, mode, wide, literal, means⟩ :=
    branch_target branch last constant symbolic steps complete
  have labelled := means.2 (build_constants success ▸ free)
  obtain ⟨symbol, named, rfl⟩ : ∃ symbol, result.symbols.get? name = some symbol ∧
      symbol.position.toInt32 = value := by
    simpa [SymbolTable.position?] using labelled
  rw [laid.get?_symbols] at named
  obtain ⟨label, first, told⟩ := Option.bind_eq_some_iff.mp named
  obtain ⟨there, kind, labelled, _⟩ := symbol?_eq_some told
  have size : Instruction.size ⟨mnemonic, resolved⟩ = (Instruction.make mnemonic operands).size := by
    have same := resolves.extent_eq
    rw [shape] at same
    exact same
  have everywhere : placed ∈ result.rom.toList ++ result.ram.toList := by
    rw [whole]
    exact List.mem_cons_of_mem _ member
  obtain ⟨position, offset, here, read, notZero, notOne, reaches⟩ :=
    laid.written_branch everywhere inImage shape branch final_last mode wide literal
      (List.mem_of_find?_eq_some first) labelled there
  rw [size] at read reaches
  exact ⟨placed, resolved, position, label, symbol.position, offset, present, shape, here, first,
    there, read, notZero, notOne, reaches⟩

/-- A branch of six bytes in ROM to a label in RAM. -/
theorem branch_reaches_label_again :
    ∃ image result position label goal offset, build.run branching = .ok image result ∧
      (result.rom.toList ++ result.ram.toList).find? (labels "again") = some label ∧
      label.position = some goal ∧ Word.read? image.bytes (position + 2) = some offset ∧
      offset.toInt32 ≠ 0 ∧ offset.toInt32 ≠ 1 ∧
      ((position : Int) + 6 + offset.toInt32.toInt - 2) % 0x100000000 = goal.toNat := by
  obtain ⟨image, result, success⟩ := branching_builds
  have collected : branching.collected? (.rom 2) = branching.rom.toList[2]? := rfl
  have untouched : Operation.runAll branching [] = .ok branching := rfl
  have free : branching.constants.get? "again" = none := Std.ExtTreeMap.getElem?_empty
  obtain ⟨_, _, position, label, goal, offset, _, _, _, first, there, read, notZero, notOne, reaches⟩ :=
    branch_reaches_label branching_reachable untouched success collected rfl rfl rfl rfl rfl free
  exact ⟨image, result, position.toNat, label, goal, offset, success, first, there, read, notZero,
    notOne, reaches⟩

end Object

end GlulxAsm
