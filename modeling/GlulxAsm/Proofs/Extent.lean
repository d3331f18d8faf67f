import GlulxAsm.Proofs.Resolution

/-! The size that layout counts for a body is the number of bytes that the body writes. A body writes
without a fault exactly if no name is left in it. -/
namespace GlulxAsm

namespace Instruction

theorem length_modeBytes (operands : List Operand) :
    (modeBytes operands).length = (operands.length + 1) / 2 := by
  fun_induction modeBytes operands with
  | case1 => rfl
  | case2 only => simp
  | case3 low high rest ih =>
    simp only [List.length_cons, ih]
    omega

theorem valuesFrom_cons (final : Int32 → Int32) (operand : Operand) (rest : List Operand)
    {value : Int32} (literal : operand.machineValue? = some value) :
    valuesFrom final (operand :: rest) = (valuesFrom final rest).map
      ((if rest.isEmpty && operand.mode = .constant then final value else value) :: ·) := by
  simp [valuesFrom, literal]

/-- The values of a list are the value of its first operand and those of the rest. -/
theorem valuesFrom_cons_ok {final : Int32 → Int32} {operand : Operand} {rest : List Operand}
    {values : List Int32} (success : valuesFrom final (operand :: rest) = .ok values) :
    ∃ value others, operand.machineValue? = some value ∧ valuesFrom final rest = .ok others ∧
      values = (if rest.isEmpty && operand.mode = .constant then final value else value) :: others := by
  cases found : operand.machineValue? with
  | none => simp [valuesFrom, found] at success
  | some value =>
    rw [valuesFrom_cons final operand rest found] at success
    cases later : valuesFrom final rest with
    | error _ =>
      rw [later] at success
      cases success
    | ok others =>
      rw [later] at success
      cases success
      exact ⟨value, others, rfl, rfl, rfl⟩

theorem machineValue?_eq_none_iff (operand : Operand) :
    operand.machineValue? = none ↔ ∃ name, operand.symbol? = some name := by
  cases found : operand.value <;>
    simp [Operand.machineValue?, Operand.literal?, Operand.symbol?, found]

/-- The values of an instruction can be told exactly if no name is left in it. -/
theorem valuesFrom_ok_iff (final : Int32 → Int32) (operands : List Operand) :
    (∃ values, valuesFrom final operands = .ok values) ↔ Operand.names operands = [] := by
  induction operands with
  | nil => simp [valuesFrom, Operand.names]
  | cons operand rest ih =>
    cases found : operand.machineValue? with
    | none =>
      obtain ⟨name, symbolic⟩ := (machineValue?_eq_none_iff operand).mp found
      simp [valuesFrom, found, Operand.names, symbolic]
    | some value =>
      have literal : operand.symbol? = none := by
        cases symbolic : operand.symbol? with
        | none => rfl
        | some name => simp [(machineValue?_eq_none_iff operand).mpr ⟨name, symbolic⟩] at found
      have same : Operand.names (operand :: rest) = Operand.names rest := by
        simp [Operand.names, literal]
      rw [valuesFrom_cons final operand rest found, same, ← ih]
      cases valuesFrom final rest <;> simp [Except.map]

theorem length_valuesFrom {final : Int32 → Int32} {operands : List Operand} {values : List Int32}
    (success : valuesFrom final operands = .ok values) : values.length = operands.length := by
  induction operands generalizing values with
  | nil =>
    cases success
    rfl
  | cons operand rest ih =>
    obtain ⟨value, others, _, later, rfl⟩ := valuesFrom_cons_ok success
    simp [ih later]

/-- The bytes of operand values, one behind the other. -/
def valueBytes (operands : List Operand) (values : List Int32) : List UInt8 :=
  (List.zipWith (fun operand value => operand.width.encode value) operands values).flatten

@[simp] theorem valueBytes_cons (operand : Operand) (rest : List Operand) (value : Int32)
    (others : List Int32) : valueBytes (operand :: rest) (value :: others) =
      operand.width.encode value ++ valueBytes rest others := by
  simp [valueBytes]

private theorem length_valueBytes {operands : List Operand} {values : List Int32}
    (same : values.length = operands.length) :
    (valueBytes operands values).length = operands.foldr (·.width.bytes + ·) 0 := by
  induction operands generalizing values with
  | nil => simp [valueBytes]
  | cons operand rest ih =>
    cases values with
    | nil => simp at same
    | cons value others =>
      have tail : (valueBytes rest others).length = rest.foldr (·.width.bytes + ·) 0 :=
        ih (by simpa using same)
      simp [tail]

theorem values_ok_iff (instruction : Instruction) (position : UInt32) :
    (∃ values, instruction.values position = .ok values) ↔
      Operand.names instruction.operands = [] :=
  valuesFrom_ok_iff _ _

/-- The parts that a written instruction consists of. -/
theorem encode_eq_ok_iff (instruction : Instruction) (position : UInt32) (bytes : List UInt8) :
    instruction.encode position = .ok bytes ↔ ∃ values, instruction.values position = .ok values ∧
      bytes = Opcode.encode instruction.mnemonic.opcode ++ modeBytes instruction.operands ++
        valueBytes instruction.operands values := by
  cases found : instruction.values position with
  | error operand => simp [encode, found, bind, Except.bind]
  | ok values => simp [encode, found, bind, Except.bind, pure, Except.pure, valueBytes, eq_comm]

theorem length_encode {instruction : Instruction} {position : UInt32} {bytes : List UInt8}
    (success : instruction.encode position = .ok bytes) : bytes.length = instruction.size := by
  obtain ⟨values, found, rfl⟩ := (encode_eq_ok_iff instruction position bytes).mp success
  simp [size, length_modeBytes, length_valueBytes (length_valuesFrom found), Nat.add_assoc]

theorem encode_ok_iff (instruction : Instruction) (position : UInt32) :
    (∃ bytes, instruction.encode position = .ok bytes) ↔
      Operand.names instruction.operands = [] := by
  have parts := encode_eq_ok_iff instruction position
  rw [← values_ok_iff instruction position]
  constructor
  · rintro ⟨bytes, success⟩
    obtain ⟨values, found, _⟩ := (parts bytes).mp success
    exact ⟨values, found⟩
  · rintro ⟨values, found⟩
    exact ⟨_, (parts _).mpr ⟨values, found, rfl⟩⟩

end Instruction

namespace Label

private theorem length_localPairs (locals : Nat) :
    (localPairs locals).length = 2 * ((locals + 254) / 255) := by
  simp only [localPairs, List.length_append, List.length_flatten, List.map_replicate,
    List.sum_replicate_nat, List.length_cons, List.length_nil]
  split
  · simp only [List.length_nil]
    omega
  · simp only [List.length_cons, List.length_nil]
    omega

theorem length_encode (label : Label) : label.encode.length = label.size := by
  cases tag : label.kind.functionTag? with
  | none => simp [encode, size, LabelKind.isFunction, tag]
  | some byte =>
    simp [encode, size, LabelKind.isFunction, tag, length_localPairs]
    omega

end Label

namespace WordTable

theorem encodeItems_of_names {items : List Operand} (complete : Operand.names items = []) :
    (encodeItems items).2 = none ∧ (encodeItems items).1.length = 4 * items.length := by
  induction items with
  | nil => exact ⟨rfl, rfl⟩
  | cons item rest ih =>
    have literal : item.symbol? = none ∧ Operand.names rest = [] := by
      simpa [Operand.names] using complete
    cases found : item.machineValue? with
    | none =>
      obtain ⟨name, symbolic⟩ := (Instruction.machineValue?_eq_none_iff item).mp found
      simp [literal.1] at symbolic
    | some value =>
      obtain ⟨done, length⟩ := ih literal.2
      simp only [encodeItems, found]
      refine ⟨done, ?_⟩
      simp [length]
      omega

private theorem encodeItems_names {items : List Operand} (done : (encodeItems items).2 = none) :
    Operand.names items = [] := by
  induction items with
  | nil => rfl
  | cons item rest ih =>
    cases found : item.machineValue? with
    | none => simp [encodeItems, found] at done
    | some value =>
      have literal : item.symbol? = none := by
        cases symbolic : item.symbol? with
        | none => rfl
        | some name =>
          simp [(Instruction.machineValue?_eq_none_iff item).mpr ⟨name, symbolic⟩] at found
      simp only [encodeItems, found] at done
      simpa [Operand.names, literal] using ih done

private theorem encode_fault (table : WordTable) : table.encode.2 = (encodeItems table.items).2 := by
  unfold encode
  split <;> simp_all

theorem length_encode {table : WordTable} (complete : Operand.names table.items = []) :
    table.encode.1.length = 4 * table.words := by
  obtain ⟨done, length⟩ := encodeItems_of_names complete
  have room : table.items.length ≤ table.words := Nat.le_max_left ..
  unfold encode
  split
  · simp_all
  · next bytes _ found =>
    rw [found] at length
    simp only [List.length_append, List.length_replicate, length]
    omega

end WordTable

namespace Fragment.Body

theorem emit_words (table : WordTable) (position : UInt32) :
    emit position (.words table) = ⟨table.encode.1, table.encode.2.map .unresolvedWord⟩ := by
  match found : table.encode with
  | (bytes, some item) => simp [emit, found]
  | (bytes, none) => simp [emit, found]

theorem emit_instruction {instruction : Instruction} {position : UInt32}
    (whole : (emit position (.instruction instruction)).fault = none) :
    instruction.encode position = .ok (emit position (.instruction instruction)).bytes := by
  cases found : instruction.encode position with
  | error operand => simp [emit, found] at whole
  | ok bytes => simp [emit, found]

/-- A body is written without a fault exactly if no name is left in it. -/
theorem emit_fault_iff (body : Body) (position : UInt32) :
    (body.emit position).fault = none ↔ Operand.names body.operands = [] := by
  cases body with
  | instruction i =>
    rw [operands, ← Instruction.encode_ok_iff i position]
    cases found : i.encode position <;> simp [emit, found]
  | label l => simp [emit, operands, Operand.names]
  | data d => simp [emit, operands, Operand.names]
  | words table =>
    rw [emit_words, Option.map_eq_none_iff, table.encode_fault, operands]
    exact ⟨WordTable.encodeItems_names, fun complete => (WordTable.encodeItems_of_names complete).1⟩

/-- A body that is written without a fault fills its extent. -/
theorem length_emit {body : Body} {position : UInt32}
    (complete : (body.emit position).fault = none) :
    (body.emit position).bytes.length = body.extent := by
  cases body with
  | instruction i =>
    cases found : i.encode position with
    | error operand => simp [emit, found] at complete
    | ok bytes => simpa [emit, found, extent] using Instruction.length_encode found
  | label l => exact l.length_encode
  | data d => rfl
  | words table =>
    rw [emit_words]
    exact table.length_encode ((emit_fault_iff _ position).mp complete)

end Fragment.Body

end GlulxAsm
