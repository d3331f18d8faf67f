import GlulxAsm.Proofs.Evolution
import GlulxAsm.Proofs.ImageContents

/-! Names in operands reach the image. Where an operand held a name, the image holds the value that the
name stands for once all fragments have positions: the value of its constant or the position of its first
label. -/
namespace GlulxAsm

/-- The word of a local variable is four times its slot, the word of anything else is its value. -/
theorem Operand.toNat_scaled (mode : Mode) (value : Int32) :
    ((scaled mode value).toUInt32.toNat : Int) =
      (if mode = .slot ∧ value ≠ -1 then 4 * value.toInt else value.toInt) % 0x100000000 := by
  rw [Word.toNat_toUInt32, scaled, stackTop]
  split
  · have four : (4 : Int32).toInt = 4 := rfl
    rw [Int32.toInt_mul, four, Int.mul_comm]
    exact Int.bmod_emod
  · rfl

namespace Instruction

/-- Where the value of an operand stands in its instruction. -/
def operandOffset (instruction : Instruction) (index : Nat) : Nat :=
  Opcode.width instruction.mnemonic.opcode + (instruction.operands.length + 1) / 2 +
    (instruction.operands.take index).foldr (·.width.bytes + ·) 0

/-- The operand that a branch stores as an offset: its last one, if it is a constant. -/
def isTarget (instruction : Instruction) (index : Nat) : Bool :=
  instruction.mnemonic.branch && index + 1 == instruction.operands.length &&
    instruction.operands[index]?.any (·.mode = .constant)

/-- The bytes of an operand's value stand behind those of the operands before it. -/
theorem valueBytes_at {final : Int32 → Int32} {operands : List Operand} {values : List Int32}
    {index : Nat} {operand : Operand} {value : Int32}
    (success : valuesFrom final operands = .ok values) (found : operands[index]? = some operand)
    (literal : operand.machineValue? = some value)
    (plain : index + 1 = operands.length → operand.mode = .constant → final value = value) :
    ∃ front back, valueBytes operands values = front ++ operand.width.encode value ++ back ∧
      front.length = (operands.take index).foldr (·.width.bytes + ·) 0 := by
  induction operands generalizing index values with
  | nil => simp at found
  | cons first rest ih =>
    obtain ⟨own, others, known, later, rfl⟩ := valuesFrom_cons_ok success
    cases index with
    | zero =>
      obtain rfl : first = operand := by simpa using found
      obtain rfl : own = value := Option.some.inj (known.symm.trans literal)
      have stored : (if rest.isEmpty && first.mode = .constant then final own else own) = own := by
        split
        · next last =>
          have both : rest = [] ∧ first.mode = .constant := by simpa using last
          exact plain (by simp [both.1]) both.2
        · rfl
      refine ⟨[], valueBytes rest others, ?_, rfl⟩
      rw [stored, valueBytes_cons, List.nil_append]
    | succ index =>
      obtain ⟨front, back, parts, length⟩ :=
        ih later (by simpa using found) (by simpa using plain)
      rw [valueBytes_cons, parts, ← List.append_assoc, ← List.append_assoc]
      refine ⟨_, back, rfl, ?_⟩
      simp [length]

/-- An operand of four bytes that is no branch target is written as a word at its place. -/
theorem encode_operand {instruction : Instruction} {position : UInt32} {bytes : List UInt8}
    {index : Nat} {operand : Operand} {value : Int32}
    (success : instruction.encode position = .ok bytes)
    (found : instruction.operands[index]? = some operand) (wide : operand.width = .four)
    (literal : operand.machineValue? = some value) (plain : instruction.isTarget index = false) :
    ∃ front back, bytes = front ++ Word.bytes value.toUInt32 ++ back ∧
      front.length = instruction.operandOffset index := by
  obtain ⟨values, known, rfl⟩ := (encode_eq_ok_iff instruction position bytes).mp success
  have kept : index + 1 = instruction.operands.length → operand.mode = .constant →
      (if instruction.mnemonic.branch then
        branchOffset value position (UInt32.ofNat instruction.size) else value) = value := by
    intro last constant
    have straight : instruction.mnemonic.branch = false := by
      simpa [isTarget, last, found, constant] using plain
    rw [straight]
    rfl
  obtain ⟨front, back, parts, length⟩ := valueBytes_at known found literal kept
  refine ⟨Opcode.encode instruction.mnemonic.opcode ++ modeBytes instruction.operands ++ front, back,
    ?_, ?_⟩
  · simp [parts, wide, Width.encode]
  · simp [operandOffset, length_modeBytes, length, Nat.add_assoc]

end Instruction

namespace WordTable

private theorem encodeItems_at {items : List Operand} {index : Nat} {item : Operand} {value : Int32}
    (complete : Operand.names items = []) (found : items[index]? = some item)
    (literal : item.machineValue? = some value) :
    ∃ front back, (encodeItems items).1 = front ++ Word.bytes value.toUInt32 ++ back ∧
      front.length = 4 * index := by
  induction items generalizing index with
  | nil => simp at found
  | cons first rest ih =>
    obtain ⟨own, known⟩ : ∃ own, first.machineValue? = some own := by
      cases told : first.machineValue? with
      | some own => exact ⟨own, rfl⟩
      | none =>
        obtain ⟨name, symbolic⟩ := (Instruction.machineValue?_eq_none_iff first).mp told
        simp [Operand.names, symbolic] at complete
    have others : Operand.names rest = [] := by
      simp only [Operand.names, List.filterMap_cons] at complete
      split at complete
      · exact complete
      · cases complete
    cases index with
    | zero =>
      obtain rfl : first = item := by simpa using found
      obtain rfl : own = value := Option.some.inj (known.symm.trans literal)
      exact ⟨[], (encodeItems rest).1, by simp [encodeItems, known], rfl⟩
    | succ index =>
      obtain ⟨front, back, parts, length⟩ := ih others (by simpa using found)
      refine ⟨Word.bytes own.toUInt32 ++ front, back, ?_, ?_⟩
      · simp [encodeItems, known, parts]
      · simp [length]
        omega

theorem encode_of_names {table : WordTable} (complete : Operand.names table.items = []) :
    table.encode.1 = (encodeItems table.items).1 ++
      List.replicate (4 * (table.words - table.items.length)) 0 := by
  have done := (encodeItems_of_names complete).1
  unfold encode
  split
  · simp_all
  · simp_all

/-- Behind its items a table holds zeros. -/
theorem encode_spare {table : WordTable} {index : Nat} (complete : Operand.names table.items = [])
    (behind : table.items.length ≤ index) (inside : index < table.words) :
    ∃ front back, table.encode.1 = front ++ Word.bytes 0 ++ back ∧ front.length = 4 * index := by
  have length := (encodeItems_of_names complete).2
  have zeros : List.replicate (4 * (table.words - table.items.length)) (0 : UInt8) =
      List.replicate (4 * (index - table.items.length)) 0 ++ Word.bytes 0 ++
        List.replicate (4 * (table.words - index - 1)) 0 := by
    have word : Word.bytes 0 = List.replicate 4 0 := rfl
    rw [word, List.replicate_append_replicate, List.replicate_append_replicate]
    congr 1
    omega
  refine ⟨(encodeItems table.items).1 ++ List.replicate (4 * (index - table.items.length)) 0,
    List.replicate (4 * (table.words - index - 1)) 0, ?_, ?_⟩
  · rw [encode_of_names complete, zeros]
    simp only [List.append_assoc]
  · rw [List.length_append, length, List.length_replicate]
    omega

end WordTable

namespace Fragment

namespace Body

/-- Where the value of an operand stands in its body. -/
def operandOffset : Body → Nat → Nat
  | instruction i, index => i.operandOffset index
  | words _, index => 4 * index
  | label _, _ => 0
  | data _, _ => 0

def isTarget : Body → Nat → Bool
  | instruction i, index => i.isTarget index
  | _, _ => false

variable {meaning : String → Int32 → Prop}

theorem Resolves.operands {earlier later : Body} (resolves : Resolves meaning earlier later) :
    List.Forall₂ (Operand.Resolves meaning) earlier.operands later.operands := by
  cases resolves with
  | instruction operands => exact operands
  | words items => exact items
  | label l => exact .nil
  | data d => exact .nil

private theorem Resolves.operandOffset_eq {earlier later : Body} (resolves : Resolves meaning earlier later)
    (index : Nat) : later.operandOffset index = earlier.operandOffset index := by
  cases resolves with
  | instruction operands =>
    simp only [operandOffset, Instruction.operandOffset, operands.length_eq,
      widths_eq (List.forall₂_take index operands)]
  | words items => rfl
  | label l => rfl
  | data d => rfl

private theorem Resolves.isTarget_eq {earlier later : Body} (resolves : Resolves meaning earlier later)
    {index : Nat} {operand : Operand} (found : earlier.operands[index]? = some operand) :
    later.isTarget index = earlier.isTarget index := by
  cases resolves with
  | @instruction mnemonic before after operands =>
    have here : before[index]? = some operand := found
    obtain ⟨other, there, one⟩ := forall₂_getElem? operands here
    simp [isTarget, Instruction.isTarget, operands.length_eq, here, there, one.mode_eq]
  | words items => rfl
  | label l => rfl
  | data d => rfl

/-- An operand of four bytes that is no branch target is written as a word at its place. -/
theorem emit_operand {body : Body} {position : UInt32} {index : Nat} {operand : Operand}
    {value : Int32} (whole : (body.emit position).fault = none)
    (found : body.operands[index]? = some operand) (wide : operand.width = .four)
    (literal : operand.machineValue? = some value) (plain : body.isTarget index = false) :
    ∃ front back, (body.emit position).bytes = front ++ Word.bytes value.toUInt32 ++ back ∧
      front.length = body.operandOffset index := by
  cases body with
  | instruction i =>
    exact Instruction.encode_operand (emit_instruction whole) found wide literal plain
  | words table =>
    have complete := (emit_fault_iff _ position).mp whole
    rw [operands] at found complete
    obtain ⟨front, back, parts, length⟩ := WordTable.encodeItems_at complete found literal
    refine ⟨front, back ++ List.replicate (4 * (table.words - table.items.length)) 0, ?_, length⟩
    rw [emit_words, WordTable.encode_of_names complete, parts, List.append_assoc _ back]
  | label l => simp [operands] at found
  | data d => simp [operands] at found

end Body

/-- What a written fragment puts into the content is what its body writes. -/
theorem WrittenIn.emit_body {content : List UInt8} {fragment : Fragment} {position : UInt32}
    (written : fragment.WrittenIn content) (placed : fragment.position = some position) :
    (fragment.body.emit position).fault = none ∧
      fragment.emit position.toNat = fragment.body.emit position ∧
      fragment.size.toNat = fragment.body.extent := by
  obtain ⟨same, found, emitted⟩ := written
  obtain rfl : position = same := Option.some.inj (placed.symm.trans found)
  have whole : (fragment.emit position.toNat).fault = none := congrArg Emission.fault emitted
  obtain ⟨other, again, _, emission, length⟩ := emit_whole whole
  obtain rfl : position = other := Option.some.inj (placed.symm.trans again)
  rw [emission] at whole length
  exact ⟨whole, emission, length ▸ Body.length_emit whole⟩

/-- In a written fragment an operand that held a name holds a word of the name's value. -/
theorem WrittenIn.read_operand {content : List UInt8} {fragment : Fragment} {earlier : Body}
    {meaning : String → Int32 → Prop} {position : UInt32} {index : Nat} {mode : Mode} {name : String}
    (written : fragment.WrittenIn content) (placed : fragment.position = some position)
    (resolves : Body.Resolves meaning earlier fragment.body)
    (found : earlier.operands[index]? = some (.symbol mode name))
    (plain : earlier.isTarget index = false) :
    ∃ value, meaning name value ∧
      Word.read? content (position.toNat + earlier.operandOffset index) =
        some (Operand.scaled mode value).toUInt32 := by
  obtain ⟨whole, emission, _⟩ := written.emit_body placed
  obtain ⟨final, present, one⟩ := forall₂_getElem? resolves.operands found
  have known : final.symbol? = none :=
    List.filterMap_eq_nil_iff.mp written.names_eq_nil final (List.mem_of_getElem? present)
  cases literal : final.value with
  | symbol other => simp [Operand.symbol?, literal] at known
  | literal value =>
    have machine : final.machineValue? = some (Operand.scaled mode value) := by
      have same : final.mode = mode := one.mode_eq
      simp [Operand.machineValue?, Operand.literal?, literal, same]
    have straight : fragment.body.isTarget index = false :=
      (resolves.isTarget_eq found).trans plain
    obtain ⟨front, back, parts, length⟩ :=
      Body.emit_operand whole present one.width_eq machine straight
    refine ⟨value, one.meaning_of_literal rfl literal, ?_⟩
    rw [← resolves.operandOffset_eq index, ← length]
    exact written.read_word placed (emission ▸ parts)

/-- In a written word table the words behind the items are zero. -/
theorem WrittenIn.read_spare {content : List UInt8} {fragment : Fragment} {table : WordTable}
    {position : UInt32} {index : Nat} (written : fragment.WrittenIn content)
    (placed : fragment.position = some position) (shape : fragment.body = .words table)
    (behind : table.items.length ≤ index) (inside : index < table.words) :
    Word.read? content (position.toNat + 4 * index) = some 0 := by
  obtain ⟨whole, emission, _⟩ := written.emit_body placed
  rw [shape] at whole emission
  have complete := (Body.emit_fault_iff _ position).mp whole
  obtain ⟨front, back, parts, length⟩ := WordTable.encode_spare complete behind inside
  rw [← length]
  apply written.read_word placed
  rw [emission, Body.emit_words]
  exact parts

end Fragment

namespace Object

open Fragment

/-- What a name stands for among placed fragments: its constant, or else the position of its first
label. -/
inductive Stands (constants : ConstantTable) (fragments : List Fragment) (name : String) :
    Int32 → Prop where
  | constant {value : Int32} (known : constants.value? name = some value) :
      Stands constants fragments name value
  | label {label : Fragment} {position : UInt32} (free : constants.value? name = none)
      (first : fragments.find? (labels name) = some label)
      (placed : label.position = some position) : Stands constants fragments name position.toInt32

theorem Laid.stands {object : Object} (laid : object.Laid) {name : String} {value : Int32}
    (found : object.value? name = some value) :
    Stands object.constants (object.rom.toList ++ object.ram.toList) name value := by
  rw [Object.value?, nameValue?] at found
  cases known : object.constants.value? name with
  | some constant =>
    rw [known] at found
    cases found
    exact .constant known
  | none =>
    rw [known, Option.none_or] at found
    obtain ⟨symbol, named, rfl⟩ : ∃ symbol, object.symbols.get? name = some symbol ∧
        symbol.position.toInt32 = value := by
      simpa [SymbolTable.position?] using found
    rw [laid.get?_symbols] at named
    obtain ⟨label, first, told⟩ := Option.bind_eq_some_iff.mp named
    exact .label known first (symbol?_eq_some told).1

/-- The later fragment is the earlier one with names replaced by what they mean in the object. -/
def Settles (object : Object) (earlier later : Fragment) : Prop :=
  Body.Resolves (fun name value => object.value? name = some value) earlier.body later.body

/-- A build leaves what it found, in the same order, with the header's room in front of ROM and the
strings and zeros behind it. -/
theorem build_segments {object result : Object} {image : Image}
    (fresh : object.stage = .accumulating) (success : build.run object = .ok image result) :
    ∃ gap, List.Forall₂ result.Settles (object.fullRom ++ [filler gap]) result.rom.toList ∧
      List.Forall₂ result.Settles object.ram.toList result.ram.toList := by
  obtain ⟨laid, done, _, _, first, _, second, stage, _, _, rfl⟩ := build_ok success
  rcases first with ⟨_, laying⟩ | ⟨later, _⟩
  · obtain ⟨gap, _, romKept, ramKept⟩ := layout_segments laying
    have positioned : laid.stage = .positioned := by
      obtain ⟨_, _, _, _, _, _, _, rfl⟩ := layout_ok laying
      rfl
    rcases second with ⟨_, resolving⟩ | ⟨other, _⟩
    · obtain ⟨_, _, _, rfl⟩ := resolve_ok resolving
      have compose (one two three : Fragment) (alike : Alike one two) (resolves : Resolves
          (fun name value => laid.value? name = some value) two three) :
          laid.Settles one three := by
        have body := resolves.body
        rwa [alike.1] at body
      exact ⟨gap, forall₂_comp compose romKept (resolveAll_resolves ..),
        forall₂_comp compose ramKept (resolveAll_resolves ..)⟩
    · exact absurd positioned other
  · exact absurd fresh later

private theorem build_collected {object result : Object} {image : Image} {slot : Slot} {fragment : Fragment}
    (fresh : object.stage = .accumulating) (success : build.run object = .ok image result)
    (found : object.collected? slot = some fragment) :
    ∃ placed, result.collected? slot = some placed ∧ result.Settles fragment placed := by
  obtain ⟨gap, rom, ram⟩ := build_segments fresh success
  obtain ⟨_, stage, _⟩ := build_writes success
  cases slot with
  | rom index =>
    simp only [collected?, fresh, if_true] at found
    have present : (object.fullRom ++ [filler gap])[index + 1]? = some fragment := by
      have bound := (List.getElem?_eq_some_iff.mp found).1
      rw [fullRom, List.cons_append, List.cons_append, List.getElem?_cons_succ,
        List.append_assoc, List.getElem?_append_left bound, found]
    simpa [collected?, stage] using forall₂_getElem? rom present
  | ram index => exact forall₂_getElem? ram found

/-- Behind the room for the header, every fragment is written at its position. -/
theorem build_written {object result : Object} {image : Image} (sound : object.Sound)
    (success : build.run object = .ok image result) :
    ∀ fragment ∈ (result.rom.toList ++ result.ram.toList).tail, fragment.WrittenIn image.bytes := by
  obtain ⟨reserve, rest, whole, zeros⟩ := (build_laid sound success).reserve
  obtain ⟨_, _, _, _, _, written⟩ := build_writes success
  rw [whole] at written ⊢
  exact Image.write_written (reserve_size zeros) written

private theorem build_collected_written {object result : Object} {image : Image} {slot : Slot}
    {placed : Fragment} (sound : object.Sound) (success : build.run object = .ok image result)
    (present : result.collected? slot = some placed) : placed.WrittenIn image.bytes := by
  obtain ⟨reserve, rest, whole, _⟩ := (build_laid sound success).reserve
  obtain ⟨_, stage, _⟩ := build_writes success
  apply build_written sound success
  rw [whole]
  exact mem_of_collected? (by simp [stage]) whole present

/-- Where an operand held a name, unless it was the target of a branch, the image holds the machine value
of what the name stands for. -/
theorem build_reference {object result : Object} {image : Image} {slot : Slot} {fragment : Fragment}
    (sound : object.Sound) (fresh : object.stage = .accumulating)
    (success : build.run object = .ok image result) (found : object.collected? slot = some fragment) :
    ∃ placed position, result.collected? slot = some placed ∧ placed.position = some position ∧
      placed.WrittenIn image.bytes ∧ result.Settles fragment placed ∧
      ∀ index mode name, fragment.body.operands[index]? = some (.symbol mode name) →
        fragment.body.isTarget index = false →
        ∃ value, Stands object.constants (result.rom.toList ++ result.ram.toList) name value ∧
          Word.read? image.bytes (position.toNat + fragment.body.operandOffset index) =
            some (Operand.scaled mode value).toUInt32 := by
  obtain ⟨placed, present, settles⟩ := build_collected fresh success found
  have written := build_collected_written sound success present
  have ⟨position, here, _⟩ := written
  refine ⟨placed, position, present, here, written, settles, ?_⟩
  intro index mode name symbolic plain
  obtain ⟨value, means, read⟩ := written.read_operand here settles symbolic plain
  refine ⟨value, ?_, read⟩
  rw [← build_constants success]
  exact (build_laid sound success).stands means

/-- Wherever a name stood in an operand before the build, unless it was the target of a branch, the image
holds what the name stands for. A word table takes the words of its capacity, or of its items if they are
more, and the words behind its items are zero. -/
theorem reference_stored {object result : Object} {image : Image} {slot : Slot} {fragment : Fragment}
    (reachable : object.Reachable) (fresh : object.stage = .accumulating)
    (success : build.run object = .ok image result) (found : object.collected? slot = some fragment) :
    ∃ placed position, result.collected? slot = some placed ∧ placed.position = some position ∧
      (∀ index mode name, fragment.body.operands[index]? = some (.symbol mode name) →
        fragment.body.isTarget index = false →
        ∃ value word, Stands object.constants (result.rom.toList ++ result.ram.toList) name value ∧
          Word.read? image.bytes (position.toNat + fragment.body.operandOffset index) = some word ∧
          (word.toNat : Int) = (if mode = .slot ∧ value ≠ -1 then 4 * value.toInt
            else value.toInt) % 0x100000000) ∧
      ∀ table, fragment.body = .words table →
        placed.size.toNat = 4 * max (table.capacity.getD 0) table.items.length ∧
        ∀ index, table.items.length ≤ index →
          index < max (table.capacity.getD 0) table.items.length →
          Word.read? image.bytes (position.toNat + 4 * index) = some 0 := by
  obtain ⟨placed, position, present, here, written, settles, references⟩ :=
    build_reference reachable.sound fresh success found
  refine ⟨placed, position, present, here, ?_, ?_⟩
  · intro index mode name symbolic plain
    obtain ⟨value, stands, read⟩ := references index mode name symbolic plain
    exact ⟨value, _, stands, read, Operand.toNat_scaled mode value⟩
  · rintro table shape
    have sized := (written.emit_body here).2.2
    rw [Settles, shape] at settles
    obtain ⟨items, kept, count⟩ : ∃ items, placed.body = .words ⟨items, table.capacity⟩ ∧
        items.length = table.items.length := by
      generalize placed.body = later at settles
      cases settles with
      | words items => exact ⟨_, rfl, items.length_eq.symm⟩
    have words : WordTable.words ⟨items, table.capacity⟩ =
        max (table.capacity.getD 0) table.items.length := by
      rw [WordTable.words, count, Nat.max_comm]
    constructor
    · rw [sized, kept, Body.extent, words]
    · intro index behind inside
      exact written.read_spare here kept (count ▸ behind) (words ▸ inside)

/-- The word table in RAM holds the address of the function that it names. -/
theorem reference_stored_main :
    ∃ image result placed position value word, build.run branching = .ok image result ∧
      result.collected? (.ram 1) = some placed ∧ placed.position = some position ∧
      placed.size = 4 ∧
      Stands branching.constants (result.rom.toList ++ result.ram.toList) "main" value ∧
      Word.read? image.bytes position.toNat = some word ∧
      (word.toNat : Int) = value.toInt % 0x100000000 := by
  obtain ⟨image, result, success⟩ := branching_builds
  have collected : branching.collected? (.ram 1) = branching.ram.toList[1]? := rfl
  obtain ⟨placed, position, present, here, stored, sized⟩ :=
    reference_stored branching_reachable rfl success collected
  obtain ⟨value, word, stands, read, same⟩ := stored 0 .constant "main" rfl rfl
  have size : placed.size = 4 := UInt32.toNat_inj.mp (sized _ rfl).1
  exact ⟨image, result, placed, position, value, word, success, present, here, size, stands, read,
    by simpa using same⟩

end Object

end GlulxAsm
