import GlulxAsm.Proofs.Accord
import GlulxAsm.Proofs.Positional
import GlulxAsm.Proofs.StatementReport

/-! Tables of bytes. A table is either one fragment that holds all its values, or it is turned down for its
size or for the first value that no field can hold, and then nothing of it is added. -/
namespace GlulxAsm

namespace Width

/-- The bytes of a cell are the digits of its value modulo what the cell can tell apart. -/
theorem positional_encode (width : Width) (value : Int32) :
    (Number.positional 0x100 ((width.encode value).map UInt8.toNat) : Int) =
      value.toInt % Nat.pow 2 (8 * width.bytes) := by
  have word := Word.toNat_toUInt32 value
  cases width with
  | zero => simp [encode, Number.positional, bytes]
  | one =>
    have digits : Number.positional 0x100 ((one.encode value).map UInt8.toNat) =
        value.toUInt32.toNat % 0x100 := by
      simp [encode, Number.positional]
    have cell : (Nat.pow 2 (8 * one.bytes) : Int) = 0x100 := rfl
    rw [digits, cell]
    omega
  | two =>
    have digits : Number.positional 0x100 ((two.encode value).map UInt8.toNat) =
        value.toUInt32.toNat / 0x100 % 0x100 * 0x100 + value.toUInt32.toNat % 0x100 := by
      simp [encode, Number.positional, Word.halfBytes, Nat.shiftRight_eq_div_pow]
    have cell : (Nat.pow 2 (8 * two.bytes) : Int) = 0x10000 := rfl
    rw [digits, cell]
    omega
  | four =>
    have digits : Number.positional 0x100 ((four.encode value).map UInt8.toNat) =
        (Word.ofBytes (value.toUInt32 >>> 24).toUInt8 (value.toUInt32 >>> 16).toUInt8
          (value.toUInt32 >>> 8).toUInt8 value.toUInt32.toUInt8).toNat := by
      rw [Word.toNat_ofBytes]
      simp [encode, Number.positional, Word.bytes, Nat.add_assoc]
    rw [digits, Word.ofBytes_bytes]
    exact word

theorem length_flatMap_encode (width : Width) (values : List Int32) :
    (values.flatMap width.encode).length = values.length * width.bytes := by
  simp [List.length_flatMap]

/-- Cells of one width stand at multiples of it. -/
theorem take_drop_flatMap (width : Width) {values : List Int32} {index : Nat} {value : Int32}
    (found : values[index]? = some value) (rest : List UInt8) :
    ((values.flatMap width.encode ++ rest).drop (index * width.bytes)).take width.bytes =
      width.encode value := by
  induction values generalizing index with
  | nil => simp at found
  | cons first others ih =>
    cases index with
    | zero =>
      obtain rfl : first = value := by simpa using found
      simp
    | succ index =>
      have behind : others[index]? = some value := by simpa using found
      rw [List.flatMap_cons, List.append_assoc, Nat.succ_mul, Nat.add_comm, ← List.drop_drop,
        List.drop_left' (length_encode width first), ih behind]

end Width

/-- A table of bytes as it is written: its label, the bits of a field, the size if one is given, and the
values. -/
structure ByteTable where
  label : String
  bits : Nat
  size? : Option Int32
  values : List Int32

namespace ByteTable

/-- How a table is written behind its head word. Its fields have one of three widths, and its size is not
negative. -/
inductive Written : String → List TokenKind → ByteTable → Prop where
  | bytes {bits : Nat} (legal : bits = 8 ∨ bits = 16 ∨ bits = 32) (label : String)
      (values : List Int32) :
      Written "bytes" (.int (Int32.ofNat bits) :: .ident label :: values.map .int)
        { label, bits, size? := none, values }
  | bytesFixed (label : String) {size : Int32} (positive : 0 ≤ size.toInt) (values : List Int32) :
      Written "bytesFixed" (.ident label :: .int size :: values.map .int)
        { label, bits := 8, size? := some size, values }

/-- A field takes what it can hold with or without a sign. -/
def Fits (bits : Nat) (value : Int32) : Prop :=
  -(Nat.pow 2 (bits - 1) : Int) ≤ value.toInt ∧ value.toInt ≤ Nat.pow 2 bits - 1

instance (bits : Nat) (value : Int32) : Decidable (Fits bits value) :=
  inferInstanceAs (Decidable (_ ∧ _))

/-- The size is beyond the limit, or there are more values than it has room for. -/
def Oversized (table : ByteTable) : Prop :=
  ∃ size ∈ table.size?, 0x1000000 < size.toInt ∨ size.toInt < table.values.length

/-- The number in a field of so many bits, the most significant byte first. -/
def field (bits : Nat) (bytes : List UInt8) (index : Nat) : Nat :=
  Number.positional 0x100 (((bytes.drop (index * bits / 8)).take (bits / 8)).map UInt8.toNat)

/-- Bytes that are the contents of a table. -/
structure Holds (table : ByteTable) (bytes : List UInt8) : Prop where
  whole : table.size? = none → bytes.length = table.values.length * table.bits / 8
  reserved : ∀ size ∈ table.size?, bytes.length = size.toInt
  fields : ∀ index value, table.values[index]? = some value →
    (field table.bits bytes index : Int) % Nat.pow 2 table.bits = value.toInt % Nat.pow 2 table.bits
  zeros : ∀ byte ∈ bytes.drop (table.values.length * table.bits / 8), byte = 0

private theorem holds_cells {width : Width} {table : ByteTable} (wide : table.bits = 8 * width.bytes)
    {spare : Nat} (whole : table.size? = none → spare = 0)
    (reserved : ∀ size ∈ table.size?, ↑(table.values.length * width.bytes + spare) = size.toInt) :
    table.Holds (table.values.flatMap width.encode ++ List.replicate spare 0) := by
  have bytes (count : Nat) : count * table.bits / 8 = count * width.bytes := by
    rw [wide, Nat.mul_left_comm, Nat.mul_div_cancel_left _ (by decide)]
  have one : table.bits / 8 = width.bytes := by
    simpa using bytes 1
  have length := width.length_flatMap_encode table.values
  refine ⟨?_, ?_, ?_, ?_⟩
  · intro plain
    rw [bytes, whole plain, List.replicate_zero, List.append_nil, length]
  · intro size given
    rw [List.length_append, length, List.length_replicate]
    exact reserved size given
  · intro index value found
    rw [field, bytes, one, width.take_drop_flatMap found, width.positional_encode, wide, Int.emod_emod]
  · rw [bytes, List.drop_left' length]
    exact fun byte member => List.eq_of_mem_replicate member

end ByteTable

namespace Directive

theorem cell_of_int (head : String) (width : Width) {token : Token} {value : Int32}
    (written : token.kind = .int value) : cell head width token =
      if fits width value then .ok (width.encode value)
      else .error (.capacity token.loc (.valueRange value (8 * width.bytes))) := by
  rw [cell, int_eq_ok_iff.mpr written]
  rfl

theorem mapM_cell_of_fits (head : String) {width : Width} {tokens : List Token} {values : List Int32}
    (kinds : tokens.map (·.kind) = values.map .int) (fit : ∀ value ∈ values, fits width value = true) :
    tokens.mapM (cell head width) = .ok (values.map width.encode) := by
  induction values generalizing tokens with
  | nil =>
    rw [List.map_eq_nil_iff.mp kinds]
    rfl
  | cons value rest ih =>
    obtain ⟨token, others, rfl, written, behind⟩ := List.map_eq_cons_iff.mp kinds
    obtain ⟨room, fit⟩ := List.forall_mem_cons.mp fit
    rw [List.mapM_cons, cell_of_int head width written, if_pos room, ih behind fit]
    rfl

private theorem cells_of_fits (head : String) {width : Width} {tokens : List Token} {values : List Int32}
    (kinds : tokens.map (·.kind) = values.map .int) (fit : ∀ value ∈ values, fits width value = true) :
    cells head width tokens = .ok (values.flatMap width.encode) := by
  rw [cells, mapM_cell_of_fits head kinds fit, List.flatMap_def]
  rfl

/-- The first value that does not fit is the one to blame. -/
theorem cells_of_misfit (head : String) {width : Width} {tokens : List Token}
    {front back : List Int32} {bad : Int32}
    (kinds : tokens.map (·.kind) = (front ++ bad :: back).map .int)
    (fit : ∀ value ∈ front, fits width value = true) (misfit : fits width bad ≠ true) :
    ∃ token, tokens[front.length]? = some token ∧ cells head width tokens =
      .error (.capacity token.loc (.valueRange bad (8 * width.bytes))) := by
  rw [List.map_append, List.map_cons] at kinds
  obtain ⟨before, _, rfl, first, rest⟩ := List.map_eq_append_iff.mp kinds
  obtain ⟨token, after, rfl, written, _⟩ := List.map_eq_cons_iff.mp rest
  have length : before.length = front.length := by simpa using congrArg List.length first
  refine ⟨token, ?_, ?_⟩
  · simp [← length]
  · rw [cells, List.mapM_append, mapM_cell_of_fits head first fit, List.mapM_cons,
      cell_of_int head width written, if_neg misfit]
    rfl

private theorem blockCount_of_excess (loc : Location) {itemBytes : Nat} {value : Int32}
    (positive : 0 ≤ value.toInt) (excess : Limit.blockBytes < value.toInt * itemBytes) :
    ∃ limit, blockCount loc itemBytes value = .error (.capacity loc limit) := by
  have count : (value.toUInt32.toNat : Int) = value.toInt := by
    have word := Word.toNat_toUInt32 value
    have bound : value.toInt < 0x80000000 := value.toInt_lt
    omega
  have full : ¬ value.toUInt32.toNat * itemBytes ≤ Limit.blockBytes := by
    rw [← count] at excess
    exact_mod_cast Int.not_le.mpr excess
  rw [blockCount, unsigned_eq_ok_iff.mpr ⟨positive, rfl⟩]
  refine ⟨.reservation value.toUInt32.toNat, ?_⟩
  simp only [bind, Except.bind, if_neg full]
  rfl

private theorem read_bytes (loc : Location) {one two : Token} {bits : Int32} {width : Width} {label : String}
    (number : one.kind = .int bits) (sized : cellWidth? bits = some width)
    (name : two.kind = .ident label) (tokens : List Token) :
    read "bytes" loc (one :: two :: tokens) =
      (cells "bytes" width tokens).map fun bytes => .data label ⟨bytes⟩ := by
  have reads : read "bytes" loc (one :: two :: tokens) =
    readBytes "bytes" loc (one :: two :: tokens) := rfl
  simp only [reads, readBytes, int_eq_ok_iff.mpr number, sized, ident_eq_ok_iff.mpr name, bind,
    Except.bind]
  cases cells "bytes" width tokens <;> rfl

theorem read_bytesFixed {loc : Location} {one two : Token} {label : String} {size : Int32}
    {count : Nat} (name : one.kind = .ident label) (number : two.kind = .int size)
    (counted : blockCount loc 1 size = .ok count) (tokens : List Token) :
    read "bytesFixed" loc (one :: two :: tokens) =
      if tokens.length ≤ count then
        (cells "bytesFixed" .one tokens).map fun bytes => .data label (.padded count bytes)
      else .error (.capacity loc (.byteBlock count tokens.length)) := by
  have reads : read "bytesFixed" loc (one :: two :: tokens) =
    readBytesFixed "bytesFixed" loc (one :: two :: tokens) := rfl
  simp only [reads, readBytesFixed, ident_eq_ok_iff.mpr name, int_eq_ok_iff.mpr number, counted, bind,
    Except.bind]
  cases cells "bytesFixed" .one tokens <;> rfl

/-- A size beyond the limit is an error before the values are looked at. -/
theorem read_bytesFixed_of_error {loc : Location} {one two : Token} {label : String} {size : Int32}
    {error : AsmError} (name : one.kind = .ident label) (number : two.kind = .int size)
    (failed : blockCount loc 1 size = .error error) (tokens : List Token) :
    read "bytesFixed" loc (one :: two :: tokens) = .error error := by
  have reads : read "bytesFixed" loc (one :: two :: tokens) =
    readBytesFixed "bytesFixed" loc (one :: two :: tokens) := rfl
  simp only [reads, readBytesFixed, ident_eq_ok_iff.mpr name, int_eq_ok_iff.mpr number, failed, bind,
    Except.bind]

end Directive

namespace ByteTable

open Directive

private theorem cellWidth?_of_legal {bits : Nat} (legal : bits = 8 ∨ bits = 16 ∨ bits = 32) :
    ∃ width, cellWidth? (Int32.ofNat bits) = some width ∧ bits = 8 * width.bytes ∧
      ∀ value, fits width value = true ↔ Fits bits value := by
  rcases legal with rfl | rfl | rfl
  · obtain ⟨_, sized, ends⟩ := cellWidth?_of_range .byte
    cases sized
    exact ⟨.one, rfl, rfl, ends⟩
  · obtain ⟨_, sized, ends⟩ := cellWidth?_of_range .half
    cases sized
    exact ⟨.two, rfl, rfl, ends⟩
  · obtain ⟨_, sized, ends⟩ := cellWidth?_of_range .word
    cases sized
    exact ⟨.four, rfl, rfl, ends⟩

/-- The table is read cell by cell, and the bytes of its cells are finished to its contents. -/
structure ReadByCells (table : ByteTable) (reading : Except AsmError Directive) (head : String)
    (tokens : List Token) (width : Width) (finish : List UInt8 → Data) : Prop where
  wide : table.bits = 8 * width.bytes
  ends : ∀ value, fits width value = true ↔ Fits table.bits value
  kinds : tokens.map (·.kind) = table.values.map .int
  holds : table.Holds (finish (table.values.flatMap width.encode)).bytes
  made : reading = (cells head width tokens).map fun bytes => .data table.label (finish bytes)

theorem Written.readByCells {head : String} {args : List Token} {table : ByteTable}
    (written : Written head (args.map (·.kind)) table) (room : ¬ table.Oversized) (loc : Location) :
    ∃ width finish, table.ReadByCells (read head loc args) head (args.drop 2) width finish := by
  generalize spelled : args.map (·.kind) = kinds at written
  cases written with
  | @bytes bits legal label values =>
    obtain ⟨width, sized, wide, ends⟩ := cellWidth?_of_legal legal
    obtain ⟨one, _, rfl, number, rest⟩ := List.map_eq_cons_iff.mp spelled
    obtain ⟨two, tokens, rfl, name, same⟩ := List.map_eq_cons_iff.mp rest
    have holds := @holds_cells width ⟨label, bits, none, values⟩ wide 0 (fun _ => rfl) (by simp)
    rw [List.replicate_zero, List.append_nil] at holds
    exact ⟨width, Data.mk, wide, ends, same, holds, read_bytes loc number sized name tokens⟩
  | @bytesFixed label size positive values =>
    have limits : size.toInt ≤ 0x1000000 ∧ values.length ≤ size.toInt := by
      simpa [Oversized] using room
    obtain ⟨_, sized, wide, ends⟩ := cellWidth?_of_legal (.inl rfl)
    cases sized
    obtain ⟨one, _, rfl, name, rest⟩ := List.map_eq_cons_iff.mp spelled
    obtain ⟨two, tokens, rfl, number, same⟩ := List.map_eq_cons_iff.mp rest
    have length : tokens.length = values.length := by simpa using congrArg List.length same
    have limit : (Limit.blockBytes : Int) = 0x1000000 := rfl
    have counted : blockCount loc 1 size = .ok size.toInt.toNat :=
      blockCount_eq_ok_iff.mpr ⟨positive, by omega, by omega⟩
    have made := read_bytesFixed name number counted tokens
    rw [if_pos (by omega)] at made
    refine ⟨.one, Data.padded size.toInt.toNat, wide, ends, same, ?_, made⟩
    refine holds_cells wide (by simp) ?_
    rintro _ ⟨⟩
    have bytes : (values.flatMap Width.one.encode).length = values.length * 1 :=
      Width.length_flatMap_encode .one values
    change (↑(values.length * 1 + (size.toInt.toNat - (values.flatMap Width.one.encode).length)) : Int) = _
    omega

private theorem Written.read_oversized {head : String} {args : List Token} {table : ByteTable}
    (written : Written head (args.map (·.kind)) table) (large : table.Oversized) (loc : Location) :
    ∃ limit, read head loc args = .error (.capacity loc limit) := by
  generalize spelled : args.map (·.kind) = kinds at written
  cases written with
  | bytes legal label values =>
    obtain ⟨_, given, _⟩ := large
    cases given
  | @bytesFixed label size positive values =>
    obtain ⟨one, _, rfl, name, rest⟩ := List.map_eq_cons_iff.mp spelled
    obtain ⟨two, tokens, rfl, number, same⟩ := List.map_eq_cons_iff.mp rest
    have length : tokens.length = values.length := by simpa using congrArg List.length same
    have limit : (Limit.blockBytes : Int) = 0x1000000 := rfl
    by_cases excess : 0x1000000 < size.toInt
    · obtain ⟨limit, failed⟩ := @blockCount_of_excess loc 1 size positive (by omega)
      exact ⟨limit, read_bytesFixed_of_error name number failed tokens⟩
    · have counted : blockCount loc 1 size = .ok size.toInt.toNat :=
        blockCount_eq_ok_iff.mpr ⟨positive, by omega, by omega⟩
      have crowded : size.toInt < values.length := by
        simpa [Oversized, excess] using large
      rw [read_bytesFixed name number counted tokens, if_neg (by omega)]
      exact ⟨_, rfl⟩

namespace ReadByCells

variable {table : ByteTable} {reading : Except AsmError Directive} {head : String}
  {tokens : List Token} {width : Width} {finish : List UInt8 → Data}

private theorem of_fits (read : table.ReadByCells reading head tokens width finish)
    (fit : ∀ value ∈ table.values, Fits table.bits value) :
    reading = .ok (.data table.label (finish (table.values.flatMap width.encode))) := by
  have room : ∀ value ∈ table.values, fits width value = true :=
    fun value member => (read.ends value).mpr (fit value member)
  rw [read.made, cells_of_fits head read.kinds room]
  rfl

theorem of_misfit (read : table.ReadByCells reading head tokens width finish)
    {front back : List Int32} {bad : Int32} (parts : table.values = front ++ bad :: back)
    (fit : ∀ value ∈ front, Fits table.bits value) (misfit : ¬ Fits table.bits bad) :
    ∃ token, tokens[front.length]? = some token ∧
      reading = .error (.capacity token.loc (.valueRange bad table.bits)) := by
  have kinds := read.kinds
  rw [parts] at kinds
  obtain ⟨token, found, failed⟩ := cells_of_misfit head kinds
    (fun value member => (read.ends value).mpr (fit value member)) (mt (read.ends bad).mp misfit)
  refine ⟨token, found, ?_⟩
  rw [read.made, failed, read.wide]
  rfl

end ReadByCells

private theorem exists_first_misfit {bits : Nat} {values : List Int32}
    (misfit : ∃ value ∈ values, ¬ Fits bits value) : ∃ front bad back,
      values = front ++ bad :: back ∧ (∀ value ∈ front, Fits bits value) ∧ ¬ Fits bits bad := by
  obtain ⟨bad, found⟩ : ∃ bad, values.find? (fun value => ¬ Fits bits value) = some bad := by
    rw [← Option.isSome_iff_exists, List.find?_isSome]
    simpa using misfit
  obtain ⟨bad_misfit, front, back, parts, fit⟩ := List.find?_eq_some_iff_append.mp found
  exact ⟨front, bad, back, parts, by simpa using fit, by simpa using bad_misfit⟩

private theorem data_of_read {head : String} (known : head = "bytes" ∨ head = "bytesFixed") {loc : Location}
    {args : List Token} {directive : Directive} (success : read head loc args = .ok directive) :
    ∃ label block, directive = .data label block := by
  rcases known with rfl | rfl
  · have made : readBytes "bytes" loc args = .ok directive := success
    unfold readBytes at made
    split at made
    · simp only [bind_eq_ok_iff] at made
      obtain ⟨bits, _, rest⟩ := made
      split at rest
      · simp only [bind_eq_ok_iff] at rest
        obtain ⟨label, _, bytes, _, same⟩ := rest
        cases same
        exact ⟨label, _, rfl⟩
      · cases rest
    · cases made
  · have made : readBytesFixed "bytesFixed" loc args = .ok directive := success
    unfold readBytesFixed at made
    split at made
    · simp only [bind_eq_ok_iff] at made
      obtain ⟨label, _, size, _, count, _, rest⟩ := made
      split at rest
      · simp only [bind_eq_ok_iff] at rest
        obtain ⟨bytes, _, same⟩ := rest
        cases same
        exact ⟨label, _, rfl⟩
      · cases rest
    · cases made

/-- A table is too large, or it is made, or one of its values does not fit. -/
theorem Written.read_cases {head : String} {args : List Token} {table : ByteTable}
    (written : Written head (args.map (·.kind)) table) (loc : Location) :
    (table.Oversized ∧ ∃ limit, read head loc args = .error (.capacity loc limit)) ∨
    (¬ table.Oversized ∧ (∀ value ∈ table.values, Fits table.bits value) ∧
      ∃ block, table.Holds block.bytes ∧ read head loc args = .ok (.data table.label block)) ∨
    (¬ table.Oversized ∧ (∃ value ∈ table.values, ¬ Fits table.bits value) ∧
      ∃ place limit, read head loc args = .error (.capacity place limit)) := by
  by_cases large : table.Oversized
  · exact .inl ⟨large, written.read_oversized large loc⟩
  obtain ⟨width, finish, read⟩ := written.readByCells large loc
  by_cases fit : ∀ value ∈ table.values, Fits table.bits value
  · exact .inr (.inl ⟨large, fit, _, read.holds, read.of_fits fit⟩)
  · have misfit : ∃ value ∈ table.values, ¬ Fits table.bits value := by simpa using fit
    obtain ⟨front, bad, back, parts, before, bad_misfit⟩ := exists_first_misfit misfit
    obtain ⟨token, _, failed⟩ := read.of_misfit parts before bad_misfit
    exact .inr (.inr ⟨large, misfit, token.loc, _, failed⟩)

private theorem written_of_read {head : String} (known : head = "bytes" ∨ head = "bytesFixed")
    {loc : Location} {args : List Token} {label : String} {block : Data}
    (success : read head loc args = .ok (.data label block)) :
    ∃ table, Written head (args.map (·.kind)) table := by
  rcases known with rfl | rfl
  · obtain ⟨bits, _, _, label, values, range, kinds, _⟩ :=
      (readBytes_accepted "bytes" loc args).mp ⟨_, success, trivial⟩
    rw [kinds]
    cases range with
    | byte => exact ⟨_, .bytes (.inl rfl) label values⟩
    | half => exact ⟨_, .bytes (.inr (.inl rfl)) label values⟩
    | word => exact ⟨_, .bytes (.inr (.inr rfl)) label values⟩
  · obtain ⟨label, size, values, ⟨positive, _⟩, _, kinds, _⟩ :=
      (readBytesFixed_accepted "bytesFixed" loc args).mp ⟨_, success, trivial⟩
    rw [kinds]
    exact ⟨_, .bytesFixed label positive values⟩

private theorem holds_of_read {head : String} (known : head = "bytes" ∨ head = "bytesFixed")
    {loc : Location} {args : List Token} {label : String} {block : Data}
    (success : read head loc args = .ok (.data label block)) :
    ∃ table, Written head (args.map (·.kind)) table ∧ table.label = label ∧
      table.Holds block.bytes := by
  obtain ⟨table, written⟩ := written_of_read known success
  rcases written.read_cases loc with ⟨_, _, failed⟩ | ⟨_, _, _, holds, made⟩ | ⟨_, _, _, _, failed⟩
  · cases success.symm.trans failed
  · cases success.symm.trans made
    exact ⟨table, written, rfl, holds⟩
  · cases success.symm.trans failed

end ByteTable

/-- The object with a label and a block behind it. -/
def Object.collectBlock (object : Object) (label : String) (block : Data) (loc : Location) : Object :=
  (object.collect { body := .label { name := label, kind := .data }, loc }).collect
    { body := .data block, loc }

namespace Statement

open ByteTable Object

variable {head : String} {loc : Location} {args : List Token}

/-- A block is added behind its label, and only to an object without a layout. -/
theorem run_of_read_data (unlabelled : labelName? head = none) {label : String} {block : Data}
    (made : Directive.read head loc args = .ok (.data label block)) (object : Object)
    (request : Option IncludeRequest) (after : Object) :
    (run (⟨.ident head, loc⟩ :: args)).run object = .ok request after ↔
      object.stage = .accumulating ∧ request = none ∧
        after = object.collectBlock label block loc := by
  rw [run_of_read unlabelled made (by simp)]
  simp only [perform, addLabelled, bind_assoc]
  by_cases fresh : object.stage = .accumulating
  · have behind : (object.collect { body := .label { name := label, kind := .data }, loc }).stage =
      .accumulating := (stage_collect object _).trans fresh
    rw [EStateM.run_bind, run_add fresh]
    dsimp only
    rw [EStateM.run_bind, run_add behind]
    simp only [EStateM.run_pure, EStateM.Result.ok.injEq, fresh, true_and]
    constructor
    · rintro ⟨rfl, rfl⟩
      exact ⟨rfl, rfl⟩
    · rintro ⟨rfl, rfl⟩
      exact ⟨rfl, rfl⟩
  · rw [EStateM.run_bind, add_rejected fresh]
    simp [fresh]

theorem unlabelled_table (known : head = "bytes" ∨ head = "bytesFixed") : labelName? head = none := by
  rcases known with rfl | rfl <;> rfl

private theorem holds_of_run_table (known : head = "bytes" ∨ head = "bytesFixed") {object after : Object}
    {request : Option IncludeRequest}
    (success : (run (⟨.ident head, loc⟩ :: args)).run object = .ok request after) :
    ∃ table block, Written head (args.map (·.kind)) table ∧ table.Holds block.bytes ∧
      request = none ∧ after = object.collectBlock table.label block loc := by
  have unlabelled := unlabelled_table known
  cases reading : Directive.read head loc args with
  | error error =>
    rw [run_of_read_error unlabelled reading] at success
    cases success
  | ok directive =>
    obtain ⟨label, block, rfl⟩ := data_of_read known reading
    obtain ⟨table, written, rfl, holds⟩ := holds_of_read known reading
    obtain ⟨_, none, same⟩ := (run_of_read_data unlabelled reading object request after).mp success
    exact ⟨table, block, written, holds, none, same⟩

private theorem run_table_cases (unlabelled : labelName? head = none) {object : Object}
    (fresh : object.stage = .accumulating) {table : ByteTable}
    (written : Written head (args.map (·.kind)) table) :
    ((¬ table.Oversized ∧ ∀ value ∈ table.values, Fits table.bits value) ∧
      ∃ after, (run (⟨.ident head, loc⟩ :: args)).run object = .ok none after) ∨
    ((table.Oversized ∨ ∃ value ∈ table.values, ¬ Fits table.bits value) ∧
      ∃ place limit, (run (⟨.ident head, loc⟩ :: args)).run object =
        .error (.capacity place limit) object) := by
  rcases written.read_cases loc with ⟨large, limit, failed⟩ | ⟨room, fit, block, _, made⟩ |
    ⟨_, misfit, place, limit, failed⟩
  · exact .inr ⟨.inl large, loc, limit, run_of_read_error unlabelled failed object⟩
  · have success := (run_of_read_data unlabelled made object none _).mpr ⟨fresh, rfl, rfl⟩
    exact .inl ⟨⟨room, fit⟩, _, success⟩
  · exact .inr ⟨.inr misfit, place, limit, run_of_read_error unlabelled failed object⟩

/-- A table that is accepted is one block behind its label that holds its values: field by field, or in the
first of the reserved bytes. A well-formed table is turned down exactly if it is too large or has a value that
no field can hold. Then the object is unchanged, and a value is reported at the first that does not fit. -/
theorem byte_tables (known : head = "bytes" ∨ head = "bytesFixed") {object : Object}
    {outcome : EStateM.Result AsmError Object (Option IncludeRequest)}
    (ran : (run (⟨.ident head, loc⟩ :: args)).run object = outcome) :
    (∀ request after, outcome = .ok request after → ∃ table block,
      Written head (args.map (·.kind)) table ∧ table.Holds block.bytes ∧
      request = none ∧ after = object.collectBlock table.label block loc) ∧
    ∀ table, object.stage = .accumulating → Written head (args.map (·.kind)) table →
      ((∃ place limit, outcome = .error (.capacity place limit) object) ↔
        table.Oversized ∨ ∃ value ∈ table.values, ¬ Fits table.bits value) ∧
      ((∃ after, outcome = .ok none after) ↔
        ¬ table.Oversized ∧ ∀ value ∈ table.values, Fits table.bits value) ∧
      ∀ front bad back, ¬ table.Oversized → table.values = front ++ bad :: back →
        (∀ value ∈ front, Fits table.bits value) → ¬ Fits table.bits bad →
        ∃ token, args[2 + front.length]? = some token ∧
          outcome = .error (.capacity token.loc (.valueRange bad table.bits)) object := by
  subst ran
  have unlabelled := unlabelled_table known
  refine ⟨fun request after success => holds_of_run_table known success, ?_⟩
  intro table fresh written
  have apart : (table.Oversized ∨ ∃ value ∈ table.values, ¬ Fits table.bits value) →
      ¬ (¬ table.Oversized ∧ ∀ value ∈ table.values, Fits table.bits value) := by
    rintro (large | ⟨value, member, misfit⟩) ⟨room, fit⟩
    · exact room large
    · exact misfit (fit value member)
  refine ⟨?_, ?_, ?_⟩
  · rcases run_table_cases unlabelled fresh written with ⟨accepted, after, success⟩ | ⟨refused, failed⟩
    · refine iff_of_false ?_ fun refused => apart refused accepted
      rw [success]
      simp
    · exact iff_of_true failed refused
  · rcases run_table_cases unlabelled fresh written with
      ⟨accepted, success⟩ | ⟨refused, place, limit, failed⟩
    · exact iff_of_true success accepted
    · refine iff_of_false ?_ (apart refused)
      rw [failed]
      simp
  · intro front bad back room parts fit misfit
    obtain ⟨width, finish, read⟩ := written.readByCells room loc
    obtain ⟨token, found, failed⟩ := read.of_misfit parts fit misfit
    rw [List.getElem?_drop] at found
    exact ⟨token, found, run_of_read_error unlabelled failed object⟩

/-- The ends of the range of a field fit it. Of two values that do not fit, the first is reported. -/
theorem byte_tables_ends :
    (∃ table block, Written "bytes" [.int 16, .ident "t", .int (-0x8000), .int 0xffff] table ∧
      table.Holds block.bytes ∧
      (run [⟨.ident "bytes", { line := 1 }⟩, ⟨.int 16, { line := 1 }⟩, ⟨.ident "t", { line := 1 }⟩,
        ⟨.int (-0x8000), { line := 1 }⟩, ⟨.int 0xffff, { line := 1 }⟩]).run {} =
        .ok none (Object.collectBlock {} table.label block { line := 1 })) ∧
    (run [⟨.ident "bytesFixed", { line := 1 }⟩, ⟨.ident "t", { line := 1 }⟩, ⟨.int 3, { line := 1 }⟩,
      ⟨.int 0xff, { line := 2 }⟩, ⟨.int 0x100, { line := 3 }⟩, ⟨.int (-0x81), { line := 4 }⟩]).run {} =
      .error (.capacity { line := 3 } (.valueRange 0x100 8)) {} := by
  constructor
  · have written : Written "bytes" [.int 16, .ident "t", .int (-0x8000), .int 0xffff]
        ⟨"t", 16, none, [-0x8000, 0xffff]⟩ := .bytes (.inr (.inl rfl)) "t" [-0x8000, 0xffff]
    have room : ¬ Oversized ⟨"t", 16, none, [-0x8000, 0xffff]⟩ := by simp [Oversized]
    obtain ⟨holds, verdict⟩ := @byte_tables "bytes" { line := 1 }
      [⟨.int 16, { line := 1 }⟩, ⟨.ident "t", { line := 1 }⟩, ⟨.int (-0x8000), { line := 1 }⟩,
        ⟨.int 0xffff, { line := 1 }⟩] (.inl rfl) {} _ rfl
    have fit : ∀ value ∈ [-0x8000, 0xffff], Fits 16 value :=
      List.forall_mem_cons.mpr ⟨by decide, List.forall_mem_singleton.mpr (by decide)⟩
    obtain ⟨after, success⟩ := (verdict _ rfl written).2.1.mpr ⟨room, fit⟩
    obtain ⟨table, block, spelled, held, _, rfl⟩ := holds none after success
    exact ⟨table, block, spelled, held, success⟩
  · have written : Written "bytesFixed" [.ident "t", .int 3, .int 0xff, .int 0x100, .int (-0x81)]
        ⟨"t", 8, some 3, [0xff, 0x100, -0x81]⟩ := .bytesFixed "t" (by decide) [0xff, 0x100, -0x81]
    have room : ¬ Oversized ⟨"t", 8, some 3, [0xff, 0x100, -0x81]⟩ := by
      rintro ⟨_, ⟨⟩, excess⟩
      revert excess
      decide
    obtain ⟨_, verdict⟩ := @byte_tables "bytesFixed" { line := 1 }
      [⟨.ident "t", { line := 1 }⟩, ⟨.int 3, { line := 1 }⟩, ⟨.int 0xff, { line := 2 }⟩,
        ⟨.int 0x100, { line := 3 }⟩, ⟨.int (-0x81), { line := 4 }⟩] (.inr rfl) {} _ rfl
    obtain ⟨token, found, failed⟩ := (verdict _ rfl written).2.2 [0xff] 0x100 [-0x81] room rfl
      (List.forall_mem_singleton.mpr (by decide)) (by decide)
    cases found
    exact failed

end Statement

end GlulxAsm
