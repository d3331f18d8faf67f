import GlulxAsm.Proofs.Acceptance
import GlulxAsm.Proofs.Word

/-! The grammar of statements. An object without a layout accepts a statement exactly if its tokens are
labels and at most one of a fixed list of forms behind them. -/
namespace GlulxAsm

namespace Grammar

/-- The least and the greatest value of a cell, which may have a sign or not. -/
inductive CellRange : Int32 → Int → Int → Prop where
  | byte : CellRange 8 (-0x80) 0xff
  | half : CellRange 16 (-0x8000) 0xffff
  | word : CellRange 32 (-0x80000000) 0xffffffff

/-- What a statement says behind its labels, the inclusion of a file apart. -/
inductive Form : List TokenKind → Prop where
  | stackSize {size : Int32} (positive : 0 ≤ size.toInt) : Form [.ident "stackSize", .int size]
  | toRom : Form [.ident "toROM"]
  | endRom : Form [.ident "endROM"]
  | constant (name : String) (value : Int32) : Form [.ident "constant", .ident name, .int value]
  | function {head : String} (known : head = "function" ∨ head = "stkfunction") (name : String)
      {locals : Int32} (positive : 0 ≤ locals.toInt) : Form [.ident head, .ident name, .int locals]
  | string {head : String} (known : head = "addString" ∨ head = "string") (label content : String) :
      Form [.ident head, .ident label, .string content]
  | bytes {bits : Int32} {least greatest : Int} (range : CellRange bits least greatest)
      (label : String) {values : List Int32}
      (fits : ∀ value ∈ values, least ≤ value.toInt ∧ value.toInt ≤ greatest) :
      Form (.ident "bytes" :: .int bits :: .ident label :: values.map .int)
  | bytesFixed (label : String) {size : Int32} {values : List Int32}
      (reserved : 0 ≤ size.toInt ∧ size.toInt ≤ 0x1000000) (room : values.length ≤ size.toInt)
      (fits : ∀ value ∈ values, -0x80 ≤ value.toInt ∧ value.toInt ≤ 0xff) :
      Form (.ident "bytesFixed" :: .ident label :: .int size :: values.map .int)
  | words (label : String) {items : List TokenKind} (operands : ∀ item ∈ items, item.IsOperand) :
      Form (.ident "words" :: .ident label :: items)
  | wordsFixed (label : String) {count : Int32} {items : List TokenKind}
      (reserved : 0 ≤ count.toInt ∧ count.toInt ≤ 0x400000) (room : items.length ≤ count.toInt)
      (operands : ∀ item ∈ items, item.IsOperand) :
      Form (.ident "wordsFixed" :: .ident label :: .int count :: items)
  | call {head : String} (known : head = "_call" ∨ head = "_glk") {target destination : TokenKind}
      {arguments : List TokenKind} (callable : target.IsOperand)
      (untexted : ∀ content, target ≠ .string content)
      (operands : ∀ item ∈ arguments, item.IsOperand) (place : destination.IsOperand) :
      Form (.ident head :: target :: (arguments ++ [destination]))
  | mnemonic {mnemonic : Mnemonic} (known : mnemonic ∈ Mnemonic.table) {operands : List TokenKind}
      (count : operands.length = mnemonic.operands)
      (valid : ∀ operand ∈ operands, operand.IsOperand) : Form (.ident mnemonic.name :: operands)

/-- A whole statement: any number of labels, and behind them one form, which only a label can do without. -/
inductive Sentence : List TokenKind → Prop where
  | form {tokens : List TokenKind} (form : Form tokens) : Sentence tokens
  | label (stem : String) : Sentence [.ident (stem ++ ":")]
  | labelled (stem : String) {tokens : List TokenKind} (rest : Sentence tokens) :
      Sentence (.ident (stem ++ ":") :: tokens)

end Grammar

namespace Mnemonic

/-- No name stands twice in the table. -/
theorem find?_name {mnemonic : Mnemonic} (known : mnemonic ∈ table) :
    find? mnemonic.name = some mnemonic := by
  have distinct : ∀ mnemonic ∈ table, find? mnemonic.name = some mnemonic := by decide +kernel
  exact distinct mnemonic known

theorem labelName?_name {mnemonic : Mnemonic} (known : mnemonic ∈ table) :
    Statement.labelName? mnemonic.name = none := by
  have unlabelled : ∀ mnemonic ∈ table, Statement.labelName? mnemonic.name = none := by
    decide +kernel
  exact unlabelled mnemonic known

end Mnemonic

namespace Directive

theorem ident_eq_ok_iff {head name : String} {token : Token} :
    ident head token = .ok name ↔ token.kind = .ident name := by
  unfold ident
  split <;> simp_all

theorem int_eq_ok_iff {head : String} {token : Token} {value : Int32} :
    int head token = .ok value ↔ token.kind = .int value := by
  unfold int
  split <;> simp_all

theorem text_eq_ok_iff {head content : String} {token : Token} :
    text head token = .ok content ↔ token.kind = .string content := by
  unfold text
  split <;> simp_all

theorem unsigned_eq_ok_iff {loc : Location} {fault : Int32 → StatementFault} {value : Int32}
    {word : UInt32} :
    unsigned loc fault value = .ok word ↔ 0 ≤ value.toInt ∧ value.toUInt32 = word := by
  have negative : value < 0 ↔ value.toInt < 0 := Int32.lt_iff_toInt_lt
  unfold unsigned
  split
  · next below =>
    simp only [reduceCtorEq, false_iff, not_and]
    intro positive
    have := negative.mp below
    omega
  · next above =>
    rw [negative] at above
    simp only [Except.ok.injEq]
    constructor
    · exact fun same => ⟨by omega, same⟩
    · exact fun ⟨_, same⟩ => same

theorem bind_eq_ok_iff {α β : Type} {step : Except AsmError α} {next : α → Except AsmError β}
    {result : β} :
    (step >>= next) = .ok result ↔ ∃ value, step = .ok value ∧ next value = .ok result := by
  cases step <;> simp [bind, Except.bind]

theorem blockCount_eq_ok_iff {loc : Location} {itemBytes count : Nat} {value : Int32} :
    blockCount loc itemBytes value = .ok count ↔
      0 ≤ value.toInt ∧ value.toInt * itemBytes ≤ Limit.blockBytes ∧ value.toInt = count := by
  have word := Word.toNat_toUInt32 value
  have bound : value.toInt < 0x80000000 := value.toInt_lt
  simp only [blockCount, bind_eq_ok_iff, unsigned_eq_ok_iff]
  constructor
  · rintro ⟨_, ⟨positive, rfl⟩, rest⟩
    split at rest
    · next room =>
      cases rest
      have same : value.toInt = value.toUInt32.toNat := by omega
      refine ⟨positive, ?_, same⟩
      rw [same]
      exact_mod_cast room
    · cases rest
  · rintro ⟨positive, room, same⟩
    have size : value.toUInt32.toNat = count := by omega
    refine ⟨_, ⟨positive, rfl⟩, ?_⟩
    rw [same] at room
    rw [size, if_pos (by exact_mod_cast room)]
    rfl

theorem cellWidth?_of_range {bits : Int32} {least greatest : Int}
    (range : Grammar.CellRange bits least greatest) :
    ∃ width, cellWidth? bits = some width ∧
      ∀ value, fits width value = true ↔ least ≤ value.toInt ∧ value.toInt ≤ greatest := by
  cases range with
  | byte =>
    refine ⟨.one, rfl, fun value => ?_⟩
    have ends : fits .one value = (decide (-0x80 ≤ value.toInt) && decide (value.toInt < 0x100)) := rfl
    rw [ends, Bool.and_eq_true, decide_eq_true_iff, decide_eq_true_iff]
    omega
  | half =>
    refine ⟨.two, rfl, fun value => ?_⟩
    have ends : fits .two value =
        (decide (-0x8000 ≤ value.toInt) && decide (value.toInt < 0x10000)) := rfl
    rw [ends, Bool.and_eq_true, decide_eq_true_iff, decide_eq_true_iff]
    omega
  | word =>
    refine ⟨.four, rfl, fun value => ?_⟩
    have low : -0x80000000 ≤ value.toInt := value.le_toInt
    have high : value.toInt < 0x80000000 := value.toInt_lt
    simp only [fits, beq_self_eq_true, Bool.true_or, true_iff]
    omega

private theorem range_of_cellWidth? {bits : Int32} {width : Width} (sized : cellWidth? bits = some width) :
    ∃ least greatest, Grammar.CellRange bits least greatest := by
  unfold cellWidth? at sized
  split_ifs at sized with byte half word
  · subst byte
    exact ⟨_, _, .byte⟩
  · subst half
    exact ⟨_, _, .half⟩
  · subst word
    exact ⟨_, _, .word⟩

private theorem cell_ok_iff (head : String) (width : Width) (token : Token) :
    (∃ bytes, cell head width token = .ok bytes) ↔
      ∃ value, token.kind = .int value ∧ fits width value = true := by
  simp only [cell, bind_eq_ok_iff, int_eq_ok_iff]
  constructor
  · rintro ⟨bytes, value, written, rest⟩
    split at rest
    · next room => exact ⟨value, written, room⟩
    · cases rest
  · rintro ⟨value, written, room⟩
    refine ⟨width.encode value, value, written, ?_⟩
    rw [if_pos room]
    rfl

theorem cells_ok_iff (head : String) (width : Width) (tokens : List Token) :
    (∃ bytes, cells head width tokens = .ok bytes) ↔
      ∃ values : List Int32, tokens.map (·.kind) = values.map .int ∧
        ∀ value ∈ values, fits width value = true := by
  have flat : (∃ bytes, cells head width tokens = .ok bytes) ↔
      ∃ each, tokens.mapM (cell head width) = .ok each := by
    simp only [cells, bind_eq_ok_iff, pure, Except.pure, Except.ok.injEq]
    exact ⟨fun ⟨_, each, done, _⟩ => ⟨each, done⟩, fun ⟨each, done⟩ => ⟨_, each, done, rfl⟩⟩
  rw [flat]
  clear flat
  induction tokens with
  | nil =>
    refine iff_of_true ⟨[], rfl⟩ ⟨[], rfl, ?_⟩
    simp
  | cons token rest ih =>
    simp only [List.mapM_cons, bind_eq_ok_iff]
    constructor
    · rintro ⟨_, first, here, others, behind, _⟩
      obtain ⟨value, written, room⟩ := (cell_ok_iff head width token).mp ⟨first, here⟩
      obtain ⟨values, same, fit⟩ := ih.mp ⟨others, behind⟩
      refine ⟨value :: values, ?_, List.forall_mem_cons.mpr ⟨room, fit⟩⟩
      rw [List.map_cons, written, same, List.map_cons]
    · rintro ⟨values, same, fit⟩
      cases values with
      | nil => cases same
      | cons value values =>
        simp only [List.map_cons, List.cons.injEq] at same
        rw [List.forall_mem_cons] at fit
        obtain ⟨first, here⟩ := (cell_ok_iff head width token).mpr ⟨value, same.1, fit.1⟩
        obtain ⟨others, behind⟩ := ih.mpr ⟨values, same.2, fit.2⟩
        exact ⟨_, first, here, others, behind, rfl⟩

/-- The tokens make a directive that an object without a layout takes. -/
def Accepted (reading : Except AsmError Directive) : Prop :=
  ∃ directive, reading = .ok directive ∧ directive.Ready

theorem accepted_bind {α : Type} (step : Except AsmError α) (next : α → Except AsmError Directive) :
    Accepted (step >>= next) ↔ ∃ value, step = .ok value ∧ Accepted (next value) := by
  simp only [Accepted, bind_eq_ok_iff]
  constructor
  · rintro ⟨directive, ⟨value, done, rest⟩, ready⟩
    exact ⟨value, done, directive, rest, ready⟩
  · rintro ⟨value, done, directive, rest, ready⟩
    exact ⟨directive, ⟨value, done, rest⟩, ready⟩

theorem accepted_pure (directive : Directive) : Accepted (pure directive) ↔ directive.Ready := by
  simp [Accepted, pure, Except.pure]

theorem not_accepted_error (error : AsmError) : ¬ Accepted (.error error) := by
  simp [Accepted]

theorem readStackSize_accepted (head : String) (loc : Location) (args : List Token) :
    Accepted (readStackSize head loc args) ↔
      ∃ size : Int32, args.map (·.kind) = [.int size] ∧ 0 ≤ size.toInt := by
  unfold readStackSize
  split
  · simp only [accepted_bind, accepted_pure, int_eq_ok_iff, unsigned_eq_ok_iff, Ready]
    simp
  · next other =>
    refine iff_of_false (not_accepted_error _) ?_
    rintro ⟨size, shape, _⟩
    have one : args.length = 1 := by simpa using congrArg List.length shape
    obtain ⟨token, rfl⟩ := List.length_eq_one_iff.mp one
    exact other token rfl

theorem readSegment_accepted (head : String) (toRom : Bool) (loc : Location) (args : List Token) :
    Accepted (readSegment head toRom loc args) ↔ args.map (·.kind) = [] := by
  unfold readSegment
  split
  · simp [accepted_pure, Ready]
  · next other =>
    refine iff_of_false (not_accepted_error _) ?_
    simpa using other

theorem not_two {args : List Token} (other : ∀ first second, args = [first, second] → False)
    {first second : TokenKind} : args.map (·.kind) ≠ [first, second] := by
  intro shape
  have two : args.length = 2 := by simpa using congrArg List.length shape
  obtain ⟨one, another, rfl⟩ := List.length_eq_two.mp two
  exact other one another rfl

theorem readConstant_accepted (head : String) (loc : Location) (args : List Token) :
    Accepted (readConstant head loc args) ↔
      ∃ name value, args.map (·.kind) = [.ident name, .int value] := by
  unfold readConstant
  split
  · simp only [accepted_bind, accepted_pure, ident_eq_ok_iff, int_eq_ok_iff, Ready]
    simp
  · next other =>
    refine iff_of_false (not_accepted_error _) ?_
    rintro ⟨name, value, shape⟩
    exact not_two other shape

theorem readFunction_accepted (head : String) (kind : LabelKind) (loc : Location)
    (args : List Token) :
    Accepted (readFunction head kind loc args) ↔
      ∃ (name : String) (locals : Int32), args.map (·.kind) = [.ident name, .int locals] ∧
        0 ≤ locals.toInt := by
  unfold readFunction
  split
  · simp only [accepted_bind, accepted_pure, ident_eq_ok_iff, int_eq_ok_iff, unsigned_eq_ok_iff,
      Ready]
    simp [and_assoc]
  · next other =>
    refine iff_of_false (not_accepted_error _) ?_
    rintro ⟨name, locals, shape, _⟩
    exact not_two other shape

theorem readString_accepted (head : String) (make : String → String → Directive)
    (ready : ∀ label content, (make label content).Ready) (loc : Location) (args : List Token) :
    Accepted (readString head make loc args) ↔
      ∃ label content, args.map (·.kind) = [.ident label, .string content] := by
  unfold readString
  split
  · simp only [accepted_bind, accepted_pure, ident_eq_ok_iff, text_eq_ok_iff, ready]
    simp
  · next other =>
    refine iff_of_false (not_accepted_error _) ?_
    rintro ⟨label, content, shape⟩
    exact not_two other shape

theorem not_two_more {args : List Token}
    (other : ∀ first second rest, args = first :: second :: rest → False)
    {first second : TokenKind} {rest : List TokenKind} :
    args.map (·.kind) ≠ first :: second :: rest := by
  intro shape
  match args with
  | [] => cases shape
  | [_] => cases shape
  | one :: another :: more => exact other one another more rfl

theorem readBytes_accepted (head : String) (loc : Location) (args : List Token) :
    Accepted (readBytes head loc args) ↔
      ∃ (bits : Int32) (least greatest : Int) (label : String) (values : List Int32),
        Grammar.CellRange bits least greatest ∧
        args.map (·.kind) = .int bits :: .ident label :: values.map .int ∧
        ∀ value ∈ values, least ≤ value.toInt ∧ value.toInt ≤ greatest := by
  unfold readBytes
  split
  · next bitsToken labelToken tokens =>
    rw [accepted_bind]
    simp only [int_eq_ok_iff, List.map_cons, List.cons.injEq]
    constructor
    · rintro ⟨bits, written, taken⟩
      split at taken
      · next width sized =>
        simp only [accepted_bind, ident_eq_ok_iff] at taken
        obtain ⟨label, named, bytes, done, _⟩ := taken
        obtain ⟨values, same, fit⟩ := (cells_ok_iff head width tokens).mp ⟨bytes, done⟩
        obtain ⟨least, greatest, range⟩ := range_of_cellWidth? sized
        obtain ⟨_, again, ends⟩ := cellWidth?_of_range range
        cases sized.symm.trans again
        exact ⟨bits, least, greatest, label, values, range, ⟨written, named, same⟩,
          fun value member => (ends value).mp (fit value member)⟩
      · exact absurd taken (not_accepted_error _)
    · rintro ⟨bits, least, greatest, label, values, range, ⟨written, named, same⟩, fit⟩
      obtain ⟨width, sized, ends⟩ := cellWidth?_of_range range
      obtain ⟨bytes, done⟩ := (cells_ok_iff head width tokens).mpr
        ⟨values, same, fun value member => (ends value).mpr (fit value member)⟩
      refine ⟨bits, written, ?_⟩
      simp only [sized, accepted_bind, ident_eq_ok_iff, accepted_pure]
      exact ⟨label, named, bytes, done, trivial⟩
  · next other =>
    refine iff_of_false (not_accepted_error _) ?_
    rintro ⟨bits, least, greatest, label, values, _, shape, _⟩
    exact not_two_more other shape

theorem readBytesFixed_accepted (head : String) (loc : Location) (args : List Token) :
    Accepted (readBytesFixed head loc args) ↔
      ∃ (label : String) (size : Int32) (values : List Int32),
        (0 ≤ size.toInt ∧ size.toInt ≤ 0x1000000) ∧ values.length ≤ size.toInt ∧
        args.map (·.kind) = .ident label :: .int size :: values.map .int ∧
        ∀ value ∈ values, -0x80 ≤ value.toInt ∧ value.toInt ≤ 0xff := by
  have limit : Limit.blockBytes = 0x1000000 := rfl
  obtain ⟨_, sized, ends⟩ := cellWidth?_of_range .byte
  cases sized
  unfold readBytesFixed
  split
  · next labelToken sizeToken tokens =>
    simp only [accepted_bind, ident_eq_ok_iff, int_eq_ok_iff, blockCount_eq_ok_iff, List.map_cons,
      List.cons.injEq]
    constructor
    · rintro ⟨label, named, size, written, count, ⟨positive, room, same⟩, taken⟩
      split at taken
      · next fewer =>
        simp only [accepted_bind] at taken
        obtain ⟨bytes, done, _⟩ := taken
        obtain ⟨values, kinds, fit⟩ := (cells_ok_iff head .one tokens).mp ⟨bytes, done⟩
        have lengths : tokens.length = values.length := by simpa using congrArg List.length kinds
        exact ⟨label, size, values, ⟨positive, by omega⟩, by omega, ⟨named, written, kinds⟩,
          fun value member => (ends value).mp (fit value member)⟩
      · exact absurd taken (not_accepted_error _)
    · rintro ⟨label, size, values, ⟨positive, room⟩, fewer, ⟨named, written, kinds⟩, fit⟩
      have lengths : tokens.length = values.length := by simpa using congrArg List.length kinds
      obtain ⟨bytes, done⟩ := (cells_ok_iff head .one tokens).mpr
        ⟨values, kinds, fun value member => (ends value).mpr (fit value member)⟩
      refine ⟨label, named, size, written, size.toInt.toNat, ⟨positive, by omega, by omega⟩, ?_⟩
      rw [if_pos (by omega), accepted_bind]
      exact ⟨bytes, done, (accepted_pure _).mpr trivial⟩
  · next other =>
    refine iff_of_false (not_accepted_error _) ?_
    rintro ⟨label, size, values, _, _, shape, _⟩
    exact not_two_more other shape

theorem readWords_accepted (head : String) (loc : Location) (args : List Token) :
    Accepted (readWords head loc args) ↔ ∃ label items,
      args.map (·.kind) = .ident label :: items ∧ ∀ item ∈ items, TokenKind.IsOperand item := by
  unfold readWords
  split
  · simp only [accepted_bind, accepted_pure, ident_eq_ok_iff, Ready]
    simp
  · next other =>
    refine iff_of_false (not_accepted_error _) ?_
    rintro ⟨label, items, shape, _⟩
    cases args with
    | nil => cases shape
    | cons first rest => exact other first rest rfl

theorem readWordsFixed_accepted (head : String) (loc : Location) (args : List Token) :
    Accepted (readWordsFixed head loc args) ↔
      ∃ (label : String) (count : Int32) (items : List TokenKind),
        (0 ≤ count.toInt ∧ count.toInt ≤ 0x400000) ∧ items.length ≤ count.toInt ∧
        args.map (·.kind) = .ident label :: .int count :: items ∧
        ∀ item ∈ items, item.IsOperand := by
  have limit : Limit.blockBytes = 0x1000000 := rfl
  unfold readWordsFixed
  split
  · next labelToken countToken tokens =>
    simp only [accepted_bind, accepted_pure, ident_eq_ok_iff, int_eq_ok_iff, blockCount_eq_ok_iff,
      List.map_cons, List.cons.injEq, Ready, Option.mem_def, Option.some.injEq, forall_eq']
    constructor
    · rintro ⟨count, written, size, ⟨positive, room, same⟩, label, named, operands, fewer⟩
      refine ⟨label, count, _, ⟨positive, by omega⟩, ?_, ⟨named, written, rfl⟩, ?_⟩
      · rw [List.length_map]
        omega
      · simpa using operands
    · rintro ⟨label, count, _, ⟨positive, room⟩, fewer, ⟨named, written, rfl⟩, operands⟩
      rw [List.length_map] at fewer
      refine ⟨count, written, count.toInt.toNat, ⟨positive, by omega, by omega⟩, label, named, ?_,
        by omega⟩
      simpa using operands
  · next other =>
    refine iff_of_false (not_accepted_error _) ?_
    rintro ⟨label, count, items, _, _, shape, _⟩
    exact not_two_more other shape

theorem readCall_accepted (head : String) (mnemonic : Mnemonic) (loc : Location)
    (args : List Token) :
    Accepted (readCall head mnemonic loc args) ↔ ∃ target arguments destination,
      args.map (·.kind) = target :: (arguments ++ [destination]) ∧
      target.IsOperand ∧ (∀ content, target ≠ .string content) ∧
      (∀ item ∈ arguments, TokenKind.IsOperand item) ∧ destination.IsOperand := by
  unfold readCall
  split
  · next target second others =>
    -- The operands behind the target are the arguments and, last, the destination.
    obtain ⟨arguments, destination, init, last, whole⟩ : ∃ arguments destination,
        (second :: others).dropLast = arguments ∧
        (second :: others).getLast (by simp) = destination ∧
        second :: others = arguments ++ [destination] :=
      ⟨_, _, rfl, rfl, (List.dropLast_concat_getLast (by simp)).symm⟩
    have taken : Ready (call mnemonic target arguments destination) ↔ target.kind.IsOperand ∧
        (∀ item ∈ arguments.map (·.kind), item.IsOperand) ∧ destination.kind.IsOperand := by
      simp only [Ready, List.forall_mem_map]
      exact and_congr_right fun _ => and_comm
    have shape (first : TokenKind) (front : List TokenKind) (final : TokenKind) :
        (target :: second :: others).map (·.kind) = first :: (front ++ [final]) ↔
          first = target.kind ∧ front = arguments.map (·.kind) ∧ final = destination.kind := by
      rw [whole, List.map_cons, List.map_append, List.cons.injEq, List.map_singleton]
      constructor
      · rintro ⟨rfl, same⟩
        obtain ⟨rfl, one⟩ := List.append_inj' same rfl
        cases one
        exact ⟨rfl, rfl, rfl⟩
      · rintro ⟨rfl, rfl, rfl⟩
        exact ⟨rfl, rfl⟩
    simp only [shape, init, last, and_assoc]
    split
    · next name named =>
      rw [accepted_pure, taken]
      simp [named]
    · next value written =>
      rw [accepted_pure, taken]
      simp [written]
    · next named written =>
      refine iff_of_false (not_accepted_error _) ?_
      rintro ⟨_, _, _, rfl, _, _, valid, untexted, _⟩
      cases operand : target.kind with
      | ident name => exact named name operand
      | int value => exact written value operand
      | string content => exact untexted content operand
      | endOfStatement =>
        rw [operand] at valid
        cases valid
  · next other =>
    refine iff_of_false (not_accepted_error _) ?_
    rintro ⟨target, arguments, destination, shape, _⟩
    cases arguments with
    | nil => exact not_two_more other shape
    | cons first rest => exact not_two_more other shape

theorem readInstruction_accepted (head : String) (loc : Location) (args : List Token) :
    Accepted (readInstruction head loc args) ↔ ∃ mnemonic ∈ Mnemonic.table, mnemonic.name = head ∧
      (args.map (·.kind)).length = mnemonic.operands ∧
      ∀ operand ∈ args.map (·.kind), operand.IsOperand := by
  simp only [List.length_map, List.forall_mem_map]
  unfold readInstruction
  split
  · next mnemonic found =>
    have known := List.mem_of_find?_eq_some found
    have named : mnemonic.name = head := by simpa using List.find?_some found
    split
    · next count =>
      constructor
      · rintro ⟨_, done, ready⟩
        cases done
        exact ⟨mnemonic, known, named, count, ready⟩
      · rintro ⟨_, _, _, _, valid⟩
        exact ⟨_, rfl, valid⟩
    · next count =>
      refine iff_of_false (not_accepted_error _) ?_
      rintro ⟨other, present, rfl, same, _⟩
      cases found.symm.trans (Mnemonic.find?_name present)
      exact count same
  · next missing =>
    refine iff_of_false (not_accepted_error _) ?_
    rintro ⟨mnemonic, present, rfl, _⟩
    rw [Mnemonic.find?_name present] at missing
    cases missing

private theorem readBytes_ne_includeFile (head file : String) (loc : Location) (args : List Token) :
    readBytes head loc args ≠ .ok (.includeFile file) := by
  unfold readBytes
  split
  · rw [ne_eq, bind_eq_ok_iff]
    rintro ⟨bits, _, rest⟩
    split at rest
    · simp [bind_eq_ok_iff, pure, Except.pure] at rest
    · cases rest
  · nofun

private theorem readBytesFixed_ne_includeFile (head file : String) (loc : Location) (args : List Token) :
    readBytesFixed head loc args ≠ .ok (.includeFile file) := by
  unfold readBytesFixed
  split
  · simp only [ne_eq, bind_eq_ok_iff]
    rintro ⟨label, _, size, _, count, _, rest⟩
    split at rest
    · simp [bind_eq_ok_iff, pure, Except.pure] at rest
    · cases rest
  · nofun

private theorem readCall_ne_includeFile (head file : String) (mnemonic : Mnemonic) (loc : Location)
    (args : List Token) : readCall head mnemonic loc args ≠ .ok (.includeFile file) := by
  unfold readCall
  split
  · split <;> nofun
  · nofun

private theorem readInstruction_ne_includeFile (head file : String) (loc : Location) (args : List Token) :
    readInstruction head loc args ≠ .ok (.includeFile file) := by
  unfold readInstruction
  split
  · split <;> nofun
  · nofun

/-- No other head word asks for a file. -/
theorem read_includeFile {head file : String} {loc : Location} {args : List Token}
    (done : read head loc args = .ok (.includeFile file)) : head = "include" := by
  unfold read at done
  split at done
  case h_4 => rfl
  case h_10 => exact absurd done (readBytes_ne_includeFile _ _ _ _)
  case h_11 => exact absurd done (readBytesFixed_ne_includeFile _ _ _ _)
  case h_14 => exact absurd done (readCall_ne_includeFile _ _ _ _ _)
  case h_15 => exact absurd done (readCall_ne_includeFile _ _ _ _ _)
  case h_16 => exact absurd done (readInstruction_ne_includeFile _ _ _ _)
  all_goals
    simp only [readStackSize, readSegment, readConstant, readFunction, readString, readWords,
      readWordsFixed] at done
    split at done
    · simp [bind_eq_ok_iff, pure, Except.pure] at done
    · cases done

private theorem form_of_accepted {head : String} {loc : Location} {args : List Token}
    (other : head ≠ "include") (accepted : Accepted (read head loc args)) :
    Grammar.Form (.ident head :: args.map (·.kind)) := by
  unfold read at accepted
  split at accepted
  · obtain ⟨size, shape, positive⟩ := (readStackSize_accepted _ _ _).mp accepted
    rw [shape]
    exact .stackSize positive
  · rw [(readSegment_accepted _ _ _ _).mp accepted]
    exact .toRom
  · rw [(readSegment_accepted _ _ _ _).mp accepted]
    exact .endRom
  · exact absurd rfl other
  · obtain ⟨name, value, shape⟩ := (readConstant_accepted _ _ _).mp accepted
    rw [shape]
    exact .constant name value
  · obtain ⟨name, locals, shape, positive⟩ := (readFunction_accepted _ _ _ _).mp accepted
    rw [shape]
    exact .function (.inl rfl) name positive
  · obtain ⟨name, locals, shape, positive⟩ := (readFunction_accepted _ _ _ _).mp accepted
    rw [shape]
    exact .function (.inr rfl) name positive
  · obtain ⟨label, content, shape⟩ :=
      (readString_accepted _ addAlias (fun _ _ => trivial) _ _).mp accepted
    rw [shape]
    exact .string (.inl rfl) label content
  · obtain ⟨label, content, shape⟩ :=
      (readString_accepted _ string (fun _ _ => trivial) _ _).mp accepted
    rw [shape]
    exact .string (.inr rfl) label content
  · obtain ⟨bits, least, greatest, label, values, range, shape, fit⟩ :=
      (readBytes_accepted _ _ _).mp accepted
    rw [shape]
    exact .bytes range label fit
  · obtain ⟨label, size, values, reserved, room, shape, fit⟩ :=
      (readBytesFixed_accepted _ _ _).mp accepted
    rw [shape]
    exact .bytesFixed label reserved room fit
  · obtain ⟨label, items, shape, operands⟩ := (readWords_accepted _ _ _).mp accepted
    rw [shape]
    exact .words label operands
  · obtain ⟨label, count, items, reserved, room, shape, operands⟩ :=
      (readWordsFixed_accepted _ _ _).mp accepted
    rw [shape]
    exact .wordsFixed label reserved room operands
  · obtain ⟨target, arguments, destination, shape, callable, untexted, operands, place⟩ :=
      (readCall_accepted _ _ _ _).mp accepted
    rw [shape]
    exact .call (.inl rfl) callable untexted operands place
  · obtain ⟨target, arguments, destination, shape, callable, untexted, operands, place⟩ :=
      (readCall_accepted _ _ _ _).mp accepted
    rw [shape]
    exact .call (.inr rfl) callable untexted operands place
  · obtain ⟨mnemonic, known, rfl, count, valid⟩ := (readInstruction_accepted _ _ _).mp accepted
    exact .mnemonic known count valid

/-- No mnemonic is the head word of a directive. -/
theorem read_mnemonic {mnemonic : Mnemonic} (known : mnemonic ∈ Mnemonic.table) (loc : Location)
    (args : List Token) : read mnemonic.name loc args = readInstruction mnemonic.name loc args := by
  have apart : ∀ mnemonic ∈ Mnemonic.table, mnemonic.name ∉ ["stackSize", "toROM", "endROM",
      "include", "constant", "function", "stkfunction", "addString", "string", "bytes",
      "bytesFixed", "words", "wordsFixed", "_call", "_glk"] := by decide +kernel
  have own := apart mnemonic known
  unfold read
  split
  case h_16 => rfl
  all_goals next same => simp [same] at own

private theorem accepted_of_form {head : String} {args : List Token} (loc : Location)
    (form : Grammar.Form (.ident head :: args.map (·.kind))) : Accepted (read head loc args) := by
  generalize shape : args.map (·.kind) = kinds at form
  cases form with
  | stackSize positive => exact (readStackSize_accepted _ _ _).mpr ⟨_, shape, positive⟩
  | toRom => exact (readSegment_accepted _ _ _ _).mpr shape
  | endRom => exact (readSegment_accepted _ _ _ _).mpr shape
  | constant name value => exact (readConstant_accepted _ _ _).mpr ⟨name, value, shape⟩
  | function known name positive =>
    rcases known with rfl | rfl
    · exact (readFunction_accepted _ _ _ _).mpr ⟨name, _, shape, positive⟩
    · exact (readFunction_accepted _ _ _ _).mpr ⟨name, _, shape, positive⟩
  | string known label content =>
    rcases known with rfl | rfl
    · exact (readString_accepted _ addAlias (fun _ _ => trivial) _ _).mpr ⟨label, content, shape⟩
    · exact (readString_accepted _ string (fun _ _ => trivial) _ _).mpr ⟨label, content, shape⟩
  | bytes range label fit =>
    exact (readBytes_accepted _ _ _).mpr ⟨_, _, _, label, _, range, shape, fit⟩
  | bytesFixed label reserved room fit =>
    exact (readBytesFixed_accepted _ _ _).mpr ⟨label, _, _, reserved, room, shape, fit⟩
  | words label operands => exact (readWords_accepted _ _ _).mpr ⟨label, _, shape, operands⟩
  | wordsFixed label reserved room operands =>
    exact (readWordsFixed_accepted _ _ _).mpr ⟨label, _, _, reserved, room, shape, operands⟩
  | call known callable untexted operands place =>
    rcases known with rfl | rfl
    · exact (readCall_accepted _ _ _ _).mpr
        ⟨_, _, _, shape, callable, untexted, operands, place⟩
    · exact (readCall_accepted _ _ _ _).mpr
        ⟨_, _, _, shape, callable, untexted, operands, place⟩
  | mnemonic known count valid =>
    rw [read_mnemonic known, readInstruction_accepted, shape]
    exact ⟨_, known, rfl, count, valid⟩

end Directive

/-- An identifier with a colon at its end is a label. -/
def TokenKind.isLabel : TokenKind → Bool
  | .ident name => name.toList.getLast? == some ':'
  | _ => false

namespace Grammar

theorem Form.unlabelled {name : String} {rest : List TokenKind}
    (form : Form (.ident name :: rest)) : Statement.labelName? name = none := by
  cases form with
  | function known => rcases known with rfl | rfl <;> rfl
  | string known => rcases known with rfl | rfl <;> rfl
  | call known => rcases known with rfl | rfl <;> rfl
  | mnemonic known => exact Mnemonic.labelName?_name known
  | _ => rfl

private theorem Sentence.head_ident {head : TokenKind} {rest : List TokenKind}
    (sentence : Sentence (head :: rest)) : ∃ name, head = .ident name := by
  cases sentence with
  | form form => cases form <;> exact ⟨_, rfl⟩
  | label stem => exact ⟨_, rfl⟩
  | labelled stem => exact ⟨_, rfl⟩

private theorem sentence_iff_form {name : String} (plain : Statement.labelName? name = none)
    (rest : List TokenKind) : Sentence (.ident name :: rest) ↔ Form (.ident name :: rest) := by
  constructor
  · intro sentence
    cases sentence with
    | form form => exact form
    | label stem => exact absurd rfl ((Statement.labelName?_eq_none_iff _).mp plain stem)
    | labelled stem => exact absurd rfl ((Statement.labelName?_eq_none_iff _).mp plain stem)
  · exact .form

private theorem sentence_labelled_iff (stem : String) (rest : List TokenKind) :
    Sentence (.ident (stem ++ ":") :: rest) ↔ rest = [] ∨ Sentence rest := by
  constructor
  · intro sentence
    generalize written : stem ++ ":" = name at sentence
    cases sentence with
    | form form =>
      exact absurd written.symm ((Statement.labelName?_eq_none_iff _).mp form.unlabelled stem)
    | label => exact .inl rfl
    | labelled _ sentence => exact .inr sentence
  · rintro (rfl | sentence)
    · exact .label stem
    · exact .labelled stem sentence

end Grammar

namespace Statement

open Object Grammar

section Unlabelled

variable {head : String} {loc : Location} {args : List Token}

/-- A statement without labels does what its directive says, unless it asks for a file. -/
theorem run_of_read (unlabelled : labelName? head = none) {directive : Directive}
    (made : Directive.read head loc args = .ok directive)
    (inner : ∀ file, directive ≠ .includeFile file) :
    run (⟨.ident head, loc⟩ :: args) = do
      perform loc directive
      return none := by
  have first : Directive.ident "statement" ⟨.ident head, loc⟩ = .ok head := rfl
  simp only [run, first, MonadExcept.ofExcept, pure_bind, unlabelled, made]

theorem run_of_read_error (unlabelled : labelName? head = none) {error : AsmError}
    (failed : Directive.read head loc args = .error error) (object : Object) :
    (run (⟨.ident head, loc⟩ :: args)).run object = .error error object := by
  have first : Directive.ident "statement" ⟨.ident head, loc⟩ = .ok head := rfl
  simp only [run, first, MonadExcept.ofExcept, pure_bind, unlabelled, failed]
  rfl

end Unlabelled

private theorem run_accepts (tokens : List Token)
    (other : ((tokens.map (·.kind)).dropWhile TokenKind.isLabel).head? ≠ some (.ident "include")) :
    Accepts (run tokens) (tokens = [] ∨ Sentence (tokens.map (·.kind))) := by
  induction tokens with
  | nil => exact (Accepts.pure none).congr (by simp)
  | cons head args ih =>
    rw [eq_false (List.cons_ne_nil head args), false_or, List.map_cons]
    unfold run
    cases first : Directive.ident "statement" head with
    | error fault =>
      refine (Accepts.throw fault).congr (iff_of_false id fun sentence => ?_)
      obtain ⟨name, written⟩ := sentence.head_ident
      rw [Directive.ident_eq_ok_iff.mpr written] at first
      cases first
    | ok name =>
      have written : head.kind = .ident name := Directive.ident_eq_ok_iff.mp first
      rw [List.map_cons, written] at other
      simp only [written, MonadExcept.ofExcept, pure_bind]
      cases named : labelName? name with
      | some label =>
        obtain rfl := (labelName?_eq_some_iff name label).mp named
        rw [sentence_labelled_iff, List.map_eq_nil_iff]
        have behind := ih (by simpa [TokenKind.isLabel] using other)
        exact (Accepts.bind (add_accepts _ _) (add_collecting _ _) fun _ => behind).congr
          (by rw [true_and])
      | none =>
        have kept : name ≠ "include" := by
          rintro rfl
          simp [TokenKind.isLabel] at other
        have forms : Directive.Accepted (Directive.read name head.loc args) ↔
            Form (.ident name :: args.map (·.kind)) :=
          ⟨Directive.form_of_accepted kept, Directive.accepted_of_form head.loc⟩
        rw [sentence_iff_form named, ← forms]
        cases Directive.read name head.loc args with
        | error fault => exact (Accepts.throw fault).congr (by simp [Directive.not_accepted_error])
        | ok directive =>
          have ready : Directive.Accepted (.ok directive) ↔ directive.Ready :=
            Directive.accepted_pure directive
          rw [ready]
          simp only [pure_bind]
          split
          · exact .pure _
          · exact (Accepts.bind (perform_accepts _ _) (perform_collecting _ _) fun _ =>
              .pure _).congr (by rw [and_true])

theorem run_request_eq_none {tokens : List Token} {before after : Object}
    {request : Option IncludeRequest}
    (other : ((tokens.map (·.kind)).dropWhile TokenKind.isLabel).head? ≠ some (.ident "include"))
    (success : (run tokens).run before = .ok request after) : request = none := by
  induction tokens generalizing before with
  | nil =>
    cases success
    rfl
  | cons head args ih =>
    obtain ⟨name, middle, first, rest⟩ := run_bind_ok success
    obtain ⟨written, rfl⟩ := run_ofExcept_ok first
    rw [List.map_cons, Directive.ident_eq_ok_iff.mp written] at other
    split at rest
    · next label named =>
      obtain rfl := (labelName?_eq_some_iff name label).mp named
      obtain ⟨_, _, _, behind⟩ := run_bind_ok rest
      exact ih (by simpa [TokenKind.isLabel] using other) behind
    · next named =>
      obtain ⟨directive, middle, read, rest⟩ := run_bind_ok rest
      obtain ⟨made, rfl⟩ := run_ofExcept_ok read
      split at rest
      · next file =>
        obtain rfl := Directive.read_includeFile made
        simp [TokenKind.isLabel] at other
      · obtain ⟨_, _, _, behind⟩ := run_bind_ok rest
        cases behind
        rfl

/-- An object without a layout does exactly the sentences, without a look at other files. -/
theorem accepted_iff_sentence {object : Object} (fresh : object.stage = .accumulating)
    {tokens : List Token} (nonempty : tokens ≠ [])
    (other : ((tokens.map (·.kind)).dropWhile TokenKind.isLabel).head? ≠ some (.ident "include")) :
    ((∃ request after, (run tokens).run object = .ok request after) ↔
      Sentence (tokens.map (·.kind))) ∧
    ∀ request after, (run tokens).run object = .ok request after → request = none := by
  constructor
  · rw [run_accepts tokens other object fresh]
    simp [nonempty]
  · intro request after success
    exact run_request_eq_none other success

/-- The tokens of `edge: bytes 8 t -128 255`, which holds the ends of a cell's range. -/
def edge : List Token :=
  let loc : Location := .builtIn
  [⟨.ident "edge:", loc⟩, ⟨.ident "bytes", loc⟩, ⟨.int 8, loc⟩, ⟨.ident "t", loc⟩,
    ⟨.int (-128), loc⟩, ⟨.int 255, loc⟩]

theorem accepted_iff_sentence_edge : edge ≠ [] ∧
    ((edge.map (·.kind)).dropWhile TokenKind.isLabel).head? ≠ some (.ident "include") ∧
    Sentence (edge.map (·.kind)) ∧ ∃ after, (run edge).run {} = .ok none after := by
  have labels : ((edge.map (·.kind)).dropWhile TokenKind.isLabel).head? ≠ some (.ident "include") := by
    decide
  have ends : ∀ value ∈ ([-128, 255] : List Int32), -0x80 ≤ value.toInt ∧ value.toInt ≤ 0xff := by
    rw [List.forall_mem_cons, List.forall_mem_singleton]
    decide
  have sentence : Sentence (edge.map (·.kind)) := .labelled "edge" (.form (.bytes .byte "t" ends))
  have fresh : ({} : Object).stage = .accumulating := rfl
  obtain ⟨accepted, plain⟩ := accepted_iff_sentence fresh (by decide) labels
  obtain ⟨request, after, success⟩ := accepted.mpr sentence
  obtain rfl := plain request after success
  exact ⟨by decide, labels, sentence, after, success⟩

end Statement

end GlulxAsm
