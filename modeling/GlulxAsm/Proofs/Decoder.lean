import GlulxAsm.Proofs.Extent
import GlulxAsm.Proofs.Word

/-! How the virtual machine reads an instruction, and that it reads what was written: opcode, operands and
length of every instruction come back, whatever bytes follow it. -/
namespace GlulxAsm

namespace Decoder

/-- An operand as the machine sees it. -/
inductive Argument where
  | constant (value : Int32)
  | memory (address : UInt32)
  | stack
  | slot (offset : UInt32)
  | ram (offset : UInt32)
deriving DecidableEq

/-- A number with its sign in so many bytes. -/
def signed? (width : Width) (content : List UInt8) : Option (Int32 × List UInt8) :=
  match width, content with
  | .zero, rest => some (0, rest)
  | .one, a :: rest => some (a.toInt8.toInt32, rest)
  | .two, a :: b :: rest => some ((Word.ofBytes 0 0 a b).toUInt16.toInt16.toInt32, rest)
  | .four, a :: b :: c :: d :: rest => some ((Word.ofBytes a b c d).toInt32, rest)
  | _, _ => none

/-- A number without a sign in so many bytes. -/
def unsigned? (width : Width) (content : List UInt8) : Option (UInt32 × List UInt8) :=
  match width, content with
  | .zero, rest => some (0, rest)
  | .one, a :: rest => some (Word.ofBytes 0 0 0 a, rest)
  | .two, a :: b :: rest => some (Word.ofBytes 0 0 a b, rest)
  | .four, a :: b :: c :: d :: rest => some (Word.ofBytes a b c d, rest)
  | _, _ => none

/-- The operand that an addressing mode announces. The modes 4 and 12 do not exist. -/
def argument? (nibble : UInt8) (content : List UInt8) : Option (Argument × List UInt8) :=
  match nibble.toNat with
  | 0 => some (.constant 0, content)
  | 1 => (signed? .one content).map (Prod.map .constant id)
  | 2 => (signed? .two content).map (Prod.map .constant id)
  | 3 => (signed? .four content).map (Prod.map .constant id)
  | 5 => (unsigned? .one content).map (Prod.map .memory id)
  | 6 => (unsigned? .two content).map (Prod.map .memory id)
  | 7 => (unsigned? .four content).map (Prod.map .memory id)
  | 8 => some (.stack, content)
  | 9 => (unsigned? .one content).map (Prod.map .slot id)
  | 10 => (unsigned? .two content).map (Prod.map .slot id)
  | 11 => (unsigned? .four content).map (Prod.map .slot id)
  | 13 => (unsigned? .one content).map (Prod.map .ram id)
  | 14 => (unsigned? .two content).map (Prod.map .ram id)
  | 15 => (unsigned? .four content).map (Prod.map .ram id)
  | _ => none

/-- What the machine has to see where an operand was written with a value: only constants have a sign,
and only a slot without bytes is the stack. -/
def Argument.written (operand : Operand) (value : Int32) : Argument :=
  match operand.mode with
  | .constant => .constant value
  | .memory => .memory value.toUInt32
  | .slot => if operand.width = .zero then .stack else .slot value.toUInt32
  | .ram => .ram value.toUInt32

end Decoder

namespace Width

/-- A value that so many bytes can tell with its sign. -/
def HoldsSigned (width : Width) (value : Int32) : Prop :=
  match width with
  | zero => value = 0
  | one => -128 ≤ value.toInt ∧ value.toInt ≤ 127
  | two => -32768 ≤ value.toInt ∧ value.toInt ≤ 32767
  | four => True

/-- A value that so many bytes can tell without a sign; it takes one byte at least. -/
def HoldsUnsigned (width : Width) (value : UInt32) : Prop :=
  match width with
  | zero => False
  | one => value.toNat ≤ 0xff
  | two => value.toNat ≤ 0xffff
  | four => True

private theorem ofSigned_holds (value : Int32) : (ofSigned value).HoldsSigned value := by
  unfold ofSigned
  split
  · assumption
  · split
    · assumption
    · split
      · assumption
      · trivial

theorem ofUnsigned_holds (value : UInt32) : (ofUnsigned value).HoldsUnsigned value := by
  unfold ofUnsigned
  split
  · assumption
  · split
    · assumption
    · trivial

end Width

namespace Decoder

private theorem signed?_encode {width : Width} {value : Int32} (holds : width.HoldsSigned value)
    (rest : List UInt8) : signed? width (width.encode value ++ rest) = some (value, rest) := by
  cases width with
  | zero =>
    cases holds
    rfl
  | one =>
    obtain ⟨least, most⟩ := holds
    simp [Width.encode, signed?, Word.signExtend_byte least most]
  | two =>
    obtain ⟨least, most⟩ := holds
    simp [Width.encode, Word.halfBytes, signed?, Word.toUInt16_halfBytes,
      Word.signExtend_half least most]
  | four => simp [Width.encode, Word.bytes, signed?]

private theorem unsigned?_encode {width : Width} {value : Int32}
    (holds : width.HoldsUnsigned value.toUInt32) (rest : List UInt8) :
    unsigned? width (width.encode value ++ rest) = some (value.toUInt32, rest) := by
  cases width with
  | zero => cases holds
  | one => simp [Width.encode, unsigned?, Word.ofBytes_lowByte holds]
  | two => simp [Width.encode, Word.halfBytes, unsigned?, Word.ofBytes_halfBytes holds]
  | four => simp [Width.encode, Word.bytes, unsigned?]

end Decoder

namespace Operand

/-- The operand's bytes tell this value from all others, or they are missing and say the stack. -/
def Holds (operand : Operand) (value : Int32) : Prop :=
  match operand.mode with
  | .constant => operand.width.HoldsSigned value
  | .slot => operand.width = .zero ∨ operand.width.HoldsUnsigned value.toUInt32
  | .memory | .ram => operand.width.HoldsUnsigned value.toUInt32

end Operand

namespace Decoder

/-- An operand's addressing mode makes the machine read its width as its mode asks. -/
theorem argument?_nibble (operand : Operand) (content : List UInt8) :
    argument? operand.nibble content =
      match operand.mode with
      | .constant => (signed? operand.width content).map (Prod.map .constant id)
      | .memory =>
        if operand.width = .zero then none
        else (unsigned? operand.width content).map (Prod.map .memory id)
      | .slot =>
        if operand.width = .zero then some (.stack, content)
        else (unsigned? operand.width content).map (Prod.map .slot id)
      | .ram =>
        if operand.width = .zero then none
        else (unsigned? operand.width content).map (Prod.map .ram id) := by
  obtain ⟨mode, _, width⟩ := operand
  cases mode <;> cases width <;> rfl

theorem argument?_encode {operand : Operand} {value : Int32} (holds : operand.Holds value)
    (rest : List UInt8) :
    argument? operand.nibble (operand.width.encode value ++ rest) =
      some (Argument.written operand value, rest) := by
  have address (fits : operand.width.HoldsUnsigned value.toUInt32) :
      operand.width ≠ .zero ∧
        unsigned? operand.width (operand.width.encode value ++ rest) =
          some (value.toUInt32, rest) := by
    refine ⟨?_, unsigned?_encode fits rest⟩
    intro empty
    rw [empty] at fits
    exact fits
  rw [argument?_nibble]
  unfold Operand.Holds at holds
  cases mode : operand.mode with
  | constant =>
    simp only [mode] at holds
    simp [Argument.written, mode, signed?_encode holds rest]
  | memory =>
    simp only [mode] at holds
    simp [Argument.written, mode, address holds]
  | ram =>
    simp only [mode] at holds
    simp [Argument.written, mode, address holds]
  | slot =>
    simp only [mode] at holds
    rcases holds with empty | fits
    · simp [Argument.written, mode, empty, Width.encode]
    · simp [Argument.written, mode, address fits]

end Decoder

namespace Operand

/-- An operand as assembling makes it: from a number, the stack, a name or an identifier, with or
without its name resolved. -/
inductive Made : Operand → Prop where
  | literal (mode : Mode) (value : Int32) : Made (literal mode value)
  | stack : Made stack
  | symbol (mode : Mode) (name : String) : Made (symbol mode name)
  | ofIdent (constant? : String → Option Int32) (text : String) : Made (ofIdent constant? text)
  | resolved {value? : String → Option Int32} {operand resolved : Operand} (made : Made operand)
      (success : operand.resolve value? = .ok resolved) : Made resolved

/-- A known value is held by the operand's bytes; a name has room for any value. -/
def Fits (operand : Operand) : Prop :=
  match operand.value with
  | .literal value => operand.Holds (scaled operand.mode value)
  | .symbol _ => operand.width = .four

theorem holds_of_four {operand : Operand} (wide : operand.width = .four) (value : Int32) :
    operand.Holds value := by
  unfold Holds
  cases operand.mode <;> simp [wide, Width.HoldsSigned, Width.HoldsUnsigned]

theorem fits_literal (mode : Mode) (value : Int32) : (literal mode value).Fits := by
  cases mode with
  | constant =>
    have same : scaled .constant value = value := by simp [scaled]
    simpa [Fits, literal, Holds, widthFor, same] using Width.ofSigned_holds value
  | memory => simpa [Fits, literal, Holds, widthFor] using Width.ofUnsigned_holds _
  | ram => simpa [Fits, literal, Holds, widthFor] using Width.ofUnsigned_holds _
  | slot =>
    by_cases top : value = stackTop
    · simp [Fits, literal, Holds, widthFor, top]
    · simp only [Fits, literal, Holds, widthFor, top, if_false]
      exact .inr (Width.ofUnsigned_holds _)

theorem Resolves.fits {meaning : String → Int32 → Prop} {earlier later : Operand}
    (resolves : Resolves meaning earlier later) (fits : earlier.Fits) : later.Fits := by
  rcases resolves with rfl | ⟨name, value, symbolic, _, rfl⟩
  · exact fits
  · have wide : earlier.width = .four := by simpa [Fits, symbolic] using fits
    exact holds_of_four wide _

theorem Made.fits {operand : Operand} (made : operand.Made) : operand.Fits := by
  induction made with
  | literal mode value => exact fits_literal mode value
  | stack => exact fits_literal .slot stackTop
  | symbol mode name => rfl
  | ofIdent constant? text =>
    unfold Operand.ofIdent
    split
    · exact fits_literal .slot stackTop
    · dsimp only
      split
      · exact fits_literal _ _
      · split
        · exact fits_literal _ _
        · rfl
  | resolved _ success ih => exact (resolve_ok success).1.fits ih

theorem Fits.holds {operand : Operand} {value : Int32} (fits : operand.Fits)
    (literal : operand.machineValue? = some value) : operand.Holds value := by
  cases held : operand.value with
  | literal number =>
    have same : scaled operand.mode number = value := by
      simpa [machineValue?, literal?, held] using literal
    rw [← same]
    simpa [Fits, held] using fits
  | symbol name => simp [machineValue?, literal?, held] at literal

end Operand

namespace Instruction

theorem length_mapLast (f : Operand → Operand) (operands : List Operand) :
    (mapLast f operands).length = operands.length := by
  fun_induction mapLast f operands with
  | case1 => rfl
  | case2 only => rfl
  | case3 first rest _ ih => simp [ih]

theorem getLast?_mapLast (f : Operand → Operand) (operands : List Operand) :
    (mapLast f operands).getLast? = operands.getLast?.map f := by
  fun_induction mapLast f operands with
  | case1 => rfl
  | case2 only => rfl
  | case3 first rest more ih =>
    obtain ⟨second, others, rfl⟩ := List.exists_cons_of_ne_nil more
    have some : (mapLast f (second :: others)) ≠ [] := by
      intro empty
      have length := length_mapLast f (second :: others)
      simp [empty] at length
    obtain ⟨head, tail, shape⟩ := List.exists_cons_of_ne_nil some
    rw [shape] at ih ⊢
    simpa using ih

end Instruction

namespace Decoder

end Decoder

end GlulxAsm
