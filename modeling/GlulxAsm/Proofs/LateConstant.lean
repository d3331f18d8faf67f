import GlulxAsm.Proofs.Decoder
import GlulxAsm.Symbol

/-! Constants that are defined behind their use. An operand that knows its constant takes the least width,
and one that has to wait for it takes four bytes; the machine sees the same in both. The exception is the
slot number of the stack: only an operand without bytes is the stack, so a name that turns out to have this
number is taken for a local variable. -/
namespace GlulxAsm

namespace ConstantTable

/-- A table is what it says about names. -/
theorem ext_get? {one two : ConstantTable} (same : ∀ name, one.get? name = two.get? name) :
    one = two := by
  cases one
  cases two
  exact congrArg mk (Std.ExtTreeMap.ext_getElem? same)

theorem get?_define (table : ConstantTable) (name : String) (constant : Constant) (other : String) :
    (table.define name constant).get? other =
      if name = other then some constant else table.get? other := by
  simp [get?, define, Std.ExtTreeMap.getElem?_insert]

theorem value?_define (table : ConstantTable) (name : String) (constant : Constant)
    (other : String) :
    (table.define name constant).value? other =
      if name = other then some constant.value else table.value? other := by
  rw [value?, get?_define]
  split <;> rfl

theorem value?_empty (name : String) : ({} : ConstantTable).value? name = none := by
  simp [value?, get?]

end ConstantTable

namespace Operand

/-- A name that starts with no sigil and spells neither a number nor the stack. -/
structure Plain (name : String) : Prop where
  star : name.toList.head? ≠ some '*'
  hash : name.toList.head? ≠ some '#'
  number : Number.signed? 32 name.toList = none
  stack : name ≠ "sp"

/-- What a mode's sigil in front of a name is read as. -/
theorem splitSigil_spelled {name : String} {mode : Mode} (plain : Plain name)
    (spelled : mode ≠ .ram) :
    splitSigil (mode.sigil ++ name).toList = (mode, name.toList) := by
  rw [String.toList_append]
  cases mode with
  | constant =>
    have star := plain.star
    have hash := plain.hash
    change splitSigil name.toList = (.constant, name.toList)
    unfold splitSigil
    split
    · next found => simp [found] at star
    · next found => simp [found] at hash
    · rfl
  | memory => rfl
  | slot => rfl
  | ram => exact absurd rfl spelled

theorem spelled_ne_stack {name : String} {mode : Mode} (plain : Plain name) :
    mode.sigil ++ name ≠ "sp" := by
  intro same
  have letters := congrArg String.toList same
  rw [String.toList_append] at letters
  cases mode with
  | constant => exact plain.stack (String.toList_inj.mp letters)
  | memory => cases letters
  | slot => cases letters
  | ram => cases letters

theorem ofIdent_known {constant? : String → Option Int32} {name : String} {mode : Mode}
    {value : Int32} (plain : Plain name) (spelled : mode ≠ .ram)
    (known : constant? name = some value) :
    ofIdent constant? (mode.sigil ++ name) = literal mode value := by
  rw [ofIdent, if_neg (spelled_ne_stack plain), splitSigil_spelled plain spelled]
  simp only [String.ofList_toList, known]

theorem ofIdent_unknown {constant? : String → Option Int32} {name : String} {mode : Mode}
    (plain : Plain name) (spelled : mode ≠ .ram) (unknown : constant? name = none) :
    ofIdent constant? (mode.sigil ++ name) = symbol mode name := by
  rw [ofIdent, if_neg (spelled_ne_stack plain), splitSigil_spelled plain spelled]
  simp only [String.ofList_toList, unknown, plain.number]

end Operand

namespace Decoder

open Operand ConstantTable

/-- What the machine sees where an operand is written in front of other bytes. -/
def seen? (operand : Operand) (rest : List UInt8) : Option (Argument × List UInt8) :=
  operand.machineValue?.bind fun value =>
    argument? operand.nibble (operand.width.encode value ++ rest)

/-- What a mode and a value mean to the machine. -/
def Argument.meant (mode : Mode) (value : Int32) : Argument :=
  match mode with
  | .constant => .constant value
  | .memory => .memory value.toUInt32
  | .slot => if value = stackTop then .stack else .slot (value * 4).toUInt32
  | .ram => .ram value.toUInt32

theorem seen?_of_fits {operand : Operand} {value : Int32} (fits : operand.Fits)
    (known : operand.machineValue? = some value) (rest : List UInt8) :
    seen? operand rest = some (Argument.written operand value, rest) := by
  rw [seen?, known, Option.bind_some]
  exact argument?_encode (fits.holds known) rest

/-- A value that is known when its operand is made is seen as it is meant. -/
theorem seen?_literal (mode : Mode) (value : Int32) (rest : List UInt8) :
    seen? (literal mode value) rest = some (.meant mode value, rest) := by
  rw [seen?_of_fits (fits_literal mode value) rfl]
  cases mode with
  | constant => simp [Argument.written, Argument.meant, literal, scaled]
  | memory => simp [Argument.written, Argument.meant, literal, scaled]
  | ram => simp [Argument.written, Argument.meant, literal, scaled]
  | slot =>
    by_cases top : value = stackTop
    · simp [Argument.written, Argument.meant, literal, widthFor, top]
    · have bytes : Width.ofUnsigned (scaled .slot value).toUInt32 ≠ .zero := by
        intro none
        have holds := Width.ofUnsigned_holds (scaled .slot value).toUInt32
        rw [none] at holds
        exact holds
      simp only [Argument.written, Argument.meant, literal, widthFor, if_neg top, if_neg bytes]
      simp [scaled, top]

/-- A value that comes later is seen as it is meant, except as the number of the stack: with bytes of its
own it is the offset of a local variable. -/
theorem seen?_four (mode : Mode) (value : Int32) (rest : List UInt8) :
    seen? ⟨mode, .literal value, .four⟩ rest =
      some (if mode = .slot ∧ value = stackTop then .slot stackTop.toUInt32 else .meant mode value,
        rest) := by
  have fits : Fits ⟨mode, .literal value, .four⟩ := holds_of_four rfl _
  rw [seen?_of_fits fits rfl]
  cases mode with
  | constant => simp [Argument.written, Argument.meant, scaled]
  | memory => simp [Argument.written, Argument.meant, scaled]
  | ram => simp [Argument.written, Argument.meant, scaled]
  | slot =>
    by_cases top : value = stackTop
    · simp [Argument.written, scaled, top]
    · simp [Argument.written, Argument.meant, scaled, top]

/-- An operand whose constant is defined behind its use can always be resolved, and it is seen as the
operand with the constant defined before, unless it is a slot with the number of the stack. Then the early
one is the stack and the late one a local variable. -/
theorem late_constant_seen_iff (mode : Mode) {name : String} {value : Int32}
    {early before late : ConstantTable} (symbols : SymbolTable) (plain : Plain name)
    (spelled : mode ≠ .ram) (known : early.value? name = some value)
    (unknown : before.value? name = none) (defined : late.value? name = some value) :
    let one := ofIdent early.value? (mode.sigil ++ name)
    ∃ two, (ofIdent before.value? (mode.sigil ++ name)).resolve (nameValue? symbols late) = .ok two ∧
      (∀ rest, seen? one rest = some (.meant mode value, rest)) ∧
      ((∀ rest, seen? one rest = seen? two rest) ↔ ¬ (mode = .slot ∧ value = stackTop)) ∧
      (mode = .slot ∧ value = stackTop → ∀ rest, seen? one rest = some (.stack, rest) ∧
        seen? two rest = some (.slot 0xffffffff, rest)) := by
  intro one
  have first : one = literal mode value := ofIdent_known plain spelled known
  have second : (ofIdent before.value? (mode.sigil ++ name)).resolve (nameValue? symbols late) =
      .ok ⟨mode, .literal value, .four⟩ := by
    rw [ofIdent_unknown plain spelled unknown]
    simp [Operand.resolve, symbol, nameValue?, defined]
  refine ⟨_, second, ?_, ?_, ?_⟩
  · intro rest
    rw [first, seen?_literal]
  · simp only [first, seen?_literal, seen?_four]
    constructor
    · rintro same ⟨rfl, rfl⟩
      simpa [Argument.meant] using same []
    · intro other rest
      rw [if_neg other]
  · rintro ⟨rfl, rfl⟩ rest
    rw [first, seen?_literal, seen?_four]
    exact ⟨rfl, rfl⟩

/-- A table with one constant. -/
def single (name : String) (value : Int32) : ConstantTable :=
  ({} : ConstantTable).define name { value, loc := .builtIn }

theorem value?_single (name : String) (value : Int32) : (single name value).value? name = some value := by
  rw [single, ConstantTable.value?_define, if_pos rfl]

theorem plain_top : Plain "top" := ⟨by decide, by decide, by decide, by decide⟩

/-- The address 300 takes two bytes if it is known, and four if it comes later. -/
theorem late_constant_seen_iff_address :
    ∃ two, (ofIdent ({} : ConstantTable).value? ("*" ++ "top")).resolve
        (nameValue? {} (single "top" 300)) = .ok two ∧
      (ofIdent (single "top" 300).value? ("*" ++ "top")).width = .two ∧ two.width = .four ∧
      ∀ rest, seen? (ofIdent (single "top" 300).value? ("*" ++ "top")) rest = seen? two rest := by
  have known := value?_single "top" 300
  have one : ofIdent (single "top" 300).value? (Mode.memory.sigil ++ "top") = literal .memory 300 :=
    ofIdent_known plain_top (by decide) known
  obtain ⟨two, resolved, _, same, _⟩ := late_constant_seen_iff .memory {} plain_top (by decide) known
    (value?_empty "top") known
  refine ⟨two, resolved, ?_, ?_, same.mpr (by decide)⟩
  · exact congrArg Operand.width one
  · rw [ofIdent_unknown plain_top (by decide) (value?_empty "top")] at resolved
    simp only [Operand.resolve, symbol, nameValue?, known] at resolved
    cases resolved
    rfl

/-- The number of the stack is not seen alike. -/
theorem late_stack_top_differs :
    ¬ ∀ (name : String) (mode : Mode) (value : Int32) (early before late : ConstantTable),
      Plain name → mode ≠ .ram → early.value? name = some value → before.value? name = none →
      late.value? name = some value →
      ∃ two, (ofIdent before.value? (mode.sigil ++ name)).resolve (nameValue? {} late) = .ok two ∧
        ∀ rest, seen? (ofIdent early.value? (mode.sigil ++ name)) rest = seen? two rest := by
  intro claim
  obtain ⟨two, resolved, same⟩ := claim "top" .slot stackTop (single "top" stackTop) {}
    (single "top" stackTop) plain_top (by decide) (value?_single _ _) (value?_empty _)
    (value?_single _ _)
  rw [ofIdent_unknown plain_top (by decide) (value?_empty _)] at resolved
  simp only [Operand.resolve, symbol, nameValue?, value?_single] at resolved
  cases resolved
  have differ := same []
  rw [ofIdent_known plain_top (by decide) (value?_single _ _), seen?_literal, seen?_four] at differ
  cases differ

end Decoder

end GlulxAsm
