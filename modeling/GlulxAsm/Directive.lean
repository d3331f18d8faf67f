import GlulxAsm.Error
import GlulxAsm.Data
import GlulxAsm.Label
import GlulxAsm.Mnemonic

/-! What a statement says, read from its tokens. Operands of instructions and word tables stay tokens
here, because their meaning depends on the object they meet. -/
namespace GlulxAsm

inductive Directive where
  | stackSize (bytes : UInt32)
  | selectRom (toRom : Bool)
  | includeFile (file : String)
  | constant (name : String) (value : Int32)
  | function (label : Label)
  | addAlias (label content : String)
  | string (label content : String)
  | data (label : String) (block : Data)
  | words (label : String) (capacity : Option Nat) (items : List Token)
  | call (mnemonic : Mnemonic) (target : Token) (arguments : List Token) (destination : Token)
  | instruction (mnemonic : Mnemonic) (operands : List Token)

namespace Directive

/-- A statement whose head word takes exactly `expected` operands has another number of them. -/
def wrongCount {α : Type} (head : String) (loc : Location) (expected : Nat) (args : List Token) :
    Except AsmError α :=
  .error (.statement loc (.operandCount head expected args.length))

/-- A statement whose head word takes `least` operands or more has fewer. -/
def tooFew {α : Type} (head : String) (loc : Location) (least : Nat) (args : List Token) :
    Except AsmError α :=
  .error (.statement loc (.tooFewOperands head least args.length))

def ident (head : String) (token : Token) : Except AsmError String :=
  match token.kind with
  | .ident name => .ok name
  | found => .error (.statement token.loc (.wrongToken head "identifier" found))

def int (head : String) (token : Token) : Except AsmError Int32 :=
  match token.kind with
  | .int value => .ok value
  | found => .error (.statement token.loc (.wrongToken head "integer" found))

def text (head : String) (token : Token) : Except AsmError String :=
  match token.kind with
  | .string content => .ok content
  | found => .error (.statement token.loc (.wrongToken head "string" found))

/-- A number that must not be negative; `fault` says what it is. -/
def unsigned (loc : Location) (fault : Int32 → StatementFault) (value : Int32) :
    Except AsmError UInt32 :=
  if value < 0 then .error (.statement loc (fault value)) else .ok value.toUInt32

/-- The number of items to reserve, limited by the bytes they take. -/
def blockCount (loc : Location) (itemBytes : Nat) (value : Int32) : Except AsmError Nat := do
  let count ← unsigned loc .negativeSize value
  if count.toNat * itemBytes ≤ Limit.blockBytes then return count.toNat
  else throw (.capacity loc (.reservation count.toNat))

/-- The width in bytes of a table cell of 8, 16 or 32 bits. -/
def cellWidth? (bits : Int32) : Option Width :=
  if bits = 8 then some .one
  else if bits = 16 then some .two
  else if bits = 32 then some .four
  else none

/-- A cell takes a value that fits it with or without a sign. -/
def fits (width : Width) (value : Int32) : Bool :=
  let bits := 8 * width.bytes
  width == .four || (-(Nat.pow 2 (bits - 1) : Int) ≤ value.toInt && value.toInt < Nat.pow 2 bits)

/-- The bytes of one cell. -/
def cell (head : String) (width : Width) (token : Token) : Except AsmError (List UInt8) := do
  let value ← int head token
  if fits width value then return width.encode value
  else throw (.capacity token.loc (.valueRange value (8 * width.bytes)))

def cells (head : String) (width : Width) (tokens : List Token) : Except AsmError (List UInt8) :=
  return (← tokens.mapM (cell head width)).flatten

def readStackSize (head : String) (loc : Location) : List Token → Except AsmError Directive
  | [size] => return stackSize (← unsigned loc .negativeStackSize (← int head size))
  | args => wrongCount head loc 1 args

def readSegment (head : String) (toRom : Bool) (loc : Location) :
    List Token → Except AsmError Directive
  | [] => return selectRom toRom
  | args => wrongCount head loc 0 args

def readInclude (head : String) (loc : Location) : List Token → Except AsmError Directive
  | [file] => return includeFile (← text head file)
  | args => wrongCount head loc 1 args

def readConstant (head : String) (loc : Location) : List Token → Except AsmError Directive
  | [name, value] => return constant (← ident head name) (← int head value)
  | args => wrongCount head loc 2 args

def readFunction (head : String) (kind : LabelKind) (loc : Location) :
    List Token → Except AsmError Directive
  | [name, locals] => do
    let name ← ident head name
    let locals ← unsigned loc .negativeLocals (← int head locals)
    return function { name, kind, locals }
  | args => wrongCount head loc 2 args

/-- A label and a text, for the two kinds of string statements. -/
def readString (head : String) (make : String → String → Directive) (loc : Location) :
    List Token → Except AsmError Directive
  | [label, content] => return make (← ident head label) (← text head content)
  | args => wrongCount head loc 2 args

def readBytes (head : String) (loc : Location) : List Token → Except AsmError Directive
  | bits :: label :: values => do
    let bits ← int head bits
    match cellWidth? bits with
    | some width => return data (← ident head label) ⟨← cells head width values⟩
    | none => throw (.statement loc (.byteWidth bits))
  | args => tooFew head loc 2 args

def readBytesFixed (head : String) (loc : Location) : List Token → Except AsmError Directive
  | label :: size :: values => do
    let label ← ident head label
    let size ← blockCount loc 1 (← int head size)
    if values.length ≤ size then return data label (.padded size (← cells head .one values))
    else throw (.capacity loc (.byteBlock size values.length))
  | args => tooFew head loc 2 args

def readWords (head : String) (loc : Location) : List Token → Except AsmError Directive
  | label :: items => return words (← ident head label) none items
  | args => tooFew head loc 1 args

/-- The size is looked at before the label. -/
def readWordsFixed (head : String) (loc : Location) : List Token → Except AsmError Directive
  | label :: count :: items => do
    let count ← blockCount loc 4 (← int head count)
    return words (← ident head label) (some count) items
  | args => tooFew head loc 2 args

/-- A target, arguments and a destination; the last operand is the destination. -/
def readCall (head : String) (mnemonic : Mnemonic) (loc : Location) :
    List Token → Except AsmError Directive
  | target :: second :: others =>
    match target.kind with
    | .ident _ | .int _ =>
      return call mnemonic target (second :: others).dropLast ((second :: others).getLast (by simp))
    | found => throw (.statement target.loc (.callTarget head found))
  | args => tooFew head loc 2 args

def readInstruction (head : String) (loc : Location) (args : List Token) :
    Except AsmError Directive :=
  match Mnemonic.find? head with
  | some mnemonic =>
    if args.length = mnemonic.operands then .ok (instruction mnemonic args)
    else wrongCount head loc mnemonic.operands args
  | none => .error (.statement loc (.unknownMnemonic head))

/-- The directive that a head word and its operands make. -/
def read (head : String) (loc : Location) (args : List Token) : Except AsmError Directive :=
  match head with
  | "stackSize" => readStackSize head loc args
  | "toROM" => readSegment head true loc args
  | "endROM" => readSegment head false loc args
  | "include" => readInclude head loc args
  | "constant" => readConstant head loc args
  | "function" => readFunction head .localFunction loc args
  | "stkfunction" => readFunction head .stackFunction loc args
  | "addString" => readString head addAlias loc args
  | "string" => readString head string loc args
  | "bytes" => readBytes head loc args
  | "bytesFixed" => readBytesFixed head loc args
  | "words" => readWords head loc args
  | "wordsFixed" => readWordsFixed head loc args
  | "_call" => readCall head .call loc args
  | "_glk" => readCall head .glk loc args
  | _ => readInstruction head loc args

end Directive

end GlulxAsm
