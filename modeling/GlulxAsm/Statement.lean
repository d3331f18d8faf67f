import GlulxAsm.Directive
import GlulxAsm.Object.Basic

/-! What statements do to an object. A statement that fails keeps what it did before it failed. -/
namespace GlulxAsm

namespace Statement

open Object (Action)

/-- An include statement, to be followed by whoever can read files. -/
structure IncludeRequest where
  file : String
  loc : Location

/-- A lone sigil or a label is no operand. -/
def isOperandName (name : String) : Bool :=
  name.toList.getLast? != some ':' && name != "*" && name != "#"

/-- The operand that a token stands for. A string joins the pool and stands for its label. -/
def operand (token : Token) : Action Operand :=
  match token.kind with
  | .int value => pure (.constant value)
  | .string content => do
    let label ← modifyGet fun object => let (object, label) := object.intern content; (label, object)
    return .symbol .constant label
  | .ident name =>
    if isOperandName name then return .ofIdent (← get).constants.value? name
    else throw (.statement token.loc (.notAnOperand name))
  | .endOfStatement => throw (.statement token.loc .missingOperand)

/-- The items of a word table that holds `count` items so far. -/
def wordItems (capacity : Option Nat) (count : Nat) : List Token → Action (List Operand)
  | [] => pure []
  | token :: rest => do
    let item ← operand token
    if WordTable.hasRoom capacity count then
      return item :: (← wordItems capacity (count + 1) rest)
    else throw (.capacity token.loc (.wordTable (capacity.getD 0)))

/-- A label and the fragment it names. -/
def addLabelled (loc : Location) (name : String) (kind : LabelKind) (body : Fragment.Body) :
    Action Unit := do
  Object.add (.label { name, kind }) loc
  Object.add body loc

/-- Pushes call arguments, each with a `copy` to the stack. -/
def pushArguments (loc : Location) : List Token → Action Unit
  | [] => pure ()
  | token :: rest => do
    let value ← operand token
    Object.add (.instruction (.make .copy [value, .stack])) loc
    pushArguments loc rest

/-- Pushes the arguments from the last to the first and calls with their number. Target and
destination are read before the arguments. -/
def performCall (loc : Location) (mnemonic : Mnemonic) (target : Token) (arguments : List Token)
    (destination : Token) : Action Unit := do
  let target ← operand target
  let destination ← operand destination
  pushArguments loc arguments.reverse
  let count := Operand.constant (Int32.ofNat arguments.length)
  Object.add (.instruction (.make mnemonic [target, count, destination])) loc

/-- Does what a directive says. An include needs files and is left to the caller. -/
def perform (loc : Location) : Directive → Action Unit
  | .includeFile _ => pure ()
  | .stackSize bytes => modify (·.setStackSize bytes)
  | .selectRom toRom => modify (·.selectRom toRom)
  | .constant name value => modify (·.addConstant name value loc)
  | .addAlias label content => modify fun object => (object.addAlias label content).1
  | .function label => Object.add (.label label) loc
  | .string label content => addLabelled loc label .string (.data (.string content))
  | .data label block => addLabelled loc label .data (.data block)
  | .words label capacity items => do
    let items ← wordItems capacity 0 items
    addLabelled loc label .data (.words { items, capacity })
  | .call mnemonic target arguments destination =>
    performCall loc mnemonic target arguments destination
  | .instruction mnemonic operands => do
    let operands ← operands.mapM operand
    Object.add (.instruction (.make mnemonic operands)) loc

/-- The name in front of a colon at the end of an identifier. -/
def labelName? (name : String) : Option String :=
  if name.toList.getLast? = some ':' then some (String.ofList name.toList.dropLast) else none

/-- Runs the tokens of one statement: labels first, then at most one directive. An include is only
asked for. -/
def run : List Token → Action (Option IncludeRequest)
  | [] => return none
  | head :: args => do
    let name ← MonadExcept.ofExcept (Directive.ident "statement" head)
    match labelName? name with
    | some label =>
      Object.add (.label (.general label)) head.loc
      run args
    | none =>
      match ← MonadExcept.ofExcept (Directive.read name head.loc args) with
      | .includeFile file => return some { file, loc := head.loc }
      | directive => do
        perform head.loc directive
        return none

end Statement

end GlulxAsm
