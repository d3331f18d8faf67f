import GlulxAsm.Files.Fault
import GlulxAsm.Operand
import GlulxAsm.Stage
import GlulxAsm.Token.Lexer

/-! What can go wrong in an assembly. Each error is a cause with the values it speaks about; the
wording stands in the `message` functions only. -/
namespace GlulxAsm

/-- Faults of a statement's form. -/
inductive StatementFault where
  | operandCount (head : String) (expected found : Nat)
  | tooFewOperands (head : String) (least found : Nat)
  | wrongToken (head expected : String) (found : TokenKind)
  | negativeStackSize (value : Int32)
  | negativeLocals (value : Int32)
  | negativeSize (value : Int32)
  | byteWidth (value : Int32)
  | unknownMnemonic (name : String)
  | notAnOperand (text : String)
  | missingOperand
  | callTarget (head : String) (found : TokenKind)
  | circularInclude (path : String)
deriving DecidableEq

namespace StatementFault

def message : StatementFault → String
  | operandCount head expected found =>
    s!"bad operand count for {head}: expected {expected}, found {found}"
  | tooFewOperands head least found => s!"{head} needs at least {least} operand(s), found {found}"
  | wrongToken head expected found =>
    s!"{head}: expected {expected}, found {found.description} `{found.text}`"
  | negativeStackSize value => s!"stack size {value.toInt} is negative"
  | negativeLocals value => s!"negative local count {value.toInt}"
  | negativeSize value => s!"negative size {value.toInt}"
  | byteWidth value => s!"bytes width must be 8, 16 or 32, not {value.toInt}"
  | unknownMnemonic name => s!"unknown mnemonic \"{name}\""
  | notAnOperand text => s!"\"{text}\" is not a valid operand"
  | missingOperand => "missing operand"
  | callTarget head found =>
    s!"{head} target must be a name or number, found {found.description}"
  | circularInclude path => s!"circular include of {path}"

end StatementFault

/-- Limits that a program can exceed. -/
inductive Limit where
  | reservation (count : Nat)
  | byteBlock (size given : Nat)
  | valueRange (value : Int32) (bits : Nat)
  | wordTable (capacity : Nat)
  | basicString (c : Char)
  | imageSize
  | romSize
deriving DecidableEq

namespace Limit

/-- The largest block in bytes that one statement may reserve. -/
def blockBytes : Nat := 0x1000000

def message : Limit → String
  | reservation count => s!"cannot reserve {count} item(s), the limit is {blockBytes} bytes"
  | byteBlock size given => s!"bytesFixed holds {size} byte(s) but {given} given"
  | valueRange value bits => s!"value {value.toInt} does not fit in {bits} bits"
  | wordTable capacity => s!"word table holds {capacity} item(s); cannot add more"
  | basicString c => s!"character {Text.quotedChar c} does not fit a basic string"
  | imageSize => "image exceeds 4 GiB"
  | romSize => "ROM exceeds 4 GiB"

end Limit

/-- Uses of an object that its stage or its fragments do not allow. -/
inductive Misuse where
  | addedAfterLayout
  | wrongStage (pass : Pass) (needed found : Stage)
  | unplaced
  | misplaced (position : UInt32) (offset : Nat)
  | resized (size : UInt32) (written : Nat)
  | unresolvedOperand (mnemonic : String) (operand : Operand)
  | unresolvedWord (item : Operand)
  | romEnd (found : Nat) (expected : UInt32)
  | ramEnd (limit : UInt32)
deriving DecidableEq

namespace Misuse

def message : Misuse → String
  | addedAfterLayout => "unit added after layout"
  | wrongStage pass needed found =>
    s!"{pass.text} needs stage {needed.text} but object file is {found.text}"
  | unplaced => "unit emitted before layout"
  | misplaced position offset =>
    s!"unit placed at {Text.address position.toNat} but output is at {Text.address offset}"
  | resized size written =>
    s!"unit sized {size.toNat} bytes during layout but wrote {written}"
  | unresolvedOperand mnemonic operand => s!"{mnemonic}: operand {operand.text} was never resolved"
  | unresolvedWord item => s!"unresolved word {item.text}"
  | romEnd found expected =>
    s!"ROM ends at {Text.address found}, expected {Text.address expected.toNat}"
  | ramEnd limit => s!"RAM ran past the image end {Text.address limit.toNat}"

end Misuse

inductive AsmError where
  | lexical (loc : Location) (fault : LexicalFault)
  | statement (loc : Location) (fault : StatementFault)
  | undefinedSymbol (loc : Location) (name : String)
  | capacity (loc : Location) (limit : Limit)
  | missingEntryPoint
  | unreadable (path : String) (fault : FileFault)
  | includeFailed (loc : Location) (path : String) (fault : FileFault)
  | misuse (loc : Location) (cause : Misuse)
deriving DecidableEq

namespace AsmError

def message : AsmError → String
  | lexical loc fault => s!"{loc.text}: {fault.message}"
  | statement loc fault => s!"{loc.text}: {fault.message}"
  | undefinedSymbol loc name => s!"{loc.text}: undefined symbol \"{name}\""
  | capacity loc limit => s!"{loc.text}: {limit.message}"
  | missingEntryPoint => "could not find function \"main\""
  | unreadable path fault => s!"cannot read {path}: {fault.message}"
  | includeFailed loc path fault => s!"{loc.text}: cannot include {path}: {fault.message}"
  | misuse loc cause => s!"{loc.text}: internal error: {cause.message}"

end AsmError

/-- An assembly that found errors, in the order in which they were found. -/
structure Aborted where
  errors : List AsmError

namespace Aborted

def message (aborted : Aborted) : String :=
  s!"assembly aborted after {aborted.errors.length} error(s)"

end Aborted

/-- Sums that leave the machine's range. They end the work at once, without a message. -/
inductive Overflow where
  | stackSize (bytes : UInt32)
  | tableSize (words : Nat)
  | instructionSize (bytes : Nat)
  | imageSize (bytes : UInt32)
  | wordOffset (offset : Nat)
  | lineNumber (file : String)
deriving DecidableEq

/-- How an operation on an object ends without a result. -/
inductive Failure where
  | rejected (error : AsmError)
  | overflow (cause : Overflow)
deriving DecidableEq

/-- Conditions that are noted and do not stop the assembly. -/
inductive Warning where
  | duplicateLabel (name : String) (first duplicate : Location)
  | stackSizeRounded (requested rounded : UInt32)
  | constantRedefined (name : String) (loc : Location)
deriving DecidableEq

namespace Warning

def message : Warning → String
  | duplicateLabel name first duplicate =>
    s!"{duplicate.text}: label \"{name}\" already defined at {first.text}; " ++
      "keeping the first definition"
  | stackSizeRounded requested rounded =>
    s!"stack size {requested.toNat} is not a multiple of 256; rounded up to {rounded.toNat}"
  | constantRedefined name loc => s!"{loc.text}: constant \"{name}\" redefined"

end Warning

end GlulxAsm
