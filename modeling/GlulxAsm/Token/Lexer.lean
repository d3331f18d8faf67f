import GlulxAsm.Number.Single
import GlulxAsm.Token

/-! Reading tokens from text. A line end closes a statement and a semicolon starts a comment. A
malformed token costs the rest of its line and nothing more, so one reading finds every lexical
fault of a text. -/
namespace GlulxAsm

/-- What can be wrong with the spelling of a token. -/
inductive LexicalFault where
  | unexpectedCharacter (c : Char)
  | badFloat (text : String)
  | badInteger (text : String)
  | integerTooLarge (text : String)
  | badHex (digits : String)
  | badCharacterCode (digits : String)
  | unknownEscape (c : Char)
  | unterminatedString
deriving DecidableEq

namespace LexicalFault

def message : LexicalFault → String
  | unexpectedCharacter c => "unexpected character " ++ Text.quotedChar c
  | badFloat text => "bad float literal " ++ Text.quoted text
  | badInteger text => "bad integer literal " ++ Text.quoted text
  | integerTooLarge text => s!"integer {text} does not fit 32 bits"
  | badHex digits => "bad hex literal $" ++ digits
  | badCharacterCode digits => "bad character escape \\x" ++ digits
  | unknownEscape c => "unknown character escape \\" ++ c.toString
  | unterminatedString => "unterminated string"

end LexicalFault

namespace Lexer

def isIdentStart (c : Char) : Bool :=
  Text.isAlphabetic c || c == '*' || c == '#' || c == '_'

def isIdentChar (c : Char) : Bool := Text.isAlphanumeric c || c == '_'

/-- A token or a fault with the line it is charged to. -/
structure Lexeme where
  line : Nat
  content : Except LexicalFault TokenKind

theorem dropWhile_le (p : Char → Bool) (text : List Char) :
    (text.dropWhile p).length ≤ text.length :=
  (List.dropWhile_sublist p).length_le

/-- The text from the next line end on. -/
def restOfLine (text : List Char) : List Char := text.dropWhile (· != '\n')

theorem restOfLine_le (text : List Char) : (restOfLine text).length ≤ text.length :=
  dropWhile_le _ text

/-- The number that the digits of a decimal literal stand for, as a 32-bit pattern. A point makes it
a single-precision number; without one it may be signed or unsigned. -/
def decimal (text : List Char) : Except LexicalFault Int32 :=
  if text.contains '.' then
    match Number.Single.ofText? text with
    | some bits => .ok bits.toInt32
    | none => .error (.badFloat (String.ofList text))
  else match Number.signed? 64 text with
    | none => .error (.badInteger (String.ofList text))
    | some value =>
      if -0x80000000 ≤ value ∧ value < 0x100000000 then .ok (Int32.ofInt value)
      else .error (.integerTooLarge (String.ofList text))

def hex (digits : List Char) : Except LexicalFault Int32 :=
  let value := Number.ofDigits 16 digits
  if digits.isEmpty || 0x100000000 ≤ value then .error (.badHex (String.ofList digits))
  else .ok (UInt32.ofNat value).toInt32

/-- The character with the code that hexadecimal digits spell, if there is one. -/
def characterOfCode? (digits : List Char) : Option Char :=
  let code := Number.ofDigits 16 digits
  if !digits.isEmpty && code.isValidChar then some (Char.ofNat code) else none

/-- What a backslash and one more character add to a string; `\0` adds nothing. -/
def escape? : Char → Option (List Char)
  | '0' => some []
  | '\\' => some ['\\']
  | '"' => some ['"']
  | 'n' => some ['\n']
  | 'r' => some ['\r']
  | 't' => some ['\t']
  | _ => none

/-- The result of reading a string: its content or a fault with its line, and where reading
stopped. -/
structure StringReading where
  content : Except (Nat × LexicalFault) (List Char)
  line : Nat
  rest : List Char

def lineAfter (line : Nat) (c : Char) : Nat := if c = '\n' then line + 1 else line

/-- Reads a string behind its opening quote at line `start`. `content` holds the characters so far in
reverse. A missing closing quote is charged to the opening one, a bad escape to its own line. -/
def readString (start line : Nat) (content : List Char) (text : List Char) : StringReading :=
  match text with
  | [] => ⟨.error (start, .unterminatedString), line, []⟩
  | '"' :: rest => ⟨.ok content.reverse, line, rest⟩
  | ['\\'] => ⟨.error (start, .unterminatedString), line, []⟩
  | '\\' :: 'x' :: rest =>
    let digits := rest.takeWhile Text.isHexDigit
    match characterOfCode? digits with
    | some c => readString start line (c :: content) (rest.dropWhile Text.isHexDigit)
    | none =>
      ⟨.error (line, .badCharacterCode (String.ofList digits)), line, rest.dropWhile Text.isHexDigit⟩
  | '\\' :: c :: rest =>
    match escape? c with
    | some added => readString start line (added ++ content) rest
    | none => ⟨.error (line, .unknownEscape c), lineAfter line c, rest⟩
  | c :: rest => readString start (lineAfter line c) (c :: content) rest
termination_by text.length
decreasing_by all_goals grind [dropWhile_le]

theorem readString_rest_le (start line : Nat) (content text : List Char) :
    (readString start line content text).rest.length ≤ text.length := by
  fun_induction readString start line content text <;> grind [dropWhile_le]

/-- One lexeme, or none for blanks and comments, and where the text goes on. -/
structure Step where
  lexeme : Option Lexeme
  line : Nat
  rest : List Char

def Step.token (line : Nat) (kind : TokenKind) (rest : List Char) : Step :=
  ⟨some ⟨line, .ok kind⟩, line, rest⟩

/-- A fault on `charged`; the rest of the current line is lost. -/
def Step.fault (charged line : Nat) (fault : LexicalFault) (rest : List Char) : Step :=
  ⟨some ⟨charged, .error fault⟩, line, restOfLine rest⟩

def Step.number (line : Nat) (value : Except LexicalFault Int32) (rest : List Char) : Step :=
  match value with
  | .ok value => .token line (.int value) rest
  | .error fault => .fault line line fault rest

theorem Step.number_rest_le (line : Nat) (value : Except LexicalFault Int32) (rest : List Char) :
    (Step.number line value rest).rest.length ≤ rest.length := by
  cases value with
  | ok value => exact Nat.le_refl _
  | error fault => exact restOfLine_le rest

def isDecimalChar (c : Char) : Bool := c.isDigit || c == '.'

/-- Reads what starts with `first` on `line`. -/
def step (line : Nat) (first : Char) (rest : List Char) : Step :=
  if first = '\n' then ⟨some ⟨line, .ok .endOfStatement⟩, line + 1, rest⟩
  else if first = ';' then ⟨none, line, restOfLine rest⟩
  else if Text.isBlank first then ⟨none, line, rest⟩
  else if first = '"' then
    let reading := readString line line [] rest
    match reading.content with
    | .ok content =>
      ⟨some ⟨line, .ok (.string (String.ofList content))⟩, reading.line, reading.rest⟩
    | .error (charged, fault) => .fault charged reading.line fault reading.rest
  else if first == '-' || first.isDigit then
    .number line (decimal (first :: rest.takeWhile isDecimalChar)) (rest.dropWhile isDecimalChar)
  else if first = '$' then
    .number line (hex (rest.takeWhile Text.isHexDigit)) (rest.dropWhile Text.isHexDigit)
  else if isIdentStart first then
    let name := first :: rest.takeWhile isIdentChar
    match rest.dropWhile isIdentChar with
    | ':' :: rest => .token line (.ident (String.ofList (name ++ [':']))) rest
    | rest => .token line (.ident (String.ofList name)) rest
  else .fault line line (.unexpectedCharacter first) rest

theorem step_rest_le (line : Nat) (first : Char) (rest : List Char) :
    (step line first rest).rest.length ≤ rest.length := by
  unfold step
  have quote := readString_rest_le line line [] rest
  repeat' split
  all_goals grind [Step.token, Step.fault, Step.number_rest_le, restOfLine_le, dropWhile_le]

/-- All lexemes of a text that starts on `line`, behind those already read. A statement end closes
the text. -/
def scan (read : Array Lexeme) (line : Nat) (text : List Char) : Array Lexeme :=
  match text with
  | [] => read.push ⟨line, .ok .endOfStatement⟩
  | first :: rest =>
    let next := step line first rest
    scan (match next.lexeme with | some lexeme => read.push lexeme | none => read) next.line next.rest
termination_by text.length
decreasing_by
  have := step_rest_le line first rest
  simp only [List.length_cons]; omega

def lexemes (source : String) : List Lexeme := (scan #[] 1 source.toList).toList

end Lexer

/-- The tokens of a text and its lexical faults, each in order. -/
structure Scan where
  tokens : List Token
  faults : List (Location × LexicalFault)

/-- The line of the last token, which is the one that closes the text. -/
def Scan.lastLine (scan : Scan) : Nat := scan.tokens.getLast?.elim 0 (·.loc.line)

def tokenize (file source : String) : Scan :=
  let lexemes := Lexer.lexemes source
  { tokens := lexemes.filterMap fun lexeme =>
      lexeme.content.toOption.map fun kind => ⟨kind, ⟨file, lexeme.line⟩⟩
    faults := lexemes.filterMap fun lexeme =>
      match lexeme.content with
      | .error fault => some (⟨file, lexeme.line⟩, fault)
      | .ok _ => none }

end GlulxAsm
