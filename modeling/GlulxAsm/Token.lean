import GlulxAsm.Location
import GlulxAsm.Text.Quoted

/-! Tokens of assembly text. Every number is a 32-bit value by the time it is a token, however it was
spelled. -/
namespace GlulxAsm

inductive TokenKind where
  | ident (name : String)
  | string (content : String)
  | int (value : Int32)
  | endOfStatement
deriving DecidableEq

namespace TokenKind

def description : TokenKind → String
  | ident _ => "identifier"
  | string _ => "string"
  | int _ => "integer"
  | endOfStatement => "end of statement"

/-- The token as messages show it. -/
def text : TokenKind → String
  | ident name => name
  | string content => Text.quoted content
  | int value => toString value.toInt
  | endOfStatement => "<end>"

end TokenKind

structure Token where
  kind : TokenKind
  loc : Location
deriving DecidableEq

/-- Statements are the runs of tokens between statement ends; empty ones are left out. -/
def statements (tokens : List Token) : List (List Token) :=
  let runs := tokens.foldr (fun token runs =>
    if token.kind = .endOfStatement then [] :: runs
    else match runs with
      | [] => [[token]]
      | run :: later => (token :: run) :: later) [[]]
  runs.filter fun run => !run.isEmpty

end GlulxAsm
