import GlulxAsm.Text.Quoted

/-! Text that cannot steer the terminal it is shown on. Only the controls that terminals act on are
spelled out; all else, line ends and blanks among it, stays as it is. -/
namespace GlulxAsm.Text

/-- The one-byte controls that terminals act on: bell, backspace, form feed, escape and delete. -/
def steering : List Char := ['\x07', '\x08', '\x0c', '\x1b', '\x7f']

/-- The form of one character. The controls from 0x80 to 0x9F are spelled by their code points, the
steering ones below by two digits. -/
def inertChar (c : Char) : List Char :=
  if c ∈ steering then '\\' :: 'x' :: (hexPadded 2 c.toNat).toList
  else if 0x80 ≤ c.toNat ∧ c.toNat ≤ 0x9f then codePoint c
  else [c]

def inert (text : String) : String := String.ofList (text.toList.flatMap inertChar)

end GlulxAsm.Text
