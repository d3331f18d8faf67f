import GlulxAsm.Text.Class
import GlulxAsm.Text.Hex

/-! Characters and strings in quotes, as messages and logs show them: unusual characters appear as
escapes, so that the text is readable and unambiguous. -/
namespace GlulxAsm.Text

/-- A character spelled by its code point. -/
def codePoint (c : Char) : List Char := "\\u\x7b".toList ++ hexDigits c.toNat ++ ['\x7d']

/-- The form of one character between two `mark`s. The mark itself and the backslash are escaped,
the four common controls have short escapes and all else that is not plain is spelled by its code
point. -/
def escaped (mark c : Char) : List Char :=
  if c = Char.ofNat 0 then ['\\', '0']
  else if c = '\t' then ['\\', 't']
  else if c = '\r' then ['\\', 'r']
  else if c = '\n' then ['\\', 'n']
  else if c = '\\' then ['\\', '\\']
  else if c = mark then ['\\', mark]
  else if isPlain c then [c]
  else codePoint c

def quotedChar (c : Char) : String :=
  String.ofList ('\'' :: escaped '\'' c ++ ['\''])

def quoted (text : String) : String :=
  String.ofList ('"' :: text.toList.flatMap (escaped '"') ++ ['"'])

end GlulxAsm.Text
