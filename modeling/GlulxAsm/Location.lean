/-! Places in source text. -/
namespace GlulxAsm

/-- A line of a file. Fragments that no source line asked for have the default location. Lines have no limit
here; an assembly stops where a text has more of them than 32 bits can count. -/
structure Location where
  file : String := ""
  line : Nat := 0
deriving DecidableEq, Inhabited

namespace Location

/-- The place of fragments that the assembler adds by itself. -/
def builtIn : Location := {}

def text (loc : Location) : String :=
  if loc.file = "" then "<internal>" else s!"{loc.file}:{loc.line}"

end Location

end GlulxAsm
