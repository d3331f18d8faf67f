import GlulxAsm.Object.Basic

/-! Listings of an object for people: code with positions, symbols, constants and strings. -/
namespace GlulxAsm.Listing

/-- Position and size in front of a fragment; a question mark stands for a missing position. -/
def fragmentLine (fragment : Fragment) : Except Overflow String := do
  let size ← fragment.size?
  let position := match fragment.position with
    | some position => toString position.toNat
    | none => "?"
  return s!"{position}/{size.toNat}: {fragment.text}"

private def lines (rows : List String) : String :=
  String.join (rows.map (· ++ "\n"))

/-- A line for every fragment of RAM. -/
def code (object : Object) : Except Overflow String :=
  return lines (← object.ram.toList.mapM fragmentLine)

def rom (object : Object) : Except Overflow (List String) :=
  object.rom.toList.mapM fragmentLine

/-- Address, kind and name of every symbol, by name. -/
def symbols (object : Object) : String :=
  lines (object.symbols.sorted.map fun (name, symbol) =>
    Text.hexPadded 8 symbol.position.toNat ++ "  " ++ Text.padRight 16 symbol.kind.text ++ "  " ++
      name)

/-- Name and value of every constant, by name. -/
def constants (object : Object) : String :=
  lines (object.constants.sorted.map fun (name, constant) =>
    Text.padRight 32 name ++ "  " ++ toString constant.value.toInt)

/-- The first ten characters of a text on one line. -/
def preview (text : String) : String :=
  let shown := text.toList.take 10 ++ (if 10 < text.length then "...".toList else [])
  String.ofList (shown.map fun c => if c = '\n' ∨ c = '\r' then '_' else c)

/-- Every string with its label, then the further labels of those that have some. -/
def strings (object : Object) : String :=
  let entries := object.strings.entries.toList.zipIdx
  let contents := entries.map fun (entry, index) =>
    StringPool.label index ++ ": " ++ preview entry.content
  let aliases := (entries.filter fun (entry, _) => !entry.aliases.isEmpty).map fun (entry, index) =>
    StringPool.label index ++ ": " ++ " ".intercalate entry.aliases
  lines contents ++ "\n" ++ lines aliases

end GlulxAsm.Listing
