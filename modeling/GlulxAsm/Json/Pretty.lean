/-! JSON text with one member a line, indented by two blanks a level. -/
namespace GlulxAsm.Json

inductive Scalar where
  | null
  | bool (value : Bool)
  | number (value : Nat)
  | string (value : String)

/-- Quotes and backslashes are escaped; the texts written here hold no controls. -/
def quoted (text : String) : String :=
  String.ofList ('"' :: text.toList.flatMap
    (fun c => if c = '"' ∨ c = '\\' then ['\\', c] else [c]) ++ ['"'])

def Scalar.text : Scalar → String
  | null => "null"
  | bool value => if value then "true" else "false"
  | number value => toString value
  | string value => quoted value

/-- An object of scalars, its first line not indented. -/
def prettyObject (indent : String) (members : List (String × Scalar)) : String :=
  let lines := members.map fun (name, value) => s!"{indent}  {quoted name}: {value.text}"
  "\x7b\n" ++ ",\n".intercalate lines ++ "\n" ++ indent ++ "\x7d"

/-- An array of objects that is not empty. -/
def prettyArray (objects : List (List (String × Scalar))) : String :=
  "[\n" ++ ",\n".intercalate (objects.map fun members => "  " ++ prettyObject "  " members) ++ "\n]"

end GlulxAsm.Json
