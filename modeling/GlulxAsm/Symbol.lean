import GlulxAsm.Label
import GlulxAsm.Location
import Std.Data.ExtTreeMap

/-! Names and what they stand for: labels with their positions, and named constants. Both tables list
their entries by name. -/
namespace GlulxAsm

structure Symbol where
  position : UInt32
  kind : LabelKind
  loc : Location
deriving DecidableEq

/-- Label positions. The first definition of a name stays. -/
structure SymbolTable where
  entries : Std.ExtTreeMap String Symbol := ∅

namespace SymbolTable

def get? (table : SymbolTable) (name : String) : Option Symbol := table.entries[name]?

def position? (table : SymbolTable) (name : String) : Option UInt32 :=
  (table.get? name).map (·.position)

/-- Defines a name that is new. A name that is not keeps its entry, which is handed back. -/
def define (table : SymbolTable) (name : String) (symbol : Symbol) : SymbolTable × Option Symbol :=
  match table.get? name with
  | some first => (table, some first)
  | none => ({ entries := table.entries.insert name symbol }, none)

def size (table : SymbolTable) : Nat := table.entries.size

def sorted (table : SymbolTable) : List (String × Symbol) := table.entries.toList

end SymbolTable

structure Constant where
  value : Int32
  loc : Location
deriving DecidableEq

/-- Named integers. The last definition of a name counts. -/
structure ConstantTable where
  entries : Std.ExtTreeMap String Constant := ∅

namespace ConstantTable

def get? (table : ConstantTable) (name : String) : Option Constant := table.entries[name]?

def value? (table : ConstantTable) (name : String) : Option Int32 :=
  (table.get? name).map (·.value)

def define (table : ConstantTable) (name : String) (constant : Constant) : ConstantTable :=
  { entries := table.entries.insert name constant }

def sorted (table : ConstantTable) : List (String × Constant) := table.entries.toList

end ConstantTable

/-- The value of a name in an operand: a constant wins over a label. -/
def nameValue? (symbols : SymbolTable) (constants : ConstantTable) (name : String) : Option Int32 :=
  (constants.value? name).or ((symbols.position? name).map UInt32.toInt32)

end GlulxAsm
