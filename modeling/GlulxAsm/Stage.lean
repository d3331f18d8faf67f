/-! The stages of an object, from collecting fragments to the finished image. -/
namespace GlulxAsm

inductive Stage where
  | accumulating
  | positioned
  | resolved
  | encoded
deriving DecidableEq

namespace Stage

def text : Stage → String
  | accumulating => "Accumulating"
  | positioned => "PositionAssigned"
  | resolved => "SymbolsResolved"
  | encoded => "Encoded"

end Stage

/-- The steps that move an object from one stage to the next. -/
inductive Pass where
  | layout
  | resolution
  | encoding
deriving DecidableEq

namespace Pass

def text : Pass → String
  | layout => "layout"
  | resolution => "symbol resolution"
  | encoding => "encoding"

end Pass

end GlulxAsm
