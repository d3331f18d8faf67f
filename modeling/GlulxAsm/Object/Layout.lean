import GlulxAsm.Header
import GlulxAsm.Object.Basic

/-! Layout: the header and the string pool join ROM, every fragment gets the position behind the one
before it, RAM starts on the page behind ROM, and labels become symbols. -/
namespace GlulxAsm

namespace Object

/-- An operation on an object that may also leave the machine's range. -/
abbrev Build := EStateM Failure Object

def reject {α : Type} (error : AsmError) : Build α := throw (.rejected error)

/-- Lets a pass start only in its stage. -/
def expectStage (needed : Stage) (pass : Pass) : Build Unit := do
  let found := (← get).stage
  if found ≠ needed then reject (.misuse .builtIn (.wrongStage pass needed found))

/-- What placing fragments in a row leads to. `outcome` is the position behind the last one. -/
structure Placement where
  fragments : List Fragment
  symbols : SymbolTable
  clashes : List Warning
  outcome : Except Failure UInt32

/-- Makes a symbol of a label, or notes that its name is taken. -/
def register (symbols : SymbolTable) (fragment : Fragment) (position : UInt32) :
    SymbolTable × List Warning :=
  match fragment.label? with
  | none => (symbols, [])
  | some label =>
    match symbols.define label.name { position, kind := label.kind, loc := fragment.loc } with
    | (symbols, none) => (symbols, [])
    | (symbols, some first) => (symbols, [.duplicateLabel label.name first.loc fragment.loc])

/-- The position behind a fragment. -/
def positionAfter (fragment : Fragment) (position : UInt32) : Except Failure UInt32 :=
  match fragment.size? with
  | .error cause => .error (.overflow cause)
  | .ok size =>
    if position.toNat + size.toNat < 0x100000000 then .ok (position + size)
    else .error (.rejected (.capacity fragment.loc .imageSize))

/-- Places fragments from a position on. A fragment whose end does not fit is placed; those behind it
are left as they were. -/
def place (position : UInt32) (symbols : SymbolTable) : List Fragment → Placement
  | [] => ⟨[], symbols, [], .ok position⟩
  | fragment :: rest =>
    let placed := { fragment with position := some position }
    let (symbols, clashes) := register symbols fragment position
    match positionAfter fragment position with
    | .error failure => ⟨placed :: rest, symbols, clashes, .error failure⟩
    | .ok next =>
      let later := place next symbols rest
      ⟨placed :: later.fragments, later.symbols, clashes ++ later.clashes, later.outcome⟩

/-- ROM with room for the header in front and the string pool behind. -/
def fullRom (object : Object) : List Fragment :=
  { body := .data (.zeroed Header.size), loc := .builtIn } :: object.rom.toList ++
    object.strings.fragments

/-- The zeros between the end of ROM and the start of RAM. -/
def padding (romSize romEnd : UInt32) : Fragment :=
  { body := .data (.zeroed (romEnd.toNat - romSize.toNat)), loc := .builtIn, position := some romSize }

/-- The first pass. Duplicate labels are noted only if all fragments find a place. -/
def layout : Build Unit := do
  expectStage .accumulating .layout
  let object ← get
  let rom := place 0 object.symbols object.fullRom
  set { object with rom := rom.fragments.toArray, symbols := rom.symbols }
  let romSize ← MonadExcept.ofExcept rom.outcome
  let some romEnd := Page.roundUp? romSize | reject (.capacity .builtIn .romSize)
  let ram := place romEnd rom.symbols object.ram.toList
  modify fun object => { object with
    rom := object.rom.push (padding romSize romEnd)
    ram := ram.fragments.toArray
    symbols := ram.symbols }
  let codeSize ← MonadExcept.ofExcept ram.outcome
  modify fun object => { object with
    warnings := object.warnings ++ rom.clashes.toArray ++ ram.clashes.toArray
    romEnd
    codeSize
    stage := .positioned }

end Object

end GlulxAsm
