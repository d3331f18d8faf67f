import GlulxAsm.Assembly
import GlulxAsm.Object.Build

/-! The places of source text. They get into messages and into nothing else: to forget all places before
statements are run is the same as to forget them afterwards. -/
namespace GlulxAsm

def Token.unlocated (token : Token) : Token := { token with loc := .builtIn }

def Fragment.unlocated (fragment : Fragment) : Fragment := { fragment with loc := .builtIn }

def Symbol.unlocated (symbol : Symbol) : Symbol := { symbol with loc := .builtIn }

def Constant.unlocated (constant : Constant) : Constant := { constant with loc := .builtIn }

namespace Warning

def unlocated : Warning → Warning
  | duplicateLabel name _ _ => duplicateLabel name .builtIn .builtIn
  | stackSizeRounded requested rounded => stackSizeRounded requested rounded
  | constantRedefined name _ => constantRedefined name .builtIn

end Warning

namespace AsmError

/-- The error without its place; its kind and its cause stay. -/
def unlocated : AsmError → AsmError
  | lexical _ fault => lexical .builtIn fault
  | statement _ fault => statement .builtIn fault
  | undefinedSymbol _ name => undefinedSymbol .builtIn name
  | capacity _ limit => capacity .builtIn limit
  | missingEntryPoint => missingEntryPoint
  | unreadable path fault => unreadable path fault
  | includeFailed _ path fault => includeFailed .builtIn path fault
  | misuse _ cause => misuse .builtIn cause

end AsmError

def Failure.unlocated : Failure → Failure
  | rejected error => rejected error.unlocated
  | overflow cause => overflow cause

namespace SymbolTable

def unlocated (table : SymbolTable) : SymbolTable :=
  { entries := table.entries.map fun _ symbol => symbol.unlocated }

@[simp] theorem get?_unlocated (table : SymbolTable) (name : String) :
    table.unlocated.get? name = (table.get? name).map Symbol.unlocated := by
  simp [unlocated, get?]

@[simp] theorem position?_unlocated (table : SymbolTable) (name : String) :
    table.unlocated.position? name = table.position? name := by
  simp [position?, Symbol.unlocated, Function.comp_def]

theorem define_unlocated (table : SymbolTable) (name : String) (symbol : Symbol) :
    table.unlocated.define name symbol.unlocated =
      ((table.define name symbol).1.unlocated, (table.define name symbol).2.map Symbol.unlocated) := by
  unfold define
  rw [get?_unlocated]
  cases table.get? name with
  | some first => rfl
  | none =>
    simp only [Option.map_none, unlocated, Prod.mk.injEq, and_true]
    congr 1
    refine Std.ExtTreeMap.ext_getElem? fun other => ?_
    by_cases same : name = other <;>
      simp [Std.ExtTreeMap.getElem?_map, Std.ExtTreeMap.getElem?_insert, same]

end SymbolTable

namespace ConstantTable

def unlocated (table : ConstantTable) : ConstantTable :=
  { entries := table.entries.map fun _ constant => constant.unlocated }

@[simp] theorem get?_unlocated (table : ConstantTable) (name : String) :
    table.unlocated.get? name = (table.get? name).map Constant.unlocated := by
  simp [unlocated, get?]

@[simp] theorem value?_unlocated (table : ConstantTable) : table.unlocated.value? = table.value? := by
  funext name
  simp [value?, Constant.unlocated, Function.comp_def]

theorem define_unlocated (table : ConstantTable) (name : String) (constant : Constant) :
    table.unlocated.define name constant.unlocated = (table.define name constant).unlocated := by
  simp only [define, unlocated]
  congr 1
  refine Std.ExtTreeMap.ext_getElem? fun other => ?_
  by_cases same : name = other <;>
    simp [Std.ExtTreeMap.getElem?_map, Std.ExtTreeMap.getElem?_insert, same]

end ConstantTable

namespace Object

/-- The object without the places of its fragments, names and warnings. -/
def unlocated (object : Object) : Object :=
  { object with
    rom := object.rom.map Fragment.unlocated
    ram := object.ram.map Fragment.unlocated
    symbols := object.symbols.unlocated
    constants := object.constants.unlocated
    warnings := object.warnings.map Warning.unlocated }

private theorem setStackSize_unlocated (object : Object) (bytes : UInt32) :
    object.unlocated.setStackSize bytes = (object.setStackSize bytes).unlocated := by
  unfold setStackSize
  dsimp only
  split
  · rfl
  · simp [warn, unlocated, Warning.unlocated]

private theorem addConstant_unlocated (object : Object) (name : String) (value : Int32) (loc : Location) :
    object.unlocated.addConstant name value .builtIn =
      (object.addConstant name value loc).unlocated := by
  have known : (object.unlocated.constants.get? name).isSome =
      (object.constants.get? name).isSome := by
    simp [unlocated]
  have defined : object.unlocated.constants.define name { value, loc := .builtIn } =
      (object.constants.define name { value, loc }).unlocated :=
    object.constants.define_unlocated name { value, loc }
  unfold addConstant
  rw [known, defined]
  dsimp only
  split
  · simp [warn, unlocated, Warning.unlocated]
  · rfl

/-- The outcome of an operation without places, seen through a view of its value. -/
def forget {ε α β : Type} (strip : ε → ε) (view : α → β) :
    EStateM.Result ε Object α → EStateM.Result ε Object β
  | .ok value object => .ok (view value) object.unlocated
  | .error error object => .error (strip error) object.unlocated

/-- The second action does without places what the first does with them. -/
def Mirrors {α β : Type} (view : α → β) (action : Action α) (plain : Action β) : Prop :=
  ∀ object, plain.run object.unlocated = forget AsmError.unlocated view (action.run object)

namespace Mirrors

variable {α β γ δ : Type} {view : α → β} {action : Action α} {plain : Action β}

theorem pure (view : α → β) (value : α) : Mirrors view (Pure.pure value) (Pure.pure (view value)) :=
  fun _ => rfl

theorem throw (view : α → β) (error : AsmError) :
    Mirrors view (throw error) (throw error.unlocated) := fun _ => rfl

theorem modify {change plain : Object → Object}
    (same : ∀ object, plain object.unlocated = (change object).unlocated) :
    Mirrors id (modify change : Action Unit) (modify plain) := by
  intro object
  simp only [EStateM.run_modify, forget, same]

theorem bind {next : α → Action γ} {plainNext : β → Action δ} {result : γ → δ}
    (first : Mirrors view action plain)
    (second : ∀ value, Mirrors result (next value) (plainNext (view value))) :
    Mirrors result (action >>= next) (plain >>= plainNext) := by
  intro object
  rw [EStateM.run_bind, EStateM.run_bind, first object]
  cases action.run object with
  | ok value middle => exact second value middle
  | error error middle => rfl

theorem mapM {action plain : γ → Action α} {change : γ → γ}
    (each : ∀ item, Mirrors id (action item) (plain (change item))) (items : List γ) :
    Mirrors id (items.mapM action) ((items.map change).mapM plain) := by
  induction items with
  | nil => exact pure id []
  | cons item rest ih =>
    rw [List.map_cons, List.mapM_cons, List.mapM_cons]
    exact bind (each item) fun _ => bind ih fun _ => pure id _

end Mirrors

theorem add_mirrors (body : Fragment.Body) (loc : Location) :
    Mirrors id (add body loc) (add body .builtIn) := by
  intro object
  have stage : object.unlocated.stage = object.stage := rfl
  have selection : object.unlocated.toRom = object.toRom := rfl
  by_cases fresh : object.stage = .accumulating
  · cases selected : object.toRom with
    | true =>
      simp only [add, EStateM.run_bind, EStateM.run_get, stage, selection, fresh, selected]
      simp [forget, unlocated, Fragment.unlocated]
    | false =>
      simp only [add, EStateM.run_bind, EStateM.run_get, stage, selection, fresh, selected]
      simp [forget, unlocated, Fragment.unlocated]
  · simp only [add, EStateM.run_bind, EStateM.run_get, stage, if_pos fresh]
    rfl

end Object

namespace Directive

/-- What was read, or why it was not, without places. -/
def forget {α β : Type} (view : α → β) : Except AsmError α → Except AsmError β
  | .ok value => .ok (view value)
  | .error error => .error error.unlocated

theorem forget_pure {α β : Type} (view : α → β) (value : α) :
    forget view (pure value) = pure (view value) := rfl

theorem forget_bind {α β γ : Type} (view : β → γ) (step : Except AsmError α)
    (next : α → Except AsmError β) :
    forget view (step >>= next) = forget id step >>= fun value => forget view (next value) := by
  cases step <;> rfl

/-- The directive without the places of its operands. -/
def unlocated : Directive → Directive
  | words label capacity items => words label capacity (items.map Token.unlocated)
  | call mnemonic target arguments destination =>
    call mnemonic target.unlocated (arguments.map Token.unlocated) destination.unlocated
  | instruction mnemonic operands => instruction mnemonic (operands.map Token.unlocated)
  | directive => directive

theorem forget_ident (head : String) (token : Token) :
    forget id (ident head token) = ident head token.unlocated := by
  obtain ⟨kind, loc⟩ := token
  cases kind <;> rfl

theorem forget_int (head : String) (token : Token) :
    forget id (int head token) = int head token.unlocated := by
  obtain ⟨kind, loc⟩ := token
  cases kind <;> rfl

theorem forget_text (head : String) (token : Token) :
    forget id (text head token) = text head token.unlocated := by
  obtain ⟨kind, loc⟩ := token
  cases kind <;> rfl

theorem forget_unsigned (loc : Location) (fault : Int32 → StatementFault) (value : Int32) :
    forget id (unsigned loc fault value) = unsigned .builtIn fault value := by
  unfold unsigned
  split <;> rfl

theorem forget_blockCount (loc : Location) (itemBytes : Nat) (value : Int32) :
    forget id (blockCount loc itemBytes value) = blockCount .builtIn itemBytes value := by
  simp only [blockCount, forget_bind, forget_unsigned]
  congr 1
  funext count
  split <;> rfl

private theorem forget_cell (head : String) (width : Width) (token : Token) :
    forget id (cell head width token) = cell head width token.unlocated := by
  simp only [cell, forget_bind, forget_int]
  congr 1
  funext value
  split <;> rfl

theorem forget_cells (head : String) (width : Width) (tokens : List Token) :
    forget id (cells head width tokens) = cells head width (tokens.map Token.unlocated) := by
  have each : forget id (tokens.mapM (cell head width)) =
      (tokens.map Token.unlocated).mapM (cell head width) := by
    induction tokens with
    | nil => rfl
    | cons token rest ih =>
      simp only [List.map_cons, List.mapM_cons, forget_bind, forget_cell, forget_pure, ih]
      rfl
  simp only [cells, forget_bind, each, forget_pure]
  rfl

theorem forget_wrongCount (head : String) (loc : Location) (expected : Nat) (args : List Token) :
    forget unlocated (wrongCount head loc expected args) =
      wrongCount head .builtIn expected (args.map Token.unlocated) := by
  simp [wrongCount, forget, AsmError.unlocated]

theorem forget_tooFew (head : String) (loc : Location) (least : Nat) (args : List Token) :
    forget unlocated (tooFew head loc least args) =
      tooFew head .builtIn least (args.map Token.unlocated) := by
  simp [tooFew, forget, AsmError.unlocated]

private theorem forget_readStackSize (head : String) (loc : Location) (args : List Token) :
    forget unlocated (readStackSize head loc args) =
      readStackSize head .builtIn (args.map Token.unlocated) := by
  match args with
  | [size] =>
    simp only [List.map_cons, List.map_nil, readStackSize, forget_bind, forget_int, forget_unsigned,
      forget_pure]
    rfl
  | [] => exact forget_wrongCount head loc 1 []
  | first :: second :: rest => exact forget_wrongCount head loc 1 (first :: second :: rest)

private theorem forget_readSegment (head : String) (toRom : Bool) (loc : Location) (args : List Token) :
    forget unlocated (readSegment head toRom loc args) =
      readSegment head toRom .builtIn (args.map Token.unlocated) := by
  match args with
  | [] => rfl
  | first :: rest => exact forget_wrongCount head loc 0 (first :: rest)

private theorem forget_readInclude (head : String) (loc : Location) (args : List Token) :
    forget unlocated (readInclude head loc args) =
      readInclude head .builtIn (args.map Token.unlocated) := by
  match args with
  | [file] =>
    simp only [List.map_cons, List.map_nil, readInclude, forget_bind, forget_text, forget_pure]
    rfl
  | [] => exact forget_wrongCount head loc 1 []
  | first :: second :: rest => exact forget_wrongCount head loc 1 (first :: second :: rest)

private theorem forget_readConstant (head : String) (loc : Location) (args : List Token) :
    forget unlocated (readConstant head loc args) =
      readConstant head .builtIn (args.map Token.unlocated) := by
  match args with
  | [name, value] =>
    simp only [List.map_cons, List.map_nil, readConstant, forget_bind, forget_ident, forget_int,
      forget_pure]
    rfl
  | [] => exact forget_wrongCount head loc 2 []
  | [only] => exact forget_wrongCount head loc 2 [only]
  | first :: second :: third :: rest =>
    exact forget_wrongCount head loc 2 (first :: second :: third :: rest)

private theorem forget_readFunction (head : String) (kind : LabelKind) (loc : Location)
    (args : List Token) :
    forget unlocated (readFunction head kind loc args) =
      readFunction head kind .builtIn (args.map Token.unlocated) := by
  match args with
  | [name, locals] =>
    simp only [List.map_cons, List.map_nil, readFunction, forget_bind, forget_ident, forget_int,
      forget_unsigned, forget_pure]
    rfl
  | [] => exact forget_wrongCount head loc 2 []
  | [only] => exact forget_wrongCount head loc 2 [only]
  | first :: second :: third :: rest =>
    exact forget_wrongCount head loc 2 (first :: second :: third :: rest)

private theorem forget_readString (head : String) (make : String → String → Directive)
    (plain : ∀ label content, (make label content).unlocated = make label content) (loc : Location)
    (args : List Token) :
    forget unlocated (readString head make loc args) =
      readString head make .builtIn (args.map Token.unlocated) := by
  match args with
  | [label, content] =>
    simp only [List.map_cons, List.map_nil, readString, forget_bind, forget_ident, forget_text,
      forget_pure, plain]
  | [] => exact forget_wrongCount head loc 2 []
  | [only] => exact forget_wrongCount head loc 2 [only]
  | first :: second :: third :: rest =>
    exact forget_wrongCount head loc 2 (first :: second :: third :: rest)

private theorem forget_readBytes (head : String) (loc : Location) (args : List Token) :
    forget unlocated (readBytes head loc args) =
      readBytes head .builtIn (args.map Token.unlocated) := by
  match args with
  | bits :: label :: values =>
    simp only [List.map_cons, readBytes, forget_bind, forget_int]
    congr 1
    funext bits
    cases cellWidth? bits with
    | none => rfl
    | some width =>
      simp only [forget_bind, forget_ident, forget_cells, forget_pure]
      rfl
  | [] => exact forget_tooFew head loc 2 []
  | [only] => exact forget_tooFew head loc 2 [only]

private theorem forget_readBytesFixed (head : String) (loc : Location) (args : List Token) :
    forget unlocated (readBytesFixed head loc args) =
      readBytesFixed head .builtIn (args.map Token.unlocated) := by
  match args with
  | label :: size :: values =>
    simp only [List.map_cons, readBytesFixed, forget_bind, forget_ident, forget_int,
      forget_blockCount, List.length_map]
    congr 1
    funext label
    congr 1
    funext value
    congr 1
    funext size
    split
    · simp only [forget_bind, forget_cells, forget_pure]
      rfl
    · rfl
  | [] => exact forget_tooFew head loc 2 []
  | [only] => exact forget_tooFew head loc 2 [only]

private theorem forget_readWords (head : String) (loc : Location) (args : List Token) :
    forget unlocated (readWords head loc args) =
      readWords head .builtIn (args.map Token.unlocated) := by
  match args with
  | label :: items =>
    simp only [List.map_cons, readWords, forget_bind, forget_ident, forget_pure]
    rfl
  | [] => exact forget_tooFew head loc 1 []

private theorem forget_readWordsFixed (head : String) (loc : Location) (args : List Token) :
    forget unlocated (readWordsFixed head loc args) =
      readWordsFixed head .builtIn (args.map Token.unlocated) := by
  match args with
  | label :: count :: items =>
    simp only [List.map_cons, readWordsFixed, forget_bind, forget_ident, forget_int,
      forget_blockCount, forget_pure]
    rfl
  | [] => exact forget_tooFew head loc 2 []
  | [only] => exact forget_tooFew head loc 2 [only]

private theorem forget_readCall (head : String) (mnemonic : Mnemonic) (loc : Location)
    (args : List Token) :
    forget unlocated (readCall head mnemonic loc args) =
      readCall head mnemonic .builtIn (args.map Token.unlocated) := by
  match args with
  | ⟨kind, place⟩ :: second :: others =>
    have front : (second :: others).dropLast.map Token.unlocated =
        ((second :: others).map Token.unlocated).dropLast := List.map_dropLast
    have last : ((second :: others).getLast (by simp)).unlocated =
        ((second :: others).map Token.unlocated).getLast (by simp) := by
      rw [List.getLast_map]
    cases kind with
    | ident name =>
      simp only [readCall, forget_pure, unlocated, front, last]
      rfl
    | int value =>
      simp only [readCall, forget_pure, unlocated, front, last]
      rfl
    | string content => rfl
    | endOfStatement => rfl
  | [] => exact forget_tooFew head loc 2 []
  | [only] => exact forget_tooFew head loc 2 [only]

private theorem forget_readInstruction (head : String) (loc : Location) (args : List Token) :
    forget unlocated (readInstruction head loc args) =
      readInstruction head .builtIn (args.map Token.unlocated) := by
  unfold readInstruction
  cases Mnemonic.find? head with
  | none => rfl
  | some mnemonic =>
    dsimp only
    rw [List.length_map]
    split
    · rfl
    · exact forget_wrongCount head loc _ args

private theorem forget_read (head : String) (loc : Location) (args : List Token) :
    forget unlocated (read head loc args) = read head .builtIn (args.map Token.unlocated) := by
  unfold read
  split
  · exact forget_readStackSize _ loc args
  · exact forget_readSegment _ _ loc args
  · exact forget_readSegment _ _ loc args
  · exact forget_readInclude _ loc args
  · exact forget_readConstant _ loc args
  · exact forget_readFunction _ _ loc args
  · exact forget_readFunction _ _ loc args
  · exact forget_readString _ addAlias (fun _ _ => rfl) loc args
  · exact forget_readString _ string (fun _ _ => rfl) loc args
  · exact forget_readBytes _ loc args
  · exact forget_readBytesFixed _ loc args
  · exact forget_readWords _ loc args
  · exact forget_readWordsFixed _ loc args
  · exact forget_readCall _ _ loc args
  · exact forget_readCall _ _ loc args
  · exact forget_readInstruction _ loc args

end Directive

namespace Statement

open Object

def IncludeRequest.unlocated (request : IncludeRequest) : IncludeRequest :=
  { request with loc := .builtIn }

theorem operand_mirrors (token : Token) : Mirrors id (operand token) (operand token.unlocated) := by
  obtain ⟨kind, loc⟩ := token
  cases kind with
  | ident name =>
    intro object
    have known : object.unlocated.constants.value? = object.constants.value? :=
      object.constants.value?_unlocated
    simp only [operand, Token.unlocated]
    split
    · simp only [EStateM.run_bind, EStateM.run_get, known]
      rfl
    · rfl
  | string content => exact fun _ => rfl
  | int value => exact fun _ => rfl
  | endOfStatement => exact fun _ => rfl

private theorem wordItems_mirrors (capacity : Option Nat) (count : Nat) (tokens : List Token) :
    Mirrors id (wordItems capacity count tokens)
      (wordItems capacity count (tokens.map Token.unlocated)) := by
  induction tokens generalizing count with
  | nil => exact .pure id []
  | cons token rest ih =>
    rw [List.map_cons]
    unfold wordItems
    refine .bind (operand_mirrors token) fun item => ?_
    split
    · exact .bind (ih _) fun _ => .pure id _
    · exact .throw id _

private theorem addLabelled_mirrors (loc : Location) (name : String) (kind : LabelKind)
    (body : Fragment.Body) :
    Mirrors id (addLabelled loc name kind body) (addLabelled .builtIn name kind body) :=
  .bind (add_mirrors _ _) fun _ => add_mirrors _ _

private theorem pushArguments_mirrors (loc : Location) (tokens : List Token) :
    Mirrors id (pushArguments loc tokens)
      (pushArguments .builtIn (tokens.map Token.unlocated)) := by
  induction tokens with
  | nil => exact .pure id ()
  | cons token rest ih =>
    exact .bind (operand_mirrors token) fun _ => .bind (add_mirrors _ _) fun _ => ih

private theorem performCall_mirrors (loc : Location) (mnemonic : Mnemonic) (target : Token)
    (arguments : List Token) (destination : Token) :
    Mirrors id (performCall loc mnemonic target arguments destination)
      (performCall .builtIn mnemonic target.unlocated (arguments.map Token.unlocated)
        destination.unlocated) := by
  unfold performCall
  rw [List.length_map, ← List.map_reverse]
  exact .bind (operand_mirrors target) fun _ => .bind (operand_mirrors destination) fun _ =>
    .bind (pushArguments_mirrors loc arguments.reverse) fun _ => add_mirrors _ _

private theorem perform_mirrors (loc : Location) (directive : Directive) :
    Mirrors id (perform loc directive) (perform .builtIn directive.unlocated) := by
  cases directive with
  | includeFile file => exact .pure id ()
  | stackSize bytes => exact .modify fun object => object.setStackSize_unlocated bytes
  | selectRom toRom => exact .modify fun _ => rfl
  | constant name value => exact .modify fun object => object.addConstant_unlocated name value loc
  | addAlias label content => exact .modify fun _ => rfl
  | function label => exact add_mirrors _ _
  | string label content => exact addLabelled_mirrors _ _ _ _
  | data label block => exact addLabelled_mirrors _ _ _ _
  | words label capacity items =>
    exact .bind (wordItems_mirrors _ _ items) fun _ => addLabelled_mirrors _ _ _ _
  | call mnemonic target arguments destination => exact performCall_mirrors _ _ _ _ _
  | instruction mnemonic operands =>
    exact .bind (.mapM operand_mirrors operands) fun _ => add_mirrors _ _

private theorem ofExcept_mirrors {α β : Type} (view : α → β) (reading : Except AsmError α) :
    Mirrors view (MonadExcept.ofExcept reading)
      (MonadExcept.ofExcept (Directive.forget view reading)) := by
  cases reading with
  | error error => exact .throw view error
  | ok value => exact .pure view value

theorem run_mirrors (tokens : List Token) :
    Mirrors (Option.map IncludeRequest.unlocated) (run tokens)
      (run (tokens.map Token.unlocated)) := by
  induction tokens with
  | nil => exact .pure _ none
  | cons head args ih =>
    rw [List.map_cons]
    unfold run
    rw [← Directive.forget_ident]
    refine .bind (ofExcept_mirrors id _) fun name => ?_
    dsimp only [id_eq]
    split
    · exact .bind (add_mirrors _ _) fun _ => ih
    · rw [Token.unlocated, ← Directive.forget_read name head.loc]
      refine .bind (ofExcept_mirrors _ _) fun directive => ?_
      cases directive with
      | includeFile file => exact .pure _ _
      | _ => exact .bind (perform_mirrors _ _) fun _ => .pure _ none

end Statement

end GlulxAsm
