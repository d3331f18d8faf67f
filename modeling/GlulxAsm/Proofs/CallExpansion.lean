import GlulxAsm.Proofs.TargetConstant

/-! Call shortcuts. A shortcut stands for instructions that push its arguments and then call its target. It
reads the target and the destination before the arguments, and the instructions read them last. That makes no
difference: a name or a number puts nothing into an object, and arguments define no constants. -/
namespace GlulxAsm

namespace Object

variable {α β : Type}

theorem run_bind_ok_iff {action : Action α} {next : α → Action β} {before after : Object} {value : β} :
    (action >>= next).run before = .ok value after ↔ ∃ first middle,
      action.run before = .ok first middle ∧ (next first).run middle = .ok value after := by
  constructor
  · exact run_bind_ok
  · rintro ⟨first, middle, done, rest⟩
    rw [EStateM.run_bind, done]
    exact rest

/-- The plain action succeeds where the located one does. -/
theorem Mirrors.run_ok_iff {view : α → β} {action : Action α} {plain : Action β}
    (mirrors : Mirrors view action plain) {object after : Object} {value : β} :
    plain.run object.unlocated = .ok value after ↔ ∃ seen done,
      action.run object = .ok seen done ∧ view seen = value ∧ done.unlocated = after := by
  rw [mirrors object]
  cases action.run object with
  | ok seen done => simp [forget]
  | error error done => simp [forget]

/-- The segments and the string pool may have got new contents; all else is unchanged. -/
def Fills (before after : Object) : Prop :=
  ∃ rom ram strings, after = { before with rom, ram, strings }

theorem Fills.refl (object : Object) : Fills object object := ⟨_, _, _, rfl⟩

theorem Fills.trans {first second third : Object} (one : Fills first second) (two : Fills second third) :
    Fills first third := by
  obtain ⟨_, _, _, rfl⟩ := one
  obtain ⟨rom, ram, strings, rfl⟩ := two
  exact ⟨rom, ram, strings, rfl⟩

private theorem Fills.constants_eq {before after : Object} (fills : Fills before after) :
    after.constants = before.constants := by
  obtain ⟨_, _, _, rfl⟩ := fills
  rfl

/-- An action that succeeds has filled the object. -/
def Filling (action : Action α) : Prop :=
  ∀ before value after, action.run before = .ok value after → Fills before after

namespace Filling

theorem pure (value : α) : Filling (Pure.pure value) := by
  intro before _ after success
  cases success
  exact .refl before

theorem bind {action : Action α} {next : α → Action β} (first : Filling action)
    (second : ∀ value, Filling (next value)) : Filling (action >>= next) := by
  intro before value after success
  obtain ⟨early, middle, done, rest⟩ := run_bind_ok success
  exact (first before early middle done).trans (second early middle value after rest)

theorem sequential : Sequential Action Filling := ⟨pure, bind⟩

end Filling

theorem add_filling (body : Fragment.Body) (loc : Location) : Filling (add body loc) := by
  intro before value after success
  by_cases fresh : before.stage = .accumulating
  · rw [run_add fresh] at success
    cases success
    unfold collect
    split
    · exact ⟨_, _, _, rfl⟩
    · exact ⟨_, _, _, rfl⟩
  · simp only [add, EStateM.run_bind, EStateM.run_get, if_pos fresh] at success
    cases success

/-- Objects that differ in the places of their fragments at most. -/
structure AlikeButPlaces (one two : Object) : Prop where
  rom : one.rom.map Fragment.unlocated = two.rom.map Fragment.unlocated
  ram : one.ram.map Fragment.unlocated = two.ram.map Fragment.unlocated
  rest : two = { one with rom := two.rom, ram := two.ram }

private theorem Fills.alikeButPlaces {object one two : Object} (first : Fills object one)
    (second : Fills object two) (same : one.unlocated = two.unlocated) : AlikeButPlaces one two := by
  obtain ⟨_, _, strings, rfl⟩ := first
  obtain ⟨_, _, others, rfl⟩ := second
  obtain rfl : strings = others := congrArg Object.strings same
  exact ⟨congrArg Object.rom same, congrArg Object.ram same, rfl⟩

end Object

/-- Names and numbers, which the target and the destination of a call are. -/
inductive TokenKind.IsNameOrNumber : TokenKind → Prop where
  | ident (name : String) : IsNameOrNumber (.ident name)
  | int (value : Int32) : IsNameOrNumber (.int value)

namespace Statement

open Object

theorem operand_filling (token : Token) : Filling (operand token) := by
  intro before value after success
  unfold operand at success
  split at success
  · cases success
    exact .refl before
  · cases success
    exact ⟨_, _, _, rfl⟩
  · split at success
    · cases success
      exact .refl before
    · cases success
  · cases success

theorem pushArguments_filling (loc : Location) (tokens : List Token) :
    Filling (pushArguments loc tokens) :=
  Filling.sequential.pushArguments operand_filling add_filling loc tokens

private theorem performCall_filling (loc : Location) (mnemonic : Mnemonic) (target : Token)
    (arguments : List Token) (destination : Token) :
    Filling (performCall loc mnemonic target arguments destination) :=
  .bind (operand_filling target) fun _ => .bind (operand_filling destination) fun _ =>
    .bind (pushArguments_filling loc arguments.reverse) fun _ => add_filling _ _

/-- The operand that a name or a number stands for. Of the object it needs the constants only. -/
def operandOf? (constant? : String → Option Int32) : TokenKind → Option Operand
  | .int value => some (.constant value)
  | .ident name => if isOperandName name then some (.ofIdent constant? name) else none
  | _ => none

/-- Reading a name or a number leaves the object as it was. -/
theorem run_operand_iff {kind : TokenKind} (plain : kind.IsNameOrNumber) {loc : Location}
    {before after : Object} {value : Operand} :
    (operand ⟨kind, loc⟩).run before = .ok value after ↔
      operandOf? before.constants.value? kind = some value ∧ before = after := by
  cases plain with
  | ident name =>
    unfold operand operandOf?
    dsimp only
    split
    · constructor
      · intro success
        cases success
        exact ⟨rfl, rfl⟩
      · rintro ⟨same, rfl⟩
        cases same
        rfl
    · constructor
      · intro success
        cases success
      · rintro ⟨same, _⟩
        cases same
  | int number =>
    constructor
    · intro success
      cases success
      exact ⟨rfl, rfl⟩
    · rintro ⟨same, rfl⟩
      cases same
      rfl

private theorem operand_sp (loc : Location) : operand ⟨.ident "sp", loc⟩ = pure .stack := rfl

/-- Runs statements one behind the other, up to the first that fails. None of them is expected to ask for a
file. -/
def runAll : List (List Token) → Action Unit
  | [] => pure ()
  | tokens :: rest => do
    let _ ← run tokens
    runAll rest

theorem runAll_append (front back : List (List Token)) :
    runAll (front ++ back) = runAll front >>= fun _ => runAll back := by
  induction front with
  | nil => rfl
  | cons tokens rest ih => rw [List.cons_append, runAll, ih, runAll, bind_assoc]

private theorem runAll_mirrors (statements : List (List Token)) :
    Mirrors id (runAll statements) (runAll (statements.map (·.map Token.unlocated))) := by
  induction statements with
  | nil => exact .pure id ()
  | cons tokens rest ih => exact .bind (run_mirrors tokens) fun _ => ih

private theorem runAll_filling {statements : List (List Token)}
    (each : ∀ tokens ∈ statements, Filling (run tokens)) :
    Filling (runAll statements) := by
  induction statements with
  | nil => exact .pure ()
  | cons tokens rest ih =>
    obtain ⟨first, others⟩ := List.forall_mem_cons.mp each
    exact .bind first fun _ => ih others

/-- The instruction of a mnemonic with as many operands as it takes. -/
theorem run_instruction {mnemonic : Mnemonic} (known : mnemonic ∈ Mnemonic.table) (loc : Location)
    {args : List Token} (count : args.length = mnemonic.operands) :
    run (⟨.ident mnemonic.name, loc⟩ :: args) = do
      let operands ← args.mapM operand
      Object.add (.instruction (.make mnemonic operands)) loc
      return none := by
  rw [run_mnemonic known, if_pos count]
  simp only [perform, bind_assoc]

private theorem run_instruction_filling {mnemonic : Mnemonic} (known : mnemonic ∈ Mnemonic.table)
    {operands : List TokenKind} (count : operands.length = mnemonic.operands) {tokens : List Token}
    (kinds : tokens.map (·.kind) = .ident mnemonic.name :: operands) : Filling (run tokens) := by
  obtain ⟨⟨_, loc⟩, args, rfl, rfl, rfl⟩ := List.map_eq_cons_iff.mp kinds
  rw [List.length_map] at count
  rw [run_instruction known loc count]
  have reads := Filling.sequential.mapM operand_filling args
  exact .bind reads fun _ => .bind (add_filling _ _) fun _ => .pure none

/-- The statement that pushes an argument. -/
def push (loc : Location) (argument : Token) : List Token :=
  [⟨.ident "copy", loc⟩, argument, ⟨.ident "sp", loc⟩]

private theorem run_push (loc : Location) (argument : Token) : run (push loc argument) = do
    let value ← operand argument
    Object.add (.instruction (.make .copy [value, .stack])) loc
    return none := by
  have known : Mnemonic.copy ∈ Mnemonic.table := by decide
  have count : [argument, ⟨.ident "sp", loc⟩].length = Mnemonic.copy.operands := rfl
  have shape := run_instruction known loc count
  simp only [List.mapM_cons, List.mapM_nil, operand_sp, pure_bind, bind_assoc] at shape
  exact shape

private theorem runAll_push (loc : Location) (arguments : List Token) :
    runAll (arguments.map (push loc)) = pushArguments loc arguments := by
  induction arguments with
  | nil => rfl
  | cons argument rest ih =>
    rw [List.map_cons, runAll, run_push, ih, pushArguments]
    simp only [bind_assoc, pure_bind]

private theorem readCall_eq (head : String) (mnemonic : Mnemonic) (loc : Location) {target : Token}
    (plain : target.kind.IsNameOrNumber) (arguments : List Token) (destination : Token) :
    Directive.readCall head mnemonic loc (target :: (arguments ++ [destination])) =
      .ok (.call mnemonic target arguments destination) := by
  obtain ⟨kind, place⟩ := target
  cases arguments with
  | nil => cases plain <;> rfl
  | cons argument rest =>
    have front : (argument :: (rest ++ [destination])).dropLast = argument :: rest := by
      rw [← List.cons_append, List.dropLast_concat]
    have last : (argument :: (rest ++ [destination])).getLast (by simp) = destination := by simp
    cases plain with
    | ident name =>
      rw [List.cons_append, Directive.readCall, front, last]
      rfl
    | int value =>
      rw [List.cons_append, Directive.readCall, front, last]
      rfl

/-- The head words of call shortcuts, and the instructions that they call with. -/
inductive Shortcut : String → String → Prop where
  | call : Shortcut "_call" "call"
  | glk : Shortcut "_glk" "glk"

theorem Shortcut.exists_mnemonic {head instruction : String} (shortcut : Shortcut head instruction) :
    ∃ mnemonic ∈ Mnemonic.table, mnemonic.name = instruction ∧ mnemonic.operands = 3 ∧
      labelName? head = none ∧
      ∀ loc args, Directive.read head loc args = Directive.readCall head mnemonic loc args := by
  cases shortcut with
  | call => exact ⟨.call, by decide, rfl, rfl, rfl, fun _ _ => rfl⟩
  | glk => exact ⟨.glk, by decide, rfl, rfl, rfl, fun _ _ => rfl⟩

theorem run_shortcut {head : String} {mnemonic : Mnemonic} {loc : Location}
    (word : labelName? head = none)
    (reads : ∀ args, Directive.read head loc args = Directive.readCall head mnemonic loc args)
    {target : Token} (callable : target.kind.IsNameOrNumber) (arguments : List Token)
    (destination : Token) :
    run (⟨.ident head, loc⟩ :: target :: (arguments ++ [destination])) = do
      performCall loc mnemonic target arguments destination
      return none := by
  have made := readCall_eq head mnemonic loc callable arguments destination
  rw [← reads] at made
  rw [run_of_read word made (by simp), perform]

/-- Target and destination mean the same in front of the arguments and behind them. -/
theorem run_performCall_iff {mnemonic : Mnemonic} (known : mnemonic ∈ Mnemonic.table)
    (three : mnemonic.operands = 3) (loc : Location) {target destination : TokenKind}
    (callable : target.IsNameOrNumber) (place : destination.IsNameOrNumber) (arguments : List Token)
    {before after : Object} :
    (performCall loc mnemonic ⟨target, loc⟩ arguments ⟨destination, loc⟩).run before =
        .ok () after ↔
      (runAll (arguments.reverse.map (push loc) ++ [[⟨.ident mnemonic.name, loc⟩, ⟨target, loc⟩,
        ⟨.int (Int32.ofNat arguments.length), loc⟩, ⟨destination, loc⟩]])).run before =
        .ok () after := by
  have count : [(⟨target, loc⟩ : Token), ⟨.int (Int32.ofNat arguments.length), loc⟩,
      ⟨destination, loc⟩].length = mnemonic.operands := three.symm
  have number : operand ⟨.int (Int32.ofNat arguments.length), loc⟩ =
      pure (.constant (Int32.ofNat arguments.length)) := rfl
  rw [runAll_append, runAll_push]
  simp only [runAll, run_instruction known loc count, List.mapM_cons, List.mapM_nil, number, pure_bind,
    bind_assoc, performCall, run_bind_ok_iff, run_operand_iff callable, run_operand_iff place]
  constructor
  · rintro ⟨callee, _, ⟨meant, rfl⟩, result, _, ⟨kept, rfl⟩, _, pushed, arranged, added⟩
    have fixed := (pushArguments_filling loc arguments.reverse _ _ _ arranged).constants_eq
    rw [← fixed] at meant kept
    exact ⟨_, pushed, arranged, callee, _, ⟨meant, rfl⟩, result, _, ⟨kept, rfl⟩, _, after, added, rfl⟩
  · rintro ⟨_, pushed, arranged, callee, _, ⟨meant, rfl⟩, result, _, ⟨kept, rfl⟩, _, _, added, ended⟩
    have fixed := (pushArguments_filling loc arguments.reverse _ _ _ arranged).constants_eq
    rw [fixed] at meant kept
    cases ended
    exact ⟨callee, _, ⟨meant, rfl⟩, result, _, ⟨kept, rfl⟩, _, pushed, arranged, added⟩

/-- What a call shortcut stands for. The last argument is pushed first. -/
def expansion (instruction : String) (target : TokenKind) (arguments : List TokenKind)
    (destination : TokenKind) : List (List TokenKind) :=
  arguments.reverse.map (fun argument => [.ident "copy", argument, .ident "sp"]) ++
    [[.ident instruction, target, .int (Int32.ofNat arguments.length), destination]]

private theorem run_unplaced_shortcut_iff {head instruction : String} (shortcut : Shortcut head instruction)
    {target destination : TokenKind} (callable : target.IsNameOrNumber)
    (place : destination.IsNameOrNumber) (arguments : List TokenKind) {before after : Object}
    {request : Option IncludeRequest} :
    (run (unplaced (.ident head :: target :: (arguments ++ [destination])))).run before =
        .ok request after ↔
      request = none ∧ (runAll ((expansion instruction target arguments destination).map
        unplaced)).run before = .ok () after := by
  obtain ⟨mnemonic, known, rfl, three, word, reads⟩ := shortcut.exists_mnemonic
  have short : unplaced (.ident head :: target :: (arguments ++ [destination])) =
      ⟨.ident head, .builtIn⟩ :: ⟨target, .builtIn⟩ ::
        (unplaced arguments ++ [⟨destination, .builtIn⟩]) := by
    simp [unplaced]
  have long : (expansion mnemonic.name target arguments destination).map unplaced =
      (unplaced arguments).reverse.map (push .builtIn) ++ [[⟨.ident mnemonic.name, .builtIn⟩,
        ⟨target, .builtIn⟩, ⟨.int (Int32.ofNat (unplaced arguments).length), .builtIn⟩,
        ⟨destination, .builtIn⟩]] := by
    simp [expansion, unplaced, push]
  rw [short, long, run_shortcut word (reads .builtIn) callable,
    ← run_performCall_iff known three .builtIn callable place, run_bind_ok_iff]
  constructor
  · rintro ⟨_, _, called, ended⟩
    cases ended
    exact ⟨rfl, called⟩
  · rintro ⟨rfl, called⟩
    exact ⟨(), after, called, rfl⟩

private theorem run_shortcut_filling {head instruction : String} (shortcut : Shortcut head instruction)
    {target destination : TokenKind} (callable : target.IsNameOrNumber) {arguments : List TokenKind}
    {tokens : List Token}
    (short : tokens.map (·.kind) = .ident head :: target :: (arguments ++ [destination])) :
    Filling (run tokens) := by
  obtain ⟨mnemonic, _, _, _, word, reads⟩ := shortcut.exists_mnemonic
  obtain ⟨⟨_, loc⟩, _, rfl, rfl, rest⟩ := List.map_eq_cons_iff.mp short
  obtain ⟨callee, _, rfl, rfl, others⟩ := List.map_eq_cons_iff.mp rest
  obtain ⟨pushed, last, rfl, rfl, final⟩ := List.map_eq_append_iff.mp others
  obtain ⟨result, rfl, rfl⟩ := List.map_eq_singleton_iff.mp final
  rw [run_shortcut word (reads loc) callable]
  exact .bind (performCall_filling loc mnemonic callee pushed result) fun _ => .pure none

private theorem runAll_expansion_filling {head instruction : String} (shortcut : Shortcut head instruction)
    {target destination : TokenKind} {arguments : List TokenKind} {statements : List (List Token)}
    (long : statements.map (·.map (·.kind)) = expansion instruction target arguments destination) :
    Filling (runAll statements) := by
  obtain ⟨mnemonic, known, rfl, three, _⟩ := shortcut.exists_mnemonic
  have copy : Mnemonic.copy ∈ Mnemonic.table := by decide
  apply runAll_filling
  intro tokens member
  have kinds : tokens.map (·.kind) ∈ expansion mnemonic.name target arguments destination := by
    rw [← long]
    exact List.mem_map_of_mem member
  rcases List.mem_append.mp kinds with pushed | last
  · obtain ⟨argument, _, same⟩ := List.mem_map.mp pushed
    exact run_instruction_filling copy rfl same.symm
  · have same := List.mem_singleton.mp last
    exact run_instruction_filling known (by rw [three]; rfl) same

/-- A call shortcut succeeds exactly when the pushes of its arguments, the last argument first, and the call
with their number all succeed, wherever in the source the two ways are written. Both leave the same object up
to the places of the new fragments: the string pool with its numbering, the constants and all else agree. -/
theorem call_shortcut_expands {head instruction : String} (shortcut : Shortcut head instruction)
    {target destination : TokenKind} (callable : target.IsNameOrNumber)
    (place : destination.IsNameOrNumber) {arguments : List TokenKind} {tokens : List Token}
    (short : tokens.map (·.kind) = .ident head :: target :: (arguments ++ [destination]))
    {statements : List (List Token)}
    (long : statements.map (·.map (·.kind)) = expansion instruction target arguments destination)
    (object : Object) :
    ((∃ request one, (run tokens).run object = .ok request one) ↔
      ∃ two, (runAll statements).run object = .ok () two) ∧
    ∀ request one two, (run tokens).run object = .ok request one →
      (runAll statements).run object = .ok () two → request = none ∧ AlikeButPlaces one two := by
  have plainTokens : tokens.map Token.unlocated =
      unplaced (.ident head :: target :: (arguments ++ [destination])) := by
    rw [← short]
    simp [unplaced, Token.unlocated]
  have plainStatements : statements.map (·.map Token.unlocated) =
      (expansion instruction target arguments destination).map unplaced := by
    rw [← long]
    simp [unplaced, Token.unlocated]
  have shortMirrors := run_mirrors tokens
  have longMirrors := runAll_mirrors statements
  rw [plainTokens] at shortMirrors
  rw [plainStatements] at longMirrors
  refine ⟨⟨?_, ?_⟩, ?_⟩
  · rintro ⟨request, one, success⟩
    have plain := shortMirrors.run_ok_iff.mpr ⟨request, one, success, rfl, rfl⟩
    obtain ⟨_, expanded⟩ := (run_unplaced_shortcut_iff shortcut callable place arguments).mp plain
    obtain ⟨_, two, done, _⟩ := longMirrors.run_ok_iff.mp expanded
    exact ⟨two, done⟩
  · rintro ⟨two, success⟩
    have expanded := longMirrors.run_ok_iff.mpr ⟨(), two, success, rfl, rfl⟩
    have plain := (run_unplaced_shortcut_iff shortcut callable place arguments).mpr ⟨rfl, expanded⟩
    obtain ⟨request, one, done, _⟩ := shortMirrors.run_ok_iff.mp plain
    exact ⟨request, one, done⟩
  · intro request one two first second
    have plain := shortMirrors.run_ok_iff.mpr ⟨request, one, first, rfl, rfl⟩
    obtain ⟨none, expanded⟩ := (run_unplaced_shortcut_iff shortcut callable place arguments).mp plain
    obtain ⟨_, other, done, _, same⟩ := longMirrors.run_ok_iff.mp expanded
    obtain rfl : other = two := by
      rw [second] at done
      cases done
      rfl
    refine ⟨Option.map_eq_none_iff.mp none, ?_⟩
    exact (run_shortcut_filling shortcut callable short object request one first).alikeButPlaces
      (runAll_expansion_filling shortcut long object () other second) same.symm

/-- Tokens of these kinds on one line. -/
def onLine (line : Nat) (kinds : List TokenKind) : List Token :=
  kinds.map (⟨·, { file := "a.ga", line }⟩)

/-- Of two strings the second is pushed first, and so it is the first in the pool. -/
theorem call_shortcut_expands_strings : ∃ one two,
    (run (onLine 1 [.ident "_glk", .int 0x81, .string "a", .string "b", .ident "sp"])).run {} =
      .ok none one ∧
    (runAll [onLine 2 [.ident "copy", .string "b", .ident "sp"],
      onLine 3 [.ident "copy", .string "a", .ident "sp"],
      onLine 4 [.ident "glk", .int 0x81, .int 2, .ident "sp"]]).run {} = .ok () two ∧
    AlikeButPlaces one two ∧ one.strings.entries.map (·.content) = #["b", "a"] := by
  have short : (onLine 1 [.ident "_glk", .int 0x81, .string "a", .string "b", .ident "sp"]).map (·.kind) =
      .ident "_glk" :: .int 0x81 :: ([.string "a", .string "b"] ++ [.ident "sp"]) := rfl
  have long : [onLine 2 [.ident "copy", .string "b", .ident "sp"],
      onLine 3 [.ident "copy", .string "a", .ident "sp"],
      onLine 4 [.ident "glk", .int 0x81, .int 2, .ident "sp"]].map (·.map (·.kind)) =
      expansion "glk" (.int 0x81) [.string "a", .string "b"] (.ident "sp") := rfl
  obtain ⟨_, same⟩ := call_shortcut_expands .glk (.int 0x81) (.ident "sp") short long {}
  exact ⟨_, _, rfl, rfl, (same _ _ _ rfl rfl).2, by decide +kernel⟩

end Statement

end GlulxAsm
