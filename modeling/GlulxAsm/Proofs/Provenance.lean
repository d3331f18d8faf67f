import GlulxAsm.Proofs.Evolution

/-! From a text to the fragments. Every operand that a statement writes goes into one fragment of the
object, at the next free place of the selected segment, and nothing that is collected later changes it. -/
namespace GlulxAsm

namespace StringPool

theorem index?_eq (pool : StringPool) (content : String) :
    pool.index? content = pool.contents.findIdx? (· == content) := by
  rw [index?, pool.indexed content, contents, List.findIdx?_map, ← List.findIdx?_toArray]
  rfl

theorem Extends.index?_eq {before after : StringPool} {content : String} {index : Nat}
    (extended : Extends before after) (found : before.index? content = some index) :
    after.index? content = some index := by
  obtain ⟨more, whole⟩ := extended.contents_prefix
  rw [StringPool.index?_eq] at found ⊢
  rw [← whole, List.findIdx?_append, found]
  rfl

theorem index?_intern (pool : StringPool) (content : String) :
    (pool.intern content).1.index? content = some (pool.intern content).2 := by
  unfold intern
  split
  · next found => exact found
  · next missing => simp [index?, push]

theorem getElem?_of_index? {pool : StringPool} {content : String} {index : Nat}
    (found : pool.index? content = some index) :
    ∃ entry, pool.entries[index]? = some entry ∧ entry.content = content := by
  rw [index?, pool.indexed content] at found
  obtain ⟨inside, same, _⟩ := Array.findIdx?_eq_some_iff_getElem.mp found
  exact ⟨pool.entries[index], Array.getElem?_eq_getElem inside, by simpa using same⟩

end StringPool

namespace Object

open Fragment

theorem run_bind_ok {α β : Type} {action : Action α} {next : α → Action β} {before after : Object}
    {value : β} (success : (action >>= next).run before = .ok value after) :
    ∃ first middle, action.run before = .ok first middle ∧
      (next first).run middle = .ok value after := by
  rw [EStateM.run_bind] at success
  cases found : action.run before with
  | error error object =>
    rw [found] at success
    cases success
  | ok first middle =>
    rw [found] at success
    exact ⟨first, middle, rfl, success⟩

theorem Collecting.extends_of_ok {α : Type} {action : Action α} {before after : Object} {value : α}
    (collecting : Collecting action) (success : action.run before = .ok value after) :
    Extends before after := by
  have steps := collecting before
  rw [success] at steps
  exact steps.extends

/-- The slot of the fragment that is added to the selected segment behind `count` others. -/
def nextSlot (object : Object) (count : Nat) : Slot :=
  if object.toRom then .rom (object.rom.size + count) else .ram (object.ram.size + count)

/-- The operand is what the token stands for. A string stands for the label of its text in the pool, and
the start of RAM for itself, as long as there is no constant of that name. -/
structure Stated (object : Object) (token : Token) (operand : Operand) : Prop where
  string : ∀ content, token.kind = .string content → ∃ index,
    object.strings.index? content = some index ∧ operand = .symbol .constant (StringPool.label index)
  startOfRam : token.kind = .ident startOfRam → object.constants.get? startOfRam = none →
    operand = .symbol .constant startOfRam

theorem Stated.extend {before after : Object} {token : Token} {operand : Operand}
    (stated : before.Stated token operand) (extended : Extends before after) :
    after.Stated token operand where
  string content written := by
    obtain ⟨index, found, rfl⟩ := stated.string content written
    exact ⟨index, extended.strings.index?_eq found, rfl⟩
  startOfRam written free := stated.startOfRam written (extended.constants _ free)

/-- A branch widens its target, which changes no name. -/
theorem Stated.widened {object : Object} {token : Token} {operand : Operand}
    (stated : object.Stated token operand) : object.Stated token operand.widened where
  string content written := by
    obtain ⟨index, found, rfl⟩ := stated.string content written
    exact ⟨index, found, rfl⟩
  startOfRam written free := by
    rw [stated.startOfRam written free]
    rfl

/-- The fragment in a slot has an operand that the token stands for. -/
def Holds (object : Object) (slot : Slot) (index : Nat) (token : Token) : Prop :=
  ∃ fragment operand, object.collected? slot = some fragment ∧
    fragment.body.operands[index]? = some operand ∧ object.Stated token operand

theorem Holds.extend {before after : Object} {slot : Slot} {index : Nat} {token : Token}
    (holds : before.Holds slot index token) (extended : Extends before after) :
    after.Holds slot index token := by
  obtain ⟨fragment, operand, found, present, stated⟩ := holds
  exact ⟨fragment, operand, extended.collected?_eq found, present, stated.extend extended⟩

/-- A fragment that is added goes to the next slot. -/
theorem add_ok {body : Body} {loc : Location} {before after : Object}
    (success : (add body loc).run before = .ok () after) :
    after.collected? (before.nextSlot 0) = some { body, loc } ∧
      ∀ count, after.nextSlot count = before.nextSlot (count + 1) := by
  by_cases fresh : before.stage = .accumulating
  · cases selected : before.toRom with
    | true =>
      simp only [add, EStateM.run_bind, EStateM.run_get, fresh, selected] at success
      cases success
      constructor
      · simp [nextSlot, selected, collected?, fresh]
      · intro count
        simp [nextSlot, selected, Nat.add_assoc, Nat.add_comm 1]
    | false =>
      simp only [add, EStateM.run_bind, EStateM.run_get, fresh, selected] at success
      cases success
      constructor
      · simp [nextSlot, selected, collected?]
      · intro count
        simp [nextSlot, selected, Nat.add_assoc, Nat.add_comm 1]
  · simp only [add, EStateM.run_bind, EStateM.run_get, if_pos fresh] at success
    cases success

/-- Tokens were read as operands, which added no fragment. -/
structure Reads (before after : Object) (tokens : List Token) (operands : List Operand) : Prop where
  extended : Extends before after
  unmoved : ∀ count, after.nextSlot count = before.nextSlot count
  stated : List.Forall₂ after.Stated tokens operands

theorem Reads.nil (object : Object) : Reads object object [] [] :=
  ⟨.refl object, fun _ => rfl, .nil⟩

theorem Reads.cons {before middle after : Object} {token : Token} {operand : Operand}
    {tokens : List Token} {operands : List Operand} (first : Reads before middle [token] [operand])
    (rest : Reads middle after tokens operands) :
    Reads before after (token :: tokens) (operand :: operands) where
  extended := first.extended.trans rest.extended
  unmoved count := (rest.unmoved count).trans (first.unmoved count)
  stated := by
    cases first.stated with
    | cons stated _ => exact .cons (stated.extend rest.extended) rest.stated

end Object

private theorem Operand.ofIdent_startOfRam {constant? : String → Option Int32}
    (free : constant? Object.startOfRam = none) :
    ofIdent constant? Object.startOfRam = .symbol .constant Object.startOfRam := by
  have plain : Object.startOfRam ≠ "sp" := by decide
  have bare : splitSigil Object.startOfRam.toList = (.constant, Object.startOfRam.toList) := by decide
  have letters : Number.signed? 32 Object.startOfRam.toList = none := by decide
  simp only [ofIdent, if_neg plain, bare, String.ofList_toList, free, letters]

/-- What an instruction is made of stays in its place, but for the width of a branch's target. -/
theorem Instruction.getElem?_make (mnemonic : Mnemonic) {operands : List Operand} {index : Nat}
    {operand : Operand} (found : operands[index]? = some operand) :
    ∃ stored, (make mnemonic operands).operands[index]? = some stored ∧
      (stored = operand ∨ stored = operand.widened) := by
  have last : ∃ stored, (mapLast Operand.widened operands)[index]? = some stored ∧
      (stored = operand ∨ stored = operand.widened) := by
    induction operands generalizing index with
    | nil => simp at found
    | cons first rest ih =>
      cases rest with
      | nil =>
        cases index with
        | zero =>
          obtain rfl : first = operand := by simpa using found
          exact ⟨_, rfl, .inr rfl⟩
        | succ index => simp at found
      | cons second more =>
        cases index with
        | zero => exact ⟨operand, found, .inl rfl⟩
        | succ index => exact ih (by simpa using found)
  unfold make
  dsimp only
  split
  · exact last
  · exact ⟨operand, found, .inl rfl⟩

namespace Directive

/-- Where a directive writes an operand: in the fragment behind `count` others that it adds, at an index
of that fragment. -/
inductive Writes : Directive → Token → Nat → Nat → Prop where
  | instruction {mnemonic : Mnemonic} {operands : List Token} {index : Nat} {token : Token}
      (found : operands[index]? = some token) : Writes (.instruction mnemonic operands) token 0 index
  | words {label : String} {capacity : Option Nat} {items : List Token} {index : Nat} {token : Token}
      (found : items[index]? = some token) : Writes (.words label capacity items) token 1 index
  | argument {mnemonic : Mnemonic} {target destination : Token} {arguments : List Token}
      {count : Nat} {token : Token} (found : arguments.reverse[count]? = some token) :
      Writes (.call mnemonic target arguments destination) token count 0
  | target {mnemonic : Mnemonic} {target destination : Token} {arguments : List Token} :
      Writes (.call mnemonic target arguments destination) target arguments.length 0
  | destination {mnemonic : Mnemonic} {target destination : Token} {arguments : List Token} :
      Writes (.call mnemonic target arguments destination) destination arguments.length 2

end Directive

namespace Statement

open Object

theorem add_holds {body : Fragment.Body} {loc : Location} {before after : Object} {token : Token}
    {operand : Operand} {index : Nat} (added : (Object.add body loc).run before = .ok () after)
    (present : body.operands[index]? = some operand) (stated : before.Stated token operand) :
    after.Holds (before.nextSlot 0) index token :=
  ⟨_, operand, (add_ok added).1, present, stated.extend ((add_collecting _ _).extends_of_ok added)⟩

theorem add_instruction_holds {mnemonic : Mnemonic} {operands : List Operand} {loc : Location}
    {before after : Object} {token : Token} {operand : Operand} {index : Nat}
    (added : (Object.add (.instruction (.make mnemonic operands)) loc).run before = .ok () after)
    (present : operands[index]? = some operand) (stated : before.Stated token operand) :
    after.Holds (before.nextSlot 0) index token := by
  obtain ⟨stored, kept, rfl | rfl⟩ := Instruction.getElem?_make mnemonic present
  · exact add_holds added kept stated
  · exact add_holds added kept stated.widened

theorem operand_reads {token : Token} {operand : Operand} {before after : Object}
    (success : (Statement.operand token).run before = .ok operand after) :
    Reads before after [token] [operand] := by
  have extended := (operand_collecting token).extends_of_ok success
  unfold Statement.operand at success
  split at success
  · next written =>
    cases success
    exact ⟨extended, fun _ => rfl, .cons ⟨by simp [written], by simp [written]⟩ .nil⟩
  · next content written =>
    cases success
    refine ⟨extended, fun _ => rfl, .cons ⟨?_, by simp [written]⟩ .nil⟩
    intro other same
    obtain rfl : content = other := by simpa [written] using same
    exact ⟨_, before.strings.index?_intern content, rfl⟩
  · next name written =>
    split at success
    · cases success
      refine ⟨extended, fun _ => rfl, .cons ⟨by simp [written], ?_⟩ .nil⟩
      intro same free
      obtain rfl : name = startOfRam := by simpa [written] using same
      apply Operand.ofIdent_startOfRam
      rw [ConstantTable.value?, free]
      rfl
    · cases success
  · cases success

private theorem mapM_reads {tokens : List Token} {operands : List Operand} {before after : Object}
    (success : (tokens.mapM Statement.operand).run before = .ok operands after) :
    Reads before after tokens operands := by
  induction tokens generalizing before operands with
  | nil =>
    cases success
    exact .nil _
  | cons token rest ih =>
    rw [List.mapM_cons] at success
    obtain ⟨first, middle, one, success⟩ := run_bind_ok success
    obtain ⟨others, last, more, success⟩ := run_bind_ok success
    cases success
    exact .cons (operand_reads one) (ih more)

private theorem wordItems_reads {capacity : Option Nat} {count : Nat} {tokens : List Token}
    {operands : List Operand} {before after : Object}
    (success : (wordItems capacity count tokens).run before = .ok operands after) :
    Reads before after tokens operands := by
  induction tokens generalizing before operands count with
  | nil =>
    cases success
    exact .nil _
  | cons token rest ih =>
    unfold wordItems at success
    obtain ⟨first, middle, one, success⟩ := run_bind_ok success
    split at success
    · obtain ⟨others, last, more, success⟩ := run_bind_ok success
      cases success
      exact .cons (operand_reads one) (ih more)
    · cases success

/-- Each argument of a call is pushed by a fragment of its own. -/
theorem pushArguments_holds {loc : Location} {tokens : List Token} {before after : Object}
    (success : (pushArguments loc tokens).run before = .ok () after) :
    (∀ count, after.nextSlot count = before.nextSlot (tokens.length + count)) ∧
      ∀ count token, tokens[count]? = some token → after.Holds (before.nextSlot count) 0 token := by
  induction tokens generalizing before with
  | nil =>
    cases success
    simp
  | cons token rest ih =>
    unfold pushArguments at success
    obtain ⟨value, read, one, success⟩ := run_bind_ok success
    obtain ⟨_, added, two, success⟩ := run_bind_ok success
    have reads := operand_reads one
    have moved := (add_ok two).2
    obtain ⟨later, others⟩ := ih success
    constructor
    · intro count
      rw [later, moved, reads.unmoved, List.length_cons]
      congr 1
      omega
    · intro count other found
      cases count with
      | zero =>
        obtain rfl : token = other := by simpa using found
        cases reads.stated with
        | cons stated _ =>
          rw [← reads.unmoved]
          have here : added.Holds (read.nextSlot 0) 0 token := add_instruction_holds two rfl stated
          exact here.extend ((pushArguments_collecting loc rest).extends_of_ok success)
      | succ count =>
        rw [← reads.unmoved, ← moved]
        exact others count other (by simpa using found)

/-- A call reads its target and its destination, pushes its arguments and adds the instruction behind
them. -/
theorem performCall_ok {loc : Location} {mnemonic : Mnemonic} {target destination : Token}
    {arguments : List Token} {before after : Object}
    (success : (performCall loc mnemonic target arguments destination).run before = .ok () after) :
    ∃ goal place pushed, pushed.Stated target goal ∧ pushed.Stated destination place ∧
      pushed.nextSlot 0 = before.nextSlot arguments.length ∧
      (∀ count token, arguments.reverse[count]? = some token →
        pushed.Holds (before.nextSlot count) 0 token) ∧
      (Object.add (.instruction (.make mnemonic
        [goal, .constant (Int32.ofNat arguments.length), place])) loc).run pushed = .ok () after := by
  obtain ⟨goal, first, one, success⟩ := run_bind_ok success
  obtain ⟨place, read, two, success⟩ := run_bind_ok success
  obtain ⟨_, pushed, pushing, added⟩ := run_bind_ok success
  have reads := Reads.cons (operand_reads one) (operand_reads two)
  have extended := (pushArguments_collecting _ _).extends_of_ok pushing
  obtain ⟨moved, held⟩ := pushArguments_holds pushing
  simp only [reads.unmoved] at moved held
  cases reads.stated with
  | cons statedTarget others =>
    cases others with
    | cons statedDestination _ =>
      refine ⟨goal, place, pushed, statedTarget.extend extended, statedDestination.extend extended,
        ?_, held, added⟩
      rw [moved, List.length_reverse, Nat.add_zero]

/-- What a directive writes is held by the object from then on. -/
theorem perform_holds {loc : Location} {directive : Directive} {before after : Object}
    {token : Token} {count index : Nat} (success : (perform loc directive).run before = .ok () after)
    (writes : directive.Writes token count index) :
    after.Holds (before.nextSlot count) index token := by
  cases writes with
  | instruction found =>
    obtain ⟨values, middle, read, added⟩ := run_bind_ok success
    have reads := mapM_reads read
    obtain ⟨value, present, stated⟩ := forall₂_getElem? reads.stated found
    rw [← reads.unmoved]
    exact add_instruction_holds added present stated
  | words found =>
    obtain ⟨values, middle, read, success⟩ := run_bind_ok success
    obtain ⟨_, labelled, label, added⟩ := run_bind_ok success
    have reads := wordItems_reads read
    obtain ⟨value, present, stated⟩ := forall₂_getElem? reads.stated found
    rw [← reads.unmoved, ← (add_ok label).2 0]
    exact add_holds added present (stated.extend ((add_collecting _ _).extends_of_ok label))
  | argument found =>
    obtain ⟨_, _, pushed, _, _, _, held, added⟩ := performCall_ok success
    exact (held _ _ found).extend ((add_collecting _ _).extends_of_ok added)
  | target =>
    obtain ⟨_, _, pushed, stated, _, behind, _, added⟩ := performCall_ok success
    rw [← behind]
    exact add_instruction_holds added rfl stated
  | destination =>
    obtain ⟨_, _, pushed, _, stated, behind, _, added⟩ := performCall_ok success
    rw [← behind]
    exact add_instruction_holds added rfl stated

/-- A statement that consists of `labels` labels and a directive. -/
inductive Consists : List Token → Nat → Directive → Prop where
  | directive {head : Token} {args : List Token} {name : String} {directive : Directive}
      (named : head.kind = .ident name) (plain : labelName? name = none)
      (read : Directive.read name head.loc args = .ok directive) : Consists (head :: args) 0 directive
  | label {head : Token} {args : List Token} {name label : String} {labels : Nat}
      {directive : Directive} (named : head.kind = .ident name)
      (labelled : labelName? name = some label) (rest : Consists args labels directive) :
      Consists (head :: args) (labels + 1) directive

/-- What a statement writes is held by the object from then on. -/
theorem run_holds {tokens : List Token} {labels count index : Nat} {directive : Directive}
    {token : Token} {before after : Object} {request : Option IncludeRequest}
    (consists : Consists tokens labels directive) (writes : directive.Writes token count index)
    (success : (run tokens).run before = .ok request after) :
    after.Holds (before.nextSlot (labels + count)) index token := by
  induction consists generalizing before with
  | @directive head args name directive named plain read =>
    unfold run at success
    simp only [Directive.ident, named, MonadExcept.ofExcept, pure_bind, plain, read] at success
    rw [Nat.zero_add]
    split at success
    · cases writes
    · obtain ⟨_, done, performed, success⟩ := run_bind_ok success
      cases success
      exact perform_holds performed writes
  | @label head args name label labels directive named labelled rest ih =>
    unfold run at success
    simp only [Directive.ident, named, MonadExcept.ofExcept, pure_bind, labelled] at success
    obtain ⟨_, middle, added, success⟩ := run_bind_ok success
    have held := ih writes success
    rwa [(add_ok added).2, Nat.add_right_comm] at held

end Statement

namespace Session

open Object

/-- A statement that is run leads to no error only if it succeeds. -/
theorem step_clean {session : Session} {tokens : List Token}
    (clean : (session.step tokens).1.errors = #[]) :
    session.errors = #[] ∧ ∃ request object, Statement.run tokens session.object = .ok request object ∧
      session.step tokens = (session.advance object, request) := by
  unfold step at clean ⊢
  cases found : Statement.run tokens session.object with
  | ok request object =>
    rw [found] at clean
    exact ⟨clean, request, object, rfl, rfl⟩
  | error error object => simp [found, fail] at clean

theorem errors_of_result {session : Session} (success : session.result = .ok ()) :
    session.errors = #[] := by
  unfold result at success
  split at success
  · next empty => exact Array.isEmpty_iff.mp empty
  · cases success

private theorem scan_clean {session : Session} {name text : String}
    (clean : (session.scan name text).1.errors = #[]) : session.errors = #[] := by
  simp only [scan, note, Array.append_eq_empty_iff] at clean
  exact clean.1

/-- The session in which the statements of an included file are run, and these statements. -/
def enter (session : Session) (outer : List Place) (path : String) (site : Location)
    (file : SourceFile) : Session × List (List Token) :=
  (if outer.isEmpty then session else session.note (.including path site)).scan file.name file.text

@[simp] theorem run_nil (tree : FileTree) (outer : List Place) (directory : String)
    (session : Session) : run tree outer directory [] session = session := by
  rw [run]

theorem run_cons (tree : FileTree) (outer : List Place) (directory : String) (tokens : List Token)
    (rest : List (List Token)) (session : Session) :
    run tree outer directory (tokens :: rest) session =
      run tree outer directory rest (run tree outer directory [tokens] session) := by
  rw [run]
  conv_rhs =>
    enter [5]
    rw [run]
  simp only [run_nil]

theorem run_plain {tree : FileTree} {outer : List Place} {directory : String} {tokens : List Token}
    {session next : Session} (stepped : session.step tokens = (next, none)) :
    run tree outer directory [tokens] session = next := by
  rw [run, stepped]
  simp only [run_nil]

theorem run_unread {tree : FileTree} {outer : List Place} {directory : String}
    {tokens : List Token} {session next : Session} {request : Statement.IncludeRequest}
    {fault : SourceFile.Fault} (stepped : session.step tokens = (next, some request))
    (missing : SourceFile.read tree outer (Path.join directory request.file) = .error fault) :
    run tree outer directory [tokens] session =
      next.fail (blame outer (Path.join directory request.file) request.loc fault) := by
  rw [run, stepped]
  simp only [run_nil]
  split
  · next other found =>
    rw [missing] at found
    cases found
    rfl
  · next found =>
    rw [missing] at found
    cases found

theorem run_included {tree : FileTree} {outer : List Place} {directory : String}
    {tokens : List Token} {session next : Session} {request : Statement.IncludeRequest}
    {file : SourceFile} (stepped : session.step tokens = (next, some request))
    (opened : SourceFile.read tree outer (Path.join directory request.file) = .ok file) :
    run tree outer directory [tokens] session =
      run tree (file.place :: outer) (Path.directory file.name)
        (next.enter outer (Path.join directory request.file) request.loc file).2
        (next.enter outer (Path.join directory request.file) request.loc file).1 := by
  rw [run, stepped]
  simp only [run_nil]
  split
  · next found =>
    rw [opened] at found
    cases found
  · next other found =>
    rw [opened] at found
    cases found
    rfl

theorem enter_object (session : Session) (outer : List Place) (path : String) (site : Location)
    (file : SourceFile) : (session.enter outer path site file).1.object = session.object := by
  unfold enter
  split <;> rfl

theorem enter_clean {session : Session} {outer : List Place} {path : String} {site : Location}
    {file : SourceFile} (clean : (session.enter outer path site file).1.errors = #[]) :
    session.errors = #[] := by
  unfold enter at clean
  have before := scan_clean clean
  split at before
  · exact before
  · exact before

/-- A run without errors started without errors. -/
theorem run_clean {tree : FileTree} {outer : List Place} {directory : String}
    {statements : List (List Token)} {session : Session}
    (clean : (run tree outer directory statements session).errors = #[]) : session.errors = #[] := by
  revert clean
  fun_induction run tree outer directory statements session with
  | case1 =>
    intro clean
    exact clean
  | case2 outer directory session tokens rest stepped request found following inner later =>
    intro clean
    have followed := later clean
    have first : (session.step tokens).1.errors = #[] := by
      rw [found]
      dsimp only [following] at followed
      split at followed
      · exact followed
      · next request =>
        split at followed
        · simp [fail] at followed
        · next file opened =>
          have entered := inner request file opened _ _ followed
          exact enter_clean entered
    exact (step_clean first).1

/-- One statement without errors succeeds, and if it asks for a file, only more is collected. -/
theorem run_single {tree : FileTree} {outer : List Place} {directory : String} {tokens : List Token}
    {session : Session} (clean : (run tree outer directory [tokens] session).errors = #[]) :
    ∃ request after, (Statement.run tokens).run session.object = .ok request after ∧
      Collects after (run tree outer directory [tokens] session).object := by
  cases stepped : session.step tokens with
  | mk next request =>
    have first : next.errors = #[] ∧
        Collects next.object (run tree outer directory [tokens] session).object := by
      cases request with
      | none =>
        rw [run_plain stepped] at clean ⊢
        exact ⟨clean, .refl⟩
      | some request =>
        cases found : SourceFile.read tree outer (Path.join directory request.file) with
        | error fault =>
          rw [run_unread stepped found] at clean
          simp [fail] at clean
        | ok file =>
          rw [run_included stepped found] at clean ⊢
          have collected := run_collects tree (file.place :: outer) (Path.directory file.name)
            (next.enter outer (Path.join directory request.file) request.loc file).2
            (next.enter outer (Path.join directory request.file) request.loc file).1
          rw [enter_object] at collected
          exact ⟨enter_clean (run_clean clean), collected⟩
    have started : (session.step tokens).1.errors = #[] := by
      rw [stepped]
      exact first.1
    obtain ⟨_, other, after, success, same⟩ := step_clean started
    obtain ⟨rfl, rfl⟩ := Prod.mk.inj (stepped.symm.trans same)
    exact ⟨_, after, success, first.2⟩

/-- Running statements comes to a statement, and finds the object as given. -/
inductive Meets (tree : FileTree) (tokens : List Token) (object : Object) :
    List Place → String → List (List Token) → Session → Prop where
  | here {outer : List Place} {directory : String} {rest : List (List Token)} {session : Session}
      (same : session.object = object) :
      Meets tree tokens object outer directory (tokens :: rest) session
  | later {outer : List Place} {directory : String} {first : List Token} {rest : List (List Token)}
      {session : Session}
      (behind : Meets tree tokens object outer directory rest
        (run tree outer directory [first] session)) :
      Meets tree tokens object outer directory (first :: rest) session
  | included {outer : List Place} {directory : String} {first : List Token}
      {rest : List (List Token)} {session next : Session} {request : Statement.IncludeRequest}
      {file : SourceFile} (stepped : session.step first = (next, some request))
      (opened : SourceFile.read tree outer (Path.join directory request.file) = .ok file)
      (inside : Meets tree tokens object (file.place :: outer) (Path.directory file.name)
        (next.enter outer (Path.join directory request.file) request.loc file).2
        (next.enter outer (Path.join directory request.file) request.loc file).1) :
      Meets tree tokens object outer directory (first :: rest) session

/-- In a run without errors, each statement that it comes to succeeds, and what it leaves is only added
to. -/
theorem Meets.succeeds {tree : FileTree} {tokens : List Token} {object : Object}
    {outer : List Place} {directory : String} {statements : List (List Token)} {session : Session}
    (meets : Meets tree tokens object outer directory statements session)
    (clean : (run tree outer directory statements session).errors = #[]) :
    ∃ request after, (Statement.run tokens).run object = .ok request after ∧
      Collects after (run tree outer directory statements session).object := by
  induction meets with
  | @here outer directory rest session same =>
    rw [run_cons] at clean ⊢
    obtain ⟨request, after, success, collected⟩ := run_single (run_clean clean)
    exact ⟨request, after, same ▸ success, collected.trans (run_collects ..)⟩
  | @later outer directory first rest session behind ih =>
    rw [run_cons] at clean ⊢
    exact ih clean
  | @included outer directory first rest session next request file stepped opened inside ih =>
    rw [run_cons, run_included stepped opened] at clean ⊢
    obtain ⟨request, after, success, collected⟩ := ih (run_clean clean)
    exact ⟨request, after, success, collected.trans (run_collects ..)⟩

end Session

/-- What can be assembled: a text with a name, or a file. -/
inductive Source where
  | text (name content : String)
  | file (path : String)

namespace Source

open Object

def assemble (tree : FileTree) (object : Object) : Source → Session
  | text name content => assembleSource tree name content object
  | file path => assembleFile tree path object

/-- Assembling a source comes to a statement, and finds the object as given. -/
inductive Meets (tree : FileTree) (fresh : Object) (tokens : List Token) (object : Object) :
    Source → Prop where
  | text {name content : String}
      (meets : Session.Meets tree tokens object [] (Path.directory name)
        (Session.scan { object := fresh } name content).2
        (Session.scan { object := fresh } name content).1) :
      Meets tree fresh tokens object (.text name content)
  | file {path : String} {file : SourceFile} (opened : SourceFile.read tree [] path = .ok file)
      (meets : Session.Meets tree tokens object [file.place] (Path.directory file.name)
        (Session.scan { object := fresh } file.name file.text).2
        (Session.scan { object := fresh } file.name file.text).1) :
      Meets tree fresh tokens object (.file path)

/-- Some statement of a source writes an operand, at an index of the fragment in a slot. -/
inductive Writes (tree : FileTree) (fresh : Object) (source : Source) (token : Token) :
    Slot → Nat → Prop where
  | statement {tokens : List Token} {object : Object} {directive : Directive}
      {labels count index : Nat} (meets : source.Meets tree fresh tokens object)
      (consists : Statement.Consists tokens labels directive)
      (writes : directive.Writes token count index) :
      Writes tree fresh source token (object.nextSlot (labels + count)) index

theorem assemble_collects (tree : FileTree) (fresh : Object) (source : Source) :
    Collects fresh (source.assemble tree fresh).object := by
  cases source with
  | text name content => exact assembleSource_collects tree name content fresh
  | file path => exact assembleFile_collects tree path fresh

theorem Meets.succeeds {tree : FileTree} {fresh object : Object} {tokens : List Token}
    {source : Source} (meets : source.Meets tree fresh tokens object)
    (success : (source.assemble tree fresh).result = .ok ()) :
    ∃ request after, (Statement.run tokens).run object = .ok request after ∧
      Collects after (source.assemble tree fresh).object := by
  have clean := Session.errors_of_result success
  cases meets with
  | text meets => exact meets.succeeds clean
  | @file path file opened meets =>
    have same : Source.assemble tree fresh (.file path) = Session.run tree [file.place]
        (Path.directory file.name) (Session.scan { object := fresh } file.name file.text).2
        (Session.scan { object := fresh } file.name file.text).1 := by
      simp only [assemble, assembleFile, opened]
    rw [same] at clean ⊢
    exact meets.succeeds clean

/-- What a source without errors writes is held by the object in the end. -/
theorem Writes.holds {tree : FileTree} {fresh : Object} {source : Source} {token : Token}
    {slot : Slot} {index : Nat} (writes : source.Writes tree fresh token slot index)
    (success : (source.assemble tree fresh).result = .ok ()) :
    (source.assemble tree fresh).object.Holds slot index token := by
  obtain ⟨meets, consists, writes⟩ := writes
  obtain ⟨request, after, ran, collected⟩ := meets.succeeds success
  exact (Statement.run_holds consists writes ran).extend collected.extends

end Source

end GlulxAsm
