import GlulxAsm.Proofs.Grammar

/-! What a statement reports and asks for by itself. Its errors are about its own text and never about
files, and it asks for a file exactly if it is an include statement whose labels can be added. -/
namespace GlulxAsm

/-- The error is that a file cannot be read. -/
def AsmError.isFileError : AsmError → Bool
  | unreadable .. | includeFailed .. => true
  | _ => false

namespace Directive

/-- If nothing is read, the error is about the text. -/
def Textual {α : Type} (reading : Except AsmError α) : Prop :=
  ∀ error, reading = .error error → error.isFileError = false

section Reading

variable {α β : Type}

theorem Textual.ok (value : α) : Textual (.ok value : Except AsmError α) := by
  intro error failed
  cases failed

theorem Textual.error {error : AsmError} (textual : error.isFileError = false) :
    Textual (.error error : Except AsmError α) := by
  intro other failed
  cases failed
  exact textual

theorem Textual.bind {step : Except AsmError α} {next : α → Except AsmError β}
    (first : Textual step) (second : ∀ value, Textual (next value)) : Textual (step >>= next) := by
  cases step with
  | error error => exact Textual.error (first error rfl)
  | ok value => exact second value

theorem Textual.sequential : Sequential (Except AsmError) Textual :=
  ⟨Textual.ok, Textual.bind⟩

variable (head : String) (loc : Location)

theorem wrongCount_textual (expected : Nat) (args : List Token) :
    Textual (wrongCount head loc expected args : Except AsmError α) := .error rfl

theorem tooFew_textual (least : Nat) (args : List Token) :
    Textual (tooFew head loc least args : Except AsmError α) := .error rfl

theorem ident_textual (token : Token) : Textual (ident head token) := by
  unfold ident
  split
  · exact .ok _
  · exact .error rfl

theorem int_textual (token : Token) : Textual (int head token) := by
  unfold int
  split
  · exact .ok _
  · exact .error rfl

theorem text_textual (token : Token) : Textual (text head token) := by
  unfold text
  split
  · exact .ok _
  · exact .error rfl

theorem unsigned_textual (fault : Int32 → StatementFault) (value : Int32) :
    Textual (unsigned loc fault value) := by
  unfold unsigned
  split
  · exact .error rfl
  · exact .ok _

theorem blockCount_textual (itemBytes : Nat) (value : Int32) :
    Textual (blockCount loc itemBytes value) := by
  refine .bind (unsigned_textual loc _ value) fun count => ?_
  split
  · exact .ok _
  · exact .error rfl

theorem cells_textual (width : Width) (tokens : List Token) : Textual (cells head width tokens) := by
  refine .bind (Textual.sequential.mapM (fun token => ?_) tokens) fun _ => .ok _
  refine .bind (int_textual head token) fun value => ?_
  split
  · exact .ok _
  · exact .error rfl

private theorem readStackSize_textual (args : List Token) : Textual (readStackSize head loc args) := by
  unfold readStackSize
  split
  · exact .bind (int_textual head _) fun _ => .bind (unsigned_textual loc _ _) fun _ => .ok _
  · exact wrongCount_textual head loc _ _

private theorem readSegment_textual (toRom : Bool) (args : List Token) :
    Textual (readSegment head toRom loc args) := by
  unfold readSegment
  split
  · exact .ok _
  · exact wrongCount_textual head loc _ _

private theorem readInclude_textual (args : List Token) : Textual (readInclude head loc args) := by
  unfold readInclude
  split
  · exact .bind (text_textual head _) fun _ => .ok _
  · exact wrongCount_textual head loc _ _

private theorem readConstant_textual (args : List Token) : Textual (readConstant head loc args) := by
  unfold readConstant
  split
  · exact .bind (ident_textual head _) fun _ => .bind (int_textual head _) fun _ => .ok _
  · exact wrongCount_textual head loc _ _

private theorem readFunction_textual (kind : LabelKind) (args : List Token) :
    Textual (readFunction head kind loc args) := by
  unfold readFunction
  split
  · exact .bind (ident_textual head _) fun _ => .bind (int_textual head _) fun _ =>
      .bind (unsigned_textual loc _ _) fun _ => .ok _
  · exact wrongCount_textual head loc _ _

private theorem readString_textual (make : String → String → Directive) (args : List Token) :
    Textual (readString head make loc args) := by
  unfold readString
  split
  · exact .bind (ident_textual head _) fun _ => .bind (text_textual head _) fun _ => .ok _
  · exact wrongCount_textual head loc _ _

private theorem readBytes_textual (args : List Token) : Textual (readBytes head loc args) := by
  unfold readBytes
  split
  · refine .bind (int_textual head _) fun _ => ?_
    split
    · exact .bind (ident_textual head _) fun _ => .bind (cells_textual head _ _) fun _ => .ok _
    · exact .error rfl
  · exact tooFew_textual head loc _ _

private theorem readBytesFixed_textual (args : List Token) : Textual (readBytesFixed head loc args) := by
  unfold readBytesFixed
  split
  · refine .bind (ident_textual head _) fun _ => .bind (int_textual head _) fun _ =>
      .bind (blockCount_textual loc _ _) fun _ => ?_
    split
    · exact .bind (cells_textual head _ _) fun _ => .ok _
    · exact .error rfl
  · exact tooFew_textual head loc _ _

private theorem readWords_textual (args : List Token) : Textual (readWords head loc args) := by
  unfold readWords
  split
  · exact .bind (ident_textual head _) fun _ => .ok _
  · exact tooFew_textual head loc _ _

private theorem readWordsFixed_textual (args : List Token) : Textual (readWordsFixed head loc args) := by
  unfold readWordsFixed
  split
  · exact .bind (int_textual head _) fun _ => .bind (blockCount_textual loc _ _) fun _ =>
      .bind (ident_textual head _) fun _ => .ok _
  · exact tooFew_textual head loc _ _

private theorem readCall_textual (mnemonic : Mnemonic) (args : List Token) :
    Textual (readCall head mnemonic loc args) := by
  unfold readCall
  split
  · split
    · exact .ok _
    · exact .ok _
    · exact .error rfl
  · exact tooFew_textual head loc _ _

private theorem readInstruction_textual (args : List Token) : Textual (readInstruction head loc args) := by
  unfold readInstruction
  split
  · split
    · exact .ok _
    · exact wrongCount_textual head loc _ _
  · exact .error rfl

private theorem read_textual (args : List Token) : Textual (read head loc args) := by
  unfold read
  split
  · exact readStackSize_textual _ loc args
  · exact readSegment_textual _ loc _ args
  · exact readSegment_textual _ loc _ args
  · exact readInclude_textual _ loc args
  · exact readConstant_textual _ loc args
  · exact readFunction_textual _ loc _ args
  · exact readFunction_textual _ loc _ args
  · exact readString_textual _ loc _ args
  · exact readString_textual _ loc _ args
  · exact readBytes_textual _ loc args
  · exact readBytesFixed_textual _ loc args
  · exact readWords_textual _ loc args
  · exact readWordsFixed_textual _ loc args
  · exact readCall_textual _ loc _ args
  · exact readCall_textual _ loc _ args
  · exact readInstruction_textual _ loc args

end Reading

end Directive

namespace Object

/-- If the action fails, the error is about the text. -/
def Textual {α : Type} (action : Action α) : Prop :=
  ∀ object error left, action.run object = .error error left → error.isFileError = false

namespace Textual

variable {α β : Type}

theorem pure (value : α) : Textual (Pure.pure value) := by
  intro object error left failed
  cases failed

theorem throw {error : AsmError} (textual : error.isFileError = false) :
    Textual (throw error : Action α) := by
  intro object other left failed
  cases failed
  exact textual

theorem modify (change : Object → Object) : Textual (modify change : Action Unit) := by
  intro object error left failed
  cases failed

theorem ofExcept {reading : Except AsmError α} (textual : Directive.Textual reading) :
    Textual (MonadExcept.ofExcept reading : Action α) := by
  cases reading with
  | error error => exact throw (textual error rfl)
  | ok value => exact pure value

theorem bind {action : Action α} {next : α → Action β} (first : Textual action)
    (second : ∀ value, Textual (next value)) : Textual (action >>= next) := by
  intro object error left failed
  rw [EStateM.run_bind] at failed
  cases found : action.run object with
  | ok value middle =>
    rw [found] at failed
    exact second value middle error left failed
  | error other middle =>
    rw [found] at failed
    cases failed
    exact first object error left found

theorem sequential : Sequential Action Textual := ⟨pure, bind⟩

end Textual

theorem add_rejected {object : Object} (late : object.stage ≠ .accumulating) (body : Fragment.Body)
    (loc : Location) :
    (add body loc).run object = .error (.misuse loc .addedAfterLayout) object := by
  simp only [add, EStateM.run_bind, EStateM.run_get, if_pos late]
  rfl

theorem add_textual (body : Fragment.Body) (loc : Location) : Textual (add body loc) := by
  intro object error left failed
  by_cases fresh : object.stage = .accumulating
  · obtain ⟨value, after, success⟩ := (add_accepts body loc object fresh).mpr trivial
    rw [success] at failed
    cases failed
  · rw [add_rejected fresh] at failed
    cases failed
    rfl

end Object

namespace Statement

open Object

private theorem operand_textual (token : Token) : Textual (operand token) := by
  unfold operand
  split
  · exact .pure _
  · intro object error left failed
    cases failed
  · split
    · intro object error left failed
      cases failed
    · exact .throw rfl
  · exact .throw rfl

private theorem addLabelled_textual (loc : Location) (name : String) (kind : LabelKind)
    (body : Fragment.Body) : Textual (addLabelled loc name kind body) :=
  .bind (add_textual _ _) fun _ => add_textual _ _

private theorem perform_textual (loc : Location) (directive : Directive) :
    Textual (perform loc directive) := by
  cases directive with
  | includeFile file => exact .pure ()
  | stackSize bytes => exact .modify _
  | selectRom toRom => exact .modify _
  | constant name value => exact .modify _
  | addAlias label content => exact .modify _
  | function label => exact add_textual _ _
  | string label content => exact addLabelled_textual _ _ _ _
  | data label block => exact addLabelled_textual _ _ _ _
  | words label capacity items =>
    have reads := Textual.sequential.wordItems operand_textual fun _ _ => .throw rfl
    exact .bind (reads _ _ _) fun _ => addLabelled_textual _ _ _ _
  | call mnemonic target arguments destination =>
    have pushes := Textual.sequential.pushArguments operand_textual add_textual
    exact .bind (operand_textual _) fun _ => .bind (operand_textual _) fun _ =>
      .bind (pushes _ _) fun _ => add_textual _ _
  | instruction mnemonic operands =>
    exact .bind (Textual.sequential.mapM operand_textual _) fun _ => add_textual _ _

/-- A statement never blames a file. -/
theorem run_textual (tokens : List Token) : Textual (run tokens) := by
  induction tokens with
  | nil => exact .pure none
  | cons head args ih =>
    unfold run
    refine .bind (.ofExcept (Directive.ident_textual _ head)) fun name => ?_
    split
    · exact .bind (add_textual _ _) fun _ => ih
    · refine .bind (.ofExcept (Directive.read_textual name head.loc args)) fun directive => ?_
      split
      · exact .pure _
      · exact .bind (perform_textual _ _) fun _ => .pure _

/-- What an include statement asks for, behind any labels. -/
def asked? (tokens : List Token) : Option IncludeRequest :=
  match tokens.dropWhile (·.kind.isLabel) with
  | [⟨.ident "include", loc⟩, ⟨.string file, _⟩] => some ⟨file, loc⟩
  | _ => none

/-- Labels in front of a statement can only be added to an object without a layout. -/
def labelsFit (object : Object) (tokens : List Token) : Bool :=
  object.stage = .accumulating || !(tokens.head?.any (·.kind.isLabel))

/-- What a run asks for; a run that fails asks for nothing. -/
def request {ε : Type} : EStateM.Result ε Object (Option IncludeRequest) → Option IncludeRequest
  | .ok request _ => request
  | .error _ _ => none

theorem isLabel_ident (name : String) :
    (TokenKind.ident name).isLabel = (labelName? name).isSome := by
  unfold labelName?
  split
  · next last => simpa [TokenKind.isLabel] using last
  · next last => simpa [TokenKind.isLabel] using last

private theorem asked?_labelled {head : Token} (label : head.kind.isLabel = true) (args : List Token) :
    asked? (head :: args) = asked? args := by
  simp only [asked?, List.dropWhile_cons, label, if_true]

/-- Without labels, the request is that of the directive. -/
theorem asked?_eq_some_iff {head : Token} {name : String} (written : head.kind = .ident name)
    (plain : labelName? name = none) (args : List Token) (request : IncludeRequest) :
    asked? (head :: args) = some request ↔
      Directive.read name head.loc args = .ok (.includeFile request.file) ∧
        head.loc = request.loc := by
  obtain ⟨kind, loc⟩ := head
  obtain ⟨file, site⟩ := request
  have unlabelled : (TokenKind.ident name).isLabel = false := by
    rw [isLabel_ident, plain]
    rfl
  cases written
  simp only [asked?, List.dropWhile_cons, unlabelled, Bool.false_eq_true, if_false]
  constructor
  · intro asks
    split at asks
    · next here =>
      cases here
      cases asks
      exact ⟨rfl, rfl⟩
    · cases asks
  · intro reads
    obtain ⟨made, rfl⟩ := reads
    obtain rfl := Directive.read_includeFile made
    have named : Directive.readInclude "include" loc args = .ok (.includeFile file) := made
    unfold Directive.readInclude at named
    split at named
    · next word =>
      obtain ⟨content, spelled, same⟩ := Directive.bind_eq_ok_iff.mp named
      cases same
      obtain ⟨kind, place⟩ := word
      cases Directive.text_eq_ok_iff.mp spelled
      rfl
    · cases named

private theorem asked?_eq_none {head : Token} (other : ∀ name, head.kind ≠ .ident name) (args : List Token) :
    asked? (head :: args) = none := by
  obtain ⟨kind, loc⟩ := head
  cases kind with
  | ident name => exact absurd rfl (other name)
  | string content => rfl
  | int value => rfl
  | endOfStatement => rfl

private theorem request_silent (action : Action Unit) (object : Object) :
    request ((action >>= fun _ => pure none).run object) = none := by
  rw [EStateM.run_bind]
  cases action.run object with
  | ok value after => rfl
  | error error left => rfl

/-- Without labels, a run asks for what the statement asks for. -/
theorem request_directive {head : Token} {name : String} (written : head.kind = .ident name)
    (plain : labelName? name = none) (args : List Token) (object : Object) :
    request ((run (head :: args)).run object) = asked? (head :: args) := by
  have word : Directive.ident "statement" head = .ok name := Directive.ident_eq_ok_iff.mpr written
  have asks := asked?_eq_some_iff written plain args
  have silent (other : ∀ file, Directive.read name head.loc args ≠ .ok (.includeFile file)) :
      asked? (head :: args) = none := by
    apply Option.eq_none_iff_forall_ne_some.mpr
    intro request found
    exact other _ ((asks request).mp found).1
  simp only [run, word, MonadExcept.ofExcept, pure_bind, plain]
  cases made : Directive.read name head.loc args with
  | error fault =>
    rw [silent (by simp [made])]
    rfl
  | ok directive =>
    simp only [pure_bind]
    split
    · next file => exact ((asks ⟨file, head.loc⟩).mpr ⟨made, rfl⟩).symm
    · next other =>
      rw [silent (by simpa [made] using other)]
      exact request_silent _ object

/-- A statement asks for a file exactly if it is an include statement behind labels that fit. -/
theorem request_run (tokens : List Token) (object : Object) :
    request ((run tokens).run object) = if labelsFit object tokens then asked? tokens else none := by
  induction tokens generalizing object with
  | nil => simp [asked?, labelsFit, request, run]
  | cons head args ih =>
    cases first : Directive.ident "statement" head with
    | error fault =>
      have other (name : String) : head.kind ≠ .ident name := by
        intro written
        rw [Directive.ident_eq_ok_iff.mpr written] at first
        cases first
      rw [asked?_eq_none other, ite_self, run, first]
      rfl
    | ok name =>
      have written : head.kind = .ident name := Directive.ident_eq_ok_iff.mp first
      have labelled : head.kind.isLabel = (labelName? name).isSome := by
        rw [written, isLabel_ident]
      cases named : labelName? name with
      | none =>
        rw [named] at labelled
        rw [request_directive written named, labelsFit]
        simp [labelled]
      | some label =>
        rw [named] at labelled
        simp only [run, first, MonadExcept.ofExcept, pure_bind, named]
        rw [EStateM.run_bind, asked?_labelled labelled]
        by_cases fresh : object.stage = .accumulating
        · obtain ⟨value, after, added⟩ :=
            (add_accepts (.label (.general label)) head.loc object fresh).mpr trivial
          have still : after.stage = .accumulating :=
            ((add_collecting _ _).extends_of_ok added).stage.trans fresh
          simp only [added, ih, labelsFit, fresh, still, decide_true, Bool.true_or, if_true]
        · rw [add_rejected fresh]
          simp [labelsFit, fresh, labelled, request]

end Statement

end GlulxAsm
