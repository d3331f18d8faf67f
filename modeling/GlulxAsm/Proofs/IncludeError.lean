import GlulxAsm.Proofs.IncludeStack
import GlulxAsm.Proofs.StatementReport

/-! Files that cannot be read, and what is blamed for them. Each include statement that fails so is
reported once, in the order in which they are run. The report names the statement if a file is open around
it, which is so in every file, but not in a text that is no file. -/
namespace GlulxAsm

/-- Why a path leads to no text. A path to an open file is not followed. -/
def FileTree.denial? (tree : FileTree) (stack : List Place) (path : String) : Option FileFault :=
  match tree.locate path with
  | .ok place =>
    if stack.contains place then none
    else match tree.readText path with
      | .ok _ => none
      | .error fault => some fault
  | .error fault => some fault

private theorem FileTree.denial?_eq_some_iff {tree : FileTree} {stack : List Place} {path : String}
    {fault : FileFault} :
    tree.denial? stack path = some fault ↔
      SourceFile.read tree stack path = .error (.unreadable fault) := by
  unfold denial? SourceFile.read
  cases tree.locate path with
  | error other => simp
  | ok place =>
    by_cases inside : place ∈ stack
    · simp [inside]
    · cases tree.readText path with
      | error other => simp [inside]
      | ok text => simp [inside]

/-- An include statement that is run: the files that are open, the path and where the statement stands. -/
structure Attempt where
  stack : List Place
  path : String
  site : Location
deriving DecidableEq

namespace Attempt

/-- The error that blames the statement, if its file cannot be read. -/
def due (tree : FileTree) (attempt : Attempt) : Option AsmError :=
  (tree.denial? attempt.stack attempt.path).map fun fault =>
    .includeFailed attempt.site attempt.path fault

/-- The error that is reported. Without an open file, only the path is named. -/
def reported (tree : FileTree) (attempt : Attempt) : Option AsmError :=
  (tree.denial? attempt.stack attempt.path).map fun fault =>
    if attempt.stack = [] then .unreadable attempt.path fault
    else .includeFailed attempt.site attempt.path fault

/-- What is reported is what is due exactly if no file that cannot be read is asked for while no file is
open. -/
theorem filterMap_reported_iff (tree : FileTree) (attempts : List Attempt) :
    attempts.filterMap (reported tree) = attempts.filterMap (due tree) ↔
      ∀ attempt ∈ attempts, attempt.stack = [] → attempt.due tree = none := by
  induction attempts with
  | nil => simp
  | cons attempt rest ih =>
    obtain ⟨stack, path, site⟩ := attempt
    rw [List.forall_mem_cons, ← ih]
    cases denied : tree.denial? stack path with
    | none => simp [reported, due, denied]
    | some fault =>
      by_cases outermost : stack = []
      · subst outermost
        simp [reported, due, denied]
      · simp [reported, due, denied, outermost]

end Attempt

namespace Session

/-- The errors that are about files, in order. -/
def fileErrors (session : Session) : List AsmError :=
  session.errors.toList.filter AsmError.isFileError

theorem fileErrors_fail (session : Session) (error : AsmError) :
    (session.fail error).fileErrors = session.fileErrors ++ [error].filter AsmError.isFileError := by
  simp [fileErrors, fail]

private theorem step_fileErrors (session : Session) (tokens : List Token) :
    (session.step tokens).1.fileErrors = session.fileErrors := by
  unfold step
  split
  · rfl
  · next error object failed =>
    have textual := Statement.run_textual tokens session.object error object failed
    rw [fileErrors_fail]
    simp [textual, fileErrors, advance]

private theorem step_request (session : Session) (tokens : List Token) :
    (session.step tokens).2 =
      if Statement.labelsFit session.object tokens then Statement.asked? tokens else none := by
  rw [← Statement.request_run]
  unfold step EStateM.run
  cases Statement.run tokens session.object with
  | ok request object => rfl
  | error error object => rfl

theorem scan_fileErrors (session : Session) (name text : String) :
    (session.scan name text).1.fileErrors = session.fileErrors := by
  have lexical (faults : List (Location × LexicalFault)) :
      (faults.map fun fault => AsmError.lexical fault.1 fault.2).filter AsmError.isFileError = [] := by
    apply List.filter_eq_nil_iff.mpr
    intro error member
    obtain ⟨fault, _, rfl⟩ := List.mem_map.mp member
    simp [AsmError.isFileError]
  simp only [fileErrors, scan, note, Array.toList_append, List.filter_append, lexical,
    List.append_nil]

private theorem enter_fileErrors (session : Session) (outer : List Place) (path : String) (site : Location)
    (file : SourceFile) :
    (session.enter outer path site file).1.fileErrors = session.fileErrors := by
  unfold enter
  rw [scan_fileErrors]
  split <;> rfl

/-- Without an open file, an include statement that fails only leaves an error about its path. -/
theorem errors_run_unread {tree : FileTree} {directory name : String} {tokens : List Token}
    {session : Session} {fault : FileFault}
    (asks : tokens.map Token.unlocated =
      [⟨.ident "include", .builtIn⟩, ⟨.string name, .builtIn⟩])
    (missing : SourceFile.read tree [] (Path.join directory name) = .error (.unreadable fault)) :
    (run tree [] directory [tokens] session).errors =
      session.errors.push (.unreadable (Path.join directory name) fault) := by
  obtain ⟨next, request, stepped, rfl, kept, _⟩ := step_include asks
  rw [run_unread stepped missing, ← kept]
  rfl

end Session

namespace Traversal

variable {tree : FileTree}

/-- A file that is asked for leads to at most one error about files. -/
theorem openFile_fileErrors (traversal : Traversal) (path : String) (site : Location) :
    (openFile tree path site traversal).session.fileErrors =
      traversal.session.fileErrors ++ (Attempt.reported tree ⟨traversal.stack, path, site⟩).toList := by
  obtain ⟨tasks, stack, session⟩ := traversal
  have allowed (read : ∀ fault, SourceFile.read tree stack path ≠ .error (.unreadable fault)) :
      Attempt.reported tree ⟨stack, path, site⟩ = none := by
    apply Option.map_eq_none_iff.mpr
    apply Option.eq_none_iff_forall_ne_some.mpr
    intro fault denied
    exact read fault (FileTree.denial?_eq_some_iff.mp denied)
  cases read : SourceFile.read tree stack path with
  | ok file =>
    rw [openFile_read read, Session.enter_fileErrors, allowed (by simp [read])]
    simp
  | error fault =>
    rw [openFile_unread read, Session.fileErrors_fail]
    cases fault with
    | circular =>
      rw [allowed (by simp [read])]
      rfl
    | unreadable fault =>
      have denied := FileTree.denial?_eq_some_iff.mpr read
      by_cases outermost : stack = []
      · subst outermost
        simp [Attempt.reported, denied, Session.blame, AsmError.isFileError]
      · simp [Attempt.reported, denied, Session.blame, outermost, AsmError.isFileError]

/-- The attempt that a statement makes in a state. -/
def attemptBy? (traversal : Traversal) (directory : String) (tokens : List Token) : Option Attempt :=
  if Statement.labelsFit traversal.session.object tokens then
    (Statement.asked? tokens).map fun request =>
      ⟨traversal.stack, Path.join directory request.file, request.loc⟩
  else none

/-- The include statement that is run next, if the next statement is one. -/
def attempt? (traversal : Traversal) : Option Attempt :=
  match traversal.tasks with
  | .run directory (tokens :: _) :: _ => traversal.attemptBy? directory tokens
  | _ => none

section Record

variable {γ : Type} {view : Session → γ} (record : γ → Attempt → γ)

private theorem runStatement_foldl
    (kept : ∀ session tokens, view (Session.step session tokens).1 = view session)
    (opened : ∀ traversal path site, view (openFile tree path site traversal).session =
      record (view traversal.session) ⟨traversal.stack, path, site⟩)
    (traversal : Traversal) (directory : String) (tokens : List Token) :
    view (runStatement tree directory tokens traversal).session =
      (traversal.attemptBy? directory tokens).toList.foldl record (view traversal.session) := by
  obtain ⟨tasks, stack, session⟩ := traversal
  have asks := session.step_request tokens
  have attempts : attemptBy? ⟨tasks, stack, session⟩ directory tokens =
      (session.step tokens).2.map fun request =>
        ⟨stack, Path.join directory request.file, request.loc⟩ := by
    rw [asks, attemptBy?]
    split <;> rfl
  rw [attempts, ← kept session tokens]
  cases stepped : session.step tokens with
  | mk next request =>
    cases request with
    | none => rw [runStatement_plain stepped]; rfl
    | some request => rw [runStatement_asked stepped, opened]; rfl

/-- What statements leave alone and each opening of a file adds to, a run adds up from its include
statements in order. -/
theorem Leads.foldl
    (kept : ∀ session tokens, view (Session.step session tokens).1 = view session)
    (opened : ∀ traversal path site, view (openFile tree path site traversal).session =
      record (view traversal.session) ⟨traversal.stack, path, site⟩)
    {before after : Traversal} {states : List Traversal} (leads : Leads tree before states after) :
    view after.session = (states.filterMap attempt?).foldl record (view before.session) := by
  induction leads with
  | refl => rfl
  | @step before middle after states moved rest ih =>
    have first : view middle.session = before.attempt?.toList.foldl record (view before.session) := by
      rcases next?_cases moved with ⟨tasks, left, rfl⟩ | ⟨directory, tasks, left, rfl⟩ |
        ⟨directory, tokens, rest, tasks, left, rfl⟩
      · simp [attempt?, left]
      · simp [attempt?, left]
      · rw [runStatement_foldl record kept opened, attempt?, left]
        rfl
    have split : (before :: states).filterMap attempt? =
        before.attempt?.toList ++ states.filterMap attempt? := by
      cases made : before.attempt? <;> simp [made]
    rw [split, List.foldl_append, ← first]
    exact ih

end Record

theorem Leads.fileErrors {before after : Traversal} {states : List Traversal}
    (leads : Leads tree before states after) :
    after.session.fileErrors = before.session.fileErrors ++
      (states.filterMap attempt?).filterMap (Attempt.reported tree) := by
  rw [leads.foldl (fun errors attempt => errors ++ (attempt.reported tree).toList)
    Session.step_fileErrors openFile_fileErrors, List.foldl_append_eq_append,
    ← List.flatMap_def, ← List.filterMap_eq_flatMap_toList]

/-- For each open file, from the innermost outwards, the tasks are the statements that are left of it, if
it is not read to its end, and its closing. Behind them stand the statements that are left of a text, and
nothing else is left to do. -/
inductive Layered (home : String) (own : List (List Token)) : List Task → List Place → Prop where
  | done : Layered home own [] []
  | text {rest : List (List Token)} (remains : rest <:+ own) : Layered home own [.run home rest] []
  | closing {tasks : List Task} {stack : List Place} (place : Place)
      (outer : Layered home own tasks stack) : Layered home own (.close :: tasks) (place :: stack)
  | reading {tasks : List Task} {stack : List Place} (directory : String)
      (statements : List (List Token)) (inner : Layered home own (.close :: tasks) stack) :
      Layered home own (.run directory statements :: .close :: tasks) stack

section Layers

variable {home : String} {own : List (List Token)} {tasks : List Task} {stack : List Place}

theorem Layered.close (layered : Layered home own (.close :: tasks) stack) :
    stack ≠ [] ∧ Layered home own tasks stack.tail := by
  cases layered with
  | closing place outer => exact ⟨List.cons_ne_nil _ _, outer⟩

theorem Layered.openFile (layered : Layered home own tasks stack) (path : String) (site : Location)
    (session : Session) :
    Layered home own (openFile tree path site ⟨tasks, stack, session⟩).tasks
      (openFile tree path site ⟨tasks, stack, session⟩).stack := by
  cases read : SourceFile.read tree stack path with
  | error fault =>
    rw [openFile_unread read]
    exact layered
  | ok file =>
    rw [openFile_read read]
    exact .reading _ _ (.closing _ layered)

theorem Layered.runStatement (layered : Layered home own tasks stack) (directory : String)
    (tokens : List Token) (session : Session) :
    Layered home own (runStatement tree directory tokens ⟨tasks, stack, session⟩).tasks
      (runStatement tree directory tokens ⟨tasks, stack, session⟩).stack := by
  unfold Traversal.runStatement
  split
  · exact layered
  · exact layered.openFile _ _ _

theorem Layered.next? {before after : Traversal} (moved : before.next? tree = some after)
    (layered : Layered home own before.tasks before.stack) :
    Layered home own after.tasks after.stack := by
  rcases next?_cases moved with ⟨tasks, left, rfl⟩ | ⟨directory, tasks, left, rfl⟩ |
    ⟨directory, tokens, rest, tasks, left, rfl⟩
  · rw [left] at layered
    exact layered.close.2
  · rw [left] at layered
    generalize before.stack = stack at layered ⊢
    cases layered with
    | text _ => exact .done
    | reading _ _ inner => exact inner
  · have started : Layered home own (.run directory rest :: tasks) before.stack := by
      rw [left] at layered
      generalize before.stack = stack at layered ⊢
      cases layered with
      | text remains => exact .text ((List.suffix_cons tokens rest).trans remains)
      | reading _ _ inner => exact .reading directory rest inner
    exact started.runStatement directory tokens before.session

/-- Without an open file, the include statement that is run is one of the text. -/
theorem Layered.asked_of_attempt {traversal : Traversal} {attempt : Attempt}
    (layered : Layered home own traversal.tasks traversal.stack)
    (made : traversal.attempt? = some attempt) (outermost : attempt.stack = []) :
    ∃ tokens ∈ own, ∃ request, Statement.asked? tokens = some request ∧
      attempt.path = Path.join home request.file ∧ attempt.site = request.loc := by
  obtain ⟨tasks, stack, session⟩ := traversal
  unfold attempt? at made
  split at made
  · next directory tokens rest others left =>
    cases left
    unfold attemptBy? at made
    split at made
    · obtain ⟨request, asks, rfl⟩ := Option.map_eq_some_iff.mp made
      cases layered with
      | text remains =>
        have member : tokens ∈ own := remains.subset List.mem_cons_self
        exact ⟨tokens, member, request, asks, rfl, rfl⟩
      | reading _ _ inner => exact absurd outermost inner.close.1
    · cases made
  · cases made

end Layers

end Traversal

namespace Source

open Traversal

/-- The errors about a root file. A text has none. -/
def rootErrors (tree : FileTree) : Source → List AsmError
  | .text .. => []
  | .file path => ((tree.denial? [] path).map (.unreadable path)).toList

private theorem start_fileErrors (tree : FileTree) (object : Object) (source : Source) :
    (source.start tree object).session.fileErrors = source.rootErrors tree := by
  cases source with
  | text name content => exact Session.scan_fileErrors { object } name content
  | file path =>
    rw [start, openFile_fileErrors]
    rfl

/-- An include statement that is run without an open file stands in a text that is no file. -/
theorem text_of_attempt {tree : FileTree} {object : Object} {source : Source}
    {states : List Traversal} {last : Traversal}
    (leads : Leads tree (source.start tree object) states last) {attempt : Attempt}
    (member : attempt ∈ states.filterMap attempt?) (outermost : attempt.stack = []) :
    ∃ name content, source = .text name content ∧
      ∃ tokens ∈ statements (tokenize name content).tokens, ∃ request,
        Statement.asked? tokens = some request ∧
        attempt.path = Path.join (Path.directory name) request.file ∧ attempt.site = request.loc := by
  obtain ⟨state, visited, made⟩ := List.mem_filterMap.mp member
  have asked {home : String} {own : List (List Token)} (started : Layered home own
      (source.start tree object).tasks (source.start tree object).stack) :=
    ((leads.forall Layered.next? started).1 state visited).asked_of_attempt made outermost
  cases source with
  | text name content => exact ⟨name, content, rfl, asked (.text (List.suffix_refl _))⟩
  | file path =>
    have started : Layered "" [] (start tree object (.file path)).tasks
        (start tree object (.file path)).stack := Layered.done.openFile path .builtIn { object }
    obtain ⟨tokens, impossible, _⟩ := asked started
    cases impossible

/-- An include statement whose file cannot be located or read is reported exactly once, and so is the root
file; there is no other error about files. The statement is blamed unless it stands in a text that is no
file: there the error names the path alone, like that of a root file. -/
theorem include_errors (tree : FileTree) (source : Source) (object : Object) :
    ∃ states last, Leads tree (source.start tree object) states last ∧ last.next? tree = none ∧
      last.session = source.assemble tree object ∧
      let errors := (source.assemble tree object).fileErrors
      let attempts := states.filterMap attempt?
      errors = source.rootErrors tree ++ attempts.filterMap (Attempt.reported tree) ∧
      (errors = source.rootErrors tree ++ attempts.filterMap (Attempt.due tree) ↔
        ∀ attempt ∈ attempts, attempt.stack = [] → attempt.due tree = none) ∧
      ∀ attempt ∈ attempts, attempt.stack = [] → ∃ name content, source = .text name content ∧
        ∃ tokens ∈ statements (tokenize name content).tokens, ∃ request,
          Statement.asked? tokens = some request ∧
          attempt.path = Path.join (Path.directory name) request.file ∧
          attempt.site = request.loc := by
  obtain ⟨states, leads⟩ := source.start_leads tree object
  have errors := leads.fileErrors
  rw [start_fileErrors] at errors
  refine ⟨states, _, leads, rfl, rfl, errors, ?_, ?_⟩
  · rw [← Attempt.filterMap_reported_iff]
    constructor
    · intro claimed
      exact List.append_cancel_left (errors.symm.trans claimed)
    · intro same
      rw [← same]
      exact errors
  · intro attempt member outermost
    exact text_of_attempt leads member outermost

/-- A text that asks for a file that is not there gets the error of a root file. The statement is not
blamed, whichever statements are taken to be run. -/
theorem text_include_unblamed :
    let source : Source := .text "t.ga" "include \"gone.ga\"\n"
    (source.assemble {} {}).errors = #[.unreadable "gone.ga" .notFound] ∧
      ¬ ∃ attempts : List Attempt, (source.assemble {} {}).fileErrors =
        source.rootErrors {} ++ attempts.filterMap (Attempt.due {}) := by
  intro source
  have evaluated : statements (tokenize "t.ga" "include \"gone.ga\"\n").tokens =
        [[⟨.ident "include", ⟨"t.ga", 1⟩⟩, ⟨.string "gone.ga", ⟨"t.ga", 1⟩⟩]] ∧
      (tokenize "t.ga" "include \"gone.ga\"\n").faults = [] := by
    decide +kernel
  obtain ⟨scanned, faultless⟩ := evaluated
  have bare : Path.Bare "gone.ga" := ⟨by decide, by decide, by decide⟩
  have home : Path.directory "t.ga" = "" := Path.directory_of_bare ⟨by decide, by decide, by decide⟩
  have short : ¬ FileTree.maxNameBytes < "gone.ga".utf8ByteSize := by decide
  have located : ({} : FileTree).locate "gone.ga" = .error .notFound := by
    simp [FileTree.locate, FileTree.start, FileTree.walk, FileTree.node?, short,
      Path.isAbsolute_of_slashless bare.slashless, Path.segments_of_slashless bare.slashless]
  have joined : Path.join "" "gone.ga" = "gone.ga" := by simp [Path.join]
  have missing : SourceFile.read {} [] (Path.join "" "gone.ga") = .error (.unreadable .notFound) := by
    simp [joined, SourceFile.read, located]
  have clean : (Session.scan { object := {} } "t.ga" "include \"gone.ga\"\n").1.errors = #[] :=
    (Session.scan_errors_iff _ _ _).mpr ⟨rfl, faultless⟩
  have errors : (source.assemble {} {}).errors = #[.unreadable "gone.ga" .notFound] := by
    change (Session.run {} [] (Path.directory "t.ga")
      (statements (tokenize "t.ga" "include \"gone.ga\"\n").tokens)
      (Session.scan { object := {} } "t.ga" "include \"gone.ga\"\n").1).errors = _
    rw [home, scanned, Session.errors_run_unread rfl missing, clean, joined]
    rfl
  refine ⟨errors, ?_⟩
  intro blamed
  obtain ⟨attempts, same⟩ := blamed
  have member : AsmError.unreadable "gone.ga" .notFound ∈ attempts.filterMap (Attempt.due {}) := by
    have alone : (source.assemble {} {}).fileErrors = attempts.filterMap (Attempt.due {}) := same
    rw [← alone, Session.fileErrors, errors]
    exact List.mem_singleton_self _
  obtain ⟨attempt, _, due⟩ := List.mem_filterMap.mp member
  obtain ⟨fault, _, other⟩ := Option.map_eq_some_iff.mp due
  cases other

end Source

end GlulxAsm
