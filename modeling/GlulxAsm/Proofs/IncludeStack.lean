import GlulxAsm.Proofs.Inclusion
import Mathlib.Data.Finset.Dedup
import Mathlib.Data.Finset.Card

/-! The stack of open files. An assembly is taken apart into single steps, in which a file is put on the
stack when it is opened and taken off behind its last statement. The steps come to an end for every tree
of files, and they lead to the session that is defined by recursion. -/
namespace GlulxAsm

namespace FileTree

/-- The places at which there are files. -/
def files (tree : FileTree) : Finset Place :=
  (tree.nodes.map (·.1)).toFinset.filter fun place => (tree.contentAt place).isOk

private theorem mem_files {tree : FileTree} {place : Place} {content : ByteArray}
    (held : tree.node? place = some (.file content)) : place ∈ tree.files := by
  have found := contentAt_eq_ok_iff.mpr held
  apply Finset.mem_filter.mpr
  constructor
  · apply List.mem_toFinset.mpr
    exact List.mem_map.mpr ⟨_, mem_of_contentAt found, rfl⟩
  · rw [found]
    rfl

end FileTree

/-- What an assembly has still to do. -/
inductive Task where
  /-- Run statements whose includes are seen from a directory. -/
  | run (directory : String) (statements : List (List Token))
  /-- Close the innermost open file. -/
  | close

/-- An assembly between two steps. The stack holds the places of the open files, the innermost first. -/
structure Traversal where
  tasks : List Task
  stack : List Place
  session : Session

namespace Traversal

/-- Opens a file that is asked for at a site: its statements come first, then it is closed again. A file
that is open already, or that cannot be read, is reported. -/
def openFile (tree : FileTree) (path : String) (site : Location) (traversal : Traversal) : Traversal :=
  match SourceFile.read tree traversal.stack path with
  | .error fault =>
    { traversal with
      session := traversal.session.fail (Session.blame traversal.stack path site fault) }
  | .ok file =>
    let (session, statements) := traversal.session.enter traversal.stack path site file
    { tasks := .run (Path.directory file.name) statements :: .close :: traversal.tasks
      stack := file.place :: traversal.stack
      session }

/-- Runs a statement, and opens the file that it asks for. -/
def runStatement (tree : FileTree) (directory : String) (tokens : List Token)
    (traversal : Traversal) : Traversal :=
  match traversal.session.step tokens with
  | (session, none) => { traversal with session }
  | (session, some request) =>
    openFile tree (Path.join directory request.file) request.loc { traversal with session }

/-- One step, unless there is nothing left to do. -/
def next? (tree : FileTree) (traversal : Traversal) : Option Traversal :=
  match traversal.tasks with
  | [] => none
  | .close :: tasks => some { traversal with tasks, stack := traversal.stack.tail }
  | .run _ [] :: tasks => some { traversal with tasks }
  | .run directory (tokens :: rest) :: tasks =>
    some (runStatement tree directory tokens
      { traversal with tasks := .run directory rest :: tasks })

/-- What a step can do. -/
theorem next?_cases {tree : FileTree} {before after : Traversal} (moved : before.next? tree = some after) :
    (∃ tasks, before.tasks = .close :: tasks ∧
      after = { before with tasks, stack := before.stack.tail }) ∨
    (∃ directory tasks, before.tasks = .run directory [] :: tasks ∧
      after = { before with tasks }) ∨
    ∃ directory tokens rest tasks, before.tasks = .run directory (tokens :: rest) :: tasks ∧
      after = runStatement tree directory tokens
        { before with tasks := .run directory rest :: tasks } := by
  unfold next? at moved
  split at moved
  · cases moved
  · next tasks left =>
    cases moved
    exact .inl ⟨tasks, left, rfl⟩
  · next directory tasks left =>
    cases moved
    exact .inr (.inl ⟨directory, tasks, left, rfl⟩)
  · next directory tokens rest tasks left =>
    cases moved
    exact .inr (.inr ⟨directory, tokens, rest, tasks, left, rfl⟩)

/-- Steps lead from one state to another; listed are the states that they are made from. -/
inductive Leads (tree : FileTree) : Traversal → List Traversal → Traversal → Prop where
  | refl (traversal : Traversal) : Leads tree traversal [] traversal
  | step {before middle after : Traversal} {states : List Traversal}
      (moved : before.next? tree = some middle) (rest : Leads tree middle states after) :
      Leads tree before (before :: states) after

theorem Leads.trans {tree : FileTree} {before middle after : Traversal}
    {states others : List Traversal} (first : Leads tree before states middle)
    (second : Leads tree middle others after) : Leads tree before (states ++ others) after := by
  induction first with
  | refl => exact second
  | step moved _ ih => exact .step moved (ih second)

/-- What every step keeps of a state holds of all states on the way and of the last one. -/
theorem Leads.forall {tree : FileTree} {holds : Traversal → Prop}
    (kept : ∀ {before after : Traversal}, before.next? tree = some after → holds before → holds after)
    {before after : Traversal} {states : List Traversal} (leads : Leads tree before states after)
    (start : holds before) : (∀ state ∈ states, holds state) ∧ holds after := by
  induction leads with
  | refl => exact ⟨by simp, start⟩
  | step moved _ ih =>
    obtain ⟨later, last⟩ := ih (kept moved start)
    exact ⟨List.forall_mem_cons.mpr ⟨start, later⟩, last⟩

section Simulation

variable {tree : FileTree} {stack : List Place} {directory : String} {tokens : List Token}
  {tasks : List Task} {session : Session}

theorem runStatement_plain {next : Session} (stepped : session.step tokens = (next, none)) :
    runStatement tree directory tokens ⟨tasks, stack, session⟩ = ⟨tasks, stack, next⟩ := by
  simp only [runStatement, stepped]

theorem runStatement_asked {next : Session} {request : Statement.IncludeRequest}
    (stepped : session.step tokens = (next, some request)) :
    runStatement tree directory tokens ⟨tasks, stack, session⟩ =
      openFile tree (Path.join directory request.file) request.loc ⟨tasks, stack, next⟩ := by
  simp only [runStatement, stepped]

theorem openFile_unread {path : String} {fault : SourceFile.Fault}
    (missing : SourceFile.read tree stack path = .error fault) (site : Location) :
    openFile tree path site ⟨tasks, stack, session⟩ =
      ⟨tasks, stack, session.fail (Session.blame stack path site fault)⟩ := by
  simp only [openFile, missing]

theorem openFile_read {path : String} {file : SourceFile}
    (found : SourceFile.read tree stack path = .ok file) (site : Location) :
    openFile tree path site ⟨tasks, stack, session⟩ =
      ⟨.run (Path.directory file.name) (session.enter stack path site file).2 :: .close :: tasks,
        file.place :: stack, (session.enter stack path site file).1⟩ := by
  simp only [openFile, found]

/-- While these files are open, statements are run to their end and leave the tasks behind them. -/
def Completes (tree : FileTree) (stack : List Place) : Prop :=
  ∀ (directory : String) (statements : List (List Token)) (tasks : List Task) (session : Session),
    ∃ states, Leads tree ⟨.run directory statements :: tasks, stack, session⟩ states
      ⟨tasks, stack, session.run tree stack directory statements⟩

/-- A file that is opened is read to its end and closed. -/
theorem openFile_leads {path : String} {file : SourceFile}
    (found : SourceFile.read tree stack path = .ok file) (site : Location)
    (inner : Completes tree (file.place :: stack)) :
    ∃ states, Leads tree (openFile tree path site ⟨tasks, stack, session⟩) states
      ⟨tasks, stack, Session.run tree (file.place :: stack) (Path.directory file.name)
        (session.enter stack path site file).2 (session.enter stack path site file).1⟩ := by
  rw [openFile_read found]
  obtain ⟨states, read⟩ := inner (Path.directory file.name) (session.enter stack path site file).2
    (.close :: tasks) (session.enter stack path site file).1
  exact ⟨_, read.trans (.step rfl (.refl _))⟩

private theorem runStatement_leads
    (deeper : ∀ {path : String} {file : SourceFile}, SourceFile.read tree stack path = .ok file →
      Completes tree (file.place :: stack)) :
    ∃ states, Leads tree (runStatement tree directory tokens ⟨tasks, stack, session⟩) states
      ⟨tasks, stack, session.run tree stack directory [tokens]⟩ := by
  cases stepped : session.step tokens with
  | mk next request =>
    cases request with
    | none =>
      rw [runStatement_plain stepped, Session.run_plain stepped]
      exact ⟨[], .refl _⟩
    | some request =>
      rw [runStatement_asked stepped]
      cases read : SourceFile.read tree stack (Path.join directory request.file) with
      | error fault =>
        rw [openFile_unread read, Session.run_unread stepped read]
        exact ⟨[], .refl _⟩
      | ok file =>
        rw [Session.run_included stepped read]
        exact openFile_leads read request.loc (deeper read)

/-- Statements are run to their end whatever they include. A file is opened only if it is not open, so
that fewer are left to open inside of it. -/
theorem completes (tree : FileTree) (stack : List Place) : Completes tree stack := by
  induction left : tree.remaining stack using Nat.strongRecOn generalizing stack with
  | _ count deeper =>
    intro directory statements tasks session
    induction statements generalizing session with
    | nil =>
      rw [Session.run_nil]
      exact ⟨_, .step rfl (.refl _)⟩
    | cons tokens rest ih =>
      have inside {path : String} {file : SourceFile}
          (found : SourceFile.read tree stack path = .ok file) :
          Completes tree (file.place :: stack) := by
        obtain ⟨free, content, member⟩ := SourceFile.place_of_read found
        have fewer : tree.remaining (file.place :: stack) < count :=
          left ▸ FileTree.remaining_cons_lt free member
        exact deeper _ fewer _ rfl
      rw [Session.run_cons]
      obtain ⟨first, one⟩ := runStatement_leads inside
      obtain ⟨others, behind⟩ := ih (session.run tree stack directory [tokens])
      exact ⟨_, .step rfl (one.trans behind)⟩

end Simulation

end Traversal

/-- The state in which the assembly of a source starts. -/
def Source.start (tree : FileTree) (object : Object) : Source → Traversal
  | .text name content =>
    let (session, statements) := Session.scan { object } name content
    { tasks := [.run (Path.directory name) statements], stack := [], session }
  | .file path =>
    Traversal.openFile tree path .builtIn { tasks := [], stack := [], session := { object } }

namespace Traversal

/-- The open files are distinct files of the tree. -/
structure Nested (tree : FileTree) (traversal : Traversal) : Prop where
  distinct : traversal.stack.Nodup
  files : ∀ place ∈ traversal.stack, place ∈ tree.files

variable {tree : FileTree} {traversal : Traversal}

/-- No more files are open than there are. -/
theorem Nested.length_le (nested : Nested tree traversal) :
    traversal.stack.length ≤ tree.files.card := by
  rw [← List.toFinset_card_of_nodup nested.distinct]
  apply Finset.card_le_card
  intro place member
  exact nested.files place (List.mem_toFinset.mp member)

theorem Nested.openFile (nested : Nested tree traversal) (path : String) (site : Location) :
    Nested tree (openFile tree path site traversal) := by
  obtain ⟨tasks, stack, session⟩ := traversal
  cases read : SourceFile.read tree stack path with
  | error fault =>
    rw [openFile_unread read]
    exact ⟨nested.distinct, nested.files⟩
  | ok file =>
    obtain ⟨_, free, _, _, content, held, _⟩ := SourceFile.read_eq_ok_iff.mp read
    rw [openFile_read read]
    constructor
    · exact List.nodup_cons.mpr ⟨free, nested.distinct⟩
    · exact List.forall_mem_cons.mpr ⟨FileTree.mem_files held, nested.files⟩

theorem Nested.runStatement (nested : Nested tree traversal) (directory : String)
    (tokens : List Token) : Nested tree (runStatement tree directory tokens traversal) := by
  unfold Traversal.runStatement
  split
  · exact ⟨nested.distinct, nested.files⟩
  · next session request _ =>
    have moved : Nested tree { traversal with session } := ⟨nested.distinct, nested.files⟩
    exact moved.openFile _ _

theorem Nested.next? {later : Traversal} (moved : traversal.next? tree = some later)
    (nested : Nested tree traversal) : Nested tree later := by
  rcases next?_cases moved with ⟨tasks, _, rfl⟩ | ⟨directory, tasks, _, rfl⟩ |
    ⟨directory, tokens, rest, tasks, _, rfl⟩
  · constructor
    · exact nested.distinct.tail
    · intro place member
      exact nested.files place (List.mem_of_mem_tail member)
  · exact ⟨nested.distinct, nested.files⟩
  · have started : Nested tree { traversal with tasks := .run directory rest :: tasks } :=
      ⟨nested.distinct, nested.files⟩
    exact started.runStatement directory tokens

end Traversal

namespace Source

open Traversal

private theorem start_nested (tree : FileTree) (object : Object) (source : Source) :
    Nested tree (source.start tree object) := by
  cases source with
  | text name content => exact ⟨List.nodup_nil, by simp [start]⟩
  | file path =>
    have empty : Nested tree ⟨[], [], { object }⟩ := ⟨List.nodup_nil, by simp⟩
    exact empty.openFile path .builtIn

/-- The steps that assemble a source come to an end, with its session and without an open file. -/
theorem start_leads (tree : FileTree) (object : Object) (source : Source) :
    ∃ states, Leads tree (source.start tree object) states
      ⟨[], [], source.assemble tree object⟩ := by
  cases source with
  | text name content => exact completes tree [] (Path.directory name) _ [] _
  | file path =>
    cases read : SourceFile.read tree [] path with
    | error fault =>
      have unread : assemble tree object (.file path) =
          Session.fail { object } (Session.blame [] path .builtIn fault) := by
        simp only [assemble, assembleFile, read]
      rw [start, openFile_unread read, unread]
      exact ⟨[], .refl _⟩
    | ok file =>
      have opened : assemble tree object (.file path) = Session.run tree [file.place]
          (Path.directory file.name) (Session.enter { object } [] path .builtIn file).2
          (Session.enter { object } [] path .builtIn file).1 := assembleFile_eq object read
      rw [start, opened]
      exact openFile_leads read .builtIn (completes tree _)

/-- Whatever files there are and whatever they include, an assembly comes to an end after finitely many
steps. On the way no file is open twice, and no more files are open than there are; in the end none is. -/
theorem include_stack (tree : FileTree) (source : Source) (object : Object) :
    ∃ states last, Leads tree (source.start tree object) states last ∧ last.next? tree = none ∧
      last.session = source.assemble tree object ∧ last.stack = [] ∧
      ∀ state ∈ states, state.stack.Nodup ∧ (∀ place ∈ state.stack, place ∈ tree.files) ∧
        state.stack.length ≤ tree.files.card := by
  obtain ⟨states, leads⟩ := source.start_leads tree object
  refine ⟨states, _, leads, rfl, rfl, rfl, ?_⟩
  intro state member
  have nested := (leads.forall Nested.next? (source.start_nested tree object)).1 state member
  exact ⟨nested.distinct, nested.files, nested.length_le⟩

end Source

end GlulxAsm
