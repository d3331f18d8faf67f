import GlulxAsm.Assembly
import GlulxAsm.Proofs.Placement
import Mathlib.Logic.Relation

/-! Collecting: whatever statements, files and single calls do to an object before its layout is a row
of small steps. Such a row only adds to the object, and adds no fragments once the layout is done. -/
namespace GlulxAsm

/-- A property that values have, and two actions one behind the other if both have it. -/
structure Sequential (m : Type → Type) [Monad m] (holds : {α : Type} → m α → Prop) : Prop where
  pure : ∀ {α : Type} (value : α), holds (pure value)
  bind : ∀ {α β : Type} {action : m α} {next : α → m β}, holds action →
    (∀ value, holds (next value)) → holds (action >>= next)

theorem Sequential.mapM {m : Type → Type} [Monad m] [LawfulMonad m] {holds : {α : Type} → m α → Prop}
    (sequential : Sequential m holds) {α β : Type} {action : α → m β}
    (each : ∀ item, holds (action item)) (items : List α) : holds (items.mapM action) := by
  induction items with
  | nil => exact sequential.pure []
  | cons item rest ih =>
    rw [List.mapM_cons]
    exact sequential.bind (each item) fun _ => sequential.bind ih fun _ => sequential.pure _

namespace Sequential

open Object Statement

variable {holds : {α : Type} → Action α → Prop} (sequential : Sequential Action holds)
  (reads : ∀ token, holds (operand token))
include sequential reads

theorem wordItems (stops : ∀ loc limit, holds (throw (.capacity loc limit) : Action (List Operand)))
    (capacity : Option Nat) (count : Nat) (tokens : List Token) :
    holds (wordItems capacity count tokens) := by
  induction tokens generalizing count with
  | nil => exact sequential.pure []
  | cons token rest ih =>
    unfold Statement.wordItems
    refine sequential.bind (reads token) fun _ => ?_
    split
    · exact sequential.bind (ih _) fun _ => sequential.pure _
    · exact stops _ _

theorem pushArguments (adds : ∀ body loc, holds (add body loc)) (loc : Location)
    (tokens : List Token) : holds (pushArguments loc tokens) := by
  induction tokens with
  | nil => exact sequential.pure ()
  | cons token rest ih =>
    exact sequential.bind (reads token) fun _ => sequential.bind (adds _ _) fun _ => ih

end Sequential

namespace Object

/-- One step of collecting. -/
inductive Gathers : Object → Object → Prop where
  | selectRom (object : Object) (toRom : Bool) : Gathers object (object.selectRom toRom)
  | setStackSize (object : Object) (bytes : UInt32) : Gathers object (object.setStackSize bytes)
  | addConstant (object : Object) (name : String) (value : Int32) (loc : Location) :
      Gathers object (object.addConstant name value loc)
  | intern (object : Object) (content : String) : Gathers object (object.intern content).1
  | addAlias (object : Object) (label content : String) :
      Gathers object (object.addAlias label content).1
  | addRom (object : Object) (body : Fragment.Body) (loc : Location)
      (fresh : object.stage = .accumulating) (selected : object.toRom = true) :
      Gathers object { object with rom := object.rom.push { body, loc } }
  | addRam (object : Object) (body : Fragment.Body) (loc : Location)
      (fresh : object.stage = .accumulating) (selected : object.toRom = false) :
      Gathers object { object with ram := object.ram.push { body, loc } }

/-- Any number of steps of collecting. -/
abbrev Collects : Object → Object → Prop := Relation.ReflTransGen Gathers

/-- The object that an operation leaves behind, whether it succeeds or not. -/
def leftBy {ε α : Type} : EStateM.Result ε Object α → Object
  | .ok _ object => object
  | .error _ object => object

/-- An action that only collects, also if it fails. -/
def Collecting {α : Type} (action : Action α) : Prop :=
  ∀ object, Collects object (leftBy (action.run object))

namespace Collecting

variable {α β : Type}

theorem pure (value : α) : Collecting (Pure.pure value) := fun _ => .refl

theorem throw (error : AsmError) : Collecting (throw error : Action α) := fun _ => .refl

theorem get : Collecting (MonadState.get : Action Object) := fun _ => .refl

theorem modify {change : Object → Object} (steps : ∀ object, Collects object (change object)) :
    Collecting (modify change : Action Unit) := steps

theorem modifyGet {change : Object → α × Object}
    (steps : ∀ object, Collects object (change object).2) :
    Collecting (modifyGet change : Action α) := steps

theorem ofExcept (outcome : Except AsmError α) :
    Collecting (MonadExcept.ofExcept outcome : Action α) := by
  cases outcome with
  | error error => exact throw error
  | ok value => exact pure value

theorem bind {action : Action α} {next : α → Action β} (first : Collecting action)
    (second : ∀ value, Collecting (next value)) : Collecting (action >>= next) := by
  intro object
  have steps := first object
  rw [EStateM.run_bind]
  cases found : action.run object with
  | ok value middle =>
    rw [found] at steps
    exact steps.trans (second value middle)
  | error error middle =>
    rw [found] at steps
    exact steps

theorem sequential : Sequential Action Collecting := ⟨pure, bind⟩

end Collecting

theorem add_collecting (body : Fragment.Body) (loc : Location) : Collecting (add body loc) := by
  intro object
  by_cases fresh : object.stage = .accumulating
  · cases selected : object.toRom with
    | true =>
      simp only [add, EStateM.run_bind, EStateM.run_get, fresh, selected]
      exact .single (.addRom object body loc fresh selected)
    | false =>
      simp only [add, EStateM.run_bind, EStateM.run_get, fresh, selected]
      exact .single (.addRam object body loc fresh selected)
  · simp only [add, EStateM.run_bind, EStateM.run_get, if_pos fresh]
    exact .refl

end Object

namespace Statement

open Object

theorem operand_collecting (token : Token) : Collecting (operand token) := by
  unfold operand
  split
  · exact .pure _
  · next content _ =>
    exact .bind (.modifyGet fun object => .single (.intern object content)) fun _ => .pure _
  · split
    · exact .bind .get fun _ => .pure _
    · exact .throw _
  · exact .throw _

theorem wordItems_collecting (capacity : Option Nat) (count : Nat) (tokens : List Token) :
    Collecting (wordItems capacity count tokens) :=
  Collecting.sequential.wordItems operand_collecting (fun _ _ => .throw _) capacity count tokens

private theorem addLabelled_collecting (loc : Location) (name : String) (kind : LabelKind)
    (body : Fragment.Body) : Collecting (addLabelled loc name kind body) :=
  .bind (add_collecting _ _) fun _ => add_collecting _ _

theorem pushArguments_collecting (loc : Location) (tokens : List Token) :
    Collecting (pushArguments loc tokens) :=
  Collecting.sequential.pushArguments operand_collecting add_collecting loc tokens

theorem perform_collecting (loc : Location) (directive : Directive) :
    Collecting (perform loc directive) := by
  cases directive with
  | includeFile file => exact .pure ()
  | stackSize bytes => exact .modify fun object => .single (.setStackSize object bytes)
  | selectRom toRom => exact .modify fun object => .single (.selectRom object toRom)
  | constant name value =>
    exact .modify fun object => .single (.addConstant object name value loc)
  | addAlias label content =>
    exact .modify fun object => .single (.addAlias object label content)
  | function label => exact add_collecting _ _
  | string label content => exact addLabelled_collecting _ _ _ _
  | data label block => exact addLabelled_collecting _ _ _ _
  | words label capacity items =>
    exact .bind (wordItems_collecting _ _ _) fun _ => addLabelled_collecting _ _ _ _
  | call mnemonic target arguments destination =>
    exact .bind (operand_collecting _) fun _ => .bind (operand_collecting _) fun _ =>
      .bind (pushArguments_collecting _ _) fun _ => add_collecting _ _
  | instruction mnemonic operands =>
    exact .bind (Collecting.sequential.mapM operand_collecting _) fun _ => add_collecting _ _

private theorem run_collecting (tokens : List Token) : Collecting (run tokens) := by
  induction tokens with
  | nil => exact .pure none
  | cons head args ih =>
    unfold run
    refine .bind (.ofExcept _) fun name => ?_
    split
    · exact .bind (add_collecting _ _) fun _ => ih
    · refine .bind (.ofExcept _) fun directive => ?_
      split
      · exact .pure _
      · exact .bind (perform_collecting _ _) fun _ => .pure _

end Statement

namespace Session

open Object

private theorem step_collects (session : Session) (tokens : List Token) :
    Collects session.object (session.step tokens).1.object := by
  have steps := Statement.run_collecting tokens session.object
  unfold step
  cases found : Statement.run tokens session.object with
  | ok request object =>
    rw [EStateM.run, found] at steps
    exact steps
  | error error object =>
    rw [EStateM.run, found] at steps
    exact steps

theorem run_collects (tree : FileTree) (outer : List Place) (directory : String)
    (statements : List (List Token)) (session : Session) :
    Collects session.object (run tree outer directory statements session).object := by
  fun_induction run tree outer directory statements session with
  | case1 => exact .refl
  | case2 outer directory session tokens rest stepped request found following inner later =>
    have first := step_collects session tokens
    rw [found] at first
    refine (first.trans ?_).trans later
    dsimp only [following]
    split
    · exact .refl
    · next request =>
      split
      · exact .refl
      · next file opened =>
        by_cases outermost : outer.isEmpty = true
        · simp only [outermost]
          exact inner request file opened (stepped.scan file.name file.text).1 _
        · simp only [outermost]
          exact inner request file opened ((stepped.note _).scan file.name file.text).1 _

end Session

open Object

theorem assembleSource_collects (tree : FileTree) (name text : String) (object : Object) :
    Collects object (assembleSource tree name text object).object :=
  Session.run_collects tree [] _ _ (Session.scan { object } name text).1

theorem assembleFile_collects (tree : FileTree) (path : String) (object : Object) :
    Collects object (assembleFile tree path object).object := by
  unfold assembleFile
  split
  · exact .refl
  · next file _ =>
    exact Session.run_collects tree _ _ _ (Session.scan { object } file.name file.text).1

namespace StringPool

/-- Entries stay where they are with their texts; labels are only added to them. -/
def Extends (before after : StringPool) : Prop :=
  ∀ (index : Nat) (entry : Entry), before.entries[index]? = some entry →
    ∃ later, after.entries[index]? = some later ∧ later.content = entry.content ∧
      entry.aliases <+: later.aliases

theorem Extends.refl (pool : StringPool) : Extends pool pool :=
  fun _ entry found => ⟨entry, found, rfl, List.prefix_refl _⟩

theorem Extends.trans {first second third : StringPool} (one : Extends first second)
    (two : Extends second third) : Extends first third := by
  intro index entry found
  obtain ⟨middle, present, sameContent, front⟩ := one index entry found
  obtain ⟨later, kept, again, more⟩ := two index middle present
  exact ⟨later, kept, again.trans sameContent, front.trans more⟩

theorem intern_extends (pool : StringPool) (content : String) :
    Extends pool (pool.intern content).1 := by
  unfold intern
  split
  · exact .refl pool
  · intro index entry found
    have bound : index < pool.entries.size := (Array.getElem?_eq_some_iff.mp found).1
    refine ⟨entry, ?_, rfl, List.prefix_refl _⟩
    rw [entries_push, Array.getElem?_push, if_neg (Nat.ne_of_lt bound), found]

private theorem Entry.aliases_prefix_addAlias (entry : Entry) (label : String) :
    entry.aliases <+: (entry.addAlias label).aliases := by
  unfold Entry.addAlias
  split
  · exact List.prefix_refl _
  · exact List.prefix_append _ _

theorem addAlias_extends (pool : StringPool) (label content : String) :
    Extends pool (pool.addAlias label content).1 := by
  apply (intern_extends pool content).trans
  intro index entry found
  simp only [addAlias, Array.getElem?_modify, found]
  split
  · exact ⟨_, rfl, entry.content_addAlias label, entry.aliases_prefix_addAlias label⟩
  · exact ⟨entry, rfl, rfl, List.prefix_refl _⟩

/-- The texts of a pool in order. -/
def contents (pool : StringPool) : List String := pool.entries.toList.map (·.content)

theorem Extends.contents_prefix {before after : StringPool} (extended : Extends before after) :
    before.contents <+: after.contents := by
  rw [List.prefix_iff_getElem?]
  intro index bound
  have inside : index < before.entries.size := by simpa [contents] using bound
  obtain ⟨later, found, same, _⟩ := extended index _ (Array.getElem?_eq_getElem inside)
  simp [contents, found, same]

open Fragment

/-- The bytes of a text, without its labels. -/
def block (content : String) : Fragment := { body := .data (.string content), loc := .builtIn }

private theorem totalSize_entryFragments (index : Nat) (entry : Entry) :
    totalSize (entryFragments index entry) = (block entry.content).size.toNat := by
  have labels (names : List String) : totalSize (names.map fun name =>
      { body := .label { name, kind := .string }, loc := .builtIn }) = 0 := by
    induction names with
    | nil => rfl
    | cons name rest ih => simp [ih, Fragment.size, Body.extent, Label.size, LabelKind.isFunction,
        LabelKind.functionTag?]
  rw [entryFragments, totalSize_append, labels]
  simp [block]

theorem totalSize_fragments (pool : StringPool) :
    totalSize pool.fragments = totalSize (pool.contents.map block) := by
  have pieces (entries : List Entry) (first : Nat) :
      totalSize ((entries.zipIdx first).map fun pair => entryFragments pair.2 pair.1).flatten =
        totalSize ((entries.map (·.content)).map block) := by
    induction entries generalizing first with
    | nil => rfl
    | cons entry rest ih => simp [List.zipIdx_cons, totalSize_entryFragments, ih]
  exact pieces pool.entries.toList 0

/-- The fragments of a pool are labels without bytes, and its texts. -/
theorem extent_fragments {pool : StringPool} {fragment : Fragment}
    (member : fragment ∈ pool.fragments) :
    fragment.body.extent = 0 ∨ ∃ content ∈ pool.contents, fragment = block content := by
  simp only [fragments, List.mem_flatten, List.mem_map] at member
  obtain ⟨_, ⟨⟨entry, index⟩, found, rfl⟩, inside⟩ := member
  simp only [entryFragments, List.mem_append, List.mem_map, List.mem_singleton] at inside
  rcases inside with ⟨_, _, rfl⟩ | rfl
  · exact .inl rfl
  · refine .inr ⟨entry.content, List.mem_map_of_mem ?_, rfl⟩
    exact (List.mem_zipIdx' found).2 ▸ List.getElem_mem _

theorem Extends.totalSize_le {before after : StringPool} (extended : Extends before after) :
    totalSize before.fragments ≤ totalSize after.fragments := by
  rw [totalSize_fragments, totalSize_fragments]
  exact totalSize_le_of_prefix (extended.contents_prefix.map block)

end StringPool

namespace Object

/-- All that an object holds is still in the other one, in its place. Fragments come only to an object
without a layout. -/
structure Extends (before after : Object) : Prop where
  rom : before.rom.toList <+: after.rom.toList
  ram : before.ram.toList <+: after.ram.toList
  frozen : before.stage ≠ .accumulating → after.rom = before.rom ∧ after.ram = before.ram
  strings : before.strings.Extends after.strings
  constants : ∀ name, after.constants.get? name = none → before.constants.get? name = none
  symbols : after.symbols = before.symbols
  stage : after.stage = before.stage
  romEnd : after.romEnd = before.romEnd
  codeSize : after.codeSize = before.codeSize

theorem Extends.refl (object : Object) : Extends object object where
  rom := List.prefix_refl _
  ram := List.prefix_refl _
  frozen _ := ⟨rfl, rfl⟩
  strings := .refl _
  constants _ missing := missing
  symbols := rfl
  stage := rfl
  romEnd := rfl
  codeSize := rfl

theorem Extends.trans {first second third : Object} (one : Extends first second)
    (two : Extends second third) : Extends first third where
  rom := one.rom.trans two.rom
  ram := one.ram.trans two.ram
  frozen later := by
    obtain ⟨rom, ram⟩ := one.frozen later
    obtain ⟨sameRom, sameRam⟩ := two.frozen (one.stage ▸ later)
    exact ⟨sameRom.trans rom, sameRam.trans ram⟩
  strings := one.strings.trans two.strings
  constants name missing := one.constants name (two.constants name missing)
  symbols := two.symbols.trans one.symbols
  stage := two.stage.trans one.stage
  romEnd := two.romEnd.trans one.romEnd
  codeSize := two.codeSize.trans one.codeSize

theorem Gathers.extends {before after : Object} (step : Gathers before after) :
    Extends before after := by
  cases step with
  | selectRom toRom => exact { Extends.refl before with }
  | setStackSize bytes =>
    unfold Object.setStackSize
    dsimp only
    split <;> exact { Extends.refl before with }
  | addConstant name value loc =>
    have kept (other : String) :
        (before.constants.define name { value, loc }).get? other = none →
          before.constants.get? other = none := by
      simp only [ConstantTable.define, ConstantTable.get?, Std.ExtTreeMap.getElem?_insert]
      split <;> simp
    unfold Object.addConstant
    dsimp only
    split <;> exact { Extends.refl before with constants := kept }
  | intern content =>
    exact { Extends.refl before with strings := before.strings.intern_extends content }
  | addAlias label content =>
    exact { Extends.refl before with strings := before.strings.addAlias_extends label content }
  | addRom body loc fresh _ =>
    exact { Extends.refl before with
      rom := by simp
      frozen := fun later => absurd fresh later }
  | addRam body loc fresh _ =>
    exact { Extends.refl before with
      ram := by simp
      frozen := fun later => absurd fresh later }

/-- Collecting only adds to an object. -/
theorem Collects.extends {before after : Object} (steps : Collects before after) :
    Extends before after := by
  induction steps with
  | refl => exact .refl before
  | tail _ step ih => exact ih.trans step.extends

end Object

end GlulxAsm
