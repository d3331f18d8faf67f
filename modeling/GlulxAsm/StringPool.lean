import GlulxAsm.Fragment
import Std.Data.ExtTreeMap

/-! The pool of string literals. Every distinct text is stored once, under a label counted from zero
in the order of first use, and may have further labels. Texts are found through an index. -/
namespace GlulxAsm

namespace StringPool

structure Entry where
  content : String
  aliases : List String := []
deriving DecidableEq

/-- One more name for the text; a name given twice counts once. -/
def Entry.addAlias (entry : Entry) (label : String) : Entry :=
  if label ∈ entry.aliases then entry else { entry with aliases := entry.aliases ++ [label] }

@[simp] theorem Entry.content_addAlias (entry : Entry) (label : String) :
    (entry.addAlias label).content = entry.content := by
  unfold addAlias
  split <;> rfl

/-- The label of the entry at an index. -/
def label (index : Nat) : String := s!"_string{index}"

/-- The indices of texts are those of the entries that hold them. -/
def Indexed (entries : Array Entry) (indices : Std.ExtTreeMap String Nat) : Prop :=
  ∀ content, indices[content]? = entries.findIdx? (·.content == content)

namespace Indexed

variable {entries : Array Entry} {indices : Std.ExtTreeMap String Nat}

theorem empty : Indexed #[] ∅ := fun content => by simp

theorem push {content : String} (indexed : Indexed entries indices)
    (new : indices[content]? = none) :
    Indexed (entries.push { content }) (indices.insert content entries.size) := by
  intro text
  rw [Array.findIdx?_push, ← indexed text, Std.ExtTreeMap.getElem?_insert]
  by_cases same : content = text
  · subst same
    simp [new]
  · have other : compare content text ≠ .eq := fun equal => same (Std.compare_eq_iff_eq.mp equal)
    simp [other, same]

/-- A change that keeps the texts keeps their indices. -/
theorem modify (indexed : Indexed entries indices) {change : Entry → Entry}
    (kept : ∀ entry, (change entry).content = entry.content) (index : Nat) :
    Indexed (entries.modify index change) indices := by
  have contents : (entries.modify index change).map (·.content) = entries.map (·.content) := by
    apply Array.ext_getElem?
    intro other
    simp only [Array.getElem?_map, Array.getElem?_modify]
    split
    · simp [Function.comp_def, kept]
    · rfl
  intro text
  have found (all : Array Entry) : all.findIdx? (·.content == text) =
      (all.map (·.content)).findIdx? (· == text) := by
    rw [Array.findIdx?_map]
    rfl
  rw [indexed text, found, found, contents]

end Indexed

end StringPool

structure StringPool where
  entries : Array StringPool.Entry := #[]
  indices : Std.ExtTreeMap String Nat := ∅
  indexed : StringPool.Indexed entries indices := by exact StringPool.Indexed.empty

namespace StringPool

def index? (pool : StringPool) (content : String) : Option Nat := pool.indices[content]?

/-- Adds a text that is new. -/
def push (pool : StringPool) (content : String) (new : pool.index? content = none) : StringPool where
  entries := pool.entries.push { content }
  indices := pool.indices.insert content pool.entries.size
  indexed := pool.indexed.push new

@[simp] theorem entries_push (pool : StringPool) (content : String)
    (new : pool.index? content = none) :
    (pool.push content new).entries = pool.entries.push { content } := rfl

/-- The index of a text, which is added if it is new. -/
def intern (pool : StringPool) (content : String) : StringPool × Nat :=
  match new : pool.index? content with
  | some index => (pool, index)
  | none => (pool.push content new, pool.entries.size)

/-- Interns a text and gives it a further label. -/
def addAlias (pool : StringPool) (label content : String) : StringPool × Nat :=
  let (pool, index) := pool.intern content
  ({ pool with
    entries := pool.entries.modify index (·.addAlias label)
    indexed := pool.indexed.modify (·.content_addAlias label) index }, index)

/-- The further labels, the counted label and the bytes of one entry. -/
def entryFragments (index : Nat) (entry : Entry) : List Fragment :=
  (entry.aliases ++ [label index]).map (fun name =>
    { body := .label { name, kind := .string }, loc := .builtIn }) ++
  [{ body := .data (.string entry.content), loc := .builtIn }]

/-- The fragments of all entries, in the order of first use. -/
def fragments (pool : StringPool) : List Fragment :=
  (pool.entries.toList.zipIdx.map fun (entry, index) => entryFragments index entry).flatten

end StringPool

end GlulxAsm
