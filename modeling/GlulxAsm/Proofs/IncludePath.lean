import GlulxAsm.Assembly
import Mathlib.Data.List.Basic

/-! Where files are found. A file that is named next to another has the same directory. A file that gets
a new text stays where it is, and every path leads where it led before. -/
namespace GlulxAsm

namespace Path

/-- The name of a file without a way to it. -/
structure Bare (name : String) : Prop where
  slashless : '/' ∉ name.toList
  nonempty : name ≠ ""
  dotless : name ≠ "."

theorem isAbsolute_of_slashless {name : String} (slashless : '/' ∉ name.toList) :
    isAbsolute name = false := by
  rw [isAbsolute, String.startsWith_string_eq_false_iff]
  intro front
  exact slashless (front.subset (by simp))

private theorem dropNameless_bare {name : String} (bare : Bare name) (before : List String) :
    dropNameless (name :: before) = name :: before := by
  have named : name.isEmpty = false := by simpa [String.isEmpty_iff] using bare.nonempty
  have dotless : (name == ".") = false := by simpa using bare.dotless
  cases before with
  | nil => simp [dropNameless, named]
  | cons last others => simp [dropNameless, named, dotless]

/-- The directory of a file is what is in front of its name. -/
theorem directory_of_segments {path name : String} {front : List String} (bare : Bare name)
    (parts : segments path = front ++ [name]) :
    directory path = match dropNameless front.reverse with
      | [] => if isAbsolute path then "/" else ""
      | kept => "/".intercalate kept.reverse := by
  have reversed : (segments path).reverse = name :: front.reverse := by simp [parts]
  rw [directory, parent?, reversed, dropNameless_bare bare]
  dsimp only
  cases dropNameless front.reverse with
  | nil => rfl
  | cons last others => rfl

theorem segments_of_slashless {name : String} (slashless : '/' ∉ name.toList) :
    segments name = [name] := by
  rw [segments, List.splitOn_eq_singleton slashless]
  simp

theorem directory_of_bare {name : String} (bare : Bare name) : directory name = "" := by
  have parts : segments name = [] ++ [name] := segments_of_slashless bare.slashless
  rw [directory_of_segments bare parts]
  simp [dropNameless, isAbsolute_of_slashless bare.slashless]

end Path

namespace FileTree

variable {tree : FileTree} {place : Place} {old new : ByteArray}

theorem contentAt_eq_ok_iff {other : Place} {content : ByteArray} :
    tree.contentAt other = .ok content ↔ tree.node? other = some (.file content) := by
  unfold contentAt
  split <;> simp_all

theorem readText_eq_ok_iff {path text : String} {other : Place}
    (located : tree.locate path = .ok other) :
    tree.readText path = .ok text ↔ checkPath path = .ok () ∧
      ∃ content, tree.node? other = some (.file content) ∧ decode content = .ok text := by
  unfold readText read
  rw [located]
  simp only [← contentAt_eq_ok_iff]
  cases checkPath path with
  | error fault => simp [bind, Except.bind]
  | ok passed =>
    simp only [bind, Except.bind]
    cases tree.contentAt other with
    | error fault => simp
    | ok content => simp

end FileTree

namespace SourceFile

open FileTree

variable {tree : FileTree} {place : Place} {old new : ByteArray}

theorem read_eq_ok_iff {outer : List Place} {path : String} {file : SourceFile} :
    read tree outer path = .ok file ↔ tree.locate path = .ok file.place ∧ file.place ∉ outer ∧
      file.name = path ∧ checkPath path = .ok () ∧
      ∃ content, tree.node? file.place = some (.file content) ∧ decode content = .ok file.text := by
  obtain ⟨place, name, text⟩ := file
  unfold read
  cases located : tree.locate path with
  | error fault => simp
  | ok other =>
    dsimp only
    simp only [Except.ok.injEq]
    by_cases inside : other ∈ outer
    · rw [if_pos inside]
      refine iff_of_false nofun ?_
      rintro ⟨rfl, free, _⟩
      exact free inside
    · rw [if_neg inside]
      constructor
      · intro opened
        split at opened
        · cases opened
        · next found =>
          cases opened
          obtain ⟨passed, content⟩ := (readText_eq_ok_iff located).mp found
          exact ⟨rfl, inside, rfl, passed, content⟩
      · rintro ⟨rfl, _, rfl, passed, content⟩
        rw [(readText_eq_ok_iff located).mpr ⟨passed, content⟩]

end SourceFile

end GlulxAsm
