import GlulxAsm.Proofs.Emission
import GlulxAsm.Proofs.LaidOut

/-! What becomes of a build. For an object that was only collected, its sizes, its labels and its names tell
beforehand whether there is an image and which error there is otherwise. The checks that a build makes on its
own work never fail. -/
namespace GlulxAsm

namespace Fragment

/-- The bytes that fragments take together, without a limit. -/
def totalExtent (fragments : List Fragment) : Nat := fragments.foldr (·.body.extent + ·) 0

theorem totalExtent_cons (fragment : Fragment) (rest : List Fragment) :
    totalExtent (fragment :: rest) = fragment.body.extent + totalExtent rest := rfl

theorem totalExtent_block (contents : List String) :
    totalExtent (contents.map StringPool.block) =
      (contents.flatMap fun content => (Data.string content).bytes).length := by
  induction contents with
  | nil => rfl
  | cons content rest ih =>
    rw [List.map_cons, totalExtent_cons, ih, List.flatMap_cons, List.length_append]
    rfl

theorem totalSize_eq_totalExtent {fragments : List Fragment}
    (small : ∀ fragment ∈ fragments, fragment.body.extent < 0x100000000) :
    totalSize fragments = totalExtent fragments := by
  induction fragments with
  | nil => rfl
  | cons fragment rest ih =>
    obtain ⟨first, later⟩ := List.forall_mem_cons.mp small
    rw [totalSize_cons, totalExtent_cons, ih later, Fragment.size, UInt32.toNat_ofNat_of_lt' first]

end Fragment

namespace Object

open Fragment

/-- The end of ROM if addresses had no limit: the header, the fragments and the strings, up to the next
page. -/
def idealRomEnd (object : Object) : Nat :=
  Page.roundUp (Header.size + totalExtent object.rom.toList +
    (object.strings.contents.flatMap fun content => (Data.string content).bytes).length)

/-- The end of RAM if addresses had no limit. -/
def idealEnd (object : Object) : Nat := object.idealRomEnd + totalExtent object.ram.toList

/-- No fragment and no string alone exceeds the addresses. -/
structure Moderate (object : Object) : Prop where
  fragments : ∀ fragment ∈ object.rom.toList ++ object.ram.toList,
    fragment.body.extent < 0x100000000
  strings : ∀ content ∈ object.strings.contents, (Data.string content).bytes.length < 0x100000000

theorem Moderate.romEnd_eq {object : Object} (moderate : object.Moderate) :
    Page.roundUp (totalSize object.fullRom) = object.idealRomEnd := by
  have rom : totalSize object.rom.toList = totalExtent object.rom.toList :=
    totalSize_eq_totalExtent fun fragment member =>
      moderate.fragments fragment (List.mem_append_left _ member)
  have strings : totalSize object.strings.fragments =
      (object.strings.contents.flatMap fun content => (Data.string content).bytes).length := by
    rw [StringPool.totalSize_fragments, totalSize_eq_totalExtent, totalExtent_block]
    intro fragment member
    obtain ⟨content, present, rfl⟩ := List.mem_map.mp member
    exact moderate.strings content present
  rw [totalSize_fullRom, rom, strings, idealRomEnd]

theorem Moderate.demand_eq {object : Object} (moderate : object.Moderate) :
    object.demand = object.idealEnd := by
  have ram : totalSize object.ram.toList = totalExtent object.ram.toList :=
    totalSize_eq_totalExtent fun fragment member =>
      moderate.fragments fragment (List.mem_append_right _ member)
  rw [demand, moderate.romEnd_eq, ram, idealEnd]

private theorem Moderate.extent_string {object : Object} (moderate : object.Moderate) :
    ∀ fragment ∈ object.strings.fragments, fragment.body.extent < 0x100000000 := by
  intro fragment member
  rcases StringPool.extent_fragments member with flat | ⟨content, present, rfl⟩
  · omega
  · exact moderate.strings content present

theorem Moderate.extent_lt {object : Object} (moderate : object.Moderate) :
    ∀ fragment ∈ object.fullRom ++ object.ram.toList, fragment.body.extent < 0x100000000 := by
  intro fragment member
  rcases List.mem_append.mp member with inRom | inRam
  · rcases List.mem_append.mp inRom with front | string
    · rcases List.mem_cons.mp front with rfl | collected
      · decide
      · exact moderate.fragments fragment (List.mem_append_left _ collected)
    · exact moderate.extent_string fragment string
  · exact moderate.fragments fragment (List.mem_append_right _ inRam)

/-- Layout succeeds exactly if there is room for the sizes that it counts, and fails for want of room
otherwise. -/
theorem Countable.layout_total {object : Object} (countable : object.Countable)
    (fresh : object.stage = .accumulating) :
    (object.demand < 0x100000000 ∧ ∃ result, layout.run object = .ok () result) ∨
      (0x100000000 ≤ object.demand ∧ ∃ loc limit result,
        layout.run object = .error (.rejected (.capacity loc limit)) result) := by
  cases found : layout.run object with
  | ok _ result =>
    have bound := result.codeSize.toNat_lt
    rw [layout_demand found] at bound
    exact .inl ⟨bound, result, rfl⟩
  | error failure result =>
    cases failure with
    | rejected error =>
      obtain ⟨excess, ⟨loc, limit, rfl⟩, _⟩ := layout_rejected fresh found
      exact .inr ⟨excess, loc, limit, result, rfl⟩
    | overflow cause => exact absurd found (countable.layout_in_range cause result)

theorem layout_total {object : Object} (fresh : object.stage = .accumulating)
    (moderate : object.Moderate) :
    (object.idealEnd < 0x100000000 ∧ ∃ result, layout.run object = .ok () result) ∨
      (0x100000000 ≤ object.idealEnd ∧ ∃ loc limit result,
        layout.run object = .error (.rejected (.capacity loc limit)) result) := by
  have countable : object.Countable := fun fragment member =>
    .of_extent_lt (moderate.extent_lt fragment member)
  rw [← moderate.demand_eq]
  exact countable.layout_total fresh

section Layout

variable {object result : Object}

end Layout

/-- ROM or RAM would end beyond the addresses. -/
def Overlong (object : Object) : Prop :=
  0x100000000 ≤ object.idealRomEnd ∨ 0x100000000 ≤ object.idealEnd

end Object

end GlulxAsm
