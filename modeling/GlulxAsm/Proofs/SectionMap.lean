import GlulxAsm.Proofs.Tampering
import GlulxAsm.Section

/-! The sections of a sound image are a map of its memory: they follow each other without a gap or an overlap
from address 0 to the end of memory. The one exception is an image whose RAM starts at 0, under its header. -/
namespace GlulxAsm

namespace Section

/-- The addresses of a section. -/
def Covers (part : Section) (address : Nat) : Prop :=
  part.start.toNat ≤ address ∧ address < part.limit.toNat

/-- Sections in a row: none ends before its start, and each starts where the one before it ends. -/
inductive Tiles : Nat → List Section → Nat → Prop where
  | nil (address : Nat) : Tiles address [] address
  | cons {part : Section} {rest : List Section} {start stop : Nat} (starts : part.start.toNat = start)
      (ordered : part.start ≤ part.limit) (behind : Tiles part.limit.toNat rest stop) :
      Tiles start (part :: rest) stop

private theorem Tiles.le {start stop : Nat} {parts : List Section} (tiles : Tiles start parts stop) :
    start ≤ stop := by
  induction tiles with
  | nil address => exact Nat.le_refl address
  | cons starts ordered behind ih =>
    have forward := UInt32.le_iff_toNat_le.mp ordered
    omega

theorem Tiles.start_le {start stop : Nat} {parts : List Section} (tiles : Tiles start parts stop) :
    ∀ part ∈ parts, start ≤ part.start.toNat := by
  induction tiles with
  | nil address => simp
  | cons starts ordered behind ih =>
    have forward := UInt32.le_iff_toNat_le.mp ordered
    refine List.forall_mem_cons.mpr ⟨Nat.le_of_eq starts.symm, ?_⟩
    intro part member
    have later := ih part member
    omega

/-- Every address between the ends belongs to exactly one section, and no other address to any. -/
theorem Tiles.covered_iff {start stop : Nat} {parts : List Section} (tiles : Tiles start parts stop)
    (address : Nat) :
    (∃! part, part ∈ parts ∧ part.Covers address) ↔ start ≤ address ∧ address < stop := by
  induction tiles with
  | nil bound =>
    constructor
    · rintro ⟨part, ⟨member, _⟩, _⟩
      cases member
    · intro between
      omega
  | @cons part rest start stop starts ordered behind ih =>
    have forward := UInt32.le_iff_toNat_le.mp ordered
    have onward := behind.le
    by_cases early : address < part.limit.toNat
    · -- The later sections all start behind the address.
      have beyond : ∀ other ∈ rest, ¬ other.Covers address := by
        intro other member covers
        have later := behind.start_le other member
        exact absurd covers.1 (by omega)
      constructor
      · rintro ⟨found, ⟨member, covers⟩, _⟩
        rcases List.mem_cons.mp member with rfl | inside
        · exact ⟨starts ▸ covers.1, by omega⟩
        · exact absurd covers (beyond found inside)
      · intro between
        refine ⟨part, ⟨List.mem_cons_self, by omega, early⟩, ?_⟩
        rintro other ⟨member, covers⟩
        rcases List.mem_cons.mp member with same | inside
        · exact same
        · exact absurd covers (beyond other inside)
    · have passed : ∀ other, (other ∈ part :: rest ∧ other.Covers address) ↔
          other ∈ rest ∧ other.Covers address := by
        intro other
        constructor
        · rintro ⟨member, covers⟩
          rcases List.mem_cons.mp member with rfl | inside
          · exact absurd covers.2 early
          · exact ⟨inside, covers⟩
        · rintro ⟨inside, covers⟩
          exact ⟨List.mem_cons_of_mem part inside, covers⟩
      rw [existsUnique_congr passed, ih]
      omega

end Section

namespace Image

variable {content : List UInt8} {image : Image}

/-- In a sound image the length and EXTSTART say the same, so that one of them is enough. -/
theorem sections_of_sound (sound : image.verify = .ok ()) :
    image.sections = ⟨.header, 0, 36⟩ ::
      ((if 36 < image.header.ramStart then
          [⟨.rom, 36, min image.header.ramStart image.header.extStart⟩] else []) ++
        ⟨.ram, min image.header.ramStart image.header.extStart, image.header.extStart⟩ ::
          if image.header.extStart < image.header.endMem then
            [⟨.ext, image.header.extStart, image.header.endMem⟩] else []) := by
  obtain ⟨_, _, _, extStart, _⟩ := (verify_eq_ok_iff image).mp sound
  have length : UInt32.ofNat image.bytes.length = image.header.extStart := by
    rw [← extStart, UInt32.ofNat_toNat]
  have ramEnd : min image.header.extStart image.header.extStart = image.header.extStart := ite_self _
  have headerEnd : UInt32.ofNat Header.size = 36 := rfl
  simp only [sections, length, ramEnd, headerEnd, List.append_assoc, List.cons_append,
    List.nil_append]

/-- RAM and the memory behind it reach to the end of memory. -/
theorem ram_tiles (ramStart extStart endMem : UInt32) :
    Section.Tiles (min ramStart extStart).toNat (⟨.ram, min ramStart extStart, extStart⟩ ::
      if extStart < endMem then [⟨.ext, extStart, endMem⟩] else []) (max extStart.toNat endMem.toNat) := by
  have start : min ramStart extStart ≤ extStart := by
    change (if ramStart ≤ extStart then ramStart else extStart) ≤ extStart
    split
    · assumption
    · exact UInt32.le_refl _
  refine .cons rfl start ?_
  split
  · next further =>
    have order := UInt32.lt_iff_toNat_lt.mp further
    rw [Nat.max_eq_right (Nat.le_of_lt order)]
    exact .cons rfl (UInt32.le_of_lt further) (.nil _)
  · next within =>
    have order := UInt32.le_iff_toNat_le.mp (UInt32.not_lt.mp within)
    rw [Nat.max_eq_left order]
    exact .nil _

/-- The sections of a sound image follow each other from address 0 to the end of memory, so that every
address below the end belongs to exactly one of them. Only where the header says that RAM starts at 0 they do
not: then RAM is shown from there on, and the header once more in front of it. -/
theorem sections_tile (loaded : ofBytes content = .ok image) (sound : image.verify = .ok ()) :
    let stop := max image.header.extStart.toNat image.header.endMem.toNat
    (image.header.ramStart ≠ 0 → Section.Tiles 0 image.sections stop ∧
      ∀ address, (∃! part, part ∈ image.sections ∧ part.Covers address) ↔ address < stop) ∧
    (image.header.ramStart = 0 → ∃ rest, image.sections = ⟨.header, 0, 36⟩ :: rest ∧
      Section.Tiles 0 rest stop) := by
  intro stop
  obtain ⟨rfl, header⟩ := ofBytes_eq_ok_iff.mp loaded
  obtain ⟨_, ramPages, _, extStart, _⟩ := (verify_eq_ok_iff image).mp sound
  have room : 36 ≤ image.header.extStart.toNat := by
    rw [extStart]
    exact Header.exists_read?_iff.mp ⟨_, header⟩
  have behind := ram_tiles image.header.ramStart image.header.extStart image.header.endMem
  rw [sections_of_sound sound]
  constructor
  · intro positive
    have start : 36 < image.header.ramStart := by
      have nonzero : image.header.ramStart.toNat ≠ 0 := fun zero => positive (UInt32.toNat_inj.mp zero)
      have page : 256 ≤ image.header.ramStart.toNat :=
        Nat.le_of_dvd (Nat.pos_of_ne_zero nonzero) ramPages
      exact UInt32.lt_iff_toNat_lt.mpr (Nat.lt_of_lt_of_le (by decide) page)
    have romEnd : 36 ≤ min image.header.ramStart image.header.extStart := by
      change 36 ≤ if image.header.ramStart ≤ image.header.extStart then _ else _
      split
      · exact UInt32.le_of_lt start
      · exact UInt32.le_iff_toNat_le.mpr room
    rw [if_pos start, List.singleton_append]
    have rom : Section.Tiles 36 (⟨.rom, 36, min _ _⟩ :: _) stop := .cons rfl romEnd behind
    have tiles : Section.Tiles 0 (⟨.header, 0, 36⟩ :: _) stop := .cons rfl (by decide) rom
    refine ⟨tiles, fun address => ?_⟩
    rw [tiles.covered_iff]
    omega
  · intro zero
    have start : min image.header.ramStart image.header.extStart = 0 := by
      rw [zero]
      exact if_pos (UInt32.le_iff_toNat_le.mpr (Nat.zero_le _))
    rw [start] at behind
    rw [if_neg (by rw [zero]; decide), start]
    exact ⟨_, rfl, behind⟩

/-- The blank page with memory behind it, and with a start of RAM that the page does not reach. -/
def stretched : Image :=
  let header := { blank.header with ramStart := 512, endMem := 1024, checksum := 0x476f7e6e }
  ⟨header.bytes ++ List.replicate 220 0, header⟩

/-- ROM ends with the page, RAM is empty, and the rest of memory follows. -/
theorem sections_tile_stretched : ofBytes stretched.bytes = .ok stretched ∧ stretched.verify = .ok () ∧
    stretched.header.ramStart ≠ 0 ∧
    stretched.sections = [⟨.header, 0, 36⟩, ⟨.rom, 36, 256⟩, ⟨.ram, 256, 256⟩, ⟨.ext, 256, 1024⟩] ∧
    Section.Tiles 0 stretched.sections 1024 := by
  have evaluated : Header.read? stretched.bytes = some stretched.header ∧ stretched.verify = .ok () ∧
      stretched.sections = [⟨.header, 0, 36⟩, ⟨.rom, 36, 256⟩, ⟨.ram, 256, 256⟩, ⟨.ext, 256, 1024⟩] := by
    decide +kernel
  obtain ⟨read, sound, parts⟩ := evaluated
  have loaded : ofBytes stretched.bytes = .ok stretched := ofBytes_eq_ok_iff.mpr ⟨rfl, read⟩
  have positive : stretched.header.ramStart ≠ 0 := by decide
  exact ⟨loaded, sound, positive, parts, ((sections_tile loaded sound).1 positive).1⟩

/-- The blank page is sound, and its header belongs to two sections. -/
theorem header_under_ram : ofBytes blank.bytes = .ok blank ∧ blank.verify = .ok () ∧
    blank.sections = [⟨.header, 0, 36⟩, ⟨.ram, 0, 256⟩] ∧
    ¬ Section.Tiles 0 blank.sections (max blank.header.extStart.toNat blank.header.endMem.toNat) := by
  have evaluated : Header.read? blank.bytes = some blank.header ∧ blank.verify = .ok () ∧
      blank.sections = [⟨.header, 0, 36⟩, ⟨.ram, 0, 256⟩] := by
    decide +kernel
  obtain ⟨read, sound, parts⟩ := evaluated
  refine ⟨ofBytes_eq_ok_iff.mpr ⟨rfl, read⟩, sound, parts, ?_⟩
  intro tiles
  rw [parts] at tiles
  cases tiles with
  | cons starts ordered behind =>
    have joined := behind.start_le _ List.mem_cons_self
    exact absurd joined (by decide)

end Image

end GlulxAsm
