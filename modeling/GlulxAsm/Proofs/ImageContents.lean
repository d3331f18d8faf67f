import GlulxAsm.Proofs.Emission
import GlulxAsm.Proofs.LaidOut
import Mathlib.Data.Set.Defs

/-! What an image consists of: the words of its header, the bytes of every fragment at the fragment's
position without a gap or an overlap, and zeros up to its end. -/
namespace GlulxAsm

namespace Fragment

/-- The addresses that a fragment takes. -/
def span (fragment : Fragment) : Set Nat :=
  {offset | ∃ position, fragment.position = some position ∧ position.toNat ≤ offset ∧
    offset < position.toNat + fragment.size.toNat}

private theorem Tiles.disjoint {start stop : Nat} {fragments : List Fragment}
    (tiles : Tiles start fragments stop) :
    fragments.Pairwise fun one two => ∀ offset ∈ one.span, offset ∉ two.span := by
  apply tiles.ordered.imp
  rintro one two order offset ⟨first, placed, _, inside⟩ ⟨second, later, behind, _⟩
  have apart := order first second placed later
  omega

private theorem Tiles.mem_span_iff {start stop : Nat} {fragments : List Fragment}
    (tiles : Tiles start fragments stop) (offset : Nat) :
    (∃ fragment ∈ fragments, offset ∈ fragment.span) ↔ start ≤ offset ∧ offset < stop := by
  constructor
  · rintro ⟨fragment, member, position, placed, least, most⟩
    obtain ⟨same, found, lower, upper⟩ := tiles.bounds member
    obtain rfl : position = same := Option.some.inj (placed.symm.trans found)
    omega
  · rintro ⟨least, most⟩
    exact tiles.covers least most

end Fragment

open Fragment

/-- Behind the room for the header, every fragment's bytes stand at its position. -/
theorem Image.write_written {reserve : Fragment} {rest ram : List Fragment} {header : Header}
    {image : Image} (sized : reserve.size.toNat = Header.size)
    (success : write (reserve :: rest) ram header = .ok image) :
    ∀ fragment ∈ rest ++ ram, fragment.WrittenIn image.bytes := by
  obtain ⟨romBytes, ramBytes, romDone, ramDone, _, covers, _, _, bytes⟩ := write_ok success
  obtain ⟨whole, later, behind, parts⟩ := (emitAll_cons _ _ _ _).mp romDone
  have room : (reserve.emit 0).bytes.length = Header.size := by
    obtain ⟨_, _, _, _, length⟩ := emit_whole whole
    rw [length, sized]
  have tail : romBytes.drop Header.size = later := by
    rw [parts, List.drop_left' room]
  have total : romBytes.length = Header.size + later.length := by
    rw [parts, List.length_append, room]
  rw [room, Nat.zero_add] at behind
  rw [bytes, content, tail]
  intro fragment member
  rcases List.mem_append.mp member with inRom | inRam
  · rw [List.append_assoc]
    exact emitAll_written behind image.header.length_bytes _ fragment inRom
  · refine emitAll_written ramDone ?_ _ fragment inRam
    rw [List.length_append, Header.length_bytes, total]

namespace Object

theorem build_laid {object result : Object} {image : Image} (sound : object.Sound)
    (success : build.run object = .ok image result) : result.Laid := by
  obtain ⟨steps, stage, _⟩ := build_writes success
  cases steps.sound sound with
  | laid _ laid => exact laid
  | fresh early _ => simp [stage] at early
  | overfull excess => simp [stage, Overfull] at excess

/-- An image starts with its header. Each fragment behind it has its own bytes at its position. The
fragments do not overlap and fill the addresses up to the code size, and from there on all is zero. -/
theorem image_contents {object result : Object} {image : Image} (reachable : object.Reachable)
    (success : build.run object = .ok image result) :
    image.bytes.take Header.size = image.header.bytes ∧
      (∃ reserve rest, result.rom.toList = reserve :: rest ∧ reserve.position = some 0 ∧
        reserve.body = .data (.zeroed Header.size) ∧
        ∀ fragment ∈ rest ++ result.ram.toList, ∃ position, fragment.position = some position ∧
          fragment.emit position.toNat =
            { bytes := (image.bytes.drop position.toNat).take fragment.size.toNat }) ∧
      (result.rom.toList ++ result.ram.toList).Pairwise
        (fun one two => ∀ offset ∈ one.span, offset ∉ two.span) ∧
      (∀ offset, (∃ fragment ∈ result.rom.toList ++ result.ram.toList, offset ∈ fragment.span) ↔
        offset < result.codeSize.toNat) ∧
      result.codeSize.toNat ≤ image.bytes.length ∧
      ∀ byte ∈ image.bytes.drop result.codeSize.toNat, byte = 0 := by
  have laid := build_laid reachable.sound success
  obtain ⟨_, _, _, header, _, written⟩ := build_writes success
  obtain ⟨romBytes, ramBytes, romDone, ramDone, _, covers, _, _, bytes⟩ := Image.write_ok written
  obtain ⟨reserve, rest, whole, zeros⟩ := laid.reserve
  have tiles := laid.rom.append laid.ram
  have romStop := emitAll_stop laid.rom romDone
  rw [Nat.zero_add] at romStop
  have codeStop : romBytes.length + ramBytes.length = result.codeSize.toNat := by
    rw [romStop] at ramDone ⊢
    exact emitAll_stop laid.ram ramDone
  have front : (image.header.bytes ++ romBytes.drop Header.size ++ ramBytes).length =
      result.codeSize.toNat := by
    simp only [List.length_append, Header.length_bytes, List.length_drop]
    omega
  refine ⟨?_, ⟨reserve, rest, whole, ?_, zeros, ?_⟩, tiles.disjoint, ?_, ?_, ?_⟩
  · rw [bytes, Image.content, List.append_assoc, List.append_assoc]
    exact List.take_left' (Header.length_bytes _)
  · have first := laid.rom
    rw [whole] at first
    cases first with
    | cons placed starts _ => rw [placed, UInt32.toNat_inj.mp (starts.trans UInt32.toNat_zero.symm)]
  · rw [whole] at written
    exact Image.write_written (reserve_size zeros) written
  · intro offset
    rw [tiles.mem_span_iff]
    simp
  · rw [bytes, Image.content, List.length_append, front]
    exact Nat.le_add_right _ _
  · rw [bytes, Image.content, List.drop_left' front]
    simp

/-- The image of two branches, one from ROM to RAM and one back. -/
theorem image_contents_branching :
    branching.Reachable ∧ ∃ image result, build.run branching = .ok image result ∧
      image.bytes.take Header.size = image.header.bytes ∧
      result.codeSize.toNat ≤ image.bytes.length ∧
      ∀ byte ∈ image.bytes.drop result.codeSize.toNat, byte = 0 := by
  obtain ⟨image, result, success⟩ := branching_builds
  obtain ⟨header, _, _, _, room, zeros⟩ := image_contents branching_reachable success
  exact ⟨branching_reachable, image, result, success, header, room, zeros⟩

end Object

end GlulxAsm
