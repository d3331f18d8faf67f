import GlulxAsm.Proofs.ImageContents
import Mathlib.Order.Bounds.Defs

/-! Finished images are sound. Their header can be read back, their length is the one that it tells, RAM
starts on a page, and the checksum agrees with the bytes although it is itself among them. -/
namespace GlulxAsm

theorem Page.dvd_roundUp (n : Nat) : size ∣ roundUp n := Nat.dvd_mul_left ..

theorem Page.isLeast_roundUp (n : Nat) : IsLeast {stop | size ∣ stop ∧ n ≤ stop} (roundUp n) := by
  constructor
  · exact ⟨dvd_roundUp n, le_roundUp n⟩
  · rintro stop ⟨⟨pages, rfl⟩, order⟩
    unfold roundUp size at *
    omega

namespace Header

private theorem read?_bytes (header : Header) (rest : List UInt8) :
    read? (header.bytes ++ rest) = some header := by
  simp [read?, bytes, words, Word.read?, Word.bytes]

theorem read?_checksum (header : Header) (rest : List UInt8) :
    Word.read? (header.bytes ++ rest) checksumOffset = some header.checksum := by
  simp [bytes, words, Word.read?, Word.bytes, checksumOffset]

theorem create_ok {romEnd codeSize stackSize entry : UInt32} {header : Header}
    (success : create romEnd codeSize stackSize entry = .ok header) :
    header.magic = glulxMagic ∧ header.ramStart = romEnd ∧ header.endMem = header.extStart ∧
      header.extStart.toNat = Page.roundUp codeSize.toNat := by
  unfold create at success
  split at success
  · cases success
  · next imageEnd rounded =>
    cases success
    exact ⟨rfl, rfl, rfl, Page.roundUp?_some rounded⟩

end Header

namespace Checksum

/-- The sum goes on behind whole words. -/
theorem sumFrom_append {front : List UInt8} {count : Nat} (whole : front.length = 4 * count)
    (index : Nat) (sum : UInt32) (rest : List UInt8) :
    sumFrom index sum (front ++ rest) = sumFrom (index + count) (sumFrom index sum front) rest := by
  induction count generalizing front index sum with
  | zero =>
    obtain rfl : front = [] := List.length_eq_zero_iff.mp whole
    rfl
  | succ count ih =>
    match front, whole with
    | a :: b :: c :: d :: later, whole =>
      have fewer : later.length = 4 * count := by
        simp only [List.length_cons] at whole
        omega
      rw [List.cons_append, List.cons_append, List.cons_append, List.cons_append, sumFrom, sumFrom,
        ih fewer, Nat.add_assoc, Nat.add_comm 1]

/-- The word that holds the checksum does not count. -/
theorem sumFrom_field {field : List UInt8} (whole : field.length = 4) (sum : UInt32)
    (rest : List UInt8) : sumFrom 8 sum (field ++ rest) = sumFrom 9 sum rest := by
  match field, whole with
  | [_, _, _, _], _ => rfl

end Checksum

/-- Writing a checksum does not change the checksum. -/
theorem checksum_write {content : List UInt8} (room : Header.size ≤ content.length) (word : UInt32) :
    checksum (Word.write content Header.checksumOffset word) = checksum content := by
  have front : (content.take Header.checksumOffset).length = 4 * 8 := by
    rw [List.length_take, Header.checksumOffset]
    unfold Header.size at room
    omega
  have field : ((content.drop Header.checksumOffset).take 4).length = 4 := by
    rw [List.length_take, List.length_drop, Header.checksumOffset]
    unfold Header.size at room
    omega
  have parts : content = content.take Header.checksumOffset ++
      ((content.drop Header.checksumOffset).take 4 ++ content.drop (Header.checksumOffset + 4)) := by
    rw [← List.drop_drop, List.take_append_drop, List.take_append_drop]
  nth_rewrite 2 [parts]
  rw [checksum, checksum, Word.write, List.append_assoc, Checksum.sumFrom_append front,
    Checksum.sumFrom_append front, Nat.zero_add, Checksum.sumFrom_field (Word.length_bytes word),
    Checksum.sumFrom_field field]

/-- What a written image has of its header and its length. -/
theorem Image.write_consistent {rom ram : List Fragment} {header : Header} {image : Image}
    (success : write rom ram header = .ok image) :
    image.header = { header with checksum := GlulxAsm.checksum image.bytes } ∧
      image.bytes.length = header.extStart.toNat ∧ ofBytes image.bytes = .ok image ∧
      Word.read? image.bytes Header.checksumOffset = some image.header.checksum := by
  obtain ⟨romBytes, ramBytes, _, _, _, covers, room, stored, bytes⟩ := write_ok success
  have rest (header : Header) : ∃ rest, content header romBytes ramBytes = header.bytes ++ rest :=
    ⟨_, by rw [content, List.append_assoc, List.append_assoc]⟩
  have sum : GlulxAsm.checksum image.bytes =
      GlulxAsm.checksum (content { header with checksum := 0 } romBytes ramBytes) := by
    rw [bytes, stored, ← write_checksum]
    apply checksum_write
    obtain ⟨_, parts⟩ := rest { header with checksum := 0 }
    rw [parts, List.length_append, Header.length_bytes]
    exact Nat.le_add_right ..
  obtain ⟨_, parts⟩ := rest image.header
  refine ⟨by rw [sum, stored], ?_, ?_, ?_⟩
  · rw [bytes, stored]
    simp only [content, List.length_append, Header.length_bytes, List.length_drop,
      List.length_replicate]
    omega
  · rw [ofBytes, bytes, parts, Header.read?_bytes, ← parts, ← bytes]
  · rw [bytes, parts]
    exact Header.read?_checksum ..

namespace Object

open Fragment

/-- RAM starts on a page, or nowhere yet. -/
def PageAligned (object : Object) : Prop := Page.size ∣ object.romEnd.toNat

theorem Step.pageAligned {before after : Object} (step : Step before after)
    (aligned : before.PageAligned) : after.PageAligned := by
  cases step with
  | gather step =>
    rw [PageAligned, step.extends.romEnd]
    exact aligned
  | layout success =>
    obtain ⟨_, _, romEnd, _, _, rounded, _, rfl⟩ := layout_ok success
    rw [PageAligned, Page.roundUp?_some rounded]
    exact Page.dvd_roundUp _
  | layoutRejected failure =>
    by_cases stage : before.stage = .accumulating
    · obtain ⟨_, _, _, _, _, rfl, _⟩ := layout_rejected stage failure
      exact aligned
    · rw [layout_unchanged stage failure]
      exact aligned
  | resolve =>
    obtain ⟨_, _, _, same, _⟩ := resolve_frame before
    rw [same]
    exact aligned
  | encode => exact aligned

theorem Steps.pageAligned {before after : Object} (steps : Steps before after)
    (aligned : before.PageAligned) : after.PageAligned := by
  induction steps with
  | refl => exact aligned
  | tail _ step ih => exact step.pageAligned ih

private theorem create_romEnd {settings : Settings} {object : Object} (made : create settings = .ok object) :
    object.romEnd = 0 := by
  obtain ⟨_, _, _, rfl⟩ := create_eq made
  rfl

theorem Reachable.pageAligned {object : Object} (reachable : object.Reachable) :
    object.PageAligned := by
  obtain ⟨settings, fresh, operations, made, success⟩ := reachable
  apply (Operation.runAll_steps success).pageAligned
  rw [PageAligned, create_romEnd made]
  exact Nat.dvd_zero _

/-- RAM starts behind the header and not behind the end of the code. -/
theorem Laid.romEnd_bounds {object : Object} (laid : object.Laid) :
    Header.size ≤ object.romEnd.toNat ∧ object.romEnd.toNat ≤ object.codeSize.toNat := by
  obtain ⟨reserve, rest, whole, zeros⟩ := laid.reserve
  constructor
  · have member : reserve ∈ object.rom.toList := by
      rw [whole]
      exact List.mem_cons_self
    obtain ⟨position, _, _, inside⟩ := laid.rom.bounds member
    rw [reserve_size zeros] at inside
    omega
  · rw [laid.ram.stop_eq]
    exact Nat.le_add_right ..

theorem build_ramStart {object result : Object} {image : Image}
    (success : build.run object = .ok image result) : image.header.ramStart = result.romEnd := by
  obtain ⟨_, _, entry, header, created, written⟩ := build_writes success
  rw [(Image.write_consistent written).1, ← (Header.create_ok created).2.1]

/-- Every image that a build returns passes its own checks. It is read back from its bytes, it ends on
the first page end behind the code, and RAM starts on a page behind the header. -/
theorem image_consistent {object result : Object} {image : Image} (reachable : object.Reachable)
    (success : build.run object = .ok image result) :
    image.verify = .ok () ∧ Image.ofBytes image.bytes = .ok image ∧
      image.header.extStart.toNat = image.bytes.length ∧
      image.header.endMem.toNat = image.bytes.length ∧
      IsLeast {length | Page.size ∣ length ∧ result.codeSize.toNat ≤ length} image.bytes.length ∧
      image.header.ramStart = result.romEnd ∧ Page.size ∣ image.header.ramStart.toNat ∧
      Page.size ≤ image.header.ramStart.toNat ∧
      image.header.ramStart.toNat ≤ image.header.extStart.toNat ∧
      Word.read? image.bytes Header.checksumOffset = some (checksum image.bytes) := by
  obtain ⟨steps, _, entry, header, created, written⟩ := build_writes success
  obtain ⟨covered, order⟩ := (build_laid reachable.sound success).romEnd_bounds
  have aligned : Page.size ∣ result.romEnd.toNat := steps.pageAligned reachable.pageAligned
  obtain ⟨magic, _, endMem, extStart⟩ := Header.create_ok created
  obtain ⟨stored, length, whole, read⟩ := Image.write_consistent written
  have least := Page.isLeast_roundUp result.codeSize.toNat
  rw [← extStart, ← length] at least
  have fits : result.codeSize.toNat ≤ image.bytes.length := least.1.2
  have room : Page.size ≤ result.romEnd.toNat := by
    apply Nat.le_of_dvd _ aligned
    exact Nat.lt_of_lt_of_le (by decide) covered
  have ramHeader := build_ramStart success
  have extHeader : image.header.extStart.toNat = image.bytes.length := by rw [stored, ← length]
  have endHeader : image.header.endMem.toNat = image.bytes.length := by
    rw [← extHeader, stored, endMem]
  have sum : image.header.checksum = checksum image.bytes := by rw [stored]
  refine ⟨?_, whole, extHeader, endHeader, least, ramHeader, ?_, ?_, ?_, ?_⟩
  · have magicHeader : image.header.magic = Header.glulxMagic := by rw [stored, ← magic]
    have ramPages := Nat.mod_eq_zero_of_dvd aligned
    have imagePages := Nat.mod_eq_zero_of_dvd least.1.1
    simp [Image.verify, magicHeader, ramHeader, ramPages, imagePages, extHeader, sum]
  · rwa [ramHeader]
  · rwa [ramHeader]
  · rw [ramHeader, extHeader]
    exact Nat.le_trans order fits
  · rw [read, sum]

/-- The image of two branches passes its checks and is read back. -/
theorem image_consistent_branching :
    branching.Reachable ∧ ∃ image result, build.run branching = .ok image result ∧
      image.verify = .ok () ∧ Image.ofBytes image.bytes = .ok image := by
  obtain ⟨image, result, success⟩ := branching_builds
  obtain ⟨sound, whole, _⟩ := image_consistent branching_reachable success
  exact ⟨branching_reachable, image, result, success, sound, whole⟩

end Object

end GlulxAsm
