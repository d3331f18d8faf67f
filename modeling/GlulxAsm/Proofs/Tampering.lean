import GlulxAsm.Proofs.Consistency
import Mathlib.Logic.ExistsUnique
import Mathlib.Tactic.SplitIfs

/-! An image that passes its checks passes them no more if one of its words is changed. Every word but one
counts in the sum, and that one is what the sum is compared with. -/
namespace GlulxAsm

namespace Word

/-- A word that can be read has its four bytes behind those in front of its offset. -/
theorem split_of_read? {content : List UInt8} {offset : Nat} {word : UInt32}
    (found : read? content offset = some word) :
    ∃ front a b c d back, content = front ++ a :: b :: c :: d :: back ∧ front.length = offset ∧
      word = ofBytes a b c d := by
  unfold read? at found
  split at found
  · next a b c d back rest =>
    cases found
    have inside : offset ≤ content.length := by
      have length := congrArg List.length rest
      simp only [List.length_drop, List.length_cons] at length
      omega
    refine ⟨content.take offset, a, b, c, d, back, ?_, List.length_take_of_le inside, rfl⟩
    rw [← rest, List.take_append_drop]
  · cases found

theorem exists_read?_iff {content : List UInt8} {offset : Nat} :
    (∃ word, read? content offset = some word) ↔ offset + 4 ≤ content.length := by
  constructor
  · intro readable
    obtain ⟨word, found⟩ := readable
    obtain ⟨front, a, b, c, d, back, rfl, rfl, _⟩ := split_of_read? found
    simp
  · intro inside
    have four : ((content.drop offset).take 4).length = 4 := by
      rw [List.length_take, List.length_drop]
      omega
    unfold read?
    match content.drop offset, four with
    | a :: b :: c :: d :: _, _ => exact ⟨ofBytes a b c d, rfl⟩

private theorem write_append (front back : List UInt8) (a b c d : UInt8) (word : UInt32) :
    write (front ++ a :: b :: c :: d :: back) front.length word = front ++ (bytes word ++ back) := by
  simp [write]

theorem length_write {content : List UInt8} {offset : Nat} (inside : offset + 4 ≤ content.length)
    (word : UInt32) : (write content offset word).length = content.length := by
  simp only [write, List.length_append, List.length_take, List.length_drop, length_bytes]
  omega

private theorem read?_write_self {content : List UInt8} {offset : Nat}
    (inside : offset + 4 ≤ content.length) (word : UInt32) :
    read? (write content offset word) offset = some word := by
  have front : (content.take offset).length = offset := List.length_take_of_le (by omega)
  have found : (write content offset word).drop offset = bytes word ++ content.drop (offset + 4) := by
    rw [write, List.append_assoc, List.drop_append_of_le_length (Nat.le_of_eq front.symm),
      List.drop_eq_nil_of_le (Nat.le_of_eq front), List.nil_append]
  exact read?_of_drop found

/-- Only four bytes count for a word. -/
theorem read?_congr {one two : List UInt8} {offset : Nat}
    (same : (one.drop offset).take 4 = (two.drop offset).take 4) :
    read? one offset = read? two offset := by
  have window (content : List UInt8) : read? content offset = read? ((content.drop offset).take 4) 0 := by
    unfold read?
    rcases content.drop offset with _ | ⟨a, _ | ⟨b, _ | ⟨c, _ | ⟨d, rest⟩⟩⟩⟩ <;> rfl
  rw [window one, window two, same]

/-- A word that is written does not touch the words beside it. -/
theorem read?_write_ne {content : List UInt8} (index other : Nat)
    (inside : 4 * index + 4 ≤ content.length) (apart : other ≠ index) (word : UInt32) :
    read? (write content (4 * index) word) (4 * other) = read? content (4 * other) := by
  have front : (content.take (4 * index)).length = 4 * index := List.length_take_of_le (by omega)
  apply read?_congr
  apply List.ext_getElem?
  intro position
  by_cases near : position < 4
  · simp only [List.getElem?_take, List.getElem?_drop, near, if_true, write]
    by_cases before : other < index
    · rw [List.append_assoc, List.getElem?_append_left (by omega), List.getElem?_take, if_pos (by omega)]
    · have covered : (content.take (4 * index) ++ bytes word).length = 4 * index + 4 := by
        rw [List.length_append, front, length_bytes]
      rw [List.getElem?_append_right (by omega), covered, List.getElem?_drop]
      congr 1
      omega
  · simp only [List.getElem?_take, near, if_false]

end Word

namespace Header

theorem read?_eq_some_iff {content : List UInt8} {header : Header} :
    read? content = some header ↔ Word.read? content 0 = some header.magic ∧
      Word.read? content 4 = some header.version ∧ Word.read? content 8 = some header.ramStart ∧
      Word.read? content 12 = some header.extStart ∧ Word.read? content 16 = some header.endMem ∧
      Word.read? content 20 = some header.stackSize ∧ Word.read? content 24 = some header.startFunc ∧
      Word.read? content 28 = some header.decodingTable ∧
      Word.read? content 32 = some header.checksum := by
  obtain ⟨magic, version, ramStart, extStart, endMem, stackSize, startFunc, decodingTable, checksum⟩ :=
    header
  simp only [read?, bind, Option.bind_eq_some_iff, pure, Option.some.injEq, mk.injEq]
  constructor
  · rintro ⟨_, zero, _, one, _, two, _, three, _, four, _, five, _, six, _, seven, _, eight, rfl, rfl,
      rfl, rfl, rfl, rfl, rfl, rfl, rfl⟩
    exact ⟨zero, one, two, three, four, five, six, seven, eight⟩
  · rintro ⟨zero, one, two, three, four, five, six, seven, eight⟩
    exact ⟨_, zero, _, one, _, two, _, three, _, four, _, five, _, six, _, seven, _, eight, rfl, rfl,
      rfl, rfl, rfl, rfl, rfl, rfl, rfl⟩

theorem exists_read?_iff {content : List UInt8} :
    (∃ header, read? content = some header) ↔ size ≤ content.length := by
  constructor
  · intro readable
    obtain ⟨header, found⟩ := readable
    obtain ⟨_, _, _, _, _, _, _, _, last⟩ := read?_eq_some_iff.mp found
    exact Word.exists_read?_iff.mp ⟨_, last⟩
  · intro room
    have word (offset : Nat) (inside : offset ≤ checksumOffset) :
        ∃ word, Word.read? content offset = some word := by
      apply Word.exists_read?_iff.mpr
      unfold size at room
      unfold checksumOffset at inside
      omega
    obtain ⟨magic, zero⟩ := word 0 (by decide)
    obtain ⟨version, one⟩ := word 4 (by decide)
    obtain ⟨ramStart, two⟩ := word 8 (by decide)
    obtain ⟨extStart, three⟩ := word 12 (by decide)
    obtain ⟨endMem, four⟩ := word 16 (by decide)
    obtain ⟨stackSize, five⟩ := word 20 (by decide)
    obtain ⟨startFunc, six⟩ := word 24 (by decide)
    obtain ⟨decodingTable, seven⟩ := word 28 (by decide)
    obtain ⟨checksum, eight⟩ := word 32 (by decide)
    let header : Header :=
      { magic, version, ramStart, extStart, endMem, stackSize, startFunc, decodingTable, checksum }
    exact ⟨header, read?_eq_some_iff.mpr ⟨zero, one, two, three, four, five, six, seven, eight⟩⟩

end Header

namespace Checksum

/-- What is added to the sum before is added to the sum behind. -/
theorem sumFrom_add (index : Nat) (sum extra : UInt32) (content : List UInt8) :
    sumFrom index (sum + extra) content = sumFrom index sum content + extra := by
  have added (index : Nat) (sum word : UInt32) :
      sumFrom.add index (sum + extra) word = sumFrom.add index sum word + extra := by
    unfold sumFrom.add
    split
    · rfl
    · rw [UInt32.add_assoc, UInt32.add_comm extra, UInt32.add_assoc]
  fun_induction sumFrom index sum content with
  | case1 index sum a b c d rest ih => rw [sumFrom, added, ih]
  | case2 index sum a b c => rw [sumFrom, added]
  | case3 index sum a b => rw [sumFrom, added]
  | case4 index sum a => rw [sumFrom, added]
  | case5 index sum => rfl

end Checksum

/-- A new word takes the place of the old one in the sum. -/
theorem checksum_write_add {content : List UInt8} {index : Nat} {old : UInt32}
    (found : Word.read? content (4 * index) = some old) (counts : 4 * index ≠ Header.checksumOffset)
    (word : UInt32) :
    checksum (Word.write content (4 * index) word) + old = checksum content + word := by
  obtain ⟨front, a, b, c, d, back, rfl, whole, rfl⟩ := Word.split_of_read? found
  have sum (word : UInt32) : Checksum.sumFrom.add index (Checksum.sumFrom 0 0 front) word =
      Checksum.sumFrom 0 0 front + word := if_neg counts
  rw [← whole, Word.write_append, Word.bytes]
  simp only [checksum, Checksum.sumFrom_append whole, Nat.zero_add, List.cons_append, List.nil_append,
    Checksum.sumFrom, Word.ofBytes_bytes, sum, Checksum.sumFrom_add]
  rw [UInt32.add_assoc, UInt32.add_assoc, UInt32.add_comm word]

namespace Image

theorem ofBytes_eq_ok_iff {content : List UInt8} {image : Image} :
    ofBytes content = .ok image ↔ image.bytes = content ∧ Header.read? content = some image.header := by
  obtain ⟨bytes, header⟩ := image
  unfold ofBytes
  cases Header.read? content with
  | none => simp
  | some found => simp [eq_comm]

theorem verify_eq_ok_iff (image : Image) :
    image.verify = .ok () ↔ image.header.magic = Header.glulxMagic ∧
      Page.size ∣ image.header.ramStart.toNat ∧ Page.size ∣ image.bytes.length ∧
      image.header.extStart.toNat = image.bytes.length ∧
      GlulxAsm.checksum image.bytes = image.header.checksum := by
  unfold verify
  simp only [Nat.dvd_iff_mod_eq_zero]
  split_ifs <;> simp_all

variable {content : List UInt8} {image : Image}

/-- Bytes are still taken for an image if a word of them is changed, and their header has a new checksum
only if it is the word that is changed. -/
theorem exists_ofBytes_write (loaded : ofBytes content = .ok image) {index : Nat}
    (inside : 4 * index + 4 ≤ content.length) (word : UInt32) :
    ∃ altered, ofBytes (Word.write content (4 * index) word) = .ok altered ∧
      altered.bytes = Word.write content (4 * index) word ∧
      (4 * index ≠ Header.checksumOffset → altered.header.checksum = image.header.checksum) ∧
      (4 * index = Header.checksumOffset → altered.header = { image.header with checksum := word }) := by
  obtain ⟨_, header⟩ := ofBytes_eq_ok_iff.mp loaded
  have room : Header.size ≤ (Word.write content (4 * index) word).length := by
    rw [Word.length_write inside]
    exact Header.exists_read?_iff.mp ⟨_, header⟩
  obtain ⟨again, found⟩ := Header.exists_read?_iff.mpr room
  refine ⟨⟨_, again⟩, ofBytes_eq_ok_iff.mpr ⟨rfl, found⟩, rfl, ?_, ?_⟩
  · intro other
    have kept := Word.read?_write_ne index 8 inside (by unfold Header.checksumOffset at other; omega) word
    obtain ⟨_, _, _, _, _, _, _, _, old⟩ := Header.read?_eq_some_iff.mp header
    obtain ⟨_, _, _, _, _, _, _, _, new⟩ := Header.read?_eq_some_iff.mp found
    rw [new, old] at kept
    exact Option.some.inj kept
  · intro field
    obtain rfl : index = 8 := by
      unfold Header.checksumOffset at field
      omega
    have kept (other : Nat) (apart : other ≠ 8) := Word.read?_write_ne 8 other inside apart word
    obtain ⟨zero, one, two, three, four, five, six, seven, _⟩ := Header.read?_eq_some_iff.mp header
    have same : Header.read? (Word.write content (4 * 8) word) =
        some { image.header with checksum := word } := by
      apply Header.read?_eq_some_iff.mpr
      exact ⟨(kept 0 (by decide)).trans zero, (kept 1 (by decide)).trans one,
        (kept 2 (by decide)).trans two, (kept 3 (by decide)).trans three,
        (kept 4 (by decide)).trans four, (kept 5 (by decide)).trans five,
        (kept 6 (by decide)).trans six, (kept 7 (by decide)).trans seven,
        Word.read?_write_self inside word⟩
    exact Option.some.inj (found.symm.trans same)

/-- A sound image with one other word is not sound. -/
theorem altered_unsound (loaded : ofBytes content = .ok image) (sound : image.verify = .ok ())
    {index : Nat} {old word : UInt32} (found : Word.read? content (4 * index) = some old)
    (changed : word ≠ old) :
    ∃ altered fault, ofBytes (Word.write content (4 * index) word) = .ok altered ∧
      altered.verify = .error fault := by
  obtain ⟨rfl, header⟩ := ofBytes_eq_ok_iff.mp loaded
  have inside := Word.exists_read?_iff.mp ⟨old, found⟩
  obtain ⟨altered, reloaded, bytes, kept, replaced⟩ := exists_ofBytes_write loaded inside word
  obtain ⟨_, _, _, _, sum⟩ := (verify_eq_ok_iff image).mp sound
  have unsound : altered.verify ≠ .ok () := by
    intro still
    obtain ⟨_, _, _, _, again⟩ := (verify_eq_ok_iff altered).mp still
    rw [bytes] at again
    apply changed
    by_cases field : 4 * index = Header.checksumOffset
    · -- The sum is the old one, so the word that it is compared with would have to be, too.
      obtain ⟨_, _, _, _, _, _, _, _, stored⟩ := Header.read?_eq_some_iff.mp header
      have room := Header.exists_read?_iff.mp ⟨_, header⟩
      rw [field] at found again
      rw [checksum_write room, sum, replaced field] at again
      have same : image.header.checksum = word := again
      rw [← same]
      exact Option.some.inj (stored.symm.trans found)
    · have exchanged := checksum_write_add found field word
      rw [again, kept field, sum] at exchanged
      exact (UInt32.add_right_inj _).mp exchanged.symm
  cases outcome : altered.verify with
  | ok => exact absurd outcome unsound
  | error fault => exact ⟨altered, fault, reloaded, outcome⟩

/-- An image that passes all other checks is sound with exactly one checksum. -/
theorem existsUnique_checksum (loaded : ofBytes content = .ok image)
    (magic : image.header.magic = Header.glulxMagic) (ramStart : Page.size ∣ image.header.ramStart.toNat)
    (pages : Page.size ∣ content.length) (extStart : image.header.extStart.toNat = content.length) :
    ∃! word, ∃ marked, ofBytes (Word.write content Header.checksumOffset word) = .ok marked ∧
      marked.verify = .ok () := by
  obtain ⟨rfl, header⟩ := ofBytes_eq_ok_iff.mp loaded
  have room := Header.exists_read?_iff.mp ⟨_, header⟩
  have inside : 4 * 8 + 4 ≤ image.bytes.length := room
  have sound_iff (word : UInt32) : (∃ marked,
      ofBytes (Word.write image.bytes Header.checksumOffset word) = .ok marked ∧
        marked.verify = .ok ()) ↔ word = GlulxAsm.checksum image.bytes := by
    obtain ⟨marked, reloaded, bytes, _, replaced⟩ := exists_ofBytes_write loaded inside word
    have length := Word.length_write inside word
    have same : marked.verify = .ok () ↔ word = GlulxAsm.checksum image.bytes := by
      rw [verify_eq_ok_iff, replaced rfl, bytes, length]
      simp only [magic, ramStart, pages, extStart, true_and]
      rw [← checksum_write room word]
      exact eq_comm
    constructor
    · intro sound
      obtain ⟨other, found, passed⟩ := sound
      cases found.symm.trans reloaded
      exact same.mp passed
    · intro stored
      exact ⟨marked, reloaded, same.mpr stored⟩
  exact ⟨GlulxAsm.checksum image.bytes, (sound_iff _).mpr rfl, fun word sound => (sound_iff word).mp sound⟩

/-- No single word of a sound image can be changed unnoticed, and where only the checksum is in doubt,
there is exactly one that is right. -/
theorem tamper_evident (loaded : ofBytes content = .ok image) :
    (image.verify = .ok () → ∀ index old word, Word.read? content (4 * index) = some old →
      word ≠ old → ∃ altered fault, ofBytes (Word.write content (4 * index) word) = .ok altered ∧
        altered.verify = .error fault) ∧
    (image.header.magic = Header.glulxMagic → Page.size ∣ image.header.ramStart.toNat →
      Page.size ∣ content.length → image.header.extStart.toNat = content.length →
      ∃! word, ∃ marked, ofBytes (Word.write content Header.checksumOffset word) = .ok marked ∧
        marked.verify = .ok ()) := by
  constructor
  · intro sound index old word found changed
    exact altered_unsound loaded sound found changed
  · intro magic ramStart pages extStart
    exact existsUnique_checksum loaded magic ramStart pages extStart

/-- One page that holds a header and nothing else. -/
def blank : Image :=
  let header : Header := {
    magic := Header.glulxMagic
    version := Header.glulxVersion
    ramStart := 0
    extStart := 256
    endMem := 256
    stackSize := 256
    startFunc := 0
    decodingTable := 0
    checksum := 0x476f796e }
  ⟨header.bytes ++ List.replicate 220 0, header⟩

/-- Neither the checksum nor the last word of the page can be changed, and no other checksum is right. -/
theorem tamper_evident_blank : ofBytes blank.bytes = .ok blank ∧ blank.verify = .ok () ∧
    (∃ altered fault, ofBytes (Word.write blank.bytes Header.checksumOffset 0) = .ok altered ∧
      altered.verify = .error fault) ∧
    (∃ altered fault, ofBytes (Word.write blank.bytes 252 1) = .ok altered ∧
      altered.verify = .error fault) ∧
    ∃! word, ∃ marked, ofBytes (Word.write blank.bytes Header.checksumOffset word) = .ok marked ∧
      marked.verify = .ok () := by
  have evaluated : Header.read? blank.bytes = some blank.header ∧ blank.verify = .ok () ∧
      Word.read? blank.bytes (4 * 63) = some 0 := by
    decide +kernel
  obtain ⟨read, sound, last⟩ := evaluated
  have loaded : ofBytes blank.bytes = .ok blank := ofBytes_eq_ok_iff.mpr ⟨rfl, read⟩
  have stored : Word.read? blank.bytes (4 * 8) = some 0x476f796e := Header.read?_checksum _ _
  obtain ⟨magic, ramStart, pages, extStart, _⟩ := (verify_eq_ok_iff blank).mp sound
  obtain ⟨changes, unique⟩ := tamper_evident loaded
  exact ⟨loaded, sound, changes sound 8 _ 0 stored (by decide), changes sound 63 _ 1 last (by decide),
    unique magic ramStart pages extStart⟩

end Image

end GlulxAsm
