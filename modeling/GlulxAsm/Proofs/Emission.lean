import GlulxAsm.Image
import GlulxAsm.Proofs.Extent
import GlulxAsm.Proofs.Placement
import GlulxAsm.Proofs.Word

/-! Writing fragments in a row. The writing succeeds exactly if the fragments stand where the output has
come to and no name is left in them, and then every fragment's bytes are found at its position. -/
namespace GlulxAsm

namespace Fragment

/-- A fragment that is written without a fault stands at its position and fills its size. -/
theorem emit_whole {fragment : Fragment} {offset : Nat}
    (whole : (fragment.emit offset).fault = none) :
    ∃ position, fragment.position = some position ∧ position.toNat = offset ∧
      fragment.emit offset = fragment.body.emit position ∧
      (fragment.emit offset).bytes.length = fragment.size.toNat := by
  unfold emit at whole ⊢
  cases placed : fragment.position with
  | none => simp [placed] at whole
  | some position =>
    simp only [placed] at whole ⊢
    split at whole
    · cases whole
    · next here =>
      have here : position.toNat = offset := by simpa using Eq.symm (not_not.mp here)
      refine ⟨position, rfl, here, ?_⟩
      split at whole
      · cases whole
      · next sized =>
        have sized : (fragment.body.emit position).bytes.length = fragment.size.toNat := by
          simpa [whole] using sized
        simp [here, sized]

theorem emitAll_cons (offset : Nat) (fragment : Fragment) (rest : List Fragment)
    (bytes : List UInt8) :
    emitAll offset (fragment :: rest) = .ok bytes ↔ (fragment.emit offset).fault = none ∧
      ∃ later, emitAll (offset + (fragment.emit offset).bytes.length) rest = .ok later ∧
        bytes = (fragment.emit offset).bytes ++ later := by
  cases fault : (fragment.emit offset).fault with
  | some cause => simp [emitAll, fault]
  | none =>
    cases behind : emitAll (offset + (fragment.emit offset).bytes.length) rest with
    | error error => simp [emitAll, fault, behind, Except.map]
    | ok later => simp [emitAll, fault, behind, Except.map, eq_comm]

/-- Fragments that are written stand one behind the other. -/
theorem emitAll_tiles {offset : Nat} {fragments : List Fragment} {bytes : List UInt8}
    (success : emitAll offset fragments = .ok bytes) :
    Tiles offset fragments (offset + bytes.length) := by
  induction fragments generalizing offset bytes with
  | nil =>
    cases success
    exact .nil offset
  | cons fragment rest ih =>
    obtain ⟨whole, later, behind, rfl⟩ := (emitAll_cons _ _ _ _).mp success
    obtain ⟨position, placed, here, _, sized⟩ := emit_whole whole
    have tiles := ih behind
    rw [sized] at tiles
    rw [List.length_append, sized, ← Nat.add_assoc]
    exact .cons placed here tiles

theorem emitAll_stop {start stop : Nat} {fragments : List Fragment} {bytes : List UInt8}
    (tiles : Tiles start fragments stop) (success : emitAll start fragments = .ok bytes) :
    start + bytes.length = stop := by
  rw [tiles.stop_eq, ← (emitAll_tiles success).stop_eq]

/-- The bytes of a fragment stand at its position. -/
def WrittenIn (content : List UInt8) (fragment : Fragment) : Prop :=
  ∃ position, fragment.position = some position ∧
    fragment.emit position.toNat =
      { bytes := (content.drop position.toNat).take fragment.size.toNat }

theorem WrittenIn.names_eq_nil {content : List UInt8} {fragment : Fragment}
    (written : fragment.WrittenIn content) : Operand.names fragment.body.operands = [] := by
  obtain ⟨position, _, emitted⟩ := written
  have whole : (fragment.emit position.toNat).fault = none := congrArg Emission.fault emitted
  obtain ⟨other, _, _, emission, _⟩ := emit_whole whole
  rw [emission] at whole
  exact (Body.emit_fault_iff fragment.body other).mp whole

/-- A word among the bytes that a fragment writes is read at its place behind the fragment's position. -/
theorem WrittenIn.read_word {content front back : List UInt8} {fragment : Fragment}
    {position word : UInt32} (written : fragment.WrittenIn content)
    (placed : fragment.position = some position)
    (parts : (fragment.emit position.toNat).bytes = front ++ Word.bytes word ++ back) :
    Word.read? content (position.toNat + front.length) = some word := by
  obtain ⟨same, found, emitted⟩ := written
  obtain rfl : position = same := Option.some.inj (placed.symm.trans found)
  rw [emitted] at parts
  have whole : content.drop position.toNat =
      front ++ (Word.bytes word ++ (back ++ (content.drop position.toNat).drop fragment.size.toNat)) := by
    rw [← List.append_assoc, ← List.append_assoc, ← parts, List.take_append_drop]
  have tail : content.drop (position.toNat + front.length) =
      Word.bytes word ++ (back ++ (content.drop position.toNat).drop fragment.size.toNat) := by
    rw [← List.drop_drop]
    nth_rewrite 1 [whole]
    exact List.drop_left
  exact Word.read?_of_drop tail

/-- Whatever stands in front of the fragments and behind them, their bytes are found at their
positions. -/
theorem emitAll_written {offset : Nat} {fragments : List Fragment} {bytes : List UInt8}
    (success : emitAll offset fragments = .ok bytes) {front : List UInt8}
    (length : front.length = offset) (back : List UInt8) :
    ∀ fragment ∈ fragments, fragment.WrittenIn (front ++ bytes ++ back) := by
  induction fragments generalizing offset bytes front with
  | nil => simp
  | cons fragment rest ih =>
    obtain ⟨whole, later, behind, rfl⟩ := (emitAll_cons _ _ _ _).mp success
    obtain ⟨position, placed, here, _, sized⟩ := emit_whole whole
    rintro other (_ | ⟨_, member⟩)
    · refine ⟨position, placed, ?_⟩
      have slice : ((front ++ ((fragment.emit offset).bytes ++ later) ++ back).drop offset).take
          fragment.size.toNat = (fragment.emit offset).bytes := by
        rw [List.append_assoc, List.drop_left' length, List.append_assoc, List.take_left' sized]
      rw [here, slice, ← whole]
    · have shifted : front ++ ((fragment.emit offset).bytes ++ later) ++ back =
          (front ++ (fragment.emit offset).bytes) ++ later ++ back := by
        simp only [List.append_assoc]
      rw [shifted]
      exact ih behind (by simp [length]) other member

end Fragment

namespace Image

/-- A header, the bytes of ROM behind it, the bytes of RAM, and zeros up to the end that the header
tells. -/
def content (header : Header) (romBytes ramBytes : List UInt8) : List UInt8 :=
  header.bytes ++ romBytes.drop Header.size ++ ramBytes ++
    List.replicate (header.extStart.toNat - (romBytes.length + ramBytes.length)) 0

theorem write_checksum (header : Header) (romBytes ramBytes : List UInt8) (sum : UInt32) :
    Word.write (content { header with checksum := 0 } romBytes ramBytes) Header.checksumOffset sum =
      content { header with checksum := sum } romBytes ramBytes := by
  simp [content, Word.write, Header.checksumOffset, Header.bytes, Header.words, Word.bytes]

/-- The parts of a written image. -/
theorem write_ok {rom ram : List Fragment} {header : Header} {image : Image}
    (success : write rom ram header = .ok image) :
    ∃ romBytes ramBytes, Fragment.emitAll 0 rom = .ok romBytes ∧
      Fragment.emitAll romBytes.length ram = .ok ramBytes ∧
      romBytes.length = header.ramStart.toNat ∧ Header.size ≤ romBytes.length ∧
      romBytes.length + ramBytes.length ≤ header.extStart.toNat ∧
      image.header = { header with
        checksum := checksum (content { header with checksum := 0 } romBytes ramBytes) } ∧
      image.bytes = content image.header romBytes ramBytes := by
  unfold write at success
  cases romDone : Fragment.emitAll 0 rom with
  | error error =>
    rw [romDone] at success
    cases success
  | ok romBytes =>
    simp only [romDone, bind, Except.bind] at success
    split at success
    · cases success
    · next fits =>
      cases ramDone : Fragment.emitAll romBytes.length ram with
      | error error =>
        rw [ramDone] at success
        cases success
      | ok ramBytes =>
        simp only [ramDone] at success
        split at success
        · cases success
        · next room =>
          cases success
          refine ⟨romBytes, ramBytes, rfl, ramDone, ?_, ?_, Nat.le_of_not_lt room, rfl,
            write_checksum header romBytes ramBytes _⟩
          · exact not_not.mp fun apart => fits (.inl apart)
          · exact Nat.le_of_not_lt fun short => fits (.inr short)

end Image

end GlulxAsm
