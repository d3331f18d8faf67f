import GlulxAsm.Data
import GlulxAsm.Proofs.Word
import Mathlib.Data.List.Basic

/-! Strings as the virtual machine reads them: the tag tells how characters are stored, and a zero ends
them. A stored text is read back up to its first null character, whatever stands behind it in memory. -/
namespace GlulxAsm.StringCode

/-- The characters up to a zero byte, and the bytes behind that. -/
def bytesUntilZero? : List UInt8 → Option (List Char × List UInt8)
  | [] => none
  | byte :: rest =>
    if byte = 0 then some ([], rest)
    else (bytesUntilZero? rest).map (Prod.map (Char.ofNat byte.toNat :: ·) id)

/-- The characters up to a zero word, and the bytes behind that. -/
def wordsUntilZero? : List UInt8 → Option (List Char × List UInt8)
  | a :: b :: c :: d :: rest =>
    let word := Word.ofBytes a b c d
    if word = 0 then some ([], rest)
    else if valid : word.isValidChar then
      (wordsUntilZero? rest).map (Prod.map (⟨word, valid⟩ :: ·) id)
    else none
  | _ => none

/-- The text of a stored string, and the bytes behind its terminator. -/
def read? : List UInt8 → Option (List Char × List UInt8)
  | [] => none
  | tag :: rest =>
    if tag = 0xe0 then bytesUntilZero? rest
    else if Word.read? (tag :: rest) 0 = some 0xe2000000 then wordsUntilZero? (rest.drop 3)
    else none

/-- What is read of the bytes, whatever follows them: the text up to its first null character. All of the
bytes are read exactly if it has none. -/
def Reads (bytes : List UInt8) (text : List Char) : Prop :=
  ∃ unread, unread <:+ bytes ∧ (unread = [] ↔ '\x00' ∉ text) ∧
    ∀ trailing, read? (bytes ++ trailing) =
      some (text.takeWhile (· != '\x00'), unread ++ trailing)

/-- A reader that undoes a coding of characters and stops at the null character. -/
structure Undoes (reader : List UInt8 → Option (List Char × List UInt8)) (code : Char → List UInt8)
    (fits : Char → Prop) : Prop where
  filled : ∀ c, code c ≠ []
  stop : ∀ rest, reader (code '\x00' ++ rest) = some ([], rest)
  next : ∀ c rest, fits c → c ≠ '\x00' →
    reader (code c ++ rest) = (reader rest).map (Prod.map (c :: ·) id)

/-- A text with its terminator goes up to the first null character of both. -/
theorem exists_hidden (text : List Char) : ∃ hidden,
    text ++ ['\x00'] = text.takeWhile (· != '\x00') ++ '\x00' :: hidden ∧
      (hidden = [] ↔ '\x00' ∉ text) := by
  induction text with
  | nil => exact ⟨[], rfl, by simp⟩
  | cons c text ih =>
    by_cases null : c = '\x00'
    · subst null
      exact ⟨text ++ ['\x00'], by simp, by simp⟩
    · obtain ⟨hidden, whole, empty⟩ := ih
      refine ⟨hidden, ?_, ?_⟩
      · simp [null, whole]
      · rw [empty]
        simp [Ne.symm null]

namespace Undoes

variable {reader : List UInt8 → Option (List Char × List UInt8)} {code : Char → List UInt8}
  {fits : Char → Prop}

private theorem read_shown (undoes : Undoes reader code fits) {shown : List Char}
    (fit : ∀ c ∈ shown, fits c) (nonzero : '\x00' ∉ shown) (rest : List UInt8) :
    reader (shown.flatMap code ++ code '\x00' ++ rest) = some (shown, rest) := by
  induction shown with
  | nil => simp [undoes.stop]
  | cons c shown ih =>
    obtain ⟨first, later⟩ := List.forall_mem_cons.mp fit
    obtain ⟨other, others⟩ := not_or.mp (mt List.mem_cons.mpr nonzero)
    rw [List.flatMap_cons, List.append_assoc, List.append_assoc, undoes.next c _ first (Ne.symm other),
      ← List.append_assoc, ih later others]
    rfl

/-- A terminated text is read up to its first null character. -/
theorem read_terminated (undoes : Undoes reader code fits) (text : List Char)
    (fit : ∀ c ∈ text, fits c) : ∃ unread, unread <:+ text.flatMap code ++ code '\x00' ∧
      (unread = [] ↔ '\x00' ∉ text) ∧
      ∀ trailing, reader (text.flatMap code ++ code '\x00' ++ trailing) =
        some (text.takeWhile (· != '\x00'), unread ++ trailing) := by
  obtain ⟨hidden, whole, empty⟩ := exists_hidden text
  have coded : text.flatMap code ++ code '\x00' =
      (text.takeWhile (· != '\x00')).flatMap code ++ code '\x00' ++ hidden.flatMap code := by
    have same := congrArg (List.flatMap code) whole
    simpa [List.flatMap_append] using same
  refine ⟨hidden.flatMap code, ?_, ?_, ?_⟩
  · rw [coded]
    exact List.suffix_append _ _
  · rw [← empty]
    cases hidden with
    | nil => simp
    | cons c hidden => simp [undoes.filled c]
  · intro trailing
    rw [coded, List.append_assoc, undoes.read_shown]
    · intro c member
      exact fit c ((List.takeWhile_sublist _).subset member)
    · intro null
      have shown := List.all_eq_true.mp List.all_takeWhile _ null
      exact absurd shown (by decide)

end Undoes

private theorem toNat_byte {c : Char} (small : c.toNat ≤ 0xff) : c.val.toUInt8.toNat = c.toNat := by
  rw [UInt32.toNat_toUInt8]
  exact Nat.mod_eq_of_lt (Nat.lt_succ_of_le small)

private theorem bytes_undone : Undoes bytesUntilZero? (fun c => [c.val.toUInt8]) (·.toNat ≤ 0xff) where
  filled c := List.cons_ne_nil _ _
  stop rest := rfl
  next c rest small other := by
    have same := toNat_byte small
    have nonzero : c.val.toUInt8 ≠ 0 := by
      intro zero
      rw [zero] at same
      exact other (Char.toNat_inj.mp same.symm)
    rw [List.singleton_append, bytesUntilZero?, if_neg nonzero, same, Char.ofNat_toNat]

private theorem words_undone : Undoes wordsUntilZero? (fun c => Word.bytes c.val) (fun _ => True) where
  filled c := List.cons_ne_nil _ _
  stop rest := rfl
  next c rest _ other := by
    have nonzero : c.val ≠ 0 := by
      intro zero
      exact other (Char.ext zero)
    simp only [Word.bytes, List.cons_append, List.nil_append, wordsUntilZero?, Word.ofBytes_bytes,
      if_neg nonzero, dif_pos c.valid]

private theorem read?_basic (rest : List UInt8) : read? (basicTag :: rest) = bytesUntilZero? rest := rfl

private theorem read?_unicode (rest : List UInt8) :
    read? (Word.bytes unicodeTag ++ rest) = wordsUntilZero? rest := rfl

theorem basicBytes_reads {text : List Char} (small : ∀ c ∈ text, c.toNat ≤ 0xff) :
    Reads (basicBytes text) text := by
  obtain ⟨unread, tail, empty, read⟩ := bytes_undone.read_terminated text small
  refine ⟨unread, ?_, empty, ?_⟩
  · rw [basicBytes, List.map_eq_flatMap]
    exact tail.trans (List.suffix_cons _ _)
  · intro trailing
    rw [basicBytes, List.map_eq_flatMap, List.cons_append, List.cons_append, read?_basic]
    exact read trailing

theorem unicodeBytes_reads (text : List Char) : Reads (unicodeBytes text) text := by
  obtain ⟨unread, tail, empty, read⟩ := words_undone.read_terminated text fun c _ => trivial
  refine ⟨unread, ?_, empty, ?_⟩
  · rw [unicodeBytes, List.append_assoc]
    exact tail.trans (List.suffix_append _ _)
  · intro trailing
    rw [unicodeBytes, List.append_assoc, List.append_assoc, read?_unicode, ← List.append_assoc]
    exact read trailing

private theorem encode_basic_ok_iff {text : String} {bytes : List UInt8} :
    encode .basic text = .ok bytes ↔
      (∀ c ∈ text.toList, c.toNat ≤ 0xff) ∧ bytes = basicBytes text.toList := by
  rw [encode]
  constructor
  · intro success
    split at success
    · cases success
    · next absent =>
      cases success
      refine ⟨?_, rfl⟩
      simpa using absent
  · intro fits
    obtain ⟨small, same⟩ := fits
    have absent : text.toList.find? (fun c => 0xff < c.toNat) = none := by
      simpa using small
    rw [absent, same]

private theorem encode_basic_error_iff {text : String} {c : Char} :
    encode .basic text = .error c ↔ ∃ front back, text.toList = front ++ c :: back ∧
      (∀ earlier ∈ front, earlier.toNat ≤ 0xff) ∧ 0xff < c.toNat := by
  have offender : encode .basic text = .error c ↔
      text.toList.find? (fun c => 0xff < c.toNat) = some c := by
    rw [encode]
    cases text.toList.find? (fun c => 0xff < c.toNat) with
    | none => simp
    | some first => simp
  rw [offender, List.find?_eq_some_iff_append]
  simp only [decide_eq_true_eq, Bool.not_eq_true', decide_eq_false_iff_not, Nat.not_lt]
  constructor
  · intro found
    obtain ⟨large, front, back, whole, small⟩ := found
    exact ⟨front, back, whole, small, large⟩
  · intro found
    obtain ⟨front, back, whole, small, large⟩ := found
    exact ⟨large, front, back, whole, small⟩

theorem automaticBytes_of_ascii {text : List Char} (ascii : ∀ c ∈ text, c.toNat ≤ 0x7f) :
    automaticBytes text = basicBytes text := by
  rw [automaticBytes, if_neg]
  simpa using ascii

theorem automaticBytes_of_not_ascii {text : List Char} (wide : ∃ c ∈ text, 0x7f < c.toNat) :
    automaticBytes text = unicodeBytes text := by
  rw [automaticBytes, if_pos]
  simpa using wide

private theorem automaticBytes_reads (text : List Char) : Reads (automaticBytes text) text := by
  by_cases wide : ∃ c ∈ text, 0x7f < c.toNat
  · rw [automaticBytes_of_not_ascii wide]
    exact unicodeBytes_reads text
  · have ascii : ∀ c ∈ text, c.toNat ≤ 0x7f := by
      simpa using wide
    rw [automaticBytes_of_ascii ascii]
    apply basicBytes_reads
    intro c member
    exact Nat.le_trans (ascii c member) (by decide)

/-- A text is read back from every coding that can hold it. A basic string fails for its first character
above 0xFF, and the automatic choice is basic for ASCII and unicode for all else. -/
theorem encode_reads (text : String) :
    (encode .automatic text = .ok (Data.string text).bytes ∧
      Reads (Data.string text).bytes text.toList) ∧
    (∃ bytes, encode .unicode text = .ok bytes ∧ Reads bytes text.toList) ∧
    ((∃ bytes, encode .basic text = .ok bytes) ↔ ∀ c ∈ text.toList, c.toNat ≤ 0xff) ∧
    (∀ bytes, encode .basic text = .ok bytes → Reads bytes text.toList) ∧
    (∀ c, encode .basic text = .error c ↔ ∃ front back, text.toList = front ++ c :: back ∧
      (∀ earlier ∈ front, earlier.toNat ≤ 0xff) ∧ 0xff < c.toNat) ∧
    ((∀ c ∈ text.toList, c.toNat ≤ 0x7f) → encode .automatic text = encode .basic text) ∧
    ((∃ c ∈ text.toList, 0x7f < c.toNat) → encode .automatic text = encode .unicode text) := by
  refine ⟨⟨rfl, automaticBytes_reads _⟩, ⟨_, rfl, unicodeBytes_reads _⟩, ?_, ?_, ?_, ?_, ?_⟩
  · constructor
    · intro coded
      obtain ⟨bytes, success⟩ := coded
      exact (encode_basic_ok_iff.mp success).1
    · intro small
      exact ⟨_, encode_basic_ok_iff.mpr ⟨small, rfl⟩⟩
  · intro bytes success
    obtain ⟨small, same⟩ := encode_basic_ok_iff.mp success
    rw [same]
    exact basicBytes_reads small
  · intro c
    exact encode_basic_error_iff
  · intro ascii
    have small : ∀ c ∈ text.toList, c.toNat ≤ 0xff := by
      intro c member
      exact Nat.le_trans (ascii c member) (by decide)
    rw [encode_basic_ok_iff.mpr ⟨small, rfl⟩, encode, automaticBytes_of_ascii ascii]
  · intro wide
    rw [encode, encode, automaticBytes_of_not_ascii wide]

end GlulxAsm.StringCode
