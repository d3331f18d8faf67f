import GlulxAsm.Proofs.Extent
import GlulxAsm.Proofs.Word

/-! Function headers, as a function's label writes them and as the virtual machine reads them. The locals are
shared out among pairs, each of which takes as many as it can count. -/
namespace GlulxAsm

namespace Decoder

/-- The pairs of slot size and count in front of a pair of zeros, and what follows it. -/
def pairs? : List UInt8 → Option (List (UInt8 × UInt8) × List UInt8)
  | size :: count :: rest =>
    if size = 0 ∧ count = 0 then some ([], rest)
    else (pairs? rest).map (Prod.map ((size, count) :: ·) id)
  | _ => none

/-- The number of locals that pairs declare together. -/
def declared (pairs : List (UInt8 × UInt8)) : Nat := pairs.foldr (·.2.toNat + ·) 0

@[simp] theorem declared_nil : declared [] = 0 := rfl

@[simp] theorem declared_cons (pair : UInt8 × UInt8) (later : List (UInt8 × UInt8)) :
    declared (pair :: later) = pair.2.toNat + declared later := rfl

/-- Reading pairs takes two bytes for each of them and for the end. -/
theorem length_of_pairs? {content rest : List UInt8} {pairs : List (UInt8 × UInt8)}
    (found : pairs? content = some (pairs, rest)) :
    content.length = 2 * (pairs.length + 1) + rest.length := by
  fun_induction pairs? content generalizing pairs with
  | case1 size count rest zeros =>
    cases found
    simp
    omega
  | case2 size count later nonzero ih =>
    obtain ⟨⟨others, last⟩, behind, same⟩ := Option.map_eq_some_iff.mp found
    cases same
    have length := ih behind
    simp only [List.length_cons] at length ⊢
    omega
  | case3 => cases found

/-- Pairs that are no zeros are read back, whatever bytes follow their end. -/
theorem pairs?_flatMap {pairs : List (UInt8 × UInt8)} (nonzero : ∀ pair ∈ pairs, pair.1 ≠ 0)
    (rest : List UInt8) :
    pairs? (pairs.flatMap (fun pair => [pair.1, pair.2]) ++ 0 :: 0 :: rest) = some (pairs, rest) := by
  induction pairs with
  | nil => simp [pairs?]
  | cons pair later ih =>
    obtain ⟨here, others⟩ := List.forall_mem_cons.mp nonzero
    simp [pairs?, here, ih others]

end Decoder

open Decoder

namespace Label

/-- How locals are shared out among pairs: with four-byte slots only, with no pair empty and with every pair
full that has one behind it. -/
structure Packing (locals : Nat) (pairs : List (UInt8 × UInt8)) : Prop where
  slots : ∀ pair ∈ pairs, pair.1 = 4
  counts : ∀ pair ∈ pairs, 1 ≤ pair.2.toNat ∧ pair.2.toNat ≤ 255
  full : ∀ pair ∈ pairs.dropLast, pair.2 = 255
  total : declared pairs = locals

theorem packing_nil_iff {locals : Nat} : Packing locals [] ↔ locals = 0 :=
  ⟨fun packing => packing.total.symm, fun zero => ⟨by simp, by simp, by simp, zero.symm⟩⟩

/-- One round of packing. The first pair takes as many locals as a pair can count, and the others share out
those that are left. -/
theorem packing_cons_iff {locals : Nat} {pair : UInt8 × UInt8} {later : List (UInt8 × UInt8)} :
    Packing locals (pair :: later) ↔ 0 < locals ∧ pair = (4, UInt8.ofNat (min locals 255)) ∧
      Packing (locals - min locals 255) later := by
  constructor
  · intro packing
    obtain ⟨slot, slots⟩ := List.forall_mem_cons.mp packing.slots
    obtain ⟨⟨least, most⟩, counts⟩ := List.forall_mem_cons.mp packing.counts
    have total : pair.2.toNat + declared later = locals := packing.total
    have taken : pair.2.toNat = min locals 255 := by
      cases later with
      | nil =>
        rw [declared_nil] at total
        omega
      | cons next rest =>
        have full : pair.2 = 255 := packing.full pair (by simp)
        simp only [full, UInt8.reduceToNat] at total ⊢
        omega
    refine ⟨by omega, ?_, slots, counts, ?_, by omega⟩
    · rw [← taken, UInt8.ofNat_toNat, ← slot]
    · intro other member
      cases later with
      | nil => simp at member
      | cons next rest => exact packing.full other (List.mem_cons_of_mem _ member)
  · rintro ⟨positive, rfl, packing⟩
    have small : min locals 255 < 256 := by omega
    have count : (UInt8.ofNat (min locals 255)).toNat = min locals 255 :=
      UInt8.toNat_ofNat_of_lt' small
    refine ⟨List.forall_mem_cons.mpr ⟨rfl, packing.slots⟩,
      List.forall_mem_cons.mpr ⟨?_, packing.counts⟩, ?_, ?_⟩
    · rw [count]
      omega
    · cases later with
      | nil => simp
      | cons next rest =>
        -- Another pair follows only if the first has left it something.
        have left := packing.total
        have filled := (packing.counts next (by simp)).1
        rw [declared_cons] at left
        have many : min locals 255 = 255 := by omega
        rw [List.dropLast_cons_cons, many]
        exact List.forall_mem_cons.mpr ⟨rfl, packing.full⟩
    · rw [declared_cons, count, packing.total]
      omega

/-- There is one way to pack locals. -/
theorem Packing.unique {locals : Nat} {pairs others : List (UInt8 × UInt8)}
    (packing : Packing locals pairs) (other : Packing locals others) : others = pairs := by
  induction pairs generalizing locals others with
  | nil =>
    cases others with
    | nil => rfl
    | cons pair later =>
      have zero := packing_nil_iff.mp packing
      have positive := (packing_cons_iff.mp other).1
      omega
  | cons pair later ih =>
    obtain ⟨positive, rfl, left⟩ := packing_cons_iff.mp packing
    cases others with
    | nil =>
      have zero := packing_nil_iff.mp other
      omega
    | cons first rest =>
      obtain ⟨_, rfl, same⟩ := packing_cons_iff.mp other
      rw [ih left same]

/-- The pairs that a function with so many locals writes. -/
def pairs (locals : Nat) : List (UInt8 × UInt8) :=
  List.replicate (locals / 255) (4, 255) ++
    if locals % 255 = 0 then [] else [(4, UInt8.ofNat (locals % 255))]

theorem localPairs_eq (locals : Nat) :
    localPairs locals = (pairs locals).flatMap fun pair => [pair.1, pair.2] := by
  rw [localPairs, pairs, List.flatMap_append, List.flatMap_replicate]
  split <;> rfl

/-- Pairs are written as if they took the locals round by round. -/
theorem pairs_of_pos {locals : Nat} (positive : 0 < locals) :
    pairs locals = (4, UInt8.ofNat (min locals 255)) :: pairs (locals - min locals 255) := by
  by_cases few : locals < 255
  · have rest : locals % 255 ≠ 0 := by omega
    have least : min locals 255 = locals := by omega
    rw [least, Nat.sub_self, pairs, if_neg rest, Nat.div_eq_of_lt few, Nat.mod_eq_of_lt few]
    rfl
  · have least : min locals 255 = 255 := by omega
    have quotient : locals / 255 = (locals - 255) / 255 + 1 := by omega
    have remainder : locals % 255 = (locals - 255) % 255 := by omega
    rw [least, pairs, quotient, remainder, List.replicate_succ, List.cons_append]
    rfl

theorem packing_pairs (locals : Nat) : Packing locals (pairs locals) := by
  induction locals using Nat.strongRecOn with
  | ind locals ih =>
    rcases Nat.eq_zero_or_pos locals with rfl | positive
    · exact packing_nil_iff.mpr rfl
    · rw [pairs_of_pos positive]
      exact packing_cons_iff.mpr ⟨positive, rfl, ih _ (by omega)⟩

theorem size_of_mem_pairs {locals : Nat} : ∀ pair ∈ pairs locals, pair.1 = 4 :=
  (packing_pairs locals).slots

theorem declared_pairs (locals : Nat) : declared (pairs locals) = locals :=
  (packing_pairs locals).total

/-- A function header is its tag and pairs that declare its locals. -/
theorem encode_function {label : Label} {tag : UInt8} (function : label.kind.functionTag? = some tag)
    (rest : List UInt8) :
    ∃ later, label.encode ++ rest = tag :: later ∧
      pairs? later = some (pairs label.locals.toNat, rest) := by
  refine ⟨localPairs label.locals.toNat ++ 0 :: 0 :: rest, by simp [encode, function], ?_⟩
  rw [localPairs_eq]
  apply pairs?_flatMap
  intro pair member
  rw [size_of_mem_pairs pair member]
  decide

end Label

theorem LabelKind.functionTag?_eq_some {kind : LabelKind} {tag : UInt8}
    (function : kind.functionTag? = some tag) :
    (kind = .stackFunction ∧ tag = 0xc0) ∨ (kind = .localFunction ∧ tag = 0xc1) := by
  cases kind with
  | stackFunction => exact .inl ⟨rfl, (Option.some.inj function).symm⟩
  | localFunction => exact .inr ⟨rfl, (Option.some.inj function).symm⟩
  | _ => cases function

namespace Label

/-- The number of pairs for so many locals, counted in 32 bits, if no step leaves them. -/
def pairCount? (locals : UInt32) : Option UInt32 :=
  if locals % 255 = 0 then some (locals / 255) else Word.ofNat? ((locals / 255).toNat + 1)

/-- The size of a function header, counted in 32 bits, if no step leaves them. -/
def headerSize? (locals : UInt32) : Option UInt32 := do
  let count ← pairCount? locals
  let twice ← Word.ofNat? (2 * count.toNat)
  let tagged ← Word.ofNat? (1 + twice.toNat)
  Word.ofNat? (tagged.toNat + 2)

private theorem exists_pairCount? (locals : UInt32) :
    ∃ count, pairCount? locals = some count ∧ count.toNat = (locals.toNat + 254) / 255 := by
  have bound : locals.toNat < 0x100000000 := locals.toNat_lt
  have quotient : (locals / 255).toNat = locals.toNat / 255 := UInt32.toNat_div _ _
  have remainder : (locals % 255).toNat = locals.toNat % 255 := UInt32.toNat_mod _ _
  by_cases divides : locals % 255 = 0
  · refine ⟨locals / 255, if_pos divides, ?_⟩
    rw [divides, UInt32.toNat_zero] at remainder
    omega
  · have rest : locals.toNat % 255 ≠ 0 := by
      rw [← remainder]
      exact fun zero => divides (UInt32.toNat_inj.mp zero)
    have fits : (locals / 255).toNat + 1 < 0x100000000 := by omega
    obtain ⟨count, counted, value⟩ := Word.exists_ofNat? fits
    exact ⟨count, (if_neg divides).trans counted, by omega⟩

private theorem exists_headerSize? {label : Label} (function : label.kind.isFunction = true) :
    ∃ size, headerSize? label.locals = some size ∧ size.toNat = label.size := by
  have bound : label.locals.toNat < 0x100000000 := label.locals.toNat_lt
  obtain ⟨count, counted, ceiling⟩ := exists_pairCount? label.locals
  have few : count.toNat ≤ 16843009 := by omega
  obtain ⟨twice, doubled, even⟩ :=
    Word.exists_ofNat? (show 2 * count.toNat < 0x100000000 by omega)
  obtain ⟨tagged, first, odd⟩ :=
    Word.exists_ofNat? (show 1 + twice.toNat < 0x100000000 by omega)
  obtain ⟨size, last, sum⟩ :=
    Word.exists_ofNat? (show tagged.toNat + 2 < 0x100000000 by omega)
  refine ⟨size, by simp [headerSize?, counted, doubled, first, last], ?_⟩
  rw [Label.size, if_pos function, sum, odd, even, ceiling]

/-- The header that a function's label writes, wherever it stands: a tag that tells the kind, pairs that share
out the locals in the only way, and a pair of zeros. It fills the size of the label, which layout counts
without leaving 32 bits. Whatever bytes follow, reading pairs up to a pair of zeros finds those of the header,
which declare the locals, and stops at its end. -/
theorem function_header (label : Label) (function : label.kind.isFunction = true) :
    ∃ tag pairs size,
      ((label.kind = .stackFunction ∧ tag = 0xc0) ∨ (label.kind = .localFunction ∧ tag = 0xc1)) ∧
      label.encode = tag :: pairs.flatMap (fun pair => [pair.1, pair.2]) ++ [0, 0] ∧
      (∀ position, (Fragment.Body.label label).emit position = { bytes := label.encode }) ∧
      Packing label.locals.toNat pairs ∧
      (∀ others, Packing label.locals.toNat others → others = pairs) ∧
      label.encode.length = label.size ∧
      headerSize? label.locals = some size ∧ size.toNat = label.size ∧
      (∀ loc position, Fragment.size { body := .label label, loc, position } = size) ∧
      ∀ rest, pairs? ((label.encode ++ rest).drop 1) = some (pairs, rest) := by
  obtain ⟨tag, tagged⟩ := Option.isSome_iff_exists.mp function
  obtain ⟨size, counted, same⟩ := exists_headerSize? function
  have packing := packing_pairs label.locals.toNat
  refine ⟨tag, pairs label.locals.toNat, size, LabelKind.functionTag?_eq_some tagged, ?_,
    fun _ => rfl, packing, fun _ => packing.unique, label.length_encode, counted, same, ?_, ?_⟩
  · rw [encode, tagged, localPairs_eq]
  · intro loc position
    rw [Fragment.size, Fragment.Body.extent, ← same, UInt32.ofNat_toNat]
  · intro rest
    obtain ⟨later, parts, read⟩ := label.encode_function tagged rest
    rw [parts]
    exact read

/-- A function with as many locals as a word can tell. -/
def greatest : Label := { name := "main", kind := .localFunction, locals := 0xffffffff }

/-- Even the size of the greatest header is far from leaving 32 bits. -/
theorem function_header_greatest : greatest.kind.isFunction = true ∧
    ∃ pairs, Packing 0xffffffff pairs ∧
      greatest.encode = 0xc1 :: pairs.flatMap (fun pair => [pair.1, pair.2]) ++ [0, 0] ∧
      greatest.encode.length = 33686021 ∧ headerSize? 0xffffffff = some 33686021 := by
  have function : greatest.kind.isFunction = true := rfl
  have whole : greatest.size = 33686021 := by decide
  obtain ⟨tag, pairs, size, kind, written, _, packing, _, filled, counted, same, _, _⟩ :=
    function_header greatest function
  obtain rfl : size = 33686021 := UInt32.toNat_inj.mp (same.trans whole)
  rcases kind with ⟨other, _⟩ | ⟨_, rfl⟩
  · cases other
  · exact ⟨function, pairs, packing, written, filled.trans whole, counted⟩

example : ({ name := "big", kind := .localFunction, locals := 300 } : Label).encode =
    [0xc1, 4, 255, 4, 45, 0, 0] := by decide

end Label

end GlulxAsm
