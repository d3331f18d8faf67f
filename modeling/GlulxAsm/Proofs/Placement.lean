import GlulxAsm.Object.Layout
import Mathlib.Data.List.Forall2
import Mathlib.Data.List.Pairwise

/-! Placing fragments in a row: each starts where the one before it ends, the ends are sums of sizes that
never leave 32 bits, and a name means the first label that has it. -/
namespace GlulxAsm

namespace Page

theorem le_roundUp (n : Nat) : n ≤ roundUp n := by
  unfold roundUp size
  omega

theorem roundUp_lt (n : Nat) : roundUp n < n + size := by
  unfold roundUp size
  omega

theorem roundUp_mono {m n : Nat} (order : m ≤ n) : roundUp m ≤ roundUp n := by
  unfold roundUp size
  omega

theorem roundUp?_some {address rounded : UInt32} (found : roundUp? address = some rounded) :
    rounded.toNat = roundUp address.toNat := by
  unfold roundUp? at found
  dsimp only at found
  split at found
  · next fits =>
    cases found
    exact UInt32.toNat_ofNat_of_lt' fits
  · cases found

theorem roundUp?_none {address : UInt32} (missing : roundUp? address = none) :
    0x100000000 ≤ roundUp address.toNat := by
  unfold roundUp? at missing
  dsimp only at missing
  split at missing
  · cases missing
  · next excess => exact Nat.le_of_not_lt excess

end Page

namespace SymbolTable

theorem get?_empty (name : String) : ({} : SymbolTable).get? name = none :=
  Std.ExtTreeMap.getElem?_empty

/-- Defining a name changes that name only, and only if it was free. -/
theorem get?_define (table : SymbolTable) (name : String) (symbol : Symbol) (other : String) :
    (table.define name symbol).1.get? other =
      (table.get? other).or (if name = other then some symbol else none) := by
  cases taken : table.get? name with
  | some first =>
    by_cases same : name = other
    · subst other
      simp [define, taken]
    · simp [define, taken, same]
  | none =>
    have inserted : (table.define name symbol).1.entries = table.entries.insert name symbol := by
      simp [define, taken]
    rw [get?, inserted, Std.ExtTreeMap.getElem?_insert]
    by_cases same : name = other
    · subst other
      simp [taken]
    · simp [same, get?]

end SymbolTable

namespace Fragment

/-- Fragments that stand one behind the other, from one offset to another. -/
inductive Tiles : Nat → List Fragment → Nat → Prop where
  | nil (offset : Nat) : Tiles offset [] offset
  | cons {fragment : Fragment} {rest : List Fragment} {position : UInt32} {start stop : Nat}
      (placed : fragment.position = some position) (starts : position.toNat = start)
      (behind : Tiles (start + fragment.size.toNat) rest stop) : Tiles start (fragment :: rest) stop

/-- Fragments that differ in their positions at most. -/
def Alike (one two : Fragment) : Prop := two.body = one.body ∧ two.loc = one.loc

theorem Alike.refl (fragment : Fragment) : Alike fragment fragment := ⟨rfl, rfl⟩

theorem Alike.size_eq {one two : Fragment} (alike : Alike one two) : two.size = one.size := by
  rw [Fragment.size, alike.1, Fragment.size]

theorem Alike.eq_of_position {one two : Fragment} {position : UInt32} (alike : Alike one two)
    (placed : two.position = some position) : two = { one with position := some position } := by
  obtain ⟨body, loc, _⟩ := two
  obtain ⟨rfl, rfl⟩ := alike
  cases placed
  rfl

/-- The later fragment starts at or behind the end of the earlier one. -/
def Precedes (earlier later : Fragment) : Prop :=
  ∀ one two, earlier.position = some one → later.position = some two →
    one.toNat + earlier.size.toNat ≤ two.toNat

/-- The bytes that fragments take together. -/
def totalSize (fragments : List Fragment) : Nat := fragments.foldr (·.size.toNat + ·) 0

@[simp] theorem totalSize_nil : totalSize [] = 0 := rfl

@[simp] theorem totalSize_cons (fragment : Fragment) (rest : List Fragment) :
    totalSize (fragment :: rest) = fragment.size.toNat + totalSize rest := rfl

@[simp] theorem totalSize_append (front back : List Fragment) :
    totalSize (front ++ back) = totalSize front + totalSize back := by
  induction front with
  | nil => simp
  | cons fragment rest ih => simp [ih, Nat.add_assoc]

theorem totalSize_eq_of_alike {fragments placed : List Fragment}
    (alike : List.Forall₂ Alike fragments placed) : totalSize placed = totalSize fragments := by
  induction alike with
  | nil => rfl
  | cons head _ ih => rw [totalSize_cons, totalSize_cons, head.size_eq, ih]

theorem totalSize_le_of_prefix {front whole : List Fragment} (front_whole : front <+: whole) :
    totalSize front ≤ totalSize whole := by
  obtain ⟨rest, rfl⟩ := front_whole
  rw [totalSize_append]
  exact Nat.le_add_right _ _

namespace Tiles

theorem stop_eq {start stop : Nat} {fragments : List Fragment}
    (tiles : Tiles start fragments stop) : stop = start + totalSize fragments := by
  induction tiles with
  | nil => rfl
  | cons _ _ _ ih =>
    rw [ih, totalSize_cons]
    omega

theorem append {start middle stop : Nat} {front back : List Fragment}
    (first : Tiles start front middle) (second : Tiles middle back stop) :
    Tiles start (front ++ back) stop := by
  induction first with
  | nil => exact second
  | cons placed starts _ ih => exact .cons placed starts (ih second)

/-- Each fragment lies between the ends of the row. -/
theorem bounds {start stop : Nat} {fragments : List Fragment} {fragment : Fragment}
    (tiles : Tiles start fragments stop) (member : fragment ∈ fragments) :
    ∃ position, fragment.position = some position ∧ start ≤ position.toNat ∧
      position.toNat + fragment.size.toNat ≤ stop := by
  induction tiles with
  | nil => cases member
  | cons placed starts behind ih =>
    have stop := behind.stop_eq
    rcases List.mem_cons.mp member with rfl | later
    · exact ⟨_, placed, by omega, by omega⟩
    · obtain ⟨position, found, least, most⟩ := ih later
      exact ⟨position, found, by omega, most⟩

theorem ordered {start stop : Nat} {fragments : List Fragment}
    (tiles : Tiles start fragments stop) :
    fragments.Pairwise Precedes := by
  induction tiles with
  | nil => exact .nil
  | cons placed starts behind ih =>
    refine .cons ?_ ih
    intro later member one two first second
    obtain ⟨position, found, least, _⟩ := behind.bounds member
    have same : one = _ := Option.some.inj (first.symm.trans placed)
    have again : two = position := Option.some.inj (second.symm.trans found)
    rw [same, again]
    omega

/-- Of two different fragments, one lies behind the other. -/
theorem apart {start stop : Nat} {fragments : List Fragment} {one two : Fragment}
    {first second : UInt32} (tiles : Tiles start fragments stop) (here : one ∈ fragments)
    (there : two ∈ fragments) (different : one ≠ two) (placed : one.position = some first)
    (other : two.position = some second) :
    first.toNat + one.size.toNat ≤ second.toNat ∨ second.toNat + two.size.toNat ≤ first.toNat := by
  have either : fragments.Pairwise fun one two => Precedes one two ∨ Precedes two one :=
    tiles.ordered.imp .inl
  have : Std.Symm fun one two => Precedes one two ∨ Precedes two one := ⟨fun _ _ => Or.symm⟩
  rcases either.forall here there different with before | behind
  · exact .inl (before first second placed other)
  · exact .inr (behind second first other placed)

/-- Every offset inside the row belongs to a fragment. -/
theorem covers {start stop : Nat} {fragments : List Fragment}
    (tiles : Tiles start fragments stop) {offset : Nat} (least : start ≤ offset)
    (most : offset < stop) :
    ∃ fragment ∈ fragments, ∃ position, fragment.position = some position ∧
      position.toNat ≤ offset ∧ offset < position.toNat + fragment.size.toNat := by
  induction tiles with
  | nil => omega
  | @cons fragment rest position start stop placed starts behind ih =>
    by_cases inside : offset < start + fragment.size.toNat
    · exact ⟨fragment, by simp, position, placed, by omega, by omega⟩
    · obtain ⟨other, member, found⟩ := ih (by omega) most
      exact ⟨other, by simp [member], found⟩

/-- Only positions and sizes matter. -/
theorem congr {start stop : Nat} {earlier later : List Fragment}
    (tiles : Tiles start earlier stop)
    (same : List.Forall₂ (fun one two => two.position = one.position ∧ two.size = one.size)
      earlier later) : Tiles start later stop := by
  induction same generalizing start with
  | nil => exact tiles
  | cons head _ ih =>
    cases tiles with
    | cons placed starts behind =>
      refine .cons (head.1.trans placed) starts (ih ?_)
      rwa [head.2]

end Tiles

/-- What a placed label says about a name. -/
def symbol? (name : String) (fragment : Fragment) : Option Symbol :=
  match fragment.label?, fragment.position with
  | some label, some position =>
    if label.name = name then some { position, kind := label.kind, loc := fragment.loc } else none
  | _, _ => none

theorem symbol?_eq_some {name : String} {fragment : Fragment} {symbol : Symbol}
    (found : symbol? name fragment = some symbol) :
    fragment.position = some symbol.position ∧
      ∃ label, fragment.label? = some label ∧ label.name = name ∧ label.kind = symbol.kind := by
  unfold symbol? at found
  split at found
  · next label position labelled placed =>
    split at found
    · next same =>
      cases found
      exact ⟨placed, label, labelled, same, rfl⟩
    · cases found
  · cases found

/-- A label of this name. -/
def labels (name : String) (fragment : Fragment) : Bool := fragment.label?.any (·.name = name)

/-- Among placed fragments, the first that says anything about a name is its first label. -/
theorem findSome?_symbol? {fragments : List Fragment} (name : String)
    (placed : ∀ fragment ∈ fragments, ∃ position, fragment.position = some position) :
    fragments.findSome? (symbol? name) = (fragments.find? (labels name)).bind (symbol? name) := by
  induction fragments with
  | nil => rfl
  | cons fragment rest ih =>
    rw [List.forall_mem_cons] at placed
    obtain ⟨⟨position, here⟩, others⟩ := placed
    have later := ih others
    cases labelled : fragment.label? with
    | none => simpa [List.findSome?_cons, symbol?, labels, labelled] using later
    | some label =>
      by_cases same : label.name = name
      · simp [symbol?, labels, labelled, here, same]
      · simpa [List.findSome?_cons, symbol?, labels, labelled, here, same] using later

/-- The bytes of the body can be counted, those of an instruction in 32 bits and others in 64. -/
def Body.Countable : Body → Prop
  | .instruction i => i.size < 0x100000000
  | body => body.extent < 0x10000000000000000

instance (body : Body) : Decidable body.Countable := by
  cases body <;> exact inferInstanceAs (Decidable (_ < _))

theorem Body.Countable.of_extent_lt {body : Body} (small : body.extent < 0x100000000) :
    body.Countable := by
  cases body with
  | instruction i => exact small
  | _ => exact Nat.lt_trans small (by decide)

theorem size?_eq_ok_iff {fragment : Fragment} {size : UInt32} :
    fragment.size? = .ok size ↔ fragment.body.Countable ∧ fragment.size = size := by
  have checked {limit : Prop} [Decidable limit] {count : UInt32} {cause : Overflow} :
      (if limit then Except.ok count else .error cause) = .ok size ↔ limit ∧ count = size := by
    split
    · next small => simp [small]
    · next large => simp [large]
  obtain ⟨body, loc, position⟩ := fragment
  cases body with
  | instruction i =>
    have counted : size? ⟨.instruction i, loc, position⟩ =
        if i.size < 0x100000000 then .ok (UInt32.ofNat i.size)
        else .error (.instructionSize i.size) := by
      simp only [size?, Instruction.size?, Word.ofNat?]
      split <;> rfl
    rw [counted]
    exact checked
  | label l => exact checked
  | data d => exact checked
  | words table => exact checked

end Fragment

namespace Object

open Fragment

theorem register_get? (symbols : SymbolTable) (fragment : Fragment) (position : UInt32)
    (name : String) :
    (register symbols fragment position).1.get? name =
      (symbols.get? name).or (symbol? name { fragment with position := some position }) := by
  cases found : fragment.label? with
  | none =>
    have unnamed : label? { fragment with position := some position } = none := found
    simp [register, found, symbol?, unnamed]
  | some label =>
    have named : label? { fragment with position := some position } = some label := found
    have defined := SymbolTable.get?_define symbols label.name
      { position, kind := label.kind, loc := fragment.loc } name
    simp only [symbol?, named]
    rw [← defined]
    simp only [register, found]
    split <;> simp_all

theorem positionAfter_ok {fragment : Fragment} {position next : UInt32}
    (success : positionAfter fragment position = .ok next) :
    next.toNat = position.toNat + fragment.size.toNat := by
  unfold positionAfter at success
  split at success
  · cases success
  · next size found =>
    obtain ⟨_, rfl⟩ := size?_eq_ok_iff.mp found
    split at success
    · next fits =>
      cases success
      rw [UInt32.toNat_add, Nat.mod_eq_of_lt fits]
    · cases success

private theorem positionAfter_overflow {fragment : Fragment} {position : UInt32} {cause : Overflow}
    (failure : positionAfter fragment position = .error (.overflow cause)) :
    ¬ fragment.body.Countable := by
  intro countable
  rw [positionAfter, size?_eq_ok_iff.mpr ⟨countable, rfl⟩] at failure
  dsimp only at failure
  split at failure <;> cases failure

private theorem positionAfter_rejected {fragment : Fragment} {position : UInt32} {error : AsmError}
    (failure : positionAfter fragment position = .error (.rejected error)) :
    0x100000000 ≤ position.toNat + fragment.size.toNat ∧
      error = .capacity fragment.loc .imageSize := by
  unfold positionAfter at failure
  split at failure
  · cases failure
  · next size found =>
    obtain ⟨_, rfl⟩ := size?_eq_ok_iff.mp found
    split at failure
    · cases failure
    · next excess =>
      cases failure
      exact ⟨Nat.le_of_not_lt excess, rfl⟩

/-- Placing changes positions only. -/
theorem place_contents (position : UInt32) (symbols : SymbolTable) (fragments : List Fragment) :
    List.Forall₂ Alike fragments (place position symbols fragments).fragments := by
  induction fragments generalizing position symbols with
  | nil => exact .nil
  | cons fragment rest ih =>
    cases next : positionAfter fragment position with
    | error failure =>
      simp only [place, next]
      exact .cons (.refl _) (List.forall₂_same.mpr fun _ _ => .refl _)
    | ok next =>
      simp only [place, next]
      exact .cons (.refl _) (ih ..)

theorem totalSize_place (position : UInt32) (symbols : SymbolTable) (fragments : List Fragment) :
    totalSize (place position symbols fragments).fragments = totalSize fragments :=
  totalSize_eq_of_alike (place_contents ..)

theorem place_tiles {position stop : UInt32} {symbols : SymbolTable} {fragments : List Fragment}
    (success : (place position symbols fragments).outcome = .ok stop) :
    Tiles position.toNat (place position symbols fragments).fragments stop.toNat := by
  induction fragments generalizing position symbols with
  | nil =>
    cases success
    exact .nil _
  | cons fragment rest ih =>
    cases next : positionAfter fragment position with
    | error failure => simp [place, next] at success
    | ok next =>
      simp only [place, next] at success ⊢
      have behind := ih success
      rw [positionAfter_ok ‹_›] at behind
      exact .cons rfl rfl behind

theorem place_rejected {position : UInt32} {symbols : SymbolTable} {fragments : List Fragment}
    {error : AsmError}
    (failure : (place position symbols fragments).outcome = .error (.rejected error)) :
    0x100000000 ≤ position.toNat + totalSize fragments ∧ ∃ loc, error = .capacity loc .imageSize := by
  induction fragments generalizing position symbols with
  | nil => cases failure
  | cons fragment rest ih =>
    cases next : positionAfter fragment position with
    | error cause =>
      simp only [place, next] at failure
      cases failure
      obtain ⟨excess, same⟩ := positionAfter_rejected next
      rw [totalSize_cons]
      exact ⟨by omega, _, same⟩
    | ok behind =>
      simp only [place, next] at failure
      obtain ⟨excess, found⟩ := ih failure
      rw [positionAfter_ok next] at excess
      rw [totalSize_cons]
      exact ⟨by omega, found⟩

theorem place_overflow {position : UInt32} {symbols : SymbolTable} {fragments : List Fragment}
    {cause : Overflow}
    (failure : (place position symbols fragments).outcome = .error (.overflow cause)) :
    ∃ fragment ∈ fragments, ¬ fragment.body.Countable := by
  induction fragments generalizing position symbols with
  | nil => cases failure
  | cons fragment rest ih =>
    cases next : positionAfter fragment position with
    | error found =>
      simp only [place, next] at failure
      cases failure
      exact ⟨fragment, by simp, positionAfter_overflow next⟩
    | ok behind =>
      simp only [place, next] at failure
      obtain ⟨large, member, uncountable⟩ := ih failure
      exact ⟨large, by simp [member], uncountable⟩

/-- A name that is not taken yet means the first label that has it. -/
theorem place_symbols {position stop : UInt32} {symbols : SymbolTable} {fragments : List Fragment}
    (success : (place position symbols fragments).outcome = .ok stop) (name : String) :
    (place position symbols fragments).symbols.get? name =
      (symbols.get? name).or
        ((place position symbols fragments).fragments.findSome? (symbol? name)) := by
  induction fragments generalizing position symbols with
  | nil => simp [place]
  | cons fragment rest ih =>
    cases next : positionAfter fragment position with
    | error failure => simp [place, next] at success
    | ok next =>
      simp only [place, next] at success ⊢
      rw [ih success, register_get?, Option.or_assoc, List.findSome?_cons]
      cases symbol? name { fragment with position := some position } <;> rfl

end Object

end GlulxAsm
