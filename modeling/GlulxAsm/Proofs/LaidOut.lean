import GlulxAsm.Proofs.Operation

/-! What holds of every object that can be reached. Before its layout it has no symbols, or it needs more
room than there is and never gets an image. After its layout its fragments stand in a row without gaps, and
a name means the first label that has it. -/
namespace GlulxAsm

namespace Fragment

private theorem Resolves.symbol?_eq {meaning : String → Int32 → Prop} {earlier later : Fragment}
    (resolves : Resolves meaning earlier later) (name : String) :
    symbol? name later = symbol? name earlier := by
  simp only [symbol?, resolves.label?_eq, resolves.position, resolves.loc]

private theorem findSome?_symbol?_of_resolves {meaning : String → Int32 → Prop}
    {earlier later : List Fragment} (fragments : List.Forall₂ (Resolves meaning) earlier later)
    (name : String) : later.findSome? (symbol? name) = earlier.findSome? (symbol? name) := by
  induction fragments with
  | nil => rfl
  | cons head _ ih => simp only [List.findSome?_cons, head.symbol?_eq, ih]

private theorem Tiles.of_resolves {meaning : String → Int32 → Prop} {start stop : Nat}
    {earlier later : List Fragment} (tiles : Tiles start earlier stop)
    (fragments : List.Forall₂ (Resolves meaning) earlier later) : Tiles start later stop :=
  tiles.congr (fragments.imp fun _ _ one => ⟨one.position, one.size_eq⟩)

end Fragment

namespace Object

open Fragment

/-- Header, ROM and RAM fill the addresses up to the code size, and the symbols are the labels. -/
structure Laid (object : Object) : Prop where
  rom : Tiles 0 object.rom.toList object.romEnd.toNat
  ram : Tiles object.romEnd.toNat object.ram.toList object.codeSize.toNat
  reserve : ∃ reserve rest, object.rom.toList = reserve :: rest ∧
    reserve.body = .data (.zeroed Header.size)
  symbols : ∀ name, object.symbols.get? name =
    (object.rom.toList ++ object.ram.toList).findSome? (symbol? name)

theorem Laid.placed {object : Object} (laid : object.Laid) :
    ∀ fragment ∈ object.rom.toList ++ object.ram.toList,
      ∃ position, fragment.position = some position := by
  intro fragment member
  obtain ⟨position, here, _⟩ := (laid.rom.append laid.ram).bounds member
  exact ⟨position, here⟩

/-- A symbol is what the first label of its name says. -/
theorem Laid.get?_symbols {object : Object} (laid : object.Laid) (name : String) :
    object.symbols.get? name =
      ((object.rom.toList ++ object.ram.toList).find? (labels name)).bind (symbol? name) := by
  rw [laid.symbols, findSome?_symbol? name laid.placed]

theorem reserve_size {reserve : Fragment} (zeros : reserve.body = .data (.zeroed Header.size)) :
    reserve.size.toNat = Header.size := by
  rw [Fragment.size, zeros]
  rfl

theorem padding_size (romSize romEnd : UInt32) :
    (padding romSize romEnd).size.toNat = romEnd.toNat - romSize.toNat := by
  simp only [Fragment.size, padding, Body.extent, Data.zeroed, List.length_replicate]
  exact UInt32.toNat_ofNat_of_lt' (Nat.lt_of_le_of_lt (Nat.sub_le _ _) romEnd.toNat_lt)

private theorem padding_tiles {romSize romEnd : UInt32} (order : romSize.toNat ≤ romEnd.toNat) :
    Tiles romSize.toNat [padding romSize romEnd] romEnd.toNat := by
  refine .cons rfl rfl ?_
  rw [padding_size, Nat.add_sub_cancel' order]
  exact .nil _

/-- After a layout ROM and RAM stand in a row without gaps. -/
theorem layout_tiles {object result : Object} (success : layout.run object = .ok () result) :
    Tiles 0 result.rom.toList result.romEnd.toNat ∧
      Tiles result.romEnd.toNat result.ram.toList result.codeSize.toNat := by
  obtain ⟨_, romSize, romEnd, codeSize, romFits, rounded, ramFits, rfl⟩ := layout_ok success
  have order : romSize.toNat ≤ romEnd.toNat := by
    rw [Page.roundUp?_some rounded]
    exact Page.le_roundUp _
  constructor
  · simpa using (place_tiles romFits).append (padding_tiles order)
  · simpa using place_tiles ramFits

/-- A layout that succeeds on an object without symbols leads to a row without gaps. -/
theorem layout_laid {object result : Object} (success : layout.run object = .ok () result)
    (unnamed : ∀ name, object.symbols.get? name = none) : result.Laid := by
  obtain ⟨rom, ram⟩ := layout_tiles success
  refine ⟨rom, ram, ?_, ?_⟩
  · obtain ⟨gap, _, contents, _⟩ := layout_segments success
    rw [fullRom, List.cons_append, List.cons_append] at contents
    obtain ⟨reserve, rest, ⟨same, _⟩, _, whole⟩ := List.forall₂_cons_left_iff.mp contents
    exact ⟨reserve, rest, whole, same⟩
  · intro name
    obtain ⟨_, romSize, romEnd, codeSize, romFits, _, ramFits, rfl⟩ := layout_ok success
    have plain : symbol? name (padding romSize romEnd) = none := rfl
    simp [place_symbols ramFits, place_symbols romFits, unnamed, plain, List.findSome?_append]

theorem Laid.resolve {object : Object} (laid : object.Laid) :
    (leftBy (resolve.run object)).Laid := by
  obtain ⟨rom, ram, stage, same, romSteps, ramSteps, _⟩ := resolve_frame object
  rw [same]
  refine ⟨laid.rom.of_resolves romSteps, laid.ram.of_resolves ramSteps, ?_, ?_⟩
  · obtain ⟨reserve, rest, whole, zeros⟩ := laid.reserve
    rw [whole] at romSteps
    obtain ⟨later, others, one, _, again⟩ := List.forall₂_cons_left_iff.mp romSteps
    refine ⟨later, others, again, ?_⟩
    have body := one.body
    rw [zeros] at body
    exact body.eq_of_data
  · intro name
    simp only [List.findSome?_append, findSome?_symbol?_of_resolves romSteps,
      findSome?_symbol?_of_resolves ramSteps]
    rw [laid.symbols name, List.findSome?_append]

/-- An object that needs more room than there is. -/
def Overfull (object : Object) : Prop := object.stage = .accumulating ∧ 0x100000000 ≤ object.demand

theorem totalSize_fullRom (object : Object) :
    totalSize object.fullRom =
      Header.size + totalSize object.rom.toList + totalSize object.strings.fragments := by
  rw [fullRom, List.cons_append, totalSize_cons, totalSize_append, ← Nat.add_assoc]
  rfl

private theorem Extends.demand_le {before after : Object} (extended : Extends before after) :
    before.demand ≤ after.demand := by
  have rom := totalSize_le_of_prefix extended.rom
  have ram := totalSize_le_of_prefix extended.ram
  have strings := extended.strings.totalSize_le
  have full : totalSize before.fullRom ≤ totalSize after.fullRom := by
    rw [totalSize_fullRom, totalSize_fullRom]
    omega
  exact Nat.add_le_add (Page.roundUp_mono full) ram

theorem Extends.overfull {before after : Object} (extended : Extends before after)
    (excess : before.Overfull) : after.Overfull :=
  ⟨extended.stage.trans excess.1, Nat.le_trans excess.2 extended.demand_le⟩

/-- An object whose layout is rejected for want of room is left without room. -/
theorem layout_overfull {object result : Object} {error : AsmError}
    (fresh : object.stage = .accumulating)
    (failure : layout.run object = .error (.rejected error) result) : result.Overfull := by
  obtain ⟨excess, _, rom, ram, symbols, rfl, more, same⟩ := layout_rejected fresh failure
  refine ⟨fresh, Nat.le_trans excess ?_⟩
  refine Nat.add_le_add (Page.roundUp_mono ?_) (Nat.le_of_eq same.symm)
  rw [totalSize_fullRom { object with rom, ram, symbols }]
  dsimp only
  omega

theorem layout_not_overfull {object result : Object}
    (success : layout.run object = .ok () result) : ¬ object.Overfull := by
  rintro ⟨_, excess⟩
  have room := layout_demand success
  have bound := result.codeSize.toNat_lt
  omega

/-- What holds of an object between any two operations. -/
inductive Sound (object : Object) : Prop where
  | fresh (stage : object.stage = .accumulating) (unnamed : ∀ name, object.symbols.get? name = none)
  | overfull (overfull : object.Overfull)
  | laid (stage : object.stage ≠ .accumulating) (laid : object.Laid)

theorem Extends.sound {before after : Object} (extended : Extends before after)
    (sound : before.Sound) : after.Sound := by
  cases sound with
  | fresh stage unnamed =>
    exact .fresh (extended.stage.trans stage) fun name => by rw [extended.symbols, unnamed]
  | overfull excess => exact .overfull (extended.overfull excess)
  | laid stage laid =>
    obtain ⟨rom, ram⟩ := extended.frozen stage
    refine .laid (extended.stage ▸ stage) ⟨?_, ?_, ?_, ?_⟩
    · rw [rom, extended.romEnd]
      exact laid.rom
    · rw [ram, extended.romEnd, extended.codeSize]
      exact laid.ram
    · rw [rom]
      exact laid.reserve
    · rw [rom, ram, extended.symbols]
      exact laid.symbols

theorem layout_unchanged {object result : Object} {error : AsmError}
    (later : object.stage ≠ .accumulating)
    (failure : layout.run object = .error (.rejected error) result) : result = object := by
  rw [run_layout, if_neg later] at failure
  cases failure
  rfl

theorem resolve_unchanged {object : Object} (other : object.stage ≠ .positioned) :
    leftBy (resolve.run object) = object := by
  rw [run_resolve, if_neg other]
  rfl

theorem Step.sound {before after : Object} (step : Step before after) (sound : before.Sound) :
    after.Sound := by
  cases step with
  | gather step => exact step.extends.sound sound
  | layout success =>
    cases sound with
    | fresh stage unnamed =>
      refine .laid ?_ (layout_laid success unnamed)
      obtain ⟨_, _, _, _, _, _, _, rfl⟩ := layout_ok success
      simp
    | overfull excess => exact absurd excess (layout_not_overfull success)
    | laid stage _ => exact absurd (layout_ok success).1 stage
  | layoutRejected failure =>
    by_cases stage : before.stage = .accumulating
    · exact .overfull (layout_overfull stage failure)
    · rw [layout_unchanged stage failure]
      exact sound
  | resolve =>
    by_cases stage : before.stage = .positioned
    · cases sound with
      | laid other laid =>
        refine .laid ?_ laid.resolve
        obtain ⟨rom, ram, next, same, _, _, kept | ⟨_, moved⟩⟩ := resolve_frame before
        · rw [same]
          simpa [kept] using other
        · rw [same]
          simp [moved]
      | fresh early _ => simp [stage] at early
      | overfull excess => simp [stage, Overfull] at excess
    · rw [resolve_unchanged stage]
      exact sound
  | encode resolved =>
    cases sound with
    | laid _ laid => exact .laid (by simp) ⟨laid.rom, laid.ram, laid.reserve, laid.symbols⟩
    | fresh early _ => simp [resolved] at early
    | overfull excess => simp [resolved, Overfull] at excess

theorem Steps.sound {before after : Object} (steps : Steps before after) (sound : before.Sound) :
    after.Sound := by
  induction steps with
  | refl => exact sound
  | tail _ step ih => exact step.sound ih

theorem Reachable.sound {object : Object} (reachable : Reachable object) : object.Sound := by
  obtain ⟨settings, fresh, operations, made, success⟩ := reachable
  obtain ⟨stage, unnamed⟩ := create_fresh made
  exact (Operation.runAll_steps success).sound (.fresh stage unnamed)

/-- An object that needs too much room goes on to need it. -/
theorem Step.overfull {before after : Object} (step : Step before after)
    (excess : before.Overfull) : after.Overfull := by
  cases step with
  | gather step => exact step.extends.overfull excess
  | layout success => exact absurd excess (layout_not_overfull success)
  | layoutRejected failure => exact layout_overfull excess.1 failure
  | resolve =>
    rw [resolve_unchanged (by simp [excess.1])]
    exact excess
  | encode resolved => simp [resolved, Overfull] at excess

end Object

end GlulxAsm
