import GlulxAsm.Proofs.BuildOutcome
import GlulxAsm.Proofs.Consistency

/-! Where layout puts everything. ROM is the room for the header, the fragments that were collected for it, the
strings and a padding up to the next page; RAM follows. Each fragment starts where the one before it ends, and
all ends are sums of sizes as natural numbers, so none of them has left 32 bits. -/
namespace GlulxAsm

private theorem Fragment.extent_le_totalExtent {fragments : List Fragment} {fragment : Fragment}
    (member : fragment ∈ fragments) : fragment.body.extent ≤ totalExtent fragments := by
  induction fragments with
  | nil => cases member
  | cons first rest ih =>
    rw [totalExtent_cons]
    rcases List.mem_cons.mp member with rfl | later
    · exact Nat.le_add_right ..
    · exact Nat.le_trans (ih later) (Nat.le_add_left ..)

namespace Object

open Fragment

/-- Where all fragments together leave room, each of them does. -/
theorem Moderate.of_idealEnd {object : Object} (room : object.idealEnd < 0x100000000) :
    object.Moderate := by
  have padded := Page.le_roundUp (Header.size + totalExtent object.rom.toList +
    (object.strings.contents.flatMap fun content => (Data.string content).bytes).length)
  rw [idealEnd, idealRomEnd] at room
  constructor
  · intro fragment member
    rcases List.mem_append.mp member with inRom | inRam
    · have part := extent_le_totalExtent inRom
      omega
    · have part := extent_le_totalExtent inRam
      omega
  · intro content member
    have stored : (StringPool.block content).body.extent = (Data.string content).bytes.length := rfl
    have part := extent_le_totalExtent (List.mem_map_of_mem (f := StringPool.block) member)
    rw [totalExtent_block, stored] at part
    omega

/-- Behind the room for the header ROM holds what was collected, then the strings, then the padding. -/
theorem layout_romParts {object result : Object} (success : layout.run object = .ok () result) :
    ∃ header user strings romSize,
      result.rom.toList = header :: user ++ strings ++ [padding romSize result.romEnd] ∧
      header.body = .data (.zeroed Header.size) ∧
      List.Forall₂ Alike object.rom.toList user ∧
      List.Forall₂ Alike object.strings.fragments strings ∧
      romSize.toNat = totalSize object.fullRom ∧
      result.romEnd.toNat = Page.roundUp romSize.toNat := by
  obtain ⟨_, romSize, romEnd, codeSize, romFits, rounded, _, rfl⟩ := layout_ok success
  have stop : romSize.toNat = totalSize object.fullRom := by simpa using place_stop romFits
  have contents := place_contents 0 object.symbols object.fullRom
  generalize (place 0 object.symbols object.fullRom).fragments = placed at contents ⊢
  rw [fullRom] at contents
  obtain ⟨front, strings, rfl, collected, pooled⟩ := forall₂_append_left contents
  obtain ⟨header, user, ⟨zeros, _⟩, kept, rfl⟩ := List.forall₂_cons_left_iff.mp collected
  exact ⟨header, user, strings, romSize, by simp, zeros, kept, pooled, stop,
    Page.roundUp?_some rounded⟩

/-- Whatever an object holds, a layout that succeeds leaves the room for the header at address 0, the collected
fragments of ROM in their order, the strings, and zeros up to the first page end; then the fragments of RAM in
their order. No fragment is lost or repeated, and each starts where the one before it ends. Both ends are the
sums of the lengths in bytes, unless a single fragment or string exceeds the addresses by itself. -/
theorem layout_geometry {object result : Object} (success : layout.run object = .ok () result) :
    (∃ header user strings zeros unpadded,
      result.rom.toList = header :: user ++ strings ++ [zeros] ∧
      header.body = .data (.zeroed Header.size) ∧ header.position = some 0 ∧
      List.Forall₂ Alike object.rom.toList user ∧
      List.Forall₂ Alike object.strings.fragments strings ∧
      zeros.body = .data (.zeroed zeros.size.toNat) ∧ zeros.size.toNat < Page.size ∧
      zeros.position = some unpadded ∧
      unpadded.toNat = Header.size + totalSize user + totalSize strings ∧
      unpadded.toNat + zeros.size.toNat = result.romEnd.toNat ∧
      IsLeast {stop | Page.size ∣ stop ∧ unpadded.toNat ≤ stop} result.romEnd.toNat) ∧
    Tiles 0 result.rom.toList result.romEnd.toNat ∧
    List.Forall₂ Alike object.ram.toList result.ram.toList ∧
    Tiles result.romEnd.toNat result.ram.toList result.codeSize.toNat ∧
    (object.Moderate ↔ result.romEnd.toNat = object.idealRomEnd ∧
      result.codeSize.toNat = object.idealEnd) := by
  obtain ⟨romTiles, ramTiles⟩ := layout_tiles success
  obtain ⟨_, _, _, ramKept⟩ := layout_segments success
  obtain ⟨header, user, strings, romSize, parts, reserve, kept, pooled, stop, rounded⟩ :=
    layout_romParts success
  have next := Page.roundUp_lt romSize.toNat
  have order := Page.le_roundUp romSize.toNat
  have gap := padding_size romSize result.romEnd
  refine ⟨⟨header, user, strings, padding romSize result.romEnd, romSize, parts, reserve, ?_, kept,
    pooled, ?_, ?_, rfl, ?_, ?_, ?_⟩, romTiles, ramKept, ramTiles, ?_⟩
  · rw [parts] at romTiles
    cases romTiles with
    | cons placed starts _ => rw [placed, UInt32.toNat_inj.mp (starts.trans UInt32.toNat_zero.symm)]
  · rw [gap]
    rfl
  · omega
  · rw [stop, totalSize_fullRom, totalSize_eq_of_alike kept, totalSize_eq_of_alike pooled]
  · omega
  · rw [rounded]
    exact Page.isLeast_roundUp _
  · constructor
    · intro moderate
      constructor
      · rw [rounded, stop, moderate.romEnd_eq]
      · rw [layout_demand success, moderate.demand_eq]
    · rintro ⟨_, whole⟩
      exact .of_idealEnd (whole ▸ result.codeSize.toNat_lt)

/-- A function header of seven bytes and a string fill ROM up to byte 51; RAM takes eleven bytes. -/
theorem layout_geometry_contested : ∃ result, layout.run contested = .ok () result ∧
    contested.Moderate ∧ result.romEnd.toNat = 256 ∧ result.codeSize.toNat = 267 ∧
    Tiles 0 result.rom.toList 256 ∧ Tiles 256 result.ram.toList 267 := by
  have moderate : contested.Moderate := ⟨by decide, by decide⟩
  have romEnd : contested.idealRomEnd = 256 := by decide
  have codeEnd : contested.idealEnd = 267 := by decide
  rcases layout_total rfl moderate with ⟨_, result, success⟩ | ⟨excess, _⟩
  · obtain ⟨_, romTiles, _, ramTiles, ends⟩ := layout_geometry success
    obtain ⟨romStop, codeStop⟩ := ends.mp moderate
    rw [romEnd] at romStop
    rw [codeEnd] at codeStop
    rw [romStop] at romTiles ramTiles
    rw [codeStop] at ramTiles
    exact ⟨result, success, moderate, romStop, codeStop, romTiles, ramTiles⟩
  · omega

end Object

end GlulxAsm
