import GlulxAsm.Proofs.BuildOutcome
import GlulxAsm.Proofs.GeneratedName
import GlulxAsm.Proofs.StringReader
import Mathlib.Data.List.Induction
import Mathlib.Data.List.Nodup

/-! Interning of strings. Whatever is asked of a pool, and in whatever order, a text has one entry and one
counted label; the entries stand in the order in which their texts came up first, and so do the further labels
of each. In a laid-out object the labels of a text stand together with its one block of bytes. -/
namespace GlulxAsm

/-- Only the first of equal items is kept. -/
theorem eraseDups_concat (items : List String) (item : String) :
    (items ++ [item]).eraseDups =
      if item ∈ items then items.eraseDups else items.eraseDups ++ [item] := by
  rw [List.eraseDups_append]
  split
  · next old => simp [List.removeAll, old]
  · next new => simp [List.removeAll, new, List.eraseDups_cons]

theorem nodup_eraseDups (items : List String) : items.eraseDups.Nodup := by
  induction items using List.reverseRecOn with
  | nil => exact List.nodup_nil
  | append_singleton items item ih =>
    rw [eraseDups_concat]
    split
    · exact ih
    · next new =>
      rw [List.nodup_append]
      refine ⟨ih, List.nodup_singleton item, ?_⟩
      intro old member last here same
      rw [List.mem_eraseDups] at member
      rw [List.mem_singleton] at here
      exact new (here ▸ same ▸ member)

namespace StringPool

/-- What is asked of a pool: a text, or a text under a further label. -/
inductive Request where
  | intern (content : String)
  | addAlias (label content : String)
deriving DecidableEq

namespace Request

def content : Request → String
  | intern content => content
  | addAlias _ content => content

/-- The further label that a request gives to a text. -/
def labelOf? (text : String) : Request → Option String
  | intern _ => none
  | addAlias label content => if content = text then some label else none

private theorem filterMap_labelOf? {requests : List Request} {text : String}
    (absent : text ∉ requests.map content) : requests.filterMap (labelOf? text) = [] := by
  rw [List.filterMap_eq_nil_iff]
  intro request member
  have other : request.content ≠ text := by
    rintro rfl
    exact absent (List.mem_map_of_mem member)
  cases request with
  | intern content => rfl
  | addAlias label content => exact if_neg other

end Request

/-- Does what is asked; the answer is the counted label of the text. -/
def serve (pool : StringPool) : Request → StringPool × String
  | .intern content => (pool.intern content).map id label
  | .addAlias further content => (pool.addAlias further content).map id label

/-- Does all that is asked, in order, and collects the answers. -/
def serveAll (pool : StringPool) : List Request → StringPool × List String
  | [] => (pool, [])
  | request :: rest =>
    let (next, answer) := pool.serve request
    let (last, answers) := next.serveAll rest
    (last, answer :: answers)

private theorem serve_extends (pool : StringPool) (request : Request) :
    Extends pool (pool.serve request).1 := by
  cases request with
  | intern content => exact intern_extends pool content
  | addAlias label content => exact addAlias_extends pool label content

theorem serveAll_extends (pool : StringPool) (requests : List Request) :
    Extends pool (pool.serveAll requests).1 := by
  induction requests generalizing pool with
  | nil => exact .refl pool
  | cons request rest ih => exact (serve_extends pool request).trans (ih _)

private theorem serveAll_append (pool : StringPool) (front back : List Request) :
    (pool.serveAll (front ++ back)).1 = ((pool.serveAll front).1.serveAll back).1 := by
  induction front generalizing pool with
  | nil => rfl
  | cons request rest ih => exact ih _

private theorem mem_contents_of_index? {pool : StringPool} {content : String} {index : Nat}
    (found : pool.index? content = some index) : content ∈ pool.contents := by
  obtain ⟨entry, present, rfl⟩ := getElem?_of_index? found
  exact List.mem_map_of_mem (Array.mem_toList_iff.mpr (Array.mem_of_getElem? present))

theorem not_mem_contents_of_index? {pool : StringPool} {content : String}
    (missing : pool.index? content = none) : content ∉ pool.contents := by
  rw [index?_eq, List.findIdx?_eq_none_iff] at missing
  intro member
  simpa using missing content member

private theorem contents_intern (pool : StringPool) (content : String) :
    (pool.intern content).1.contents =
      if content ∈ pool.contents then pool.contents else pool.contents ++ [content] := by
  unfold intern
  split
  · next found => rw [if_pos (mem_contents_of_index? found)]
  · next missing =>
    rw [if_neg (not_mem_contents_of_index? missing)]
    simp [contents]

theorem contents_addAlias (pool : StringPool) (further content : String) :
    (pool.addAlias further content).1.contents = (pool.intern content).1.contents := by
  refine List.ext_getElem? fun index => ?_
  simp only [addAlias, contents, List.getElem?_map, Array.getElem?_toList, Array.getElem?_modify]
  split
  · simp [Option.map_map, Function.comp_def]
  · rfl

/-- The pool holds what requests have brought: the texts in the order of first use, each with its further
labels in the order of first use. -/
structure Holds (pool : StringPool) (requests : List Request) : Prop where
  contents : pool.contents = (requests.map (·.content)).eraseDups
  aliases : ∀ (index : Nat) (entry : Entry), pool.entries[index]? = some entry →
    entry.aliases = (requests.filterMap (·.labelOf? entry.content)).eraseDups

theorem Holds.intern {pool : StringPool} {requests : List Request} (holds : pool.Holds requests)
    (content : String) : (pool.intern content).1.Holds (requests ++ [.intern content]) where
  contents := by
    rw [contents_intern, holds.contents, List.map_append]
    simp only [List.map_cons, List.map_nil, Request.content, eraseDups_concat, List.mem_eraseDups]
  aliases index entry found := by
    rw [List.filterMap_append]
    have same : entry.aliases = (requests.filterMap (·.labelOf? entry.content)).eraseDups := by
      unfold StringPool.intern at found
      split at found
      · exact holds.aliases index entry found
      · next missing =>
        rw [entries_push, Array.getElem?_push] at found
        split at found
        · cases found
          have absent := not_mem_contents_of_index? missing
          rw [holds.contents, List.mem_eraseDups] at absent
          simp [Request.filterMap_labelOf? absent]
        · exact holds.aliases index entry found
    simpa [Request.labelOf?] using same

theorem Holds.contents_nodup {pool : StringPool} {requests : List Request}
    (holds : pool.Holds requests) : pool.contents.Nodup := by
  rw [holds.contents]
  exact nodup_eraseDups _

/-- The index of a text is its place among the distinct texts. -/
theorem Holds.index?_eq_some_iff {pool : StringPool} {requests : List Request}
    (holds : pool.Holds requests) (content : String) (index : Nat) :
    pool.index? content = some index ↔
      (requests.map (·.content)).eraseDups[index]? = some content := by
  rw [← holds.contents]
  have known {other : Nat} (found : pool.index? content = some other) :
      pool.contents[other]? = some content := by
    obtain ⟨entry, present, rfl⟩ := getElem?_of_index? found
    simp [StringPool.contents, present]
  constructor
  · exact known
  · intro present
    cases found : pool.index? content with
    | none =>
      have absent := not_mem_contents_of_index? found
      exact absurd (List.mem_of_getElem? present) absent
    | some other =>
      have bound := (List.getElem?_eq_some_iff.mp present).1
      have same := (List.getElem?_inj bound holds.contents_nodup).mp (present.trans (known found).symm)
      rw [same]

/-- The entry at the place of a text holds it and its further labels. -/
theorem Holds.entry {pool : StringPool} {requests : List Request} (holds : pool.Holds requests)
    {content : String} {index : Nat}
    (found : (requests.map (·.content)).eraseDups[index]? = some content) :
    pool.entries[index]? =
      some ⟨content, (requests.filterMap (·.labelOf? content)).eraseDups⟩ := by
  obtain ⟨entry, present, rfl⟩ :=
    getElem?_of_index? ((holds.index?_eq_some_iff content index).mpr found)
  rw [present, ← holds.aliases index entry present]

/-- No text stands twice. -/
theorem Holds.index_unique {pool : StringPool} {requests : List Request} (holds : pool.Holds requests)
    {first second : Nat} {one two : Entry} (here : pool.entries[first]? = some one)
    (there : pool.entries[second]? = some two) (same : one.content = two.content) :
    first = second := by
  have bound : first < pool.contents.length := by
    simpa [StringPool.contents] using (Array.getElem?_eq_some_iff.mp here).1
  refine (List.getElem?_inj bound holds.contents_nodup).mp ?_
  simp [StringPool.contents, here, there, same]

private theorem Entry.aliases_addAlias (entry : Entry) (further : String) :
    (entry.addAlias further).aliases =
      if further ∈ entry.aliases then entry.aliases else entry.aliases ++ [further] := by
  unfold Entry.addAlias
  split <;> rfl

theorem Holds.addAlias {pool : StringPool} {requests : List Request} (holds : pool.Holds requests)
    (further content : String) :
    (pool.addAlias further content).1.Holds (requests ++ [.addAlias further content]) := by
  have interned := holds.intern content
  obtain ⟨own, placed, text⟩ := getElem?_of_index? (index?_intern pool content)
  refine ⟨?_, fun index entry found => ?_⟩
  · rw [contents_addAlias, interned.contents, List.map_append, List.map_append]
    rfl
  have before := interned.aliases index
  simp only [List.filterMap_append, List.filterMap_cons, List.filterMap_nil, Request.labelOf?,
    List.append_nil] at before ⊢
  simp only [StringPool.addAlias, Array.getElem?_modify] at found
  split at found
  · next same =>
    -- the entry of the text: the label counts here
    rw [← same, placed, Option.map_some, Option.some.injEq] at found
    subst found
    rw [← same] at before
    rw [own.content_addAlias further, if_pos text.symm, Entry.aliases_addAlias,
      eraseDups_concat, before own placed]
    simp only [List.mem_eraseDups]
  · next other =>
    have elsewhere : content ≠ entry.content := fun same =>
      other (interned.index_unique placed found (text.trans same))
    rw [if_neg elsewhere, before entry found, List.append_nil]

theorem Holds.serve {pool : StringPool} {requests : List Request} (holds : pool.Holds requests)
    (request : Request) : (pool.serve request).1.Holds (requests ++ [request]) := by
  cases request with
  | intern content => exact holds.intern content
  | addAlias further content => exact holds.addAlias further content

theorem Holds.serveAll {pool : StringPool} {requests : List Request} (holds : pool.Holds requests)
    (more : List Request) : (pool.serveAll more).1.Holds (requests ++ more) := by
  induction more generalizing pool requests with
  | nil =>
    rw [List.append_nil]
    exact holds
  | cons request rest ih =>
    rw [List.append_cons]
    exact ih (holds.serve request)

private theorem holds_empty : ({} : StringPool).Holds [] where
  contents := rfl
  aliases index entry found := by simp at found

/-- The answer to a request is the label of the text's index, then and ever after. -/
theorem serve_answer (pool : StringPool) (request : Request) (more : List Request) :
    ∃ index, ((pool.serve request).1.serveAll more).1.index? request.content = some index ∧
      (pool.serve request).2 = label index := by
  have later := serveAll_extends (pool.serve request).1 more
  cases request with
  | intern content => exact ⟨_, later.index?_eq (index?_intern pool content), rfl⟩
  | addAlias further content =>
    refine ⟨_, later.index?_eq ?_, rfl⟩
    have known := index?_intern pool content
    rw [StringPool.index?_eq] at known ⊢
    exact (contents_addAlias pool further content).symm ▸ known

/-- Each request is answered with the label of its text's index. -/
theorem serveAll_answers (pool : StringPool) (requests : List Request) :
    List.Forall₂ (fun request answer => ∃ index,
      (pool.serveAll requests).1.index? request.content = some index ∧ answer = label index)
      requests (pool.serveAll requests).2 := by
  induction requests generalizing pool with
  | nil => exact .nil
  | cons request rest ih => exact .cons (serve_answer pool request rest) (ih _)

/-- The pool that requests make of an empty one. -/
def pooled (requests : List Request) : StringPool := (({} : StringPool).serveAll requests).1

/-- What requests to an empty pool are told. -/
def told (requests : List Request) : List String := (({} : StringPool).serveAll requests).2

theorem holds_pooled (requests : List Request) : (pooled requests).Holds requests :=
  holds_empty.serveAll requests

private theorem pooled_extends (requests more : List Request) :
    (pooled requests).Extends (pooled (requests ++ more)) := by
  rw [pooled, pooled, serveAll_append]
  exact serveAll_extends _ more

/-- Each request is told the label of its text's place among the distinct texts. -/
theorem told_label (requests : List Request) :
    List.Forall₂ (fun request answer => ∃ index,
      (requests.map (·.content)).eraseDups[index]? = some request.content ∧ answer = label index)
      requests (told requests) := by
  refine (serveAll_answers {} requests).imp ?_
  rintro request answer ⟨index, known, rfl⟩
  exact ⟨index, ((holds_pooled requests).index?_eq_some_iff _ _).mp known, rfl⟩

/-- Two requests are told the same label if and only if they are for the same text. -/
theorem told_eq_iff {requests : List Request} {one two : Request × String}
    (here : one ∈ requests.zip (told requests)) (there : two ∈ requests.zip (told requests)) :
    one.2 = two.2 ↔ one.1.content = two.1.content := by
  obtain ⟨first, known, answer⟩ := List.forall₂_zip (told_label requests) here
  obtain ⟨second, present, other⟩ := List.forall₂_zip (told_label requests) there
  rw [answer, other]
  constructor
  · intro same
    rw [label_injective same, present] at known
    exact (Option.some.inj known).symm
  · intro same
    have bound := (List.getElem?_eq_some_iff.mp known).1
    rw [← same, ← known] at present
    rw [(List.getElem?_inj bound (nodup_eraseDups _)).mp present.symm]

open Fragment

/-- A text further back starts behind the bytes of an earlier one. -/
theorem totalSize_front_lt {pool : StringPool} {first second : Nat} {entry : Entry}
    (found : pool.entries[first]? = some entry) (order : first < second) :
    totalSize (pool.front first) + (block entry.content).size.toNat ≤
      totalSize (pool.front second) := by
  obtain ⟨back, split⟩ := front_split found order
  rw [split, totalSize_append, totalSize_append, totalSize_cons]
  omega

end StringPool

namespace Fragment

/-- Fragments without bytes, placed in a row, all have the position of the row. -/
theorem eq_map_of_flat {position : UInt32} {stop : Nat} {fragments placed : List Fragment}
    (alike : List.Forall₂ Alike fragments placed) (tiles : Tiles position.toNat placed stop)
    (empty : ∀ fragment ∈ fragments, fragment.size = 0) :
    stop = position.toNat ∧
      placed = fragments.map fun fragment => { fragment with position := some position } := by
  induction alike with
  | nil =>
    cases tiles
    exact ⟨rfl, rfl⟩
  | @cons one two _ _ head _ ih =>
    rw [List.forall_mem_cons] at empty
    cases tiles with
    | @cons _ _ start _ _ placed starts behind =>
      have flat : two.size.toNat = 0 := congrArg UInt32.toNat (head.size_eq.trans empty.1)
      rw [flat, Nat.add_zero] at behind
      obtain ⟨same, rest⟩ := ih behind empty.2
      have whole := head.eq_of_position (placed.trans (congrArg some (UInt32.toNat.inj starts)))
      exact ⟨same, by rw [List.map_cons, ← rest, whole]⟩

end Fragment

namespace Object

open Fragment StringPool

/-- Where the bytes of an entry go, if there is room. -/
def stringPosition (object : Object) (index : Nat) : Nat :=
  Header.size + totalSize object.rom.toList + totalSize (object.strings.front index)

/-- A string in its place: its labels and then its bytes, all at one position. -/
def stored (position : UInt32) (names : List String) (bytes : List UInt8) : List Fragment :=
  names.map (fun name =>
    { body := .label { name, kind := .string }, loc := .builtIn, position := some position }) ++
  [{ body := .data ⟨bytes⟩, loc := .builtIn, position := some position }]

/-- An entry that is placed in a row comes to stand behind all that is in front of it. -/
theorem stored_of_tiles {front back placed : List Fragment} {names : List String} {content : String}
    {stop : UInt32} (alike : List.Forall₂ Alike
      (front ++ (marks names ++ block content :: back)) placed)
    (tiles : Tiles 0 placed stop.toNat) :
    totalSize front + (block content).size.toNat ≤ stop.toNat ∧
      stored (UInt32.ofNat (totalSize front)) names (Data.string content).bytes <:+: placed := by
  obtain ⟨before, _, rfl, frontAlike, restAlike⟩ := forall₂_append_left alike
  obtain ⟨among, _, rfl, marksAlike, behindAlike⟩ := forall₂_append_left restAlike
  obtain ⟨text, others, textAlike, _, rfl⟩ := List.forall₂_cons_left_iff.mp behindAlike
  obtain ⟨start, frontTiles, restTiles⟩ := tiles.split
  obtain ⟨middle, marksTiles, textTiles⟩ := restTiles.split
  obtain rfl : start = totalSize front := by
    rw [frontTiles.stop_eq, totalSize_eq_of_alike frontAlike, Nat.zero_add]
  have word : (UInt32.ofNat (totalSize front)).toNat = totalSize front := by
    refine UInt32.toNat_ofNat_of_lt' (Nat.lt_of_le_of_lt ?_ stop.toNat_lt)
    rw [restTiles.stop_eq]
    exact Nat.le_add_right _ _
  rw [← word] at marksTiles
  obtain ⟨rfl, marked⟩ := eq_map_of_flat marksAlike marksTiles (size_marks _)
  cases textTiles with
  | cons here starts further =>
    refine ⟨?_, before, others, ?_⟩
    · have ends := further.stop_eq
      rw [word, textAlike.size_eq] at ends
      omega
    · rw [marked, textAlike.eq_of_position (here.trans (congrArg some (UInt32.toNat.inj starts)))]
      simp [stored, marks, block]

theorem layout_stored {object result : Object} {index : Nat} {entry : Entry}
    (success : layout.run object = .ok () result)
    (found : object.strings.entries[index]? = some entry) :
    object.stringPosition index + (block entry.content).size.toNat ≤ result.romEnd.toNat ∧
      stored (UInt32.ofNat (object.stringPosition index)) (entry.aliases ++ [label index])
        (Data.string entry.content).bytes <:+: result.rom.toList := by
  obtain ⟨_, romSize, romEnd, _, romFits, rounded, _, rfl⟩ := layout_ok success
  obtain ⟨back, split⟩ := fragments_split found
  have whole : object.fullRom = (filler Header.size :: object.rom.toList ++
      object.strings.front index) ++
        (marks (entry.aliases ++ [label index]) ++ block entry.content :: back) := by
    rw [fullRom, split, List.append_assoc]
    rfl
  have front : totalSize (filler Header.size :: object.rom.toList ++ object.strings.front index) =
      object.stringPosition index := by
    rw [totalSize_append, totalSize_cons, filler, reserve_size rfl, stringPosition]
  have contents := place_contents 0 object.symbols object.fullRom
  nth_rewrite 1 [whole] at contents
  obtain ⟨room, placed⟩ := stored_of_tiles contents (place_tiles romFits)
  rw [front] at room placed
  have order : romSize.toNat ≤ romEnd.toNat := by
    rw [Page.roundUp?_some rounded]
    exact Page.le_roundUp _
  refine ⟨Nat.le_trans room order, placed.trans ?_⟩
  simp only [Array.toList_push]
  exact (List.prefix_append ..).isInfix

theorem layout_stringPosition {object result : Object} {index : Nat} {entry : Entry}
    (success : layout.run object = .ok () result)
    (found : object.strings.entries[index]? = some entry) :
    (UInt32.ofNat (object.stringPosition index)).toNat = object.stringPosition index := by
  have room := (layout_stored success found).1
  exact UInt32.toNat_ofNat_of_lt'
    (Nat.lt_of_le_of_lt (Nat.le_of_add_right_le room) result.romEnd.toNat_lt)

/-- Layout counts the bytes of a text in 32 bits. -/
theorem size_block (content : String) :
    (block content).size.toNat = (Data.string content).bytes.length % 0x100000000 :=
  UInt32.toNat_ofNat

/-- Room for the bytes that layout counts is room for all of them unless the count wraps around. -/
theorem room_iff {content : String} {start stop : Nat} (small : stop < 0x100000000)
    (room : start + (block content).size.toNat ≤ stop) :
    start + (Data.string content).bytes.length ≤ stop ↔
      (Data.string content).bytes.length < 0x100000000 := by
  rw [size_block] at room
  constructor
  · intro fits
    omega
  · intro short
    rwa [Nat.mod_eq_of_lt short] at room

end Object

namespace StringPool

open Object

/-- A pool that serves any requests keeps one entry for each text, finds it through its index and tells its
label to all who ask for it. After layout each text stands once in ROM, all its labels in front of its bytes
and at their position, before the end of ROM and before the next text. Layout counts bytes in 32 bits, and
these bounds hold exactly as long as the bytes of the text can be counted so. -/
theorem pooled_shares (requests : List Request) :
    (pooled requests).Holds requests ∧
    (∀ content index, (pooled requests).index? content = some index ↔
      (requests.map (·.content)).eraseDups[index]? = some content) ∧
    List.Forall₂ (fun request answer => ∃ index,
      (requests.map (·.content)).eraseDups[index]? = some request.content ∧ answer = label index)
      requests (told requests) ∧
    (∀ one ∈ requests.zip (told requests), ∀ two ∈ requests.zip (told requests),
      one.2 = two.2 ↔ one.1.content = two.1.content) ∧
    (∀ more, (pooled requests).Extends (pooled (requests ++ more))) ∧
    ∀ object result : Object, object.strings = pooled requests →
      layout.run object = .ok () result → ∃ position : Nat → UInt32, ∀ index entry,
        (pooled requests).entries[index]? = some entry → ∃ bytes,
          StringCode.encode .automatic entry.content = .ok bytes ∧
          stored (position index) (entry.aliases ++ [label index]) bytes <:+: result.rom.toList ∧
          ((position index).toNat + bytes.length ≤ result.romEnd.toNat ↔
            bytes.length < 0x100000000) ∧
          ∀ later another, index < later → (pooled requests).entries[later]? = some another →
            ((position index).toNat + bytes.length ≤ (position later).toNat ↔
              bytes.length < 0x100000000) := by
  have holds := holds_pooled requests
  refine ⟨holds, holds.index?_eq_some_iff, told_label requests,
    fun one here two there => told_eq_iff here there, pooled_extends requests, ?_⟩
  intro object result same success
  rw [← same]
  refine ⟨fun index => UInt32.ofNat (object.stringPosition index), fun index entry found =>
    ⟨(Data.string entry.content).bytes, rfl, ?_⟩⟩
  obtain ⟨room, placed⟩ := layout_stored success found
  refine ⟨placed, ?_, fun later another order present => ?_⟩
  · rw [layout_stringPosition success found]
    exact room_iff result.romEnd.toNat_lt room
  · rw [layout_stringPosition success found]
    refine room_iff (UInt32.toNat_lt _) ?_
    rw [layout_stringPosition success present, stringPosition, stringPosition, Nat.add_assoc]
    exact Nat.add_le_add_left (totalSize_front_lt found order) _

/-- Two texts, one of them under further labels, and each asked for again. -/
def exchange : List Request :=
  [.intern "a", .addAlias "x" "b", .intern "a", .addAlias "y" "b", .addAlias "x" "b"]

theorem pooled_shares_exchange :
    told exchange = ["_string0", "_string1", "_string0", "_string1", "_string1"] ∧
    (pooled exchange).entries = #[⟨"a", []⟩, ⟨"b", ["x", "y"]⟩] ∧
    ∃ result, layout.run { strings := pooled exchange } = .ok () result ∧
      ∃ (position : Nat → UInt32) (bytes : List UInt8),
        StringCode.encode .automatic "b" = .ok bytes ∧
        stored (position 1) ["x", "y", "_string1"] bytes <:+: result.rom.toList ∧
        ((position 1).toNat + bytes.length ≤ result.romEnd.toNat ↔ bytes.length < 0x100000000) := by
  have entries : (pooled exchange).entries = #[⟨"a", []⟩, ⟨"b", ["x", "y"]⟩] := by decide +kernel
  have moderate : ({ strings := pooled exchange } : Object).Moderate := {
    fragments := by simp
    strings := by
      simp only [StringPool.contents, entries, List.map_cons, List.map_nil, List.forall_mem_cons]
      exact ⟨by decide, by decide, by simp⟩ }
  have room : ({ strings := pooled exchange } : Object).idealEnd < 0x100000000 := by decide +kernel
  obtain ⟨_, result, success⟩ := (layout_total rfl moderate).resolve_right
    fun full => absurd full.1 (Nat.not_le_of_lt room)
  obtain ⟨_, _, _, _, _, laidOut⟩ := pooled_shares exchange
  obtain ⟨position, strings⟩ := laidOut _ result rfl success
  obtain ⟨bytes, coded, together, inside, _⟩ := strings 1 ⟨"b", ["x", "y"]⟩ (by rw [entries]; rfl)
  exact ⟨by decide +kernel, entries, result, success, position, bytes, coded, together, inside⟩

/-- An object without fragments of its own can be counted if its texts can. -/
private theorem countable_of_contents {pool : StringPool}
    (small : ∀ content ∈ pool.contents, (Data.string content).bytes.length < 0x10000000000000000) :
    ({ strings := pool } : Object).Countable := by
  intro fragment member
  simp only [fullRom, List.cons_append, List.nil_append, List.append_nil, List.mem_cons] at member
  rcases member with rfl | inside
  · exact .of_extent_lt (by decide)
  · rcases extent_fragments inside with flat | ⟨content, present, rfl⟩
    · exact .of_extent_lt (by omega)
    · exact small content present

/-- A text whose bytes are counted as none does not keep layout from succeeding, but the bytes reach behind
the end of ROM and the next text starts among them. -/
private theorem overlaps_of_length {text : String}
    (long : (Data.string text).bytes.length = 0x100000000) :
    ∃ result, layout.run { strings := pooled [.intern text, .intern "b"] } = .ok () result ∧
    ∃ (position later : UInt32) (bytes others : List UInt8),
      StringCode.encode .automatic text = .ok bytes ∧
      StringCode.encode .automatic "b" = .ok others ∧
      stored position ["_string0"] bytes <:+: result.rom.toList ∧
      stored later ["_string1"] others <:+: result.rom.toList ∧
      result.romEnd.toNat < position.toNat + bytes.length ∧
      position ≤ later ∧ later.toNat < position.toNat + bytes.length := by
  have short : (Data.string "b").bytes.length = 3 := by decide
  have other : "b" ≠ text := by
    rintro rfl
    rw [short] at long
    cases long
  have distinct : [text, "b"].eraseDups = [text, "b"] := by
    simp [List.eraseDups_cons, other]
  have holds := holds_pooled [.intern text, .intern "b"]
  have contents : (pooled [.intern text, .intern "b"]).contents = [text, "b"] :=
    holds.contents.trans distinct
  have first : (pooled [.intern text, .intern "b"]).entries[0]? = some ⟨text, []⟩ :=
    holds.entry (congrArg (·[0]?) distinct)
  have second : (pooled [.intern text, .intern "b"]).entries[1]? = some ⟨"b", []⟩ :=
    holds.entry (congrArg (·[1]?) distinct)
  generalize pooled [.intern text, .intern "b"] = pool at *
  have countable : ({ strings := pool } : Object).Countable := by
    apply countable_of_contents
    rw [contents, List.forall_mem_cons, List.forall_mem_singleton, long, short]
    decide
  have room : ({ strings := pool } : Object).demand < 0x100000000 := by
    rw [demand, totalSize_fullRom, totalSize_fragments, contents]
    simp only [List.map_cons, List.map_nil, Fragment.totalSize_cons, size_block, long, short]
    decide
  obtain ⟨_, result, success⟩ := (countable.layout_total rfl).resolve_right
    fun full => absurd full.1 (Nat.not_le_of_lt room)
  obtain ⟨_, together⟩ := layout_stored success first
  obtain ⟨fits, behind⟩ := layout_stored success second
  have order := totalSize_front_lt first (Nat.zero_lt_one)
  have here := layout_stringPosition success first
  have there := layout_stringPosition success second
  have bound := result.romEnd.toNat_lt
  refine ⟨result, success, _, _, (Data.string text).bytes, (Data.string "b").bytes, rfl, rfl, together,
    behind, ?_, ?_, ?_⟩
  · rw [long]
    omega
  · rw [UInt32.le_iff_toNat_le, here, there]
    simp only [stringPosition]
    omega
  · rw [long, there]
    omega

private theorem length_string_replicate (count : Nat) :
    (Data.string (String.ofList (List.replicate count 'a'))).bytes.length = count + 2 := by
  have ascii : ∀ c ∈ List.replicate count 'a', c.toNat ≤ 0x7f := by
    intro c member
    rw [List.eq_of_mem_replicate member]
    decide
  rw [Data.string, String.toList_ofList, StringCode.automaticBytes_of_ascii ascii,
    StringCode.basicBytes]
  simp

/-- A text of letters that takes 2^32 bytes. -/
def giant : String := String.ofList (List.replicate 0xfffffffe 'a')

/-- A text of 2^32 bytes counts as none: layout succeeds, but the bytes reach behind the end of ROM and the
next text starts among them. -/
theorem pooled_overlaps : ∃ result,
    layout.run { strings := pooled [.intern giant, .intern "b"] } = .ok () result ∧
    ∃ (position later : UInt32) (bytes others : List UInt8),
      StringCode.encode .automatic giant = .ok bytes ∧
      StringCode.encode .automatic "b" = .ok others ∧
      stored position ["_string0"] bytes <:+: result.rom.toList ∧
      stored later ["_string1"] others <:+: result.rom.toList ∧
      result.romEnd.toNat < position.toNat + bytes.length ∧
      position ≤ later ∧ later.toNat < position.toNat + bytes.length :=
  overlaps_of_length (length_string_replicate 0xfffffffe)

end StringPool

end GlulxAsm
