import GlulxAsm.Proofs.Consistency
import GlulxAsm.Proofs.Provenance
import GlulxAsm.Proofs.Reference

/-! Names that the assembler makes up. A string literal travels under the counted label of its text, and
the start of RAM under a label of its own. These labels share one table with those of the program, and
nothing reserves them: they reach the image as meant as long as the program puts no constant and no
earlier label in front of them. -/
namespace GlulxAsm

namespace StringPool

theorem toList_label (index : Nat) :
    (label index).toList = "_string".toList ++ (toString index).toList := String.toList_append

/-- A counted label tells its number. -/
theorem ofDigitChars_label (index : Nat) :
    Nat.ofDigitChars 10 ((label index).toList.drop "_string".length) 0 = index := by
  rw [toList_label, List.drop_left' (by decide)]
  simp

theorem label_injective {one two : Nat} (same : label one = label two) : one = two := by
  rw [← ofDigitChars_label two, ← same, ofDigitChars_label]

private theorem label_ne_startOfRam (index : Nat) : label index ≠ Object.startOfRam := by
  intro same
  have fourth := congrArg (fun name => name.toList[3]?) same
  simp only [toList_label] at fourth
  rw [List.getElem?_append_left (by decide)] at fourth
  exact absurd fourth (by decide)

/-- The fragments of the first entries. -/
def front (pool : StringPool) (count : Nat) : List Fragment :=
  ((pool.entries.toList.take count).zipIdx.map fun (entry, index) =>
    entryFragments index entry).flatten

theorem front_size (pool : StringPool) : pool.front pool.entries.size = pool.fragments := by
  rw [front, fragments, ← Array.length_toList, List.take_length]

/-- The labels of a text, without its bytes. -/
def marks (names : List String) : List Fragment :=
  names.map fun name => { body := .label { name, kind := .string }, loc := .builtIn }

theorem size_marks (names : List String) : ∀ fragment ∈ marks names, fragment.size = 0 := by
  intro fragment member
  obtain ⟨name, _, rfl⟩ := List.mem_map.mp member
  rfl

private theorem labels_marks {names : List String} {name : String} (member : name ∈ names) :
    ∃ fragment ∈ marks names, Fragment.labels name fragment = true :=
  ⟨_, List.mem_map_of_mem member, by simp [Fragment.labels, Fragment.label?]⟩

/-- The labels of an entry and then its bytes stand behind the entries before it. -/
theorem front_split {pool : StringPool} {index count : Nat} {entry : Entry}
    (found : pool.entries[index]? = some entry) (inside : index < count) :
    ∃ back, pool.front count = pool.front index ++
      (marks (entry.aliases ++ [label index]) ++ block entry.content :: back) := by
  have before : pool.entries.toList.take index = (pool.entries.toList.take count).take index := by
    rw [List.take_take, Nat.min_eq_left (Nat.le_of_lt inside)]
  rw [← Array.getElem?_toList, ← List.getElem?_take_of_lt inside] at found
  rw [front, front, before]
  generalize pool.entries.toList.take count = entries at found
  obtain ⟨bound, rfl⟩ := List.getElem?_eq_some_iff.mp found
  have parts : entries = entries.take index ++ entries[index] :: entries.drop (index + 1) := by
    rw [← List.drop_eq_getElem_cons bound, List.take_append_drop]
  have length : (entries.take index).length = index := by
    rw [List.length_take]
    omega
  nth_rewrite 1 [parts]
  rw [List.zipIdx_append, List.map_append, List.flatten_append, List.zipIdx_cons, List.map_cons,
    List.flatten_cons, length, Nat.zero_add]
  dsimp only
  rw [entryFragments, List.append_assoc]
  exact ⟨_, rfl⟩

theorem fragments_split {pool : StringPool} {index : Nat} {entry : Entry}
    (found : pool.entries[index]? = some entry) :
    ∃ back, pool.fragments = pool.front index ++
      (marks (entry.aliases ++ [label index]) ++ block entry.content :: back) := by
  rw [← front_size]
  exact front_split found (Array.getElem?_eq_some_iff.mp found).1

end StringPool

namespace Fragment

theorem Tiles.split {start stop : Nat} {front back : List Fragment}
    (tiles : Tiles start (front ++ back) stop) :
    ∃ middle, Tiles start front middle ∧ Tiles middle back stop := by
  induction front generalizing start with
  | nil => exact ⟨start, .nil start, tiles⟩
  | cons fragment rest ih =>
    cases tiles with
    | cons placed here behind =>
      obtain ⟨middle, one, two⟩ := ih behind
      exact ⟨middle, .cons placed here one, two⟩

/-- Fragments without bytes all stand at one position. -/
theorem Tiles.flat {start stop : Nat} {fragments : List Fragment} (tiles : Tiles start fragments stop)
    (empty : ∀ fragment ∈ fragments, fragment.size = 0) :
    stop = start ∧ ∀ fragment ∈ fragments, ∃ position,
      fragment.position = some position ∧ position.toNat = start := by
  have total : totalSize fragments = 0 := by
    clear tiles
    induction fragments with
    | nil => rfl
    | cons fragment rest ih =>
      rw [List.forall_mem_cons] at empty
      rw [totalSize_cons, empty.1, ih empty.2]
      rfl
  have same : stop = start := by
    rw [tiles.stop_eq, total, Nat.add_zero]
  refine ⟨same, ?_⟩
  intro fragment member
  obtain ⟨position, placed, least, most⟩ := tiles.bounds member
  exact ⟨position, placed, by omega⟩

end Fragment

namespace Object

open Fragment

/-- No constant has the name, no label in ROM, and no further label of the first strings. -/
structure Unclaimed (object : Object) (name : String) (strings : Nat) : Prop where
  constant : object.constants.get? name = none
  rom : ∀ fragment ∈ object.rom.toList, labels name fragment = false
  aliases : ∀ entry ∈ object.strings.entries.toList.take strings, name ∉ entry.aliases

instance (object : Object) (name : String) (strings : Nat) :
    Decidable (object.Unclaimed name strings) :=
  decidable_of_iff (object.constants.get? name = none ∧
      (∀ fragment ∈ object.rom.toList, labels name fragment = false) ∧
      ∀ entry ∈ object.strings.entries.toList.take strings, name ∉ entry.aliases)
    ⟨fun ⟨constant, rom, aliases⟩ => ⟨constant, rom, aliases⟩,
      fun ⟨constant, rom, aliases⟩ => ⟨constant, rom, aliases⟩⟩

theorem Unclaimed.front {object : Object} {name : String} {strings : Nat}
    (unclaimed : object.Unclaimed name strings)
    (uncounted : ∀ index < strings, StringPool.label index ≠ name) :
    ∀ fragment ∈ filler Header.size :: object.rom.toList ++ object.strings.front strings,
      labels name fragment = false := by
  intro fragment member
  rcases List.mem_append.mp member with inRom | inStrings
  · rcases List.mem_cons.mp inRom with rfl | collected
    · rfl
    · exact unclaimed.rom fragment collected
  · simp only [StringPool.front, List.mem_flatten, List.mem_map] at inStrings
    obtain ⟨_, ⟨⟨entry, index⟩, found, rfl⟩, part⟩ := inStrings
    obtain ⟨inside, same⟩ := List.mem_zipIdx' found
    have early : index < strings := by
      rw [List.length_take] at inside
      omega
    have listed : entry ∈ object.strings.entries.toList.take strings := by
      rw [same]
      exact List.getElem_mem inside
    simp only [StringPool.entryFragments, List.mem_append, List.mem_map, List.mem_singleton] at part
    rcases part with ⟨further, given | rfl, rfl⟩ | rfl
    · have other : further ≠ name := by
        rintro rfl
        exact unclaimed.aliases entry listed given
      simp [labels, label?, other]
    · simp [labels, label?, uncounted index early]
    · rfl

private theorem mem_of_find?_middle {test : Fragment → Bool} {front middle back : List Fragment}
    {found : Fragment} (failing : ∀ fragment ∈ front, test fragment = false)
    (passing : ∃ fragment ∈ middle, test fragment = true)
    (first : (front ++ (middle ++ back)).find? test = some found) : found ∈ middle := by
  have skipped : front.find? test = none := by simpa using failing
  rw [List.find?_append, skipped, Option.none_or, List.find?_append] at first
  cases here : middle.find? test with
  | none =>
    obtain ⟨fragment, member, passes⟩ := passing
    exact absurd passes (List.find?_eq_none.mp here fragment member)
  | some one =>
    rw [here] at first
    cases first
    exact List.mem_of_find?_eq_some here

/-- A name that no fragment in front has stands for the position of the first fragments that have it, if
these take no bytes. What follows them starts there too. -/
theorem Laid.stands_at {object : Object} (laid : object.Laid) {front named back : List Fragment}
    {constants : ConstantTable} {name : String} {value : Int32}
    (settles : List.Forall₂ object.Settles (front ++ (named ++ back))
      (object.rom.toList ++ object.ram.toList))
    (free : ∀ fragment ∈ front, labels name fragment = false)
    (labelled : ∃ fragment ∈ named, labels name fragment = true)
    (empty : ∀ fragment ∈ named, fragment.size = 0) (unset : constants.get? name = none)
    (stands : Stands constants (object.rom.toList ++ object.ram.toList) name value) :
    ∃ (before among behind : List Fragment) (position : UInt32),
      object.rom.toList ++ object.ram.toList = before ++ (among ++ behind) ∧
      before.length = front.length ∧ List.Forall₂ object.Settles back behind ∧
      Tiles 0 before position.toNat ∧ Tiles position.toNat behind object.codeSize.toNat ∧
      value = position.toInt32 := by
  obtain ⟨before, rest, whole, frontSettles, restSettles⟩ := forall₂_append_left settles
  obtain ⟨among, behind, rfl, namedSettles, backSettles⟩ := forall₂_append_left restSettles
  have tiles := laid.rom.append laid.ram
  rw [whole] at tiles
  obtain ⟨start, beforeTiles, restTiles⟩ := tiles.split
  obtain ⟨stop, amongTiles, behindTiles⟩ := restTiles.split
  obtain ⟨rfl, still⟩ := amongTiles.flat (forall_mem_of_forall₂ namedSettles empty
    fun one two settled none => by rw [size, settled.extent_eq]; exact none)
  cases stands with
  | constant known => simp [ConstantTable.value?, unset] at known
  | @label label position _ first placed =>
    have unnamed : ∀ fragment ∈ before, labels name fragment = false :=
      forall_mem_of_forall₂ frontSettles free
        fun one two settled plain => by rw [labels, settled.label?_eq]; exact plain
    have given : ∃ fragment ∈ among, labels name fragment = true := by
      obtain ⟨fragment, listed, has⟩ := labelled
      obtain ⟨index, found⟩ := List.getElem?_of_mem listed
      obtain ⟨other, present, settled⟩ := forall₂_getElem? namedSettles found
      exact ⟨other, List.mem_of_getElem? present, by rw [labels, settled.label?_eq]; exact has⟩
    rw [whole] at first
    obtain ⟨same, again, here⟩ := still label (mem_of_find?_middle unnamed given first)
    obtain rfl : same = position := Option.some.inj (again.symm.trans placed)
    rw [← here] at beforeTiles behindTiles
    exact ⟨before, among, behind, same, whole, frontSettles.length_eq.symm, backSettles, beforeTiles,
      behindTiles, rfl⟩

section Build

variable {object result : Object} {image : Image} {value : Int32}

/-- The label of a string that the program leaves alone stands for the address of its text. -/
theorem build_string (sound : object.Sound) (fresh : object.stage = .accumulating)
    (success : build.run object = .ok image result) {content : String} {index : Nat}
    (pooled : object.strings.index? content = some index)
    (unclaimed : object.Unclaimed (StringPool.label index) index)
    (stands : Stands object.constants (result.rom.toList ++ result.ram.toList)
      (StringPool.label index) value) :
    StringCode.automaticBytes content.toList <+: image.bytes.drop value.toUInt32.toNat := by
  obtain ⟨entry, found, rfl⟩ := StringPool.getElem?_of_index? pooled
  have laid := build_laid sound success
  obtain ⟨gap, rom, ram⟩ := build_segments fresh success
  obtain ⟨later, parts⟩ := StringPool.fragments_split found
  have settles := List.rel_append rom ram
  rw [fullRom, parts] at settles
  simp only [List.append_assoc, List.cons_append, List.nil_append] at settles
  rw [← List.append_assoc, ← List.cons_append] at settles
  have free := unclaimed.front fun earlier before same =>
    absurd (StringPool.label_injective same) (Nat.ne_of_lt before)
  have labelled := StringPool.labels_marks (List.mem_append_right entry.aliases
    (List.mem_singleton_self (StringPool.label index)))
  obtain ⟨before, among, behind, position, whole, count, backSettles, _, tiles, rfl⟩ :=
    laid.stands_at settles free labelled (StringPool.size_marks _) unclaimed.constant stands
  cases backSettles with
  | @cons _ block _ others settled _ =>
    cases tiles with
    | @cons _ _ there _ _ placed here _ =>
      obtain rfl : there = position := UInt32.toNat_inj.mp here
      have text : block.body = .data (.string entry.content) := settled.eq_of_data
      have written : block.WrittenIn image.bytes := by
        apply build_written sound success
        have some : before ≠ [] := List.ne_nil_of_length_pos (by simp [count])
        rw [whole, List.tail_append_of_ne_nil some]
        simp
      obtain ⟨_, emission, _⟩ := written.emit_body placed
      obtain ⟨same, again, emitted⟩ := written
      obtain rfl : there = same := Option.some.inj (placed.symm.trans again)
      have bytes : StringCode.automaticBytes entry.content.toList =
          (image.bytes.drop there.toNat).take block.size.toNat := by
        rw [emission, text] at emitted
        exact congrArg Emission.bytes emitted
      rw [bytes]
      exact List.take_prefix ..

/-- A start of RAM that the program leaves alone stands for the start of RAM. -/
theorem build_startOfRam (sound : object.Sound) (fresh : object.stage = .accumulating)
    (success : build.run object = .ok image result) {rest : List Fragment}
    (marked : object.ram.toList =
      { body := .label { name := startOfRam, kind := .builtIn }, loc := .builtIn } :: rest)
    (unclaimed : object.Unclaimed startOfRam object.strings.entries.size)
    (stands : Stands object.constants (result.rom.toList ++ result.ram.toList) startOfRam value) :
    value.toUInt32 = image.header.ramStart := by
  have laid := build_laid sound success
  obtain ⟨gap, rom, ram⟩ := build_segments fresh success
  have free := unclaimed.front fun index _ => StringPool.label_ne_startOfRam index
  rw [StringPool.front_size] at free
  have settles := List.rel_append rom ram
  rw [marked] at settles
  have front : ∀ fragment ∈ object.fullRom ++ [filler gap], labels startOfRam fragment = false := by
    intro fragment member
    rcases List.mem_append.mp member with inRom | zeros
    · exact free fragment inRom
    · rw [List.mem_singleton.mp zeros]
      rfl
  obtain ⟨before, among, behind, position, whole, count, _, tiles, _, rfl⟩ :=
    laid.stands_at settles front ⟨_, List.mem_singleton_self _, by decide⟩ (by decide)
      unclaimed.constant stands
  have same : result.rom.toList = before := by
    apply (List.append_inj whole _).1
    rw [count, rom.length_eq]
  have stop : position = result.romEnd := by
    apply UInt32.toNat_inj.mp
    rw [tiles.stop_eq, ← same, ← laid.rom.stop_eq]
  rw [build_ramStart success, ← stop]
  rfl

end Build

private theorem create_ram {settings : Settings} {object : Object} (made : create settings = .ok object) :
    object.ram.toList =
      [{ body := .label { name := startOfRam, kind := .builtIn }, loc := .builtIn }] := by
  obtain ⟨_, _, _, rfl⟩ := create_eq made
  rfl

end Object

namespace Session

/-- Runs statements that ask for no file. -/
def stepAll : List (List Token) → Session → Option Session
  | [], session => some session
  | tokens :: rest, session =>
    match session.step tokens with
    | (next, none) => stepAll rest next
    | (_, some _) => none

theorem run_of_stepAll {tree : FileTree} {outer : List Place} {directory : String}
    {statements : List (List Token)} {session done : Session}
    (success : stepAll statements session = some done) :
    run tree outer directory statements session = done := by
  induction statements generalizing session with
  | nil =>
    cases success
    exact run_nil ..
  | cons tokens rest ih =>
    rw [stepAll] at success
    split at success
    · next stepped =>
      rw [run_cons, run_plain stepped]
      exact ih success
    · cases success

end Session

namespace Source

open Object

/-- What becomes of a source: a new object, all that is collected in it, the image and what is left. -/
structure Built where
  fresh : Object
  object : Object
  image : Image
  result : Object

/-- The word of the image that holds an operand. -/
def Built.word? (built : Built) (slot : Slot) (index : Nat) : Option UInt32 := do
  let fragment ← built.object.collected? slot
  let placed ← built.result.collected? slot
  let position ← placed.position
  Word.read? built.image.bytes (position.toNat + fragment.body.operandOffset index)

/-- A source is assembled into a new object without errors, and the object is built. -/
structure Builds (settings : Settings) (tree : FileTree) (source : Source) (built : Built) : Prop where
  made : create settings = .ok built.fresh
  assembled : (source.assemble tree built.fresh).result = .ok ()
  collected : (source.assemble tree built.fresh).object = built.object
  success : build.run built.object = .ok built.image built.result

/-- In a source without errors, every string literal reaches the image as the address of its encoded text,
and every mention of the start of RAM as the address at which RAM starts, unless it is the target of a
branch. For a literal, the program must leave the counted label of its text alone: no constant, no label
in ROM and no further label of an earlier string may have that name. The same goes for the start of RAM
and the further labels of all strings. -/
theorem generated_names {settings : Settings} {tree : FileTree} {source : Source} {built : Built}
    {token : Token} {slot : Slot} {index : Nat} (builds : source.Builds settings tree built)
    (writes : source.Writes tree built.fresh token slot index) :
    ∃ fragment, built.object.collected? slot = some fragment ∧
      (fragment.body.isTarget index = false →
        (∀ content, token.kind = .string content → ∃ number,
          built.object.strings.index? content = some number ∧
          (built.object.Unclaimed (StringPool.label number) number →
            ∃ address, built.word? slot index = some address ∧
              StringCode.automaticBytes content.toList <+: built.image.bytes.drop address.toNat)) ∧
        (token.kind = .ident startOfRam →
          built.object.Unclaimed startOfRam built.object.strings.entries.size →
          built.word? slot index = some built.image.header.ramStart)) := by
  obtain ⟨made, assembled, collected, success⟩ := builds
  have extended : Extends built.fresh built.object :=
    collected ▸ (source.assemble_collects tree built.fresh).extends
  obtain ⟨stage, unnamed⟩ := create_fresh made
  have accumulating := extended.stage.trans stage
  have sound := extended.sound (.fresh stage unnamed)
  obtain ⟨rest, marked⟩ := extended.ram
  rw [create_ram made, List.singleton_append] at marked
  have holds := writes.holds assembled
  rw [collected] at holds
  obtain ⟨fragment, operand, found, present, stated⟩ := holds
  obtain ⟨placed, position, kept, here, _, _, references⟩ :=
    build_reference sound accumulating success found
  have word : built.word? slot index =
      Word.read? built.image.bytes (position.toNat + fragment.body.operandOffset index) := by
    simp [Built.word?, found, kept, here]
  rw [word]
  refine ⟨fragment, found, fun plain => ⟨?_, ?_⟩⟩
  · intro content written
    obtain ⟨number, pooled, rfl⟩ := stated.string content written
    refine ⟨number, pooled, fun unclaimed => ?_⟩
    obtain ⟨value, stands, read⟩ := references index .constant _ present plain
    exact ⟨_, read, build_string sound accumulating success pooled unclaimed stands⟩
  · intro written unclaimed
    obtain rfl := stated.startOfRam written unclaimed.constant
    obtain ⟨value, stands, read⟩ := references index .constant _ present plain
    rw [read, ← build_startOfRam sound accumulating success marked.symm unclaimed stands]
    rfl

/-- Assembles and builds a text that includes no file. -/
def built? (name content : String) : Option Built :=
  match create {} with
  | .error _ => none
  | .ok fresh =>
    match Session.stepAll (Session.scan { object := fresh } name content).2
      (Session.scan { object := fresh } name content).1 with
    | none => none
    | some done =>
      if done.errors.isEmpty then
        match build.run done.object with
        | .ok image result => some { fresh, object := done.object, image, result }
        | .error _ _ => none
      else none

private theorem builds_of_built? {name content : String} {built : Built}
    (found : built? name content = some built) (tree : FileTree) :
    (Source.text name content).Builds {} tree built := by
  unfold built? at found
  split at found
  · cases found
  · next fresh made =>
    split at found
    · cases found
    · next done stepped =>
      split at found
      · next clean =>
        split at found
        · next success =>
          cases found
          have same : (Source.text name content).assemble tree fresh = done :=
            Session.run_of_stepAll stepped
          refine ⟨made, ?_, by rw [same], success⟩
          rw [same, Session.result, if_pos clean]
        · cases found
      · cases found

/-- The first statement of a text finds the new object. -/
theorem Writes.first {tree : FileTree} {fresh : Object} {name content : String}
    {tokens : List Token} {labels count index : Nat} {directive : Directive} {token : Token}
    (scanned : (statements (tokenize name content).tokens).head? = some tokens)
    (consists : Statement.Consists tokens labels directive)
    (writes : directive.Writes token count index) :
    (Source.text name content).Writes tree fresh token (fresh.nextSlot (labels + count)) index := by
  obtain ⟨rest, whole⟩ := List.head?_eq_some_iff.mp scanned
  refine .statement (.text ?_) consists writes
  have same : (Session.scan { object := fresh } name content).2 = tokens :: rest := whole
  rw [same]
  exact .here rfl

theorem builds_of_any {name content : String} {test : Built → Bool}
    (evaluated : (built? name content).any test = true) (tree : FileTree) :
    ∃ built, (Source.text name content).Builds {} tree built ∧ test built = true := by
  obtain ⟨built, found, passed⟩ := (Option.any_eq_true ..).mp evaluated
  exact ⟨built, builds_of_built? found tree, passed⟩

/-- A token of the first line. -/
def opening (kind : TokenKind) : Token := ⟨kind, { file := "t.ga", line := 1 }⟩

/-- A text with a table of two literals and the start of RAM, more statements and an entry. -/
def tabled (claims : String) : String :=
  "words t \"a\" \"hi\" _startOfRAM\n" ++ claims ++ "function main 0\n"

/-- The items of this table. -/
def items : List Token := [.string "a", .string "hi", .ident startOfRam].map opening

theorem tabled_writes {claims : String} {tree : FileTree} {fresh : Object} {token : Token}
    {index : Nat} (scanned : (statements (tokenize "t.ga" (tabled claims)).tokens).head? =
      some (opening (.ident "words") :: opening (.ident "t") :: items))
    (found : items[index]? = some token) :
    (Source.text "t.ga" (tabled claims)).Writes tree fresh token (fresh.nextSlot 1) index := by
  have plain : Statement.labelName? "words" = none := by decide
  exact .first scanned (.directive rfl plain rfl) (.words found)

/-- Without further statements, the second literal and the start of RAM stand in the table as meant. -/
theorem generated_names_tabled :
    ∃ built address, (Source.text "t.ga" (tabled "")).Builds {} {} built ∧
      built.word? (built.fresh.nextSlot 1) 1 = some address ∧
      StringCode.automaticBytes "hi".toList <+: built.image.bytes.drop address.toNat ∧
      built.word? (built.fresh.nextSlot 1) 2 = some built.image.header.ramStart := by
  have evaluated : (statements (tokenize "t.ga" (tabled "")).tokens).head? =
      some (opening (.ident "words") :: opening (.ident "t") :: items) ∧
    (built? "t.ga" (tabled "")).any (fun built =>
      (built.object.strings.index? "hi").all (fun number =>
        built.object.Unclaimed (StringPool.label number) number) &&
      decide (built.object.Unclaimed startOfRam built.object.strings.entries.size) &&
      (built.object.collected? (built.fresh.nextSlot 1)).all fun fragment =>
        fragment.body.isTarget 1 = false ∧ fragment.body.isTarget 2 = false) = true := by
    decide +kernel
  obtain ⟨scanned, evaluated⟩ := evaluated
  obtain ⟨built, builds, facts⟩ := builds_of_any evaluated {}
  simp only [Bool.and_eq_true, decide_eq_true_eq] at facts
  obtain ⟨⟨counted, ram⟩, plain⟩ := facts
  obtain ⟨fragment, here, literal⟩ :=
    generated_names builds (tabled_writes scanned (show items[1]? = some _ from rfl))
  obtain ⟨again, same, mention⟩ :=
    generated_names builds (tabled_writes scanned (show items[2]? = some _ from rfl))
  cases here.symm.trans same
  simp only [here, Option.all_some, decide_eq_true_eq] at plain
  obtain ⟨number, pooled, stored⟩ := (literal plain.1).1 "hi" rfl
  simp only [pooled, Option.all_some, decide_eq_true_eq] at counted
  obtain ⟨address, read, text⟩ := stored counted
  exact ⟨built, address, builds, read, text, (mention plain.2).2 rfl ram⟩

/-- Statements that claim the label of the second literal and that of the start of RAM, by a constant, by a
label in ROM and by a further label of the first literal. -/
def captures : List String :=
  [ "constant _string1 5\nconstant _startOfRAM 5\n",
    "toROM\n_string1:\n_startOfRAM:\nendROM\n",
    "addString _string1 \"a\"\naddString _startOfRAM \"a\"\n"]

/-- A text that starts with a branch. -/
def branched (target : String) : String :=
  "jump " ++ target ++ "\nfunction main 0\n"

private theorem branched_writes {target : String} {tree : FileTree} {fresh : Object} {token : Token}
    (scanned : (statements (tokenize "t.ga" (branched target)).tokens).head? =
      some [opening (.ident "jump"), token]) :
    (Source.text "t.ga" (branched target)).Writes tree fresh token (fresh.nextSlot 0) 0 := by
  have plain : Statement.labelName? "jump" = none := by decide
  exact .first scanned (.directive rfl plain rfl) (.instruction rfl)

/-- Each of these claims makes the table hold other words, and a branch to a literal or to the start of RAM
holds no address. -/
theorem names_captured :
    (∀ claims ∈ captures, ∃ built address start,
      (Source.text "t.ga" (tabled claims)).Builds {} {} built ∧
      (∀ index token, items[index]? = some token → (Source.text "t.ga" (tabled claims)).Writes {}
        built.fresh token (built.fresh.nextSlot 1) index) ∧
      built.word? (built.fresh.nextSlot 1) 1 = some address ∧
      ¬ StringCode.automaticBytes "hi".toList <+: built.image.bytes.drop address.toNat ∧
      built.word? (built.fresh.nextSlot 1) 2 = some start ∧ start ≠ built.image.header.ramStart) ∧
    (∃ built address, (Source.text "t.ga" (branched "\"hi\"")).Builds {} {} built ∧
      (Source.text "t.ga" (branched "\"hi\"")).Writes {} built.fresh (opening (.string "hi"))
        (built.fresh.nextSlot 0) 0 ∧
      built.word? (built.fresh.nextSlot 0) 0 = some address ∧
      ¬ StringCode.automaticBytes "hi".toList <+: built.image.bytes.drop address.toNat) ∧
    ∃ built start, (Source.text "t.ga" (branched startOfRam)).Builds {} {} built ∧
      (Source.text "t.ga" (branched startOfRam)).Writes {} built.fresh (opening (.ident startOfRam))
        (built.fresh.nextSlot 0) 0 ∧
      built.word? (built.fresh.nextSlot 0) 0 = some start ∧
      start ≠ built.image.header.ramStart := by
  refine ⟨?_, ?_, ?_⟩
  · have evaluated : ∀ claims ∈ captures,
        (statements (tokenize "t.ga" (tabled claims)).tokens).head? =
          some (opening (.ident "words") :: opening (.ident "t") :: items) ∧
        (built? "t.ga" (tabled claims)).any (fun built =>
          (built.word? (built.fresh.nextSlot 1) 1).any (fun address =>
            ¬ StringCode.automaticBytes "hi".toList <+: built.image.bytes.drop address.toNat) &&
          (built.word? (built.fresh.nextSlot 1) 2).any (· ≠ built.image.header.ramStart)) =
            true := by
      decide +kernel
    intro claims member
    obtain ⟨scanned, evaluated⟩ := evaluated claims member
    obtain ⟨built, builds, facts⟩ := builds_of_any evaluated {}
    simp only [Bool.and_eq_true, decide_eq_true_eq, Option.any_eq_true] at facts
    obtain ⟨⟨address, read, misplaced⟩, start, found, other⟩ := facts
    exact ⟨built, address, start, builds, fun _ _ listed => tabled_writes scanned listed, read,
      misplaced, found, other⟩
  · have evaluated : (statements (tokenize "t.ga" (branched "\"hi\"")).tokens).head? =
          some [opening (.ident "jump"), opening (.string "hi")] ∧
        (built? "t.ga" (branched "\"hi\"")).any (fun built =>
          (built.word? (built.fresh.nextSlot 0) 0).any (fun address =>
            ¬ StringCode.automaticBytes "hi".toList <+: built.image.bytes.drop address.toNat)) =
            true := by
      decide +kernel
    obtain ⟨scanned, evaluated⟩ := evaluated
    obtain ⟨built, builds, facts⟩ := builds_of_any evaluated {}
    simp only [decide_eq_true_eq, Option.any_eq_true] at facts
    obtain ⟨address, read, misplaced⟩ := facts
    exact ⟨built, address, builds, branched_writes scanned, read, misplaced⟩
  · have evaluated : (statements (tokenize "t.ga" (branched startOfRam)).tokens).head? =
          some [opening (.ident "jump"), opening (.ident startOfRam)] ∧
        (built? "t.ga" (branched startOfRam)).any (fun built =>
          (built.word? (built.fresh.nextSlot 0) 0).any (· ≠ built.image.header.ramStart)) =
            true := by
      decide +kernel
    obtain ⟨scanned, evaluated⟩ := evaluated
    obtain ⟨built, builds, facts⟩ := builds_of_any evaluated {}
    simp only [decide_eq_true_eq, Option.any_eq_true] at facts
    obtain ⟨start, found, other⟩ := facts
    exact ⟨built, start, builds, branched_writes scanned, found, other⟩

end Source

end GlulxAsm
