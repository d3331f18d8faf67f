import GlulxAsm.Proofs.Consistency
import GlulxAsm.Proofs.FunctionHeader
import GlulxAsm.Proofs.Reference

/-! An image starts its program at a function header: its start address is where the first label by the name
of the entry has written its tag and its locals. -/
namespace GlulxAsm

open Decoder

private theorem Header.create_startFunc {romEnd codeSize stackSize entry : UInt32} {header : Header}
    (success : create romEnd codeSize stackSize entry = .ok header) : header.startFunc = entry := by
  unfold create at success
  split at success
  · cases success
  · cases success
    rfl

/-- From a written fragment's position on, the content is what its body writes and what follows it. -/
theorem Fragment.WrittenIn.drop_eq {content : List UInt8} {fragment : Fragment} {position : UInt32}
    (written : fragment.WrittenIn content) (placed : fragment.position = some position) :
    content.drop position.toNat = (fragment.body.emit position).bytes ++
      content.drop (position.toNat + fragment.size.toNat) := by
  obtain ⟨_, emission, _⟩ := written.emit_body placed
  obtain ⟨same, found, emitted⟩ := written
  obtain rfl : position = same := Option.some.inj (placed.symm.trans found)
  rw [← emission, emitted, ← List.drop_drop, List.take_append_drop]

private theorem Fragment.emit_label {fragment : Fragment} {label : Label}
    (labelled : fragment.label? = some label) (position : UInt32) :
    (fragment.body.emit position).bytes = label.encode := by
  obtain ⟨body, _, _⟩ := fragment
  cases body with
  | label found =>
    cases labelled
    rfl
  | _ => cases labelled

namespace Object

open Fragment

/-- A label is not the room for the header. -/
theorem Laid.mem_tail {object : Object} (laid : object.Laid) {fragment : Fragment} {label : Label}
    (member : fragment ∈ object.rom.toList ++ object.ram.toList)
    (labelled : fragment.label? = some label) :
    fragment ∈ (object.rom.toList ++ object.ram.toList).tail := by
  obtain ⟨reserve, rest, whole, zeros⟩ := laid.reserve
  rw [whole, List.cons_append] at member ⊢
  rcases List.mem_cons.mp member with same | behind
  · rw [same, label?, zeros] at labelled
    cases labelled
  · exact behind

/-- The start address of an image is the position of the entry's symbol, which is a function. -/
theorem build_entry {object result : Object} {image : Image}
    (success : build.run object = .ok image result) :
    ∃ symbol, result.symbols.get? entryName = some symbol ∧ symbol.kind.isFunction = true ∧
      symbol.position = image.header.startFunc := by
  obtain ⟨laid, done, entry, header, _, entered, second, _, created, written, rfl⟩ := build_ok success
  have start : image.header.startFunc = entry := by
    rw [(Image.write_consistent written).1, ← Header.create_startFunc created]
  have symbols : done.symbols = laid.symbols := by
    rcases second with ⟨_, resolving⟩ | ⟨_, same⟩
    · obtain ⟨_, _, _, rfl⟩ := resolve_ok resolving
      rfl
    · rw [same]
  rw [start]
  dsimp only
  rw [symbols]
  unfold entryPoint at entered
  split at entered
  · next symbol found =>
    split at entered
    · next function =>
      cases entered
      exact ⟨symbol, found, function, rfl⟩
    · cases entered
  · cases entered

/-- An image starts its program at the header of a function. The byte there tells the kind of the first label
by the name of the entry. The pairs behind it, read up to a pair of zeros, have four-byte slots only, declare
the locals of that label and lie inside the image. -/
theorem entry_header {object result : Object} {image : Image} (reachable : object.Reachable)
    (success : build.run object = .ok image result) :
    ∃ fragment label tag pairs rest,
      (result.rom.toList ++ result.ram.toList).find? (labels entryName) = some fragment ∧
      fragment.label? = some label ∧ fragment.position = some image.header.startFunc ∧
      image.bytes[image.header.startFunc.toNat]? = some tag ∧
      ((label.kind = .stackFunction ∧ tag = 0xc0) ∨ (label.kind = .localFunction ∧ tag = 0xc1)) ∧
      pairs? (image.bytes.drop (image.header.startFunc.toNat + 1)) = some (pairs, rest) ∧
      (∀ pair ∈ pairs, pair.1 = 4) ∧ declared pairs = label.locals.toNat ∧
      image.header.startFunc.toNat + 1 + 2 * (pairs.length + 1) ≤ image.bytes.length := by
  have laid := build_laid reachable.sound success
  obtain ⟨symbol, found, function, start⟩ := build_entry success
  rw [laid.get?_symbols] at found
  obtain ⟨fragment, first, told⟩ := Option.bind_eq_some_iff.mp found
  obtain ⟨placed, label, labelled, _, kind⟩ := symbol?_eq_some told
  rw [start] at placed
  obtain ⟨tag, tagged⟩ : ∃ tag, label.kind.functionTag? = some tag := by
    rw [kind]
    exact Option.isSome_iff_exists.mp function
  have member := laid.mem_tail (List.mem_of_find?_eq_some first) labelled
  have content := (build_written reachable.sound success fragment member).drop_eq placed
  rw [emit_label labelled] at content
  obtain ⟨later, parts, read⟩ := label.encode_function tagged
    (image.bytes.drop (image.header.startFunc.toNat + fragment.size.toNat))
  rw [parts] at content
  have behind : image.bytes.drop (image.header.startFunc.toNat + 1) = later := by
    rw [← List.drop_drop, content]
    rfl
  refine ⟨fragment, label, tag, Label.pairs label.locals.toNat, _, first, labelled, placed, ?_,
    LabelKind.functionTag?_eq_some tagged, behind ▸ read, Label.size_of_mem_pairs,
    Label.declared_pairs _, ?_⟩
  · rw [← List.head?_drop, content, List.head?_cons]
  · have length := congrArg List.length content
    have taken := length_of_pairs? read
    rw [List.length_drop, List.length_cons] at length
    omega

/-- Of three labels by the name of the entry the first is a stack function with 300 locals. -/
theorem entry_header_contested : contested.Reachable ∧ ∃ image result pairs rest,
    build.run contested = .ok image result ∧
    image.bytes[image.header.startFunc.toNat]? = some 0xc0 ∧
    pairs? (image.bytes.drop (image.header.startFunc.toNat + 1)) = some (pairs, rest) ∧
    (∀ pair ∈ pairs, pair.1 = 4) ∧ declared pairs = 300 := by
  have evaluated : passes (fun _ result => decide (
      ((result.rom.toList ++ result.ram.toList).find? (labels entryName)).bind label? =
        some { name := "main", kind := .stackFunction, locals := 300 }))
      (build.run contested) = true := by decide +kernel
  obtain ⟨image, result, success, passed⟩ := exists_of_passes evaluated
  obtain ⟨fragment, label, tag, pairs, rest, first, labelled, _, there, kind, read, sizes, sum, _⟩ :=
    entry_header contested_reachable success
  have told := of_decide_eq_true passed
  rw [first, Option.bind_some, labelled] at told
  cases told
  rcases kind with ⟨_, rfl⟩ | ⟨other, _⟩
  · exact ⟨contested_reachable, image, result, pairs, rest, success, there, read, sizes, sum⟩
  · cases other

end Object

end GlulxAsm
