import Mathlib.Data.List.Permutation
import Tint.Fault
import Tint.Proofs.Results

/-!
# The bindings that are accepted

The streams of a node are checked place by place. Each check looks at a side of the binding
through a filter and sees neither the order of the streams nor those that the filter leaves out:
another image or mask, a mask that goes out, a stream in the other memory are each the business
of a check of its own. Every stream carries images or masks, so the filters leave nothing out
together (`StreamTag.filter_append_perm`), and what passes all checks is one of two bindings for
either memory (`Binding.residency_eq_ok_iff`).

## The model

* `Binding.Pairs` says of a binding what an accepted one looks like, without the checks.

## What is proved

* `Binding.accepted_iff_pairs`: exactly those bindings are accepted, and what follows for the
  order of the streams and for streams that are named twice.
-/

namespace Tint

namespace StreamTag

/-- A stream carries masks exactly if it does not carry images. -/
theorem isMask_eq (t : StreamTag) : t.isMask = !t.isImage := by
  obtain ⟨role, memory⟩ := t
  cases role <;> rfl

theorem eq_image {t : StreamTag} (h : t.isImage = true) : t = ⟨.image, t.residency⟩ := by
  obtain ⟨role, memory⟩ := t
  cases role with
  | image => rfl
  | mask => cases h

theorem eq_mask {t : StreamTag} (h : t.isMask = true) : t = ⟨.mask, t.residency⟩ := by
  obtain ⟨role, memory⟩ := t
  cases role with
  | image => cases h
  | mask => rfl

/-- Streams are those of images and those of masks. -/
theorem filter_append_perm (tags : List StreamTag) :
    (tags.filter isImage ++ tags.filter isMask).Perm tags := by
  have masks : tags.filter isMask = tags.filter fun t => !t.isImage :=
    List.filter_congr fun t _ => t.isMask_eq
  rw [masks]
  exact List.filter_append_perm isImage tags

end StreamTag

namespace Binding

/-! ### The checks -/

theorem only_eq_ok_iff {place : Terminal} {test : StreamTag → Bool} {tags : List StreamTag}
    {tag : StreamTag} : only place test tags = .ok tag ↔ tags.filter test = [tag] := by
  rw [only]
  rcases tags.filter test with _ | ⟨first, _ | ⟨second, rest⟩⟩ <;> simp

theorem passes_of_filter {test : StreamTag → Bool} {tags : List StreamTag} {tag : StreamTag}
    (one : tags.filter test = [tag]) : test tag = true :=
  List.of_mem_filter (one ▸ List.mem_singleton_self tag)

theorem checkMemory_eq_ok_iff {image other : StreamTag} {done : Unit} :
    checkMemory image other = .ok done ↔ other.residency = image.residency := by
  rw [checkMemory]
  split <;> simp_all

/-- What the checks find in a binding that passes all of them. -/
theorem filters_of_residency {b : Binding} {r : Residency} (accepted : b.residency = .ok r) :
    ∃ image output mask, b.inputs.filter StreamTag.isImage = [image] ∧
      b.outputs.filter StreamTag.isImage = [output] ∧
      b.inputs.filter StreamTag.isMask = [mask] ∧ b.outputs.filter StreamTag.isMask = [] ∧
      image.residency = r ∧ output.residency = r ∧ mask.residency = r := by
  unfold residency at accepted
  by_cases noInputs : b.inputs.isEmpty
  · rw [if_pos noInputs] at accepted
    cases accepted
  by_cases noOutputs : b.outputs.isEmpty
  · rw [if_neg noInputs] at accepted
    cases (if_pos noOutputs).symm.trans accepted
  simp only [if_neg noInputs, if_neg noOutputs, bind_eq_ok_iff, only_eq_ok_iff] at accepted
  obtain ⟨image, inImage, output, outImage, mask, inMask, rest⟩ := accepted
  cases found : b.outputs.find? StreamTag.isMask with
  | some tag =>
    rw [found] at rest
    cases rest
  | none =>
    rw [found] at rest
    simp only [bind_eq_ok_iff, checkMemory_eq_ok_iff] at rest
    obtain ⟨-, outMemory, -, maskMemory, same⟩ := rest
    obtain rfl : image.residency = r := Except.ok.inj same
    refine ⟨image, output, mask, inImage, outImage, inMask, ?_, rfl, outMemory, maskMemory⟩
    exact List.filter_eq_nil_iff.2 (List.find?_eq_none.1 found)

/-! ### What they leave -/

/-- The image and the mask of one memory come in, in either order, and the image goes out. -/
def Pairs (b : Binding) (r : Residency) : Prop :=
  b.outputs = [⟨.image, r⟩] ∧
    (b.inputs = [⟨.image, r⟩, ⟨.mask, r⟩] ∨ b.inputs = [⟨.mask, r⟩, ⟨.image, r⟩])

/-- **A binding is accepted exactly if it pairs an image and a mask of one memory.** -/
theorem residency_eq_ok_iff {b : Binding} {r : Residency} : b.residency = .ok r ↔ b.Pairs r := by
  constructor
  · intro accepted
    obtain ⟨image, output, mask, inImage, outImage, inMask, outMask, rfl, outMemory, maskMemory⟩ :=
      filters_of_residency accepted
    have inputs := StreamTag.filter_append_perm b.inputs
    have outputs := StreamTag.filter_append_perm b.outputs
    rw [inImage, inMask, StreamTag.eq_image (passes_of_filter inImage),
      StreamTag.eq_mask (passes_of_filter inMask), maskMemory] at inputs
    rw [outImage, outMask, StreamTag.eq_image (passes_of_filter outImage), outMemory] at outputs
    exact ⟨List.perm_singleton.1 outputs.symm, List.perm_pair.1 inputs.symm⟩
  · obtain ⟨inputs, outputs⟩ := b
    rintro ⟨rfl, rfl | rfl⟩ <;> cases r <;> rfl

theorem Pairs.perm {b b' : Binding} {r : Residency} (pairs : b.Pairs r)
    (inputs : b'.inputs.Perm b.inputs) (outputs : b'.outputs.Perm b.outputs) : b'.Pairs r := by
  obtain ⟨out, into⟩ := pairs
  rw [out] at outputs
  exact ⟨List.perm_singleton.1 outputs, List.perm_pair.1 (inputs.trans (List.perm_pair.2 into))⟩

theorem Pairs.nodup {b : Binding} {r : Residency} (pairs : b.Pairs r) :
    b.inputs.Nodup ∧ b.outputs.Nodup := by
  obtain ⟨out, into | into⟩ := pairs <;> rw [out, into] <;> simp

/-- A binding is refused exactly if it is accepted for no memory. -/
theorem exists_error_iff {b : Binding} :
    (∃ cause, b.residency = .error cause) ↔ ∀ r, ¬ b.Pairs r := by
  simp only [← residency_eq_ok_iff]
  cases b.residency with
  | error cause => exact ⟨fun _ _ => nofun, fun _ => ⟨cause, rfl⟩⟩
  | ok r => exact ⟨nofun, fun none => absurd rfl (none r)⟩

/-- **Two bindings are accepted for each memory, and no others.** The image goes out alone, and
the image and the mask come in, in either order; all else is refused as a faulty setup. So neither
the outcome nor the memory depends on the order of the streams on either side, and no stream may
be named twice. -/
theorem accepted_iff_pairs (b : Binding) :
    (∀ r, b.residency = .ok r ↔ b.outputs = [⟨.image, r⟩] ∧
      (b.inputs = [⟨.image, r⟩, ⟨.mask, r⟩] ∨ b.inputs = [⟨.mask, r⟩, ⟨.image, r⟩])) ∧
    ((∃ cause, b.residency = .error cause ∧ (Fault.binding cause).kind = .configuration) ↔
      ∀ r, ¬ b.Pairs r) ∧
    (∀ b' : Binding, b'.inputs.Perm b.inputs → b'.outputs.Perm b.outputs →
      b'.residency.toOption = b.residency.toOption) ∧
    ((∃ r, b.residency = .ok r) → b.inputs.Nodup ∧ b.outputs.Nodup) := by
  refine ⟨fun r => residency_eq_ok_iff, ?_, ?_, ?_⟩
  · rw [← exists_error_iff]
    exact exists_congr fun cause => and_iff_left rfl
  · intro b' inputs outputs
    cases outcome : b.residency with
    | ok r =>
      have pairs := (residency_eq_ok_iff.1 outcome).perm inputs outputs
      rw [residency_eq_ok_iff.2 pairs]
    | error cause =>
      have none := exists_error_iff.1 ⟨cause, outcome⟩
      obtain ⟨cause', outcome'⟩ : ∃ cause', b'.residency = .error cause' :=
        exists_error_iff.2 fun r pairs => none r (pairs.perm inputs.symm outputs.symm)
      rw [outcome']
      rfl
  · rintro ⟨r, accepted⟩
    exact (residency_eq_ok_iff.1 accepted).nodup

/-- A mask before an image is accepted as the preset is. -/
theorem accepted_iff_pairs_swapped :
    (⟨[⟨.mask, .gpu⟩, ⟨.image, .gpu⟩], [⟨.image, .gpu⟩]⟩ : Binding).residency.toOption =
        (preset .gpu).residency.toOption ∧
      (preset .gpu).inputs.Nodup := by
  obtain ⟨-, -, order, distinct⟩ := accepted_iff_pairs (preset .gpu)
  exact ⟨order _ (.swap ..) (.refl _), (distinct ⟨.gpu, residency_preset .gpu⟩).1⟩

end Binding

end Tint
