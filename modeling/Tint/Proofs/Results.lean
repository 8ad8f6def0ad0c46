import Mathlib.Data.List.Forall2

/-!
# Results after one another

A computation that may fail gives a result exactly if each of its steps gives one, and wrapping
what it gives, or why it fails, changes nothing about that. Of the steps of a list the first that
fails is the one that counts.
-/

namespace Tint

variable {ε α β : Type}

theorem bind_eq_ok_iff {x : Except ε α} {f : α → Except ε β} {b : β} :
    x >>= f = .ok b ↔ ∃ a, x = .ok a ∧ f a = .ok b := by
  cases x with
  | error cause => exact ⟨nofun, nofun⟩
  | ok a =>
    constructor
    · intro result
      exact ⟨a, rfl, result⟩
    · rintro ⟨_, same, result⟩
      cases same
      exact result

theorem mapError_eq_ok_iff {ε' : Type} {wrap : ε → ε'} {x : Except ε α} {a : α} :
    x.mapError wrap = .ok a ↔ x = .ok a := by
  cases x with
  | error cause => exact ⟨nofun, nofun⟩
  | ok _ => exact ⟨fun h => by cases h; rfl, fun h => by cases h; rfl⟩

theorem eq_error_of_map {f : α → β} {x : Except ε α} {cause : ε} (h : x.map f = .error cause) :
    x = .error cause := by
  cases x with
  | error _ => cases h; rfl
  | ok a => cases h

theorem mapM_eq_ok_iff {f : α → Except ε β} {list : List α} {results : List β} :
    list.mapM f = .ok results ↔ List.Forall₂ (fun a b => f a = .ok b) list results := by
  induction list generalizing results with
  | nil =>
    rw [List.mapM_nil, List.forall₂_nil_left_iff]
    exact ⟨fun h => (Except.ok.inj h).symm, fun h => congrArg Except.ok h.symm⟩
  | cons a rest ih =>
    rw [List.mapM_cons, List.forall₂_cons_left_iff]
    simp only [bind_eq_ok_iff, ih]
    constructor
    · rintro ⟨b, first, bs, others, ⟨⟩⟩
      exact ⟨b, bs, first, others, rfl⟩
    · rintro ⟨b, bs, first, others, rfl⟩
      exact ⟨b, first, bs, others, rfl⟩

/-- The error of a list is that of its first member that has one. -/
theorem mapM_eq_error_iff {f : α → Except ε β} {list : List α} {cause : ε} :
    list.mapM f = .error cause ↔ ∃ before a after, list = before ++ a :: after ∧
      (∀ x ∈ before, ∃ b, f x = .ok b) ∧ f a = .error cause := by
  induction list with
  | nil => exact ⟨nofun, fun ⟨before, a, after, empty, _⟩ => by cases before <;> cases empty⟩
  | cons a rest ih =>
    rw [List.mapM_cons]
    cases first : f a with
    | error found =>
      constructor
      · rintro ⟨⟩
        exact ⟨[], a, rest, rfl, nofun, first⟩
      · rintro ⟨_ | ⟨x, before⟩, y, after, same, results, failed⟩ <;> cases same
        · rw [first] at failed
          cases failed
          rfl
        · obtain ⟨b, result⟩ := results a List.mem_cons_self
          cases first.symm.trans result
    | ok b =>
      have others : (do let b ← Except.ok b; let bs ← rest.mapM f; pure (b :: bs)) =
          .error cause ↔ rest.mapM f = .error cause := by
        cases rest.mapM f with
        | error _ => exact Iff.of_eq rfl
        | ok _ => exact ⟨nofun, nofun⟩
      rw [others, ih]
      constructor
      · rintro ⟨before, y, after, rfl, results, failed⟩
        exact ⟨a :: before, y, after, rfl, List.forall_mem_cons.2 ⟨⟨b, first⟩, results⟩, failed⟩
      · rintro ⟨_ | ⟨x, before⟩, y, after, same, results, failed⟩ <;> cases same
        · cases first.symm.trans failed
        · exact ⟨before, y, after, rfl, (List.forall_mem_cons.1 results).2, failed⟩

/-- A list has results exactly if none of its members has an error. -/
theorem exists_mapM_eq_ok_iff {f : α → Except ε β} {list : List α} :
    (∃ results, list.mapM f = .ok results) ↔ ∀ a ∈ list, ∃ b, f a = .ok b := by
  constructor
  · rintro ⟨results, given⟩
    have each : List.Forall₂ (fun a b => (∃ b, f a = .ok b) ∧ f a = .ok b) list results :=
      (mapM_eq_ok_iff.1 given).imp fun a b result => ⟨⟨b, result⟩, result⟩
    exact ((List.forall₂_and_left list results).1 each).1
  · intro each
    cases given : list.mapM f with
    | ok results => exact ⟨results, rfl⟩
    | error cause =>
      obtain ⟨before, a, after, rfl, -, failed⟩ := mapM_eq_error_iff.1 given
      obtain ⟨b, result⟩ := each a (List.mem_append_right before List.mem_cons_self)
      cases result.symm.trans failed

end Tint
