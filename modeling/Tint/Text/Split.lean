/-!
# Parts of text

Text cut at every place where a separator stands. There is one part more than there are
separators, and a part may be empty.

## What is proved

* `intercalate_split`: the parts with the separator between them are the text again.
* `notMem_of_mem_split`: no part holds the separator.
* `split_eq_iff`: there are no other parts of which both is true.
-/

namespace Tint.Text

/-- The parts of text between separators. -/
def split (separator : Char) : List Char → List (List Char)
  | [] => [[]]
  | c :: rest =>
    if c = separator then [] :: split separator rest
    else
      match split separator rest with
      | [] => [[c]]
      | part :: parts => (c :: part) :: parts

theorem split_ne_nil (separator : Char) (s : List Char) : split separator s ≠ [] := by
  cases s with
  | nil => simp [split]
  | cons c rest =>
    simp only [split]
    split
    · simp
    · split <;> simp

theorem split_eq_splitOn (separator : Char) (s : List Char) :
    split separator s = s.splitOn separator := by
  induction s with
  | nil => rfl
  | cons c rest ih =>
    rw [split, List.splitOn_cons_eq_if_modifyHead, ← ih]
    by_cases h : c = separator
    · simp [h]
    · cases hs : split separator rest with
      | nil => exact absurd hs (split_ne_nil separator rest)
      | cons part parts => simp [h]

/-- The parts with the separator between them are the text again. -/
theorem intercalate_split (separator : Char) (s : List Char) :
    [separator].intercalate (split separator s) = s := by
  rw [split_eq_splitOn, List.intercalate_splitOn]

/-- No part holds the separator. -/
theorem notMem_of_mem_split {separator : Char} {s part : List Char}
    (h : part ∈ split separator s) : separator ∉ part := by
  induction s generalizing part with
  | nil => simp only [split, List.mem_singleton] at h; simp [h]
  | cons c rest ih =>
    simp only [split] at h
    split at h
    next =>
      rcases List.mem_cons.1 h with rfl | h
      · simp
      · exact ih h
    next hc =>
      cases hs : split separator rest with
      | nil => exact absurd hs (split_ne_nil separator rest)
      | cons first parts =>
        simp only [hs, List.mem_cons] at h
        rcases h with rfl | h
        · simp only [List.mem_cons, not_or]
          exact ⟨fun e => hc e.symm, ih (by simp [hs])⟩
        · exact ih (by simp [hs, h])

/-- The parts are those of the text between separators. -/
structure IsSplit (separator : Char) (s : List Char) (parts : List (List Char)) : Prop where
  /-- There is a part. -/
  filled : parts ≠ []
  /-- No part holds the separator. -/
  apart : ∀ part ∈ parts, separator ∉ part
  /-- The parts with the separator between them are the text. -/
  joined : [separator].intercalate parts = s

/-- **There is one way to cut a text at a separator.** -/
theorem split_eq_iff {separator : Char} {s : List Char} {parts : List (List Char)} :
    split separator s = parts ↔ IsSplit separator s parts := by
  constructor
  · rintro rfl
    exact ⟨split_ne_nil separator s, fun _ => notMem_of_mem_split, intercalate_split separator s⟩
  · rintro ⟨filled, apart, rfl⟩
    rw [split_eq_splitOn, List.splitOn_intercalate separator apart filled]

end Tint.Text
