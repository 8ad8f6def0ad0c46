import Mathlib.Data.List.DropRight
import Mathlib.Order.Basic
import Tint.Text.Blank
import Tint.Text.Natural

/-!
# The texts of naturals

A natural is read digit by digit, and the first digit that makes it too large ends the reading as
a character that is no digit does. Which texts are read at all can be said without the reading:
digits, with a plus sign or none, whose value is within the limit. Leading zeros may be as many as
there are, since the value stays what it was.

## The model

* `Trims s t` says that `t` is what the text `s` has between the white space at its ends.
* `Numeral s n` says that the text `s` consists of digits that write `n`, and of a sign perhaps.
* `Stops` and `Faulty` say what is wrong with digits and with a text, and which fault counts.

## What is proved

* `trim_eq_iff`: what trimming leaves.
* `numeral_or_faulty`: a text is a numeral within the limit, or something is wrong with it.
* `natural_eq_ok_iff`, `natural_eq_error_iff`: reading a natural finds out which.
-/

namespace Tint.Text

/-! ### White space at the ends -/

/-- There is nothing but white space. -/
def Blank (s : List Char) : Prop := ∀ c ∈ s, isBlank c = true

instance (s : List Char) : Decidable (Blank s) :=
  decidable_of_iff (s.all isBlank = true) List.all_eq_true

/-- The text without the white space at its two ends. -/
structure Trims (s t : List Char) : Prop where
  /-- What is left out is white space at the ends. -/
  around : ∃ before after, s = before ++ t ++ after ∧ Blank before ∧ Blank after
  /-- What is left does not start with white space. -/
  first : ∀ c ∈ t.head?, isBlank c = false
  /-- It does not end with white space. -/
  last : ∀ c ∈ t.getLast?, isBlank c = false

theorem trim_eq_rdropWhile (s : List Char) :
    trim s = (s.dropWhile isBlank).rdropWhile isBlank := rfl

/-- Trimming leaves out white space and nothing else. -/
theorem trims_trim (s : List Char) : Trims s (trim s) := by
  rw [trim_eq_rdropWhile]
  refine ⟨⟨s.takeWhile isBlank, (s.dropWhile isBlank).rtakeWhile isBlank, ?_,
    fun c => List.mem_takeWhile_imp, fun c => List.mem_rtakeWhile_imp⟩, ?_, ?_⟩
  · rw [List.append_assoc, List.rdropWhile_append_rtakeWhile, List.takeWhile_append_dropWhile]
  · -- What is left has the first character that it had before its end was cut off.
    intro c first
    obtain ⟨rest, whole⟩ := List.rdropWhile_prefix isBlank (l := s.dropWhile isBlank)
    have front : c ∈ (s.dropWhile isBlank).head? :=
      whole ▸ List.mem_head?_append_of_mem_head? first
    have solid := List.head?_dropWhile_not isBlank s
    rw [front] at solid
    exact solid
  · intro c last
    obtain ⟨filled, rfl⟩ := List.mem_getLast?_eq_getLast last
    exact Bool.eq_false_iff.2 (List.rdropWhile_last_not isBlank _ filled)

/-- White space around a text does not matter. -/
theorem trim_append {before after : List Char} (front : Blank before) (back : Blank after)
    (t : List Char) : trim (before ++ t ++ after) = trim t := by
  rw [trim, trim, List.append_assoc, List.dropWhile_append_of_pos front, List.dropWhile_append]
  split
  next empty =>
    rw [List.isEmpty_iff.1 empty, List.dropWhile_eq_nil_iff.2 back]
  next =>
    rw [List.reverse_append,
      List.dropWhile_append_of_pos fun c member => back c (List.mem_reverse.1 member)]

/-- **Trimming leaves what lies between the white space at the ends.** -/
theorem trim_eq_iff {s t : List Char} : trim s = t ↔ Trims s t := by
  constructor
  · rintro rfl
    exact trims_trim s
  · rintro ⟨⟨before, after, rfl, front, back⟩, first, last⟩
    rw [trim_append front back, trim_eq_self first last]

/-! ### Digits -/

/-- Digits that write a number, with a plus sign in front of them or not. -/
inductive Numeral : List Char → ℕ → Prop where
  /-- Digits alone. -/
  | plain {digits : List Char} (filled : digits ≠ []) (all : ∀ c ∈ digits, c.isDigit = true) :
    Numeral digits (Nat.ofDigitChars 10 digits 0)
  /-- Digits after a plus sign. -/
  | signed {digits : List Char} (filled : digits ≠ []) (all : ∀ c ∈ digits, c.isDigit = true) :
    Numeral ('+' :: digits) (Nat.ofDigitChars 10 digits 0)

/-- The first fault in what should be digits that continue a number of the given value. -/
inductive Stops (limit value : ℕ) : List Char → NaturalError → Prop where
  /-- A character is no digit. The digits before it are within the limit. -/
  | notDigit {digits rest : List Char} {c : Char} (all : ∀ d ∈ digits, d.isDigit = true)
    (within : Nat.ofDigitChars 10 digits value ≤ limit) (other : c.isDigit = false) :
    Stops limit value (digits ++ c :: rest) .notDigit
  /-- Digits are above the limit, whatever comes after them. -/
  | tooLarge {digits rest : List Char} (all : ∀ d ∈ digits, d.isDigit = true)
    (above : limit < Nat.ofDigitChars 10 digits value) :
    Stops limit value (digits ++ rest) .tooLarge

/-- The fault of a text that is no natural up to the limit. -/
inductive Faulty (limit : ℕ) : List Char → NaturalError → Prop where
  /-- There is no character. -/
  | empty : Faulty limit [] .empty
  /-- There is a sign, and no digit after it. -/
  | sign : Faulty limit ['+'] .notDigit
  /-- There is a fault, and no sign. -/
  | plain {s : List Char} {cause : NaturalError} (unsigned : ∀ c ∈ s.head?, c ≠ '+')
    (stops : Stops limit 0 s cause) : Faulty limit s cause
  /-- There is a fault after the sign. -/
  | signed {s : List Char} {cause : NaturalError} (stops : Stops limit 0 s cause) :
    Faulty limit ('+' :: s) cause

variable {limit value n : ℕ} {s digits rest : List Char} {cause : NaturalError} {c : Char}

theorem digit?_of_isDigit (digit : c.isDigit = true) : digit? c = some (c.toNat - '0'.toNat) := by
  have bounds : '0' ≤ c ∧ c ≤ '9' := Char.isDigit_iff_toNat.1 digit
  have codes : 48 ≤ c.toNat ∧ c.toNat ≤ 57 := bounds
  have zero : '0'.toNat = 48 := rfl
  rw [digit?, if_pos bounds, zero]
  exact congrArg some (by omega)

theorem digit?_of_not_isDigit (other : c.isDigit = false) : digit? c = none := by
  refine if_neg fun bounds => ?_
  have digit : c.isDigit = true := Char.isDigit_iff_toNat.2 bounds
  cases other.symm.trans digit

theorem naturalOfDigits_cons (digit : c.isDigit = true) :
    naturalOfDigits limit value (c :: rest) =
      if limit < 10 * value + (c.toNat - '0'.toNat) then .error .tooLarge
      else naturalOfDigits limit (10 * value + (c.toNat - '0'.toNat)) rest := by
  rw [naturalOfDigits, digit?_of_isDigit digit, Nat.mul_comm value]

theorem le_ofDigitChars (digits : List Char) (value : ℕ) :
    value ≤ Nat.ofDigitChars 10 digits value := by
  rw [Nat.ofDigitChars_eq_ofDigitChars_zero]
  exact le_trans (Nat.le_mul_of_pos_left value (Nat.pow_pos (by decide))) (Nat.le_add_right _ _)

/-- Digits that stay within the limit are read, and the rest after them. -/
theorem naturalOfDigits_append (all : ∀ d ∈ digits, d.isDigit = true)
    (within : Nat.ofDigitChars 10 digits value ≤ limit) :
    naturalOfDigits limit value (digits ++ rest) =
      naturalOfDigits limit (Nat.ofDigitChars 10 digits value) rest := by
  induction digits generalizing value with
  | nil => rfl
  | cons d digits ih =>
    obtain ⟨digit, others⟩ := List.forall_mem_cons.1 all
    rw [Nat.ofDigitChars_cons] at within ⊢
    have next := le_trans (le_ofDigitChars digits _) within
    rw [List.cons_append, naturalOfDigits_cons digit, if_neg (not_lt.2 next), ih others within]

/-- Digits that exceed the limit are refused at one of them, so that the rest is not looked at. -/
theorem naturalOfDigits_above (start : value ≤ limit) (all : ∀ d ∈ digits, d.isDigit = true)
    (above : limit < Nat.ofDigitChars 10 digits value) :
    naturalOfDigits limit value (digits ++ rest) = .error .tooLarge := by
  induction digits generalizing value with
  | nil => exact absurd above (not_lt.2 start)
  | cons d digits ih =>
    obtain ⟨digit, others⟩ := List.forall_mem_cons.1 all
    rw [Nat.ofDigitChars_cons] at above
    rw [List.cons_append, naturalOfDigits_cons digit]
    split
    next => rfl
    next within => exact ih (not_lt.1 within) others above

/-- The first fault in digits is the one that is found. -/
theorem Stops.naturalOfDigits (start : value ≤ limit) (stops : Stops limit value s cause) :
    naturalOfDigits limit value s = .error cause := by
  cases stops with
  | notDigit all within other =>
    rw [naturalOfDigits_append all within, Text.naturalOfDigits, digit?_of_not_isDigit other]
  | tooLarge all above => exact naturalOfDigits_above start all above

/-- A text is digits within the limit, or there is a first fault in it. -/
theorem digits_or_stops (limit value : ℕ) (s : List Char) :
    ((∀ c ∈ s, c.isDigit = true) ∧ Nat.ofDigitChars 10 s value ≤ limit) ∨
      ∃ cause, Stops limit value s cause := by
  have all : ∀ c ∈ s.takeWhile Char.isDigit, c.isDigit = true := fun c => List.mem_takeWhile_imp
  have whole := List.takeWhile_append_dropWhile (p := Char.isDigit) (l := s)
  by_cases above : limit < Nat.ofDigitChars 10 (s.takeWhile Char.isDigit) value
  · exact .inr ⟨.tooLarge, whole ▸ .tooLarge all above⟩
  cases after : s.dropWhile Char.isDigit with
  | nil =>
    rw [after, List.append_nil] at whole
    rw [whole] at all above
    exact .inl ⟨all, not_lt.1 above⟩
  | cons c rest =>
    have other := List.head?_dropWhile_not Char.isDigit s
    rw [after] at other whole
    exact .inr ⟨.notDigit, whole ▸ .notDigit all (not_lt.1 above) other⟩

/-! ### Numerals -/

theorem natural_signed (filled : s ≠ []) :
    natural limit ('+' :: s) = naturalOfDigits limit 0 s := by
  cases s with
  | nil => exact absurd rfl filled
  | cons c rest => rfl

theorem natural_plain (filled : s ≠ []) (unsigned : ∀ c ∈ s.head?, c ≠ '+') :
    natural limit s = naturalOfDigits limit 0 s := by
  cases s with
  | nil => exact absurd rfl filled
  | cons c rest =>
    have other : c ≠ '+' := unsigned c rfl
    rw [natural]
    · exact nofun
    · rintro ⟨⟩
      exact other rfl
    · rintro _ ⟨⟩
      exact other rfl

/-- A fault leaves no text empty. -/
theorem Stops.ne_nil (stops : Stops limit 0 s cause) : s ≠ [] := by
  rintro rfl
  generalize empty : ([] : List Char) = s at stops
  cases stops with
  | notDigit => simp at empty
  | tooLarge _ above =>
    rw [(List.append_eq_nil_iff.1 empty.symm).1] at above
    exact Nat.not_lt_zero _ above

theorem unsigned_of_isDigit (all : ∀ c ∈ s, c.isDigit = true) : ∀ c ∈ s.head?, c ≠ '+' := by
  rintro _ first rfl
  cases all '+' (List.mem_of_mem_head? first)

theorem naturalOfDigits_of_all (all : ∀ c ∈ s, c.isDigit = true)
    (within : Nat.ofDigitChars 10 s 0 ≤ limit) :
    naturalOfDigits limit 0 s = .ok (Nat.ofDigitChars 10 s 0) := by
  rw [← List.append_nil s, naturalOfDigits_append all within, List.append_nil, naturalOfDigits]

theorem Numeral.natural (numeral : Numeral s n) (within : n ≤ limit) :
    natural limit s = .ok n := by
  cases numeral with
  | plain filled all =>
    rw [natural_plain filled (unsigned_of_isDigit all), naturalOfDigits_of_all all within]
  | signed filled all => rw [natural_signed filled, naturalOfDigits_of_all all within]

/-- The fault of a text is the one that is found. -/
theorem Faulty.natural (faulty : Faulty limit s cause) : natural limit s = .error cause := by
  cases faulty with
  | empty => rfl
  | sign => rfl
  | plain unsigned stops =>
    rw [natural_plain stops.ne_nil unsigned, stops.naturalOfDigits (Nat.zero_le limit)]
  | signed stops =>
    rw [natural_signed stops.ne_nil, stops.naturalOfDigits (Nat.zero_le limit)]

/-- **A text is a numeral within the limit, or something is wrong with it.** -/
theorem numeral_or_faulty (limit : ℕ) (s : List Char) :
    (∃ n ≤ limit, Numeral s n) ∨ ∃ cause, Faulty limit s cause := by
  cases s with
  | nil => exact .inr ⟨_, .empty⟩
  | cons c rest =>
    by_cases sign : c = '+'
    · subst sign
      by_cases filled : rest = []
      · subst filled
        exact .inr ⟨_, .sign⟩
      obtain ⟨all, within⟩ | ⟨cause, stops⟩ := digits_or_stops limit 0 rest
      · exact .inl ⟨_, within, .signed filled all⟩
      · exact .inr ⟨cause, .signed stops⟩
    · obtain ⟨all, within⟩ | ⟨cause, stops⟩ := digits_or_stops limit 0 (c :: rest)
      · exact .inl ⟨_, within, .plain (List.cons_ne_nil c rest) all⟩
      · refine .inr ⟨cause, .plain ?_ stops⟩
        rintro _ ⟨⟩
        exact sign

/-- **The naturals that are read are the numerals within the limit.** -/
theorem natural_eq_ok_iff : natural limit s = .ok n ↔ Numeral s n ∧ n ≤ limit := by
  constructor
  · intro read
    obtain ⟨m, within, numeral⟩ | ⟨cause, faulty⟩ := numeral_or_faulty limit s
    · cases (numeral.natural within).symm.trans read
      exact ⟨numeral, within⟩
    · cases faulty.natural.symm.trans read
  · rintro ⟨numeral, within⟩
    exact numeral.natural within

/-- **What is no natural is refused for its fault.** -/
theorem natural_eq_error_iff : natural limit s = .error cause ↔ Faulty limit s cause := by
  constructor
  · intro refused
    obtain ⟨m, within, numeral⟩ | ⟨found, faulty⟩ := numeral_or_faulty limit s
    · cases (numeral.natural within).symm.trans refused
    · cases faulty.natural.symm.trans refused
      exact faulty
  · exact Faulty.natural

theorem isBlank_of_isDigit (digit : c.isDigit = true) : isBlank c = false := by
  have codes : 48 ≤ c.toNat ∧ c.toNat ≤ 57 := Char.isDigit_iff_toNat.1 digit
  have apart : ∀ range ∈ blankRanges, range.2 < 48 ∨ 57 < range.1 := by decide
  refine List.any_eq_false.2 fun range member => ?_
  have outside := apart range member
  simp only [Bool.and_eq_true, decide_eq_true_eq]
  omega

theorem Numeral.mem (numeral : Numeral s n) (member : c ∈ s) : c.isDigit = true ∨ c = '+' := by
  cases numeral with
  | plain _ all => exact .inl (all c member)
  | signed _ all =>
    obtain rfl | inside := List.mem_cons.1 member
    · exact .inr rfl
    · exact .inl (all c inside)

theorem Numeral.isBlank_eq_false (numeral : Numeral s n) (member : c ∈ s) :
    isBlank c = false := by
  obtain digit | rfl := numeral.mem member
  · exact isBlank_of_isDigit digit
  · rfl

theorem Numeral.trims {before after : List Char} (numeral : Numeral s n) (front : Blank before)
    (back : Blank after) : Trims (before ++ s ++ after) s where
  around := ⟨before, after, rfl, front, back⟩
  first _ first := numeral.isBlank_eq_false (List.mem_of_mem_head? first)
  last _ last := numeral.isBlank_eq_false (List.mem_of_mem_getLast? last)

theorem numeral_toDigits (n : ℕ) : Numeral (Nat.toDigits 10 n) n := by
  have numeral : Numeral (Nat.toDigits 10 n) (Nat.ofDigitChars 10 (Nat.toDigits 10 n) 0) :=
    .plain Nat.toDigits_ne_nil fun _ => Nat.isDigit_of_mem_toDigits (by decide) (by decide)
  rwa [Nat.ofDigitChars_toDigits (by decide) (by decide)] at numeral

end Tint.Text
