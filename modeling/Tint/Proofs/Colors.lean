import Tint.Fault
import Tint.Proofs.Results
import Tint.Proofs.Text.Naturals

/-!
# The texts of colors

A color is written as three bytes between commas. Here is what that means for any text: how it is
cut, what a part may look like, and which of its faults is told if it writes no color. The parts
are read from the left up to the first that is no byte, so that a fault in a part goes before
their number, however many parts there are.

## The model

* `Reads part v` says that the part writes the byte `v`: a numeral, with white space around it or
  not. `Fails part cause` says why a part writes none.
* `Refused s e` are the two ways in which a text is no color.
* `Padded part n` says that the part is the number `n` as it is printed, between white space.

## What is proved

* `exists_fails_iff`: a part writes a byte, or there is a cause for it to fail.
* `ofText_eq_ok_iff`, `ofText_eq_error_iff`: the colors and the refusals are no others.
* `ofText_iff_parts`: all of it in one, and that colors come back from their texts.
-/

namespace Tint.Color

open Text (IsSplit Trims Numeral Faulty Blank)

/-! ### Parts -/

/-- The part writes the byte. -/
def Reads (part : List Char) (v : UInt8) : Prop := ∃ t, Trims part t ∧ Numeral t v.toNat

/-- The part writes no byte, for this cause. -/
def Fails (part : List Char) (cause : NaturalError) : Prop :=
  ∃ t, Trims part t ∧ Faulty byteLimit t cause

/-- The number of a part. -/
def numberOf (part : List Char) : Except NaturalError ℕ := Text.natural byteLimit (Text.trim part)

variable {part : List Char} {v : UInt8} {cause : NaturalError}

theorem numberOf_eq_ok_iff : numberOf part = .ok v.toNat ↔ Reads part v := by
  have within : v.toNat ≤ byteLimit := Nat.le_of_lt_succ v.toNat_lt
  rw [numberOf, Text.natural_eq_ok_iff, and_iff_left within]
  constructor
  · intro numeral
    exact ⟨_, Text.trims_trim part, numeral⟩
  · rintro ⟨t, trims, numeral⟩
    rwa [Text.trim_eq_iff.2 trims]

theorem numberOf_eq_error_iff : numberOf part = .error cause ↔ Fails part cause := by
  rw [numberOf, Text.natural_eq_error_iff]
  constructor
  · intro faulty
    exact ⟨_, Text.trims_trim part, faulty⟩
  · rintro ⟨t, trims, faulty⟩
    rwa [Text.trim_eq_iff.2 trims]

theorem toNat_ofNat_of_numberOf {n : ℕ} (read : numberOf part = .ok n) :
    (UInt8.ofNat n).toNat = n := by
  have within : n ≤ byteLimit := (Text.natural_eq_ok_iff.1 read).2
  exact UInt8.toNat_ofNat_of_lt' (Nat.lt_succ_of_le within)

theorem reads_of_numberOf {n : ℕ} (read : numberOf part = .ok n) : Reads part (UInt8.ofNat n) := by
  rw [← numberOf_eq_ok_iff, toNat_ofNat_of_numberOf read, read]

theorem exists_reads_iff : (∃ v, Reads part v) ↔ ∃ n, numberOf part = .ok n := by
  constructor
  · rintro ⟨v, reads⟩
    exact ⟨_, numberOf_eq_ok_iff.2 reads⟩
  · rintro ⟨n, read⟩
    exact ⟨_, reads_of_numberOf read⟩

/-- **A part fails exactly if it writes no byte.** -/
theorem exists_fails_iff : (∃ cause, Fails part cause) ↔ ∀ v, ¬ Reads part v := by
  constructor
  · rintro ⟨cause, fails⟩ v reads
    cases (numberOf_eq_ok_iff.2 reads).symm.trans (numberOf_eq_error_iff.2 fails)
  · intro none
    cases read : numberOf part with
    | ok n => exact absurd (reads_of_numberOf read) (none _)
    | error cause => exact ⟨cause, numberOf_eq_error_iff.1 read⟩

/-! ### Texts -/

/-- A text is no color. -/
inductive Refused (s : String) : ColorError → Prop where
  /-- A part is no byte. Those before it are bytes. -/
  | badPart {before after : List (List Char)} {part : List Char} {cause : NaturalError}
    (split : IsSplit ',' s.toList (before ++ part :: after)) (bytes : ∀ p ∈ before, ∃ v, Reads p v)
    (fails : Fails part cause) : Refused s (.badPart s cause)
  /-- The parts are bytes, and there are not three of them. -/
  | wrongCount {parts : List (List Char)} (split : IsSplit ',' s.toList parts)
    (bytes : ∀ p ∈ parts, ∃ v, Reads p v) (count : parts.length ≠ 3) : Refused s (.wrongCount s)

variable {s : String} {c : Color} {e : ColorError}

theorem ofText_eq (s : String) : ofText s =
    match (Text.split ',' s.toList).mapM numberOf with
    | .error cause => .error (.badPart s cause)
    | .ok [r, g, b] => .ok (Rgb.map UInt8.ofNat ⟨r, g, b⟩)
    | .ok _ => .error (.wrongCount s) := rfl

theorem ofText_of_reads {r g b : List Char} (parts : IsSplit ',' s.toList [r, g, b])
    (red : Reads r c.r) (green : Reads g c.g) (blue : Reads b c.b) : ofText s = .ok c := by
  have numbers : [r, g, b].mapM numberOf = .ok [c.r.toNat, c.g.toNat, c.b.toNat] :=
    mapM_eq_ok_iff.2 (.cons (numberOf_eq_ok_iff.2 red) (.cons (numberOf_eq_ok_iff.2 green)
      (.cons (numberOf_eq_ok_iff.2 blue) .nil)))
  rw [ofText_eq, Text.split_eq_iff.2 parts, numbers]
  simp only [Rgb.map, UInt8.ofNat_toNat]

theorem ofText_of_count {numbers : List ℕ} (count : numbers.length ≠ 3)
    (read : (Text.split ',' s.toList).mapM numberOf = .ok numbers) :
    ofText s = .error (.wrongCount s) := by
  rw [ofText_eq, read]
  obtain _ | ⟨r, _ | ⟨g, _ | ⟨b, _ | ⟨a, rest⟩⟩⟩⟩ := numbers
  · rfl
  · rfl
  · rfl
  · exact absurd rfl count
  · rfl

theorem Refused.ofText (refused : Refused s e) : ofText s = .error e := by
  cases refused with
  | badPart split bytes fails =>
    rw [ofText_eq, Text.split_eq_iff.2 split, mapM_eq_error_iff.2 ⟨_, _, _, rfl,
      fun p member => exists_reads_iff.1 (bytes p member), numberOf_eq_error_iff.2 fails⟩]
  | wrongCount split bytes count =>
    obtain ⟨numbers, read⟩ :=
      exists_mapM_eq_ok_iff.2 fun p member => exists_reads_iff.1 (bytes p member)
    have same := (mapM_eq_ok_iff.1 read).length_eq
    refine ofText_of_count (same ▸ count) ?_
    rw [Text.split_eq_iff.2 split, read]

/-- **A text has three parts that are bytes, or it is refused.** -/
theorem reads_or_refused (s : String) :
    (∃ (c : Color) (r g b : List Char), IsSplit ',' s.toList [r, g, b] ∧
      Reads r c.r ∧ Reads g c.g ∧ Reads b c.b) ∨ ∃ e, Refused s e := by
  have split := Text.split_eq_iff.1 (Eq.refl (Text.split ',' s.toList))
  cases read : (Text.split ',' s.toList).mapM numberOf with
  | error cause =>
    obtain ⟨before, part, after, parts, numbers, failed⟩ := mapM_eq_error_iff.1 read
    exact .inr ⟨_, .badPart (parts ▸ split) (fun p member => exists_reads_iff.2 (numbers p member))
      (numberOf_eq_error_iff.1 failed)⟩
  | ok numbers =>
    have bytes : ∀ p ∈ Text.split ',' s.toList, ∃ v, Reads p v := fun p member =>
      exists_reads_iff.2 (exists_mapM_eq_ok_iff.1 ⟨numbers, read⟩ p member)
    by_cases count : (Text.split ',' s.toList).length = 3
    · obtain ⟨r, g, b, parts⟩ := List.length_eq_three.1 count
      simp only [parts, List.forall_mem_cons] at split bytes
      obtain ⟨⟨red, readsRed⟩, ⟨green, readsGreen⟩, ⟨blue, readsBlue⟩, -⟩ := bytes
      exact .inl ⟨⟨red, green, blue⟩, r, g, b, split, readsRed, readsGreen, readsBlue⟩
    · exact .inr ⟨_, .wrongCount split bytes count⟩

/-- **The texts of a color have three parts, which write its channels.** -/
theorem ofText_eq_ok_iff : ofText s = .ok c ↔ ∃ r g b, IsSplit ',' s.toList [r, g, b] ∧
    Reads r c.r ∧ Reads g c.g ∧ Reads b c.b := by
  constructor
  · intro read
    obtain ⟨d, r, g, b, parts, red, green, blue⟩ | ⟨e, refused⟩ := reads_or_refused s
    · cases (ofText_of_reads parts red green blue).symm.trans read
      exact ⟨r, g, b, parts, red, green, blue⟩
    · cases refused.ofText.symm.trans read
  · rintro ⟨r, g, b, parts, red, green, blue⟩
    exact ofText_of_reads parts red green blue

/-- **All other texts are refused, each for its first fault.** -/
theorem ofText_eq_error_iff : ofText s = .error e ↔ Refused s e := by
  constructor
  · intro answer
    obtain ⟨c, r, g, b, parts, red, green, blue⟩ | ⟨found, refused⟩ := reads_or_refused s
    · cases (ofText_of_reads parts red green blue).symm.trans answer
    · cases refused.ofText.symm.trans answer
      exact refused
  · exact Refused.ofText

/-! ### Printed numbers -/

/-- The digits of a number as it is printed, between white space. -/
inductive Padded (n : ℕ) : List Char → Prop where
  /-- There may be white space on either side. -/
  | intro {before after : List Char} (front : Blank before) (back : Blank after) :
    Padded n (before ++ Nat.toDigits 10 n ++ after)

theorem Padded.reads (padded : Padded v.toNat part) : Reads part v := by
  cases padded with
  | intro front back =>
    have numeral := Text.numeral_toDigits v.toNat
    exact ⟨_, numeral.trims front back, numeral⟩

theorem Reads.comma_notMem (reads : Reads part v) : ',' ∉ part := by
  obtain ⟨t, ⟨⟨before, after, rfl, front, back⟩, -, -⟩, numeral⟩ := reads
  simp only [List.mem_append, not_or]
  refine ⟨⟨fun member => ?_, fun member => ?_⟩, fun member => ?_⟩
  · cases front ',' member
  · obtain digit | sign := numeral.mem member
    · cases digit
    · cases sign
  · cases back ',' member

/-- **A color comes back from its numbers**, with white space around them or not. -/
theorem ofText_of_padded {r g b : List Char} (joined : [','].intercalate [r, g, b] = s.toList)
    (red : Padded c.r.toNat r) (green : Padded c.g.toNat g) (blue : Padded c.b.toNat b) :
    ofText s = .ok c := by
  refine ofText_of_reads ⟨List.cons_ne_nil _ _, ?_, joined⟩ red.reads green.reads blue.reads
  simp only [List.forall_mem_cons]
  exact ⟨red.reads.comma_notMem, green.reads.comma_notMem, blue.reads.comma_notMem, nofun⟩

/-! ### The grammar -/

/-- **The colors that text writes, and the faults of all other text.** A text is a color exactly
if it has three parts that write bytes, those of the color. Any other text is refused as a faulty
setup: for the first part that writes no byte, however many parts there are, and else for their
number. So every color comes back from its numbers with commas between them, whatever white space
there is around the numbers. -/
theorem ofText_iff_parts (s : String) :
    (∀ c, ofText s = .ok c ↔ ∃ r g b, IsSplit ',' s.toList [r, g, b] ∧
      Reads r c.r ∧ Reads g c.g ∧ Reads b c.b) ∧
    (∀ e, ofText s = .error e ↔ Refused s e) ∧
    (∀ part, (∃ cause, Fails part cause) ↔ ∀ v, ¬ Reads part v) ∧
    (∀ e, Refused s e → (Fault.color e).kind = .configuration) ∧
    (∀ (c : Color) (r g b : List Char), [','].intercalate [r, g, b] = s.toList →
      Padded c.r.toNat r → Padded c.g.toNat g → Padded c.b.toNat b → ofText s = .ok c) :=
  ⟨fun _ => ofText_eq_ok_iff, fun _ => ofText_eq_error_iff, fun _ => exists_fails_iff,
    fun _ _ => rfl, fun _ _ _ _ => ofText_of_padded⟩

/-- White space of many kinds is left out around numbers, and a sign without digits is refused
before a number that is too large and before the count of the parts. -/
theorem ofText_iff_parts_signs :
    ofText "\u2003+0, 0128\t,255\u3000" = .ok ⟨0, 128, 255⟩ ∧
      ofText "1,+,300,x" = .error (.badPart "1,+,300,x" .notDigit) ∧
      (Fault.color (.badPart "1,+,300,x" .notDigit)).kind = .configuration ∧
      ofText "\u00A07,8 ,\n90" = .ok ⟨7, 8, 90⟩ := by
  have split : IsSplit ',' "1,+,300,x".toList ([['1']] ++ ['+'] :: [['3', '0', '0'], ['x']]) :=
    Text.split_eq_iff.1 (by decide)
  have bytes : ∀ p ∈ [['1']], ∃ v, Reads p v :=
    List.forall_mem_singleton.2 ⟨1, numberOf_eq_ok_iff.1 (by decide)⟩
  have fails : Fails ['+'] .notDigit := numberOf_eq_error_iff.1 (by decide)
  have refused : Refused "1,+,300,x" (.badPart "1,+,300,x" .notDigit) :=
    .badPart split bytes fails
  obtain ⟨-, refusals, -, kinds, -⟩ := ofText_iff_parts "1,+,300,x"
  refine ⟨((ofText_iff_parts _).1 _).2 ⟨['\u2003', '+', '0'], [' ', '0', '1', '2', '8', '\t'],
    ['2', '5', '5', '\u3000'], Text.split_eq_iff.1 (by decide), ?_, ?_, ?_⟩,
    (refusals _).2 refused, kinds _ refused, ?_⟩
  · exact numberOf_eq_ok_iff.1 (by decide)
  · exact numberOf_eq_ok_iff.1 (by decide)
  · exact numberOf_eq_ok_iff.1 (by decide)
  · exact (ofText_iff_parts _).2.2.2.2 _ (['\u00A0'] ++ Nat.toDigits 10 7 ++ [])
      ([] ++ Nat.toDigits 10 8 ++ [' ']) (['\n'] ++ Nat.toDigits 10 90 ++ []) (by decide)
      (.intro (by decide) (by decide)) (.intro (by decide) (by decide))
      (.intro (by decide) (by decide))

end Tint.Color
