import Tint.Config
import Tint.Proofs.Json.Taking

/-!
# Strings, numbers and names

Values without parts are read from their lexemes as they were written.

## The model

* `Apart lexemes` says that the lexemes do not start with what would continue a number. A number
  needs this of what comes after it; everything else ends by itself.
* `Reads r t a` says that the reader `r` takes the value `a` from any writing of the tree `t`,
  whatever follows apart from a number.

## What is proved

* `scanString_flatMap`: the content of a string comes back from its escapes.
* `takes_number`: a natural of 64 bits comes back from its digits.
* `reads_byte`, `reads_named`, `reads_optional`: bytes, names of a table, and what may be null.
-/

namespace Tint.Json

open Reader

variable {lexemes : List (List Char)}

/-! ### Strings -/

/-- An escape stands for its character. -/
theorem scanString_escape {strict : Bool} {s after : List Char} {c : Char}
    (written : escaped strict s = .ok (c, after)) :
    scanString strict ('\\' :: s) =
      (scanString strict after).map fun (content, last) => (c :: content, last) := by
  rw [scanString]
  simp only [Char.reduceEq, if_false, if_true]
  split
  · next e failed =>
    rw [written] at failed
    cases failed
  · next d left taken =>
    rw [written] at taken
    cases taken
    rfl

theorem control_digits : ∀ n < 32, List.replicate (4 - (Text.hex n).length) '0' ++ Text.hex n =
    ['0', '0', Nat.digitChar (n / 16), Nat.digitChar (n % 16)] := by
  decide

theorem hexDigit?_digitChar : ∀ d < 16, hexDigit? (Nat.digitChar d) = some d := by
  decide

theorem fourHex_control {n : Nat} (small : n < 32) (rest : List Char) :
    fourHex ('0' :: '0' :: Nat.digitChar (n / 16) :: Nat.digitChar (n % 16) :: rest) =
      .ok (n, rest) := by
  have zero : hexDigit? '0' = some 0 := rfl
  simp only [fourHex, zero, hexDigit?_digitChar (n / 16) (by omega),
    hexDigit?_digitChar (n % 16) (by omega)]
  exact congrArg (fun m => Except.ok (m, rest)) (by omega)

/-- A character is read as it is written in a string. -/
theorem scanString_stringChar (c : Char) (rest : List Char) :
    scanString true (stringChar c ++ rest) =
      (scanString true rest).map fun (content, last) => (c :: content, last) := by
  unfold stringChar
  split_ifs with quote slash back feed line turn tab control
  · subst quote
    exact scanString_escape rfl
  · subst slash
    exact scanString_escape rfl
  · subst back
    exact scanString_escape rfl
  · subst feed
    exact scanString_escape rfl
  · subst line
    exact scanString_escape rfl
  · subst turn
    exact scanString_escape rfl
  · subst tab
    exact scanString_escape rfl
  · have small : c.toNat < 32 := control
    have digits := control_digits c.toNat small
    -- The first two of the four digits are zeros, so that the number is no surrogate.
    have written : escaped true ('u' :: '0' :: '0' :: Nat.digitChar (c.toNat / 16) ::
        Nat.digitChar (c.toNat % 16) :: rest) = .ok (c, rest) := by
      change numberEscape true _ = _
      rw [numberEscape, fourHex_control small]
      change (if _ then _ else if _ then _ else _) = _
      rw [if_neg (by omega), if_neg (by omega), Char.ofNat_toNat]
    rw [List.append_assoc, List.append_assoc, ← List.append_assoc (List.replicate _ _), digits]
    exact scanString_escape written
  · rw [List.singleton_append, scanString]
    simp only [quote, slash, control, if_false]

/-- **The content of a string comes back from its escapes.** -/
theorem scanString_flatMap (content rest : List Char) :
    scanString true (content.flatMap stringChar ++ '"' :: rest) = .ok (content, rest) := by
  induction content with
  | nil =>
    rw [List.flatMap_nil, List.nil_append, scanString]
    rfl
  | cons c content ih =>
    rw [List.flatMap_cons, List.append_assoc, scanString_stringChar, ih]
    rfl

theorem takes_string {content : List Char} :
    string.Takes (AtFront (content.flatMap stringChar ++ ['"']) lexemes) content
      (Spaced lexemes) := by
  rintro _ ⟨rest, spaced, rfl⟩
  refine ⟨rest, ?_, spaced⟩
  rw [List.append_assoc, List.singleton_append, string, ofScan, scanString_flatMap]

/-! ### Numbers -/

/-- The character would continue a number. -/
def continuesNumber (c : Char) : Bool := isDigit c || c = '.' || c = 'e' || c = 'E'

/-- The lexemes do not start with what would continue a number. -/
def Apart (lexemes : List (List Char)) : Prop :=
  ∀ c ∈ lexemes.flatten.head?, continuesNumber c = false

theorem continuesNumber_of_isSpace {c : Char} (blank : isSpace c = true) :
    continuesNumber c = false := by
  simp only [isSpace, Bool.or_eq_true, decide_eq_true_eq] at blank
  rcases blank with ((rfl | rfl) | rfl) | rfl <;> rfl

theorem isDigit_of_not_continues {c : Char} (other : continuesNumber c = false) :
    isDigit c = false := by
  simp only [continuesNumber, Bool.or_eq_false_iff] at other
  exact other.1.1.1

/-- A text of such lexemes does not start so either. -/
theorem Spaced.apart {text : List Char} (spaced : Spaced lexemes text) (apart : Apart lexemes) :
    ∀ c ∈ text.head?, continuesNumber c = false := by
  induction spaced with
  | @done gap blank =>
    intro c first
    exact continuesNumber_of_isSpace (blank c (List.mem_of_mem_head? first))
  | @lexeme gap lexeme text lexemes blank rest ih =>
    intro c first
    rw [List.append_assoc] at first
    cases gap with
    | cons g gap =>
      cases first
      exact continuesNumber_of_isSpace (blank c List.mem_cons_self)
    | nil =>
      cases lexeme with
      | cons d lexeme =>
        cases first
        exact apart c rfl
      | nil => exact ih apart c first

theorem isDigit_eq (c : Char) : isDigit c = c.isDigit := rfl

/-- Digits have the value that they have elsewhere. -/
theorem ofDigits_eq {digits : List Char} (all : ∀ c ∈ digits, c.isDigit = true) (value : Nat) :
    ofDigits value digits = Nat.ofDigitChars 10 digits value := by
  induction digits generalizing value with
  | nil => rfl
  | cons c digits ih =>
    have digit := Char.isDigit_iff_toNat.1 (all c List.mem_cons_self)
    have same : digitValue c = c.toNat - '0'.toNat := by
      change '0'.toNat ≤ c.toNat ∧ c.toNat ≤ '9'.toNat at digit
      have low : '0'.toNat = 48 := rfl
      have high : '9'.toNat = 57 := rfl
      rw [digitValue]
      omega
    rw [ofDigits, Nat.ofDigitChars_cons, same, Nat.mul_comm value,
      ih (fun d mem => all d (List.mem_cons_of_mem _ mem))]

theorem toDigits_pos {n : Nat} (pos : 0 < n) :
    ∃ c w, Nat.toDigits 10 n = c :: w ∧ c ≠ '0' := by
  induction n using Nat.strongRecOn with
  | _ n ih =>
    by_cases small : n < 10
    · refine ⟨n.digitChar, [], Nat.toDigits_of_lt_base small, ?_⟩
      rw [Ne, Nat.digitChar_eq_zero]
      omega
    · obtain ⟨c, w, digits, nonzero⟩ := ih (n / 10) (by omega) (by omega)
      refine ⟨c, w ++ [(n % 10).digitChar], ?_, nonzero⟩
      rw [Nat.toDigits_of_base_le (by omega) (by omega), digits, List.cons_append]

/-- A number without fraction and exponent is whole. -/
theorem afterWhole_apart {rest : List Char} (apart : ∀ c ∈ rest.head?, continuesNumber c = false)
    (negative : Bool) (digits : Nat) :
    afterWhole negative digits 0 rest = (.ok (wholeNumber negative digits), rest) := by
  cases rest with
  | nil => rfl
  | cons c rest =>
    have other := apart c rfl
    simp only [continuesNumber, Bool.or_eq_false_iff, decide_eq_false_iff_not] at other
    obtain ⟨⟨⟨-, point⟩, small⟩, large⟩ := other
    simp only [afterWhole, look_bind, List.head?_cons, if_true]
    simp [point, small, large]
    rfl

theorem takeAll_append {test : Char → Bool} {front rest : List Char}
    (all : ∀ c ∈ front, test c = true) (ends : ∀ c ∈ rest.head?, test c = false) :
    takeAll test (front ++ rest) = (.ok front, rest) := by
  have stops : rest.takeWhile test = [] ∧ rest.dropWhile test = rest := by
    cases rest with
    | nil => exact ⟨rfl, rfl⟩
    | cons c rest => simp [ends c rfl]
  rw [takeAll, List.takeWhile_append_of_pos all, List.dropWhile_append_of_pos all, stops.1, stops.2,
    List.append_nil]

theorem unsigned_digits {c : Char} {w rest : List Char} (all : ∀ d ∈ c :: w, isDigit d = true)
    (nonzero : c ≠ '0') (fits : ofDigits 0 (c :: w) ≤ wordLimit)
    (apart : ∀ d ∈ rest.head?, continuesNumber d = false) (negative : Bool) :
    unsigned negative (c :: w ++ rest) =
      (.ok (wholeNumber negative (ofDigits 0 (c :: w))), rest) := by
  have taken : takeAll isDigit (c :: w ++ rest) = (.ok (c :: w), rest) := by
    exact takeAll_append all fun d first => isDigit_of_not_continues (apart d first)
  rw [List.cons_append] at taken ⊢
  simp only [unsigned, look_bind, if_pos (all c List.mem_cons_self), bind_of_ok taken,
    absorb_of_fits fits]
  exact afterWhole_apart apart negative _

theorem unsigned_zero {rest : List Char} (apart : ∀ d ∈ rest.head?, continuesNumber d = false)
    (negative : Bool) :
    unsigned negative ('0' :: rest) = (.ok (wholeNumber negative 0), rest) := by
  have single : ¬ (rest.head?.map isDigit).getD false = true := by
    cases rest with
    | nil => nofun
    | cons c rest => simp [isDigit_of_not_continues (apart c rfl)]
  change (if (rest.head?.map isDigit).getD false then stopAfter .badNumber
    else afterWhole negative 0 0) rest = _
  rw [if_neg single, afterWhole_apart apart]

theorem number_of_ne {c : Char} (sign : c ≠ '-') (rest : List Char) :
    number (c :: rest) = unsigned false (c :: rest) := by
  simp [number, look_bind, sign]

/-- **A natural of 64 bits comes back from its digits.** -/
theorem takes_number {n : Nat} (fits : n ≤ wordLimit) (apart : Apart lexemes) :
    number.Takes (AtFront (Nat.toDigits 10 n) lexemes) (.integer n) (Spaced lexemes) := by
  rintro _ ⟨rest, spaced, rfl⟩
  refine ⟨rest, ?_, spaced⟩
  have ends := spaced.apart apart
  rcases Nat.eq_zero_or_pos n with rfl | pos
  · exact (number_of_ne (by decide) rest).trans (unsigned_zero ends false)
  · obtain ⟨c, w, digits, nonzero⟩ := toDigits_pos pos
    have all : ∀ d ∈ c :: w, isDigit d = true := by
      rw [← digits]
      exact fun d mem => Nat.isDigit_of_mem_toDigits (by decide) (by decide) mem
    have value : ofDigits 0 (c :: w) = n := by
      rw [ofDigits_eq all, ← digits, Nat.ofDigitChars_ten_toDigits]
    have whole := unsigned_digits all nonzero (by rwa [value]) ends false
    rw [value] at whole
    rw [digits]
    have sign : c ≠ '-' := by
      rintro rfl
      exact absurd (all '-' List.mem_cons_self) (by decide)
    rw [List.cons_append] at whole ⊢
    rw [number_of_ne sign, whole]
    rfl

/-! ### Trees -/

variable {α : Type}

/-- From any writing of the tree the reader takes the value, whatever follows apart from a
number. -/
def Reads (r : Reader α) (t : Tree) (a : α) : Prop :=
  ∀ lexemes, Apart lexemes → r.Takes (Spaced (t.lexemes ++ lexemes)) a (Spaced lexemes)

theorem Reads.map {β : Type} {r : Reader α} {t : Tree} {a : α} (reads : Reads r t a) (f : α → β) :
    Reads (r >>= fun a => pure (f a)) t (f a) :=
  fun lexemes apart => (reads lexemes apart).bind (.pure (f a))

theorem toList_natural (n : Nat) : (toString (n : Int)).toList = Nat.toDigits 10 n :=
  Nat.toList_repr

theorem toDigits_cons (n : Nat) : ∃ c w, Nat.toDigits 10 n = c :: w ∧ c.isDigit = true := by
  obtain ⟨c, w, digits⟩ := List.exists_cons_of_ne_nil (Nat.toDigits_ne_nil (n := n) (b := 10))
  refine ⟨c, w, digits, ?_⟩
  exact Nat.isDigit_of_mem_toDigits (by decide) (by decide) (digits ▸ List.mem_cons_self)

theorem isSpace_of_isDigit {c : Char} (digit : c.isDigit = true) : isSpace c = false := by
  by_contra blank
  have other := isDigit_of_not_continues (continuesNumber_of_isSpace (by simpa using blank))
  rw [isDigit_eq, digit] at other
  cases other

/-- The writing of a value starts with a character that is neither white space nor an end, and
only that of null starts with an n. -/
theorem lexemes_cons (t : Tree) : ∃ c w rest, t.lexemes = (c :: w) :: rest ∧
    isSpace c = false ∧ c ≠ ']' ∧ (c = 'n' → t = .null) := by
  cases t with
  | null => exact ⟨'n', _, _, by rw [Tree.lexemes]; rfl, rfl, by decide, fun _ => rfl⟩
  | integer value =>
    cases value with
    | ofNat n =>
      obtain ⟨c, w, digits, digit⟩ := toDigits_cons n
      have written : (Tree.integer (Int.ofNat n)).lexemes = [c :: w] := by
        rw [Tree.lexemes, ← digits]
        exact congrArg (fun digits => [digits]) (toList_natural n)
      refine ⟨c, w, [], written, isSpace_of_isDigit digit, ?_, ?_⟩
      · rintro rfl
        exact absurd digit (by decide)
      · rintro rfl
        exact absurd digit (by decide)
    | negSucc n =>
      have written : (toString (Int.negSucc n)).toList = '-' :: (n + 1).repr.toList := by
        change ("-" ++ (n + 1).repr).toList = _
        rw [String.toList_append]
        rfl
      exact ⟨'-', _, _, by rw [Tree.lexemes, written], rfl, by decide, nofun⟩
  | string content => exact ⟨'"', _, _, by rw [Tree.lexemes]; rfl, rfl, by decide, nofun⟩
  | array elements =>
    cases elements with
    | nil => exact ⟨'[', _, _, by rw [Tree.lexemes], rfl, by decide, nofun⟩
    | cons first rest => exact ⟨'[', _, _, by rw [Tree.lexemes]; rfl, rfl, by decide, nofun⟩
  | object members =>
    cases members with
    | nil => exact ⟨'\x7b', _, _, by rw [Tree.lexemes], rfl, by decide, nofun⟩
    | cons first rest => exact ⟨'\x7b', _, _, by rw [Tree.lexemes]; rfl, rfl, by decide, nofun⟩

/-- A natural within its bounds is read. -/
theorem reads_natural {n : Nat} {low high : Int} (fits : n ≤ wordLimit) (expected : String)
    (above : low ≤ n) (below : n ≤ high) :
    Reads (integerWithin low high expected) (.integer n) n := by
  intro lexemes apart
  obtain ⟨c, w, digits, digit⟩ := toDigits_cons n
  have number := takes_number fits apart
  rw [Tree.lexemes, toList_natural, List.singleton_append, digits]
  rw [digits] at number
  refine Takes.fixed ((takes_next (isSpace_of_isDigit digit)).bind ?_)
  simp only [isDigit_eq, digit, Bool.or_true, if_true]
  refine number.bind ?_
  simp only [above, below, and_self, if_true]
  exact .pure _

theorem reads_byte (v : UInt8) : Reads byte (.integer v.toNat) v := by
  have small := v.toNat_lt
  have fits : v.toNat ≤ wordLimit := by
    rw [wordLimit]
    omega
  have reads : Reads (integerWithin 0 255 "u8") (.integer v.toNat) v.toNat :=
    reads_natural fits "u8" (by omega) (by omega)
  have made := reads.map fun n => UInt8.ofNat n.toNat
  rw [Int.toNat_natCast, UInt8.ofNat_toNat] at made
  exact made

/-- A name of a table is read. -/
theorem reads_named {table : List (String × α)} {name found : String} {a : α}
    (listed : table.find? (fun (known, _) => known.toList = name.toList) = some (found, a)) :
    Reads (oneName table) (.string name.toList) a := by
  intro lexemes _
  rw [Tree.lexemes, List.singleton_append]
  refine (takes_next rfl).bind (takes_skip.bind (Takes.fixed (takes_string.bind ?_)))
  rw [listed]
  exact .pure a

/-- What may be null is read as nothing, or as a value that is written otherwise. -/
theorem reads_optional {r : Reader α} {tree : α → Tree} {o : Option α}
    (reads : ∀ a ∈ o, Reads r (tree a) a) (other : ∀ a ∈ o, tree a ≠ .null) :
    Reads (Reader.optional r) (optionTree tree o) o := by
  intro lexemes apart
  cases o with
  | none =>
    rw [optionTree, Tree.lexemes, List.singleton_append]
    exact (takes_next rfl).bind (takes_skip.bind ((takes_word _).bind (.pure none)))
  | some a =>
    obtain ⟨c, w, rest, first, solid, -, null⟩ := lexemes_cons (tree a)
    have taken := (reads a rfl lexemes apart).map some
    rw [optionTree]
    rw [first, List.cons_append] at taken ⊢
    refine (takes_next solid).bind ?_
    split
    · next h => exact absurd (null (Option.some.inj h)) (other a rfl)
    · exact taken.before fun _ => AtFront.spaced

end Tint.Json
