import Tint.Proofs.Json.Numerals
import Tint.Proofs.Json.Strings

/-!
# Every value is passed over

A member that a record does not know is passed over, whatever its value is. The program keeps the
enclosing arrays and objects on a list and goes on in rounds, one for each value, comma and
bracket; here this is put in the terms of the values themselves.

## The model

* `passStep` is one of the rounds.
* `Passes d` says that rounds which start at the value `d` come to what follows it, with the same
  enclosures and at least as much fuel as two rounds for each character leave.
* `Enclosed` are the items of an array or of an object: what stands before a value, and the value.

## What is proved

* `passes`: every value is passed over, by induction on its elements and members.
* `takes_passValue`: so it is by itself.
-/

namespace Tint.Json

open Reader

variable {lexemes : List (List Char)} {P : List Char → Prop}

/-- One round of passing over a value. -/
def passStep : Passing × List Enclosure → Reader ((Passing × List Enclosure) ⊕ Unit)
  | (.value, enclosures) => .inl <$> passFront enclosures
  | (.ended, enclosure :: outer) => .inl <$> passNext enclosure outer
  | (.ended, []) => pure (.inr ())

theorem passValue_eq : passValue = loop passStep (.value, []) := rfl

/-- With enough fuel, rounds from a state take a text with `P` to its end. -/
def Finishes (fuel : ℕ) (state : Passing × List Enclosure) (P Q : List Char → Prop) : Prop :=
  ∀ more, fuel ≤ more → (rounds passStep more state).Takes P () Q

theorem Finishes.round {fuel : ℕ} {state next : Passing × List Enclosure}
    {P Q R : List Char → Prop} (first : (passStep state).Takes P (.inl next) Q)
    (others : Finishes fuel next Q R) : Finishes (fuel + 1) state P R := by
  intro more enough
  obtain ⟨more, rfl⟩ := Nat.exists_eq_succ_of_ne_zero (by omega : more ≠ 0)
  exact Takes.again first (others more (by omega))

theorem Finishes.front {fuel : ℕ} {enclosures : List Enclosure}
    {next : Passing × List Enclosure} {P Q R : List Char → Prop}
    (first : (passFront enclosures).Takes P next Q) (others : Finishes fuel next Q R) :
    Finishes (fuel + 1) (.value, enclosures) P R := by
  have round : (passStep (.value, enclosures)).Takes P (.inl next) Q := first.map Sum.inl
  exact Finishes.round round others

theorem Finishes.next {fuel : ℕ} {enclosure : Enclosure} {outer : List Enclosure}
    {next : Passing × List Enclosure} {P Q R : List Char → Prop}
    (first : (passNext enclosure outer).Takes P next Q) (others : Finishes fuel next Q R) :
    Finishes (fuel + 1) (.ended, enclosure :: outer) P R := by
  have round : (passStep (.ended, enclosure :: outer)).Takes P (.inl next) Q := first.map Sum.inl
  exact Finishes.round round others

theorem Finishes.mono {fuel more : ℕ} {state : Passing × List Enclosure}
    {P Q : List Char → Prop} (finishes : Finishes fuel state P Q) (enough : fuel ≤ more) :
    Finishes more state P Q :=
  fun most h => finishes most (enough.trans h)

/-- Rounds that start at the value come to what follows it. -/
def Passes (d : Doc) : Prop :=
  ∀ (lexemes : List (List Char)) (enclosures : List Enclosure) (Q : List Char → Prop) (fuel : ℕ),
    Apart lexemes → Finishes fuel (.ended, enclosures) (Spaced lexemes) Q →
    Finishes (fuel + 2 * d.lexemes.flatten.length) (.value, enclosures)
      (Spaced (d.lexemes ++ lexemes)) Q

/-! ### Items of enclosures -/

/-- How the items of an enclosure are written. -/
structure Enclosed (enclosure : Enclosure) (ι : Type) where
  /-- What stands before the value of an item. -/
  front : ι → List (List Char)
  /-- The value of an item. -/
  value : ι → Doc
  /-- What stands before the value is passed over. -/
  takes_lead : ∀ i lexemes,
    (passLead enclosure).Takes (Spaced (front i ++ lexemes)) () (Spaced lexemes)
  /-- An item does not start as the enclosure ends. -/
  starts : ∀ i, ∃ c w rest, front i ++ (value i).lexemes = (c :: w) :: rest ∧ isSpace c = false ∧
    c ≠ enclosure.closing

namespace Enclosed

variable {enclosure : Enclosure} {ι : Type} (written : Enclosed enclosure ι)

/-- The lexemes of an item. -/
def item (i : ι) : List (List Char) := written.front i ++ (written.value i).lexemes

/-- The lexemes of all items and the end. -/
def items (first : Bool) (is : List ι) : List (List Char) :=
  joined first (is.map written.item) ++ [[enclosure.closing]]

variable {written}

theorem solid_closing (enclosure : Enclosure) :
    isSpace enclosure.closing = false ∧ enclosure.closing ≠ ',' ∧
      continuesNumber enclosure.closing = false := by
  cases enclosure <;> decide

theorem takes_passOpen_nil (c : Char) (outer : List Enclosure) :
    (passOpen enclosure outer).Takes (AtFront [c] ([enclosure.closing] :: lexemes)) (.ended, outer)
      (Spaced lexemes) := by
  refine takes_mark.bind ((takes_next (solid_closing enclosure).1).bind ?_)
  simp only [if_true]
  exact takes_mark.bind (.pure _)

/-- An enclosure with items goes on with the value of the first one. -/
theorem takes_passOpen (c : Char) (outer : List Enclosure) (i : ι) :
    (passOpen enclosure outer).Takes (AtFront [c] (written.item i ++ lexemes))
      (.value, enclosure :: outer) (Spaced ((written.value i).lexemes ++ lexemes)) := by
  obtain ⟨d, w, rest, starts, solid, other⟩ := written.starts i
  have taken := written.takes_lead i ((written.value i).lexemes ++ lexemes)
  rw [← List.append_assoc, starts] at taken
  rw [item, starts]
  refine takes_mark.bind ((takes_next solid).bind ?_)
  simp only [if_neg other]
  exact (taken.before fun _ => AtFront.spaced).bind (.pure _)

/-- A comma goes on with the value of the next item. -/
theorem takes_passNext (outer : List Enclosure) (i : ι) :
    (passNext enclosure outer).Takes (Spaced ([','] :: (written.item i ++ lexemes)))
      (.value, enclosure :: outer) (Spaced ((written.value i).lexemes ++ lexemes)) := by
  refine (takes_next rfl).bind ?_
  simp only [if_true]
  rw [item, List.append_assoc]
  exact takes_mark.bind ((written.takes_lead i _).bind (.pure _))

theorem takes_passNext_end (outer : List Enclosure) :
    (passNext enclosure outer).Takes (Spaced ([enclosure.closing] :: lexemes)) (.ended, outer)
      (Spaced lexemes) := by
  obtain ⟨solid, comma, -⟩ := solid_closing enclosure
  refine (takes_next solid).bind ?_
  simp only [if_neg comma, if_true]
  exact takes_mark.bind (.pure _)

theorem apart_items (is : List ι) (lexemes : List (List Char)) :
    Apart (written.items false is ++ lexemes) := by
  rw [items, List.append_assoc]
  exact apart_joined _ (solid_closing enclosure).2.2 lexemes

theorem items_cons (first : Bool) (i : ι) (is : List ι) :
    written.items first (i :: is) = lead first ++ (written.item i ++ written.items false is) := by
  rw [items, List.map_cons, joined, items, List.append_assoc, List.append_assoc]

variable {outer : List Enclosure} {Q : List Char → Prop} {fuel : ℕ}

/-- The items that are left are passed over after a value. -/
theorem finishes_items {is : List ι} (passes : ∀ i ∈ is, Passes (written.value i))
    (after : Finishes fuel (.ended, outer) (Spaced lexemes) Q) :
    Finishes (fuel + 2 * (written.items false is).flatten.length) (.ended, enclosure :: outer)
      (Spaced (written.items false is ++ lexemes)) Q := by
  induction is with
  | nil =>
    refine (Finishes.next (takes_passNext_end outer) after).mono ?_
    simp [items, joined]
  | cons i is ih =>
    have others := ih fun j mem => passes j (List.mem_cons_of_mem _ mem)
    have value := passes i List.mem_cons_self _ _ _ _ (apart_items is lexemes) others
    rw [items_cons]
    simp only [lead, Bool.false_eq_true, if_false, List.cons_append, List.nil_append,
      List.append_assoc]
    refine (Finishes.next (takes_passNext outer i) value).mono ?_
    simp only [List.flatten_cons, List.flatten_append, List.length_append, List.length_cons,
      List.length_nil, item]
    omega

/-- **An enclosure is passed over if its values are.** -/
theorem passes_items {mark : Char} {is : List ι} (passes : ∀ i ∈ is, Passes (written.value i))
    (opens : ∀ {lexemes state Q},
      (passOpen enclosure outer).Takes (AtFront [mark] lexemes) state Q →
      (passFront outer).Takes (Spaced ([mark] :: lexemes)) state Q)
    (after : Finishes fuel (.ended, outer) (Spaced lexemes) Q) :
    Finishes (fuel + 2 * ([mark] :: written.items true is).flatten.length) (.value, outer)
      (Spaced ([mark] :: (written.items true is ++ lexemes))) Q := by
  cases is with
  | nil =>
    refine (Finishes.front (opens (takes_passOpen_nil mark outer)) after).mono ?_
    simp only [items, joined, List.map_nil, List.nil_append, List.flatten_cons, List.flatten_nil,
      List.length_append, List.length_cons, List.length_nil]
    omega
  | cons i is =>
    have others := finishes_items (fun j mem => passes j (List.mem_cons_of_mem _ mem)) after
    have value := passes i List.mem_cons_self _ _ _ _ (apart_items is lexemes) others
    rw [items_cons]
    simp only [lead, if_true, List.nil_append, List.append_assoc]
    refine (Finishes.front (opens (takes_passOpen mark outer i)) value).mono ?_
    simp only [List.flatten_cons, List.flatten_append, List.length_append, List.length_cons,
      List.length_nil, item]
    omega

end Enclosed

/-- The elements of an array. -/
def enclosedElements : Enclosed .array Doc where
  front _ := []
  value := id
  takes_lead _ _ := .pure ()
  starts d := by
    obtain ⟨c, w, rest, written, starts⟩ := d.lexemes_cons
    obtain ⟨solid, other⟩ := starts.solid
    refine ⟨c, w, rest, written, solid, ?_⟩
    rintro rfl
    exact other (by decide)

/-- The members of an object. -/
def enclosedMembers : Enclosed .object (Written × Doc) where
  front m := [m.1.lexeme, [':']]
  value m := m.2
  takes_lead m lexemes :=
    (takes_next rfl).bind (takes_skip.bind ((takes_passString m.1).bind takes_colon))
  starts m := ⟨'"', _, _, rfl, rfl, by decide⟩

/-! ### Values -/

/-- A value without parts takes one round. -/
theorem passes_front {d : Doc} {lexeme : List Char} (written : d.lexemes = [lexeme])
    (filled : lexeme ≠ [])
    (taken : ∀ lexemes enclosures, Apart lexemes → (passFront enclosures).Takes
      (Spaced (lexeme :: lexemes)) (.ended, enclosures) (Spaced lexemes)) : Passes d := by
  intro lexemes enclosures Q fuel apart after
  have length := List.length_pos_iff.2 filled
  rw [written]
  refine (Finishes.front (taken lexemes enclosures apart) after).mono ?_
  simp only [List.flatten_cons, List.flatten_nil, List.append_nil]
  omega

/-- **Every value is passed over.** -/
theorem passes (d : Doc) : Passes d := by
  induction d with
  | null =>
    refine passes_front (by rw [Doc.lexemes]) (by decide) fun lexemes enclosures _ => ?_
    exact (takes_next rfl).bind (takes_skip.bind ((takes_word _).bind (.pure _)))
  | boolean b =>
    cases b with
    | true =>
      refine passes_front (by rw [Doc.lexemes]) (by decide) fun lexemes enclosures _ => ?_
      exact (takes_next rfl).bind (takes_skip.bind ((takes_word _).bind (.pure _)))
    | false =>
      refine passes_front (by rw [Doc.lexemes]) (by decide) fun lexemes enclosures _ => ?_
      exact (takes_next rfl).bind (takes_skip.bind ((takes_word _).bind (.pure _)))
  | number n =>
    obtain ⟨c, w, written, starts⟩ := n.lexeme_cons
    have filled : n.lexeme ≠ [] := written ▸ List.cons_ne_nil c w
    refine passes_front (by rw [Doc.lexemes]) filled fun lexemes enclosures apart => ?_
    have passed := takes_passNumber n apart
    rw [written] at passed ⊢
    obtain ⟨solid, other⟩ := startsNumber_spec starts
    refine (takes_next solid).bind ?_
    -- None of the characters that start another value starts a number.
    split
    case h_8 same =>
      cases same
      exact (if_pos starts).symm ▸ passed.bind (.pure _)
    all_goals
      next same =>
        cases same
        try exact absurd (by decide) other
  | string w =>
    have filled : w.lexeme ≠ [] := List.cons_ne_nil '"' w.tail
    refine passes_front (by rw [Doc.lexemes]) filled fun lexemes enclosures _ => ?_
    exact (takes_next rfl).bind (takes_skip.bind ((takes_passString w).bind (.pure _)))
  | array ds ih =>
    intro lexemes enclosures Q fuel _ after
    have written : (Doc.array ds).lexemes = ['['] :: enclosedElements.items true ds := by
      rw [Doc.lexemes_array]
      rfl
    rw [written]
    exact Enclosed.passes_items ih (fun taken => (takes_next rfl).bind taken) after
  | object ms ih =>
    intro lexemes enclosures Q fuel _ after
    have written : (Doc.object ms).lexemes = ['\x7b'] :: enclosedMembers.items true ms := by
      rw [Doc.lexemes_object]
      rfl
    rw [written]
    exact Enclosed.passes_items ih (fun taken => (takes_next rfl).bind taken) after

/-- A value is passed over by itself. -/
theorem takes_passValue (d : Doc) (apart : Apart lexemes) :
    passValue.Takes (Spaced (d.lexemes ++ lexemes)) () (Spaced lexemes) := by
  rw [passValue_eq]
  have last : Finishes 1 (.ended, []) (Spaced lexemes) (Spaced lexemes) := by
    intro more enough
    obtain ⟨more, rfl⟩ := Nat.exists_eq_succ_of_ne_zero (by omega : more ≠ 0)
    exact Takes.last (.pure _)
  refine Takes.loop (passes d _ _ _ _ apart last) fun text spaced => ?_
  have length := spaced.length_le
  rw [List.flatten_append, List.length_append] at length
  omega

end Tint.Json
