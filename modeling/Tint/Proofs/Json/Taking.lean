import Mathlib.Data.List.TakeWhile
import Tint.Json.Value

/-!
# Readers on lexemes

A text of JSON is made of lexemes with white space between them. What a reader does with such a
text does not depend on the white space, and is put together from what its parts do.

## The model

* `weave` writes lexemes with given gaps around them. `Spaced lexemes text` says that the text
  is such a writing, all gaps being white space; `AtFront lexeme lexemes` is the same for a text
  that starts with a lexeme, without a gap.
* `Reader.Takes P a Q` says of a reader that from every text with `P` it takes the value `a` and
  leaves a text with `Q`. It says nothing about the places of characters, which matter to
  failures only.

## What is proved

* `spaced_weave`: what is woven with white space is spaced.
* `Takes.bind`, `Takes.fixed`, `Takes.closedBy` and `Takes.loop` follow the ways in which
  readers are made of readers. A loop has enough fuel if its rounds are at most twice as many as
  the characters of the text.
* `takes_next`, `takes_skip`, `takes_word`, `takes_colon`: the smallest readers.
-/

namespace Tint.Json

open Reader

/-! ### Text made of lexemes -/

/-- Lexemes with gaps: one before each of them, and one after all. -/
def weave (gap : Nat → List Char) : List (List Char) → List Char
  | [] => gap 0
  | lexeme :: lexemes => gap 0 ++ lexeme ++ weave (fun i => gap (i + 1)) lexemes

/-- Text that writes lexemes one after the other, with any white space around them. -/
inductive Spaced : List (List Char) → List Char → Prop
  /-- After the lexemes there is white space. -/
  | done {gap : List Char} (blank : ∀ c ∈ gap, isSpace c = true) : Spaced [] gap
  /-- Before a lexeme there is white space. -/
  | lexeme {gap lexeme text : List Char} {lexemes : List (List Char)}
      (blank : ∀ c ∈ gap, isSpace c = true) (rest : Spaced lexemes text) :
      Spaced (lexeme :: lexemes) (gap ++ lexeme ++ text)

/-- Text that starts with a lexeme and goes on with others, with any white space around those. -/
def AtFront (lexeme : List Char) (lexemes : List (List Char)) (text : List Char) : Prop :=
  ∃ rest, Spaced lexemes rest ∧ text = lexeme ++ rest

/-- Lexemes with white space in the gaps are spaced. -/
theorem spaced_weave {gap : Nat → List Char} (blank : ∀ i, ∀ c ∈ gap i, isSpace c = true)
    (lexemes : List (List Char)) : Spaced lexemes (weave gap lexemes) := by
  induction lexemes generalizing gap with
  | nil => exact .done (blank 0)
  | cons lexeme lexemes ih => exact .lexeme (blank 0) (ih fun i => blank (i + 1))

theorem weave_nil (lexemes : List (List Char)) : weave (fun _ => []) lexemes = lexemes.flatten := by
  induction lexemes with
  | nil => rfl
  | cons lexeme lexemes ih => rw [weave, ih, List.nil_append, List.flatten_cons]

theorem spaced_flatten (lexemes : List (List Char)) : Spaced lexemes lexemes.flatten := by
  have blank (i : Nat) : ∀ c ∈ (fun _ => [] : Nat → List Char) i, isSpace c = true := nofun
  have spaced := spaced_weave blank lexemes
  rwa [weave_nil] at spaced

variable {lexeme : List Char} {lexemes : List (List Char)} {text : List Char}

theorem AtFront.spaced (front : AtFront lexeme lexemes text) : Spaced (lexeme :: lexemes) text := by
  obtain ⟨rest, spaced, rfl⟩ := front
  exact @Spaced.lexeme [] _ _ _ nofun spaced

/-- Without a lexeme in front the text may start with white space. -/
theorem atFront_nil : AtFront [] lexemes = Spaced lexemes := by
  funext text
  refine propext ⟨?_, fun spaced => ⟨text, spaced, rfl⟩⟩
  rintro ⟨rest, spaced, rfl⟩
  exact spaced

/-- The text has at least the characters of its lexemes. -/
theorem Spaced.length_le (spaced : Spaced lexemes text) : lexemes.flatten.length ≤ text.length := by
  induction spaced with
  | done _ => exact Nat.zero_le _
  | lexeme _ _ ih =>
    simp only [List.flatten_cons, List.length_append]
    omega

/-- A text of a lexeme that does not start with white space shows that lexeme after a gap. -/
theorem Spaced.dropWhile {c : Char} (solid : isSpace c = false)
    (spaced : Spaced ((c :: lexeme) :: lexemes) text) :
    AtFront (c :: lexeme) lexemes (text.dropWhile isSpace) := by
  cases spaced with
  | @lexeme gap _ rest _ blank spaced =>
    refine ⟨rest, spaced, ?_⟩
    rw [List.append_assoc, List.dropWhile_append_of_pos blank, List.cons_append,
      List.dropWhile_cons_of_neg (by simp [solid])]

/-! ### Taking -/

namespace Reader

variable {α β : Type} {P Q R : List Char → Prop} {a : α} {b : β} {r : Reader α}

/-- From every text with `P` the reader takes `a`, and it leaves a text with `Q`. -/
def Takes (r : Reader α) (P : List Char → Prop) (a : α) (Q : List Char → Prop) : Prop :=
  ∀ text, P text → ∃ rest, r text = (.ok a, rest) ∧ Q rest

theorem bind_of_ok {next : α → Reader β} {s rest : List Char} (taken : r s = (.ok a, rest)) :
    (r >>= next) s = next a rest := by
  simp only [Bind.bind, taken]

theorem look_bind (next : List Char → Reader β) (s : List Char) :
    (look >>= next) s = next s s := rfl

theorem Takes.pure (a : α) : (Pure.pure a : Reader α).Takes P a P :=
  fun text holds => ⟨text, rfl, holds⟩

theorem Takes.bind {next : α → Reader β} (first : r.Takes P a Q) (second : (next a).Takes Q b R) :
    (r >>= next).Takes P b R := by
  intro text holds
  obtain ⟨middle, taken, between⟩ := first text holds
  obtain ⟨rest, last, after⟩ := second middle between
  exact ⟨rest, (bind_of_ok taken).trans last, after⟩

theorem Takes.map (f : α → β) (taken : r.Takes P a Q) : (f <$> r).Takes P (f a) Q :=
  taken.bind (.pure (f a))

theorem Takes.before (taken : r.Takes P a Q) (holds : ∀ text, R text → P text) : r.Takes R a Q :=
  fun text h => taken text (holds text h)

/-- What holds after may say less. -/
theorem Takes.after (taken : r.Takes P a Q) (holds : ∀ text, Q text → R text) : r.Takes P a R := by
  intro text h
  obtain ⟨rest, ok, left⟩ := taken text h
  exact ⟨rest, ok, holds rest left⟩

theorem Takes.fixed (taken : r.Takes P a Q) : r.fixed.Takes P a Q := by
  intro text h
  obtain ⟨rest, ok, left⟩ := taken text h
  exact ⟨rest, fixed_of_ok ok, left⟩

theorem Takes.closedBy {close : Reader Unit} (taken : r.Takes P a Q) (closes : close.Takes Q () R) :
    (r.closedBy close).Takes P a R := by
  intro text h
  obtain ⟨middle, ok, between⟩ := taken text h
  obtain ⟨rest, closed, left⟩ := closes middle between
  exact ⟨rest, closedBy_of_ok ok closed, left⟩

/-- A loop of `count` rounds takes what its rounds take. -/
theorem Takes.loop {step : β → Reader (β ⊕ α)} {start : β} {count : Nat}
    (taken : ∀ fuel, count ≤ fuel → (rounds step fuel start).Takes P a Q)
    (room : ∀ text, P text → count ≤ 2 * text.length + 2) : (loop step start).Takes P a Q :=
  fun text h => taken _ (room text h) text h

/-- One more round. -/
theorem Takes.again {step : β → Reader (β ⊕ α)} {start : β} {fuel : Nat}
    (first : (step start).Takes P (.inl b) Q) (others : (rounds step fuel b).Takes Q a R) :
    (rounds step (fuel + 1) start).Takes P a R :=
  first.bind others

theorem Takes.last {step : β → Reader (β ⊕ α)} {start : β} {fuel : Nat}
    (taken : (step start).Takes P (.inr a) Q) : (rounds step (fuel + 1) start).Takes P a Q :=
  taken.bind (.pure a)

/-! ### The smallest readers -/

/-- The next character is the first one of the next lexeme. -/
theorem takes_next {c : Char} (solid : isSpace c = false) :
    next.Takes (Spaced ((c :: lexeme) :: lexemes)) (some c) (AtFront (c :: lexeme) lexemes) := by
  intro text spaced
  have front := spaced.dropWhile solid
  refine ⟨text.dropWhile isSpace, ?_, front⟩
  obtain ⟨rest, -, shown⟩ := front
  change (Except.ok (text.dropWhile isSpace).head?, text.dropWhile isSpace) = _
  rw [shown]
  rfl

/-- After the last lexeme there is no next character. -/
theorem takes_next_none : next.Takes (Spaced []) none (· = []) := by
  rintro text ⟨blank⟩
  have gone : text.dropWhile isSpace = [] := List.dropWhile_eq_nil_iff.2 blank
  refine ⟨[], ?_, rfl⟩
  change (Except.ok (text.dropWhile isSpace).head?, text.dropWhile isSpace) = _
  rw [gone]
  rfl

theorem takes_skip {c : Char} :
    skip.Takes (AtFront (c :: lexeme) lexemes) () (AtFront lexeme lexemes) := by
  rintro _ ⟨rest, spaced, rfl⟩
  exact ⟨lexeme ++ rest, rfl, rest, spaced, rfl⟩

theorem takes_mark {c : Char} : skip.Takes (AtFront [c] lexemes) () (Spaced lexemes) := by
  rw [← atFront_nil]
  exact takes_skip

theorem takes_word (w : List Char) : (word w).Takes (AtFront w lexemes) () (Spaced lexemes) := by
  induction w with
  | nil =>
    rw [atFront_nil]
    exact .pure ()
  | cons c w ih =>
    rintro _ ⟨rest, spaced, rfl⟩
    obtain ⟨left, taken, spaced⟩ := ih _ ⟨rest, spaced, rfl⟩
    refine ⟨left, ?_, spaced⟩
    change (if c = c then skip >>= fun _ => word w else stopAfter .expectedWord)
      (c :: (w ++ rest)) = _
    rw [if_pos rfl]
    exact taken

theorem takes_colon : colon.Takes (Spaced ([':'] :: lexemes)) () (Spaced lexemes) :=
  (takes_next rfl).bind takes_mark

/-- A whole text is read if the reader takes all its lexemes. -/
theorem ofText_of_takes {text : String} (taken : r.Takes (Spaced lexemes) a (Spaced []))
    (spaced : Spaced lexemes text.toList) : r.ofText text = .ok a := by
  obtain ⟨rest, value, blank⟩ := taken text.toList spaced
  obtain ⟨last, ended, -⟩ := takes_next_none rest blank
  simp only [ofText, bind_of_ok value, bind_of_ok ended]
  rfl

end Reader

end Tint.Json
