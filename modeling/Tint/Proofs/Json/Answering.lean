import Tint.Proofs.Json.Document

/-!
# What a reader answers

A reader takes a value from a text or fails on it. `Taking` follows a reader that takes a value;
here a reader is followed whatever becomes of it, by an option that says what it takes. Readers in
a row then answer with the options in a row.

## The model

* `Reader.Fails r P` says that the reader takes nothing from any text with `P`.
* `Reader.Answers r P o Q` says that it takes the value of `o` from every text with `P` and leaves
  a text with `Q`, or fails on every such text if `o` is nothing.

## What is proved

* `Answers.bind`, `Answers.closedBy`, `Answers.bind_closedBy` and `Answers.again` follow the ways in
  which readers are made of readers.
* `fails_wrongType`: a value of a kind that is not wanted is never taken.
* `ofText_of_answers`: what is made of a whole text.
-/

namespace Tint.Json.Reader

variable {α β : Type} {P Q R : List Char → Prop} {a : α} {o : Option α} {r : Reader α}

/-! ### Failing -/

/-- From no text with `P` the reader takes a value. -/
def Fails (r : Reader α) (P : List Char → Prop) : Prop :=
  ∀ text, P text → ∃ stop rest, r text = (.error stop, rest)

theorem Fails.bind (fails : r.Fails P) (next : α → Reader β) : (r >>= next).Fails P := by
  intro text holds
  obtain ⟨stop, rest, failed⟩ := fails text holds
  exact ⟨stop, rest, by simp only [Bind.bind, failed]⟩

theorem Fails.after {next : α → Reader β} (taken : r.Takes P a Q) (fails : (next a).Fails Q) :
    (r >>= next).Fails P := by
  intro text holds
  obtain ⟨middle, ok, between⟩ := taken text holds
  obtain ⟨stop, rest, failed⟩ := fails middle between
  exact ⟨stop, rest, (bind_of_ok ok).trans failed⟩

theorem Fails.before (fails : r.Fails P) (holds : ∀ text, R text → P text) : r.Fails R :=
  fun text h => fails text (holds text h)

theorem Fails.fixed (fails : r.Fails P) : r.fixed.Fails P := by
  intro text holds
  obtain ⟨⟨issue, left⟩, rest, failed⟩ := fails text holds
  rw [Reader.fixed, failed]
  cases left <;> exact ⟨_, _, rfl⟩

theorem Fails.closedBy {close : Reader Unit} (fails : r.Fails P) : (r.closedBy close).Fails P := by
  intro text holds
  obtain ⟨stop, rest, failed⟩ := fails text holds
  exact ⟨stop, _, by rw [Reader.closedBy, failed]⟩

theorem fails_float (issue : Issue) : (float issue : Reader α).Fails P :=
  fun text _ => ⟨_, text, rfl⟩

theorem fails_stop (issue : Issue) : (stop issue : Reader α).Fails P :=
  fun text _ => ⟨_, text, rfl⟩

theorem fails_stopAfter (issue : Issue) : (stopAfter issue : Reader α).Fails P :=
  fun text _ => ⟨_, text, rfl⟩

/-- A reader fails if it fails whatever is read before. -/
theorem fails_bind {next : α → Reader β} (fails : ∀ a, (next a).Fails fun _ => True) :
    (r >>= next).Fails P := by
  intro text _
  rcases taken : r text with ⟨stop | a, rest⟩
  · exact ⟨stop, rest, by simp only [Bind.bind, taken]⟩
  · obtain ⟨stop, last, failed⟩ := fails a rest trivial
    exact ⟨stop, last, (bind_of_ok taken).trans failed⟩

/-- A value of a kind that is not wanted is never taken. -/
theorem fails_wrongType (expected : String) : (wrongType expected : Reader α).Fails P := by
  refine Fails.fixed (fails_bind fun s => ?_)
  split
  · exact fails_bind fun _ => fails_bind fun _ => fails_float _
  · exact fails_bind fun _ => fails_bind fun _ => fails_float _
  · exact fails_bind fun _ => fails_bind fun _ => fails_float _
  · exact fails_bind fun _ => fails_bind fun _ => fails_float _
  · exact fails_float _
  · exact fails_float _
  · split
    · refine fails_bind fun n => ?_
      cases n <;> exact fails_float _
    · exact fails_stopAfter _
  · exact fails_stopAfter _

/-! ### Answering -/

/-- From every text with `P` the reader takes the value of `o` and leaves a text with `Q`, or it
fails if there is none. -/
def Answers (r : Reader α) (P : List Char → Prop) (o : Option α) (Q : List Char → Prop) : Prop :=
  match o with
  | some a => r.Takes P a Q
  | none => r.Fails P

theorem Answers.pure (a : α) : (Pure.pure a : Reader α).Answers P (some a) P := Takes.pure a

/-- **Readers in a row answer with their options in a row.** -/
theorem Answers.bind {next : α → Reader β} {f : α → Option β} (first : r.Answers P o Q)
    (second : ∀ a ∈ o, (next a).Answers Q (f a) R) : (r >>= next).Answers P (o.bind f) R := by
  cases o with
  | none => exact Fails.bind first next
  | some a =>
    have taken : r.Takes P a Q := first
    have last := second a rfl
    rw [Option.bind_some]
    generalize f a = answer at last ⊢
    cases answer with
    | none => exact Fails.after taken last
    | some b => exact taken.bind last

/-- What is taken before does not fail. -/
theorem Takes.answers {next : α → Reader β} {answer : Option β} (first : r.Takes P a Q)
    (second : (next a).Answers Q answer R) : (r >>= next).Answers P answer R := by
  cases answer with
  | none => exact Fails.after first second
  | some b => exact first.bind second

theorem Answers.map (f : α → β) (answers : r.Answers P o Q) :
    (f <$> r).Answers P (o.map f) Q := by
  rw [Option.map_eq_bind]
  exact answers.bind fun a _ => .pure (f a)

theorem Answers.before (answers : r.Answers P o Q) (holds : ∀ text, R text → P text) :
    r.Answers R o Q := by
  cases o with
  | none => exact Fails.before answers holds
  | some a => exact Takes.before answers holds

theorem Answers.fixed (answers : r.Answers P o Q) : r.fixed.Answers P o Q := by
  cases o with
  | none => exact Fails.fixed answers
  | some a => exact Takes.fixed answers

theorem Answers.closedBy {close : Reader Unit} (answers : r.Answers P o Q)
    (closes : close.Takes Q () R) : (r.closedBy close).Answers P o R := by
  cases o with
  | none => exact Fails.closedBy answers
  | some a => exact Takes.closedBy answers closes

/-- What is read last may be taken together with the end. -/
theorem Answers.bind_closedBy {close : Reader Unit} {next : α → Reader β} {f : α → Option β}
    (first : r.Answers P o Q) (second : ∀ a ∈ o, ((next a).closedBy close).Answers Q (f a) R) :
    ((r >>= next).closedBy close).Answers P (o.bind f) R := by
  cases o with
  | none => exact Fails.closedBy (Fails.bind first next)
  | some a =>
    have same : ∀ text, P text → ∃ rest, Q rest ∧
        (r >>= next).closedBy close text = (next a).closedBy close rest := by
      intro text holds
      obtain ⟨rest, taken, left⟩ := first text holds
      exact ⟨rest, left, by simp only [Reader.closedBy, bind_of_ok taken]⟩
    have last := second a rfl
    rw [Option.bind_some]
    generalize f a = answer at last ⊢
    cases answer <;>
    · intro text holds
      obtain ⟨rest, left, same⟩ := same text holds
      rw [same]
      exact last rest left

/-- What is taken before does not fail, nor does the end come before it. -/
theorem Takes.answers_closedBy {close : Reader Unit} {next : α → Reader β} {answer : Option β}
    (first : r.Takes P a Q) (second : ((next a).closedBy close).Answers Q answer R) :
    ((r >>= next).closedBy close).Answers P answer R := by
  refine Answers.bind_closedBy (o := some a) (f := fun _ => answer) first fun b same => ?_
  cases same
  exact second

/-- If it does not end after what is read, nothing is read. -/
theorem Answers.fails_closedBy {close : Reader Unit} (answers : r.Answers P o Q)
    (fails : close.Fails Q) : (r.closedBy close).Fails P := by
  cases o with
  | none => exact Fails.closedBy answers
  | some a =>
    intro text holds
    obtain ⟨middle, taken, between⟩ := answers text holds
    obtain ⟨stop, rest, failed⟩ := fails middle between
    exact ⟨stop, rest, by simp only [Reader.closedBy, taken, failed]⟩

theorem bind_bind {γ : Type} (r : Reader α) (f : α → Reader β) (g : β → Reader γ) :
    r >>= f >>= g = r >>= fun a => f a >>= g := by
  funext s
  simp only [Bind.bind]
  rcases r s with ⟨stop | a, rest⟩ <;> rfl

/-- One more round. -/
theorem Answers.again {step : β → Reader (β ⊕ α)} {start : β} {fuel : Nat} {round : Option β}
    {f : β → Option α} (first : (step start).Answers P (round.map .inl) Q)
    (others : ∀ b ∈ round, (rounds step fuel b).Answers Q (f b) R) :
    (rounds step (fuel + 1) start).Answers P (round.bind f) R := by
  cases round with
  | none => exact Fails.bind first _
  | some b => exact Takes.answers first (others b rfl)

theorem Answers.loop {step : β → Reader (β ⊕ α)} {start : β} {count : Nat}
    (answers : ∀ fuel, count ≤ fuel → (rounds step fuel start).Answers P o Q)
    (room : ∀ text, P text → count ≤ 2 * text.length + 2) : (loop step start).Answers P o Q := by
  cases o with
  | none => exact fun text holds => answers _ (room text holds) text holds
  | some a => exact fun text holds => answers _ (room text holds) text holds

/-- A whole text is read as the reader answers. -/
theorem ofText_of_answers {text : String} {lexemes : List (List Char)}
    (answers : r.Answers (Spaced lexemes) o (Spaced [])) (spaced : Spaced lexemes text.toList) :
    (r.ofText text).toOption = o := by
  cases o with
  | some a => rw [ofText_of_takes answers spaced]; rfl
  | none =>
    obtain ⟨stop, rest, failed⟩ := answers text.toList spaced
    simp only [ofText, Bind.bind, failed]
    rfl

end Tint.Json.Reader
