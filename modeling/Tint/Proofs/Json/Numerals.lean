import Tint.Proofs.Json.Answering

/-!
# Numbers in all their writings

A number may have a sign, a fraction and an exponent. Where it is passed over, every writing will
do. Where a whole number is wanted, it has to be written without them.

## What is proved

* `takes_passNumber`: every number is passed over.
* `number_natural`, `number_integer`: of the numbers that are not negative, exactly those without
  sign, fraction and exponent are read as whole.
-/

namespace Tint.Json

open Reader

variable {lexemes : List (List Char)} {rest : List Char}

/-! ### Numbers that are passed over -/

/-- The characters after a number do not continue it. -/
def Ends (rest : List Char) : Prop := ∀ c ∈ rest.head?, continuesNumber c = false

theorem Ends.not_digit (ends : Ends rest) : ∀ c ∈ rest.head?, isDigit c = false :=
  fun c first => isDigit_of_not_continues (ends c first)

theorem takeAll_digits (digits : Digits) (stops : ∀ c ∈ rest.head?, isDigit c = false) :
    takeAll isDigit (digits.chars ++ rest) = (.ok digits.chars, rest) :=
  takeAll_append digits.all stops

theorem Exponent.mark_not_digit (e : Exponent) : isDigit e.mark = false := by
  rcases e.mark_eq with mark | mark <;> (rw [mark]; rfl)

/-- What comes after digits in a number is not a digit. -/
theorem exponent_not_digit (e : Option Exponent) (ends : Ends rest) :
    ∀ c ∈ (e.elim [] Exponent.text ++ rest).head?, isDigit c = false := by
  cases e with
  | none => exact ends.not_digit
  | some e =>
    rintro _ ⟨⟩
    exact e.mark_not_digit

theorem tail_not_digit (n : Numeral) (ends : Ends rest) :
    ∀ c ∈ (n.tail ++ rest).head?, isDigit c = false := by
  rw [Numeral.tail, List.append_assoc]
  cases n.fraction with
  | none => exact exponent_not_digit n.exponent ends
  | some f =>
    rintro _ ⟨⟩
    rfl

theorem Digits.exists_cons (digits : Digits) : ∃ c w, digits.chars = c :: w ∧ isDigit c = true := by
  obtain ⟨c, w, chars⟩ := List.exists_cons_of_ne_nil digits.nonempty
  exact ⟨c, w, chars, digits.all c (chars ▸ List.mem_cons_self)⟩

theorem passExponent_text (e : Exponent) (ends : Ends rest) :
    passExponent (e.text ++ rest) = (.ok (), rest) := by
  obtain ⟨c, w, chars, digit⟩ := e.digits.exists_cons
  have taken := takeAll_digits e.digits ends.not_digit
  rw [chars, List.cons_append] at taken
  rw [Exponent.text, chars]
  cases sign : e.sign with
  | none =>
    -- Without a sign the first digit is looked at for one.
    have plus : c ≠ '+' := by rintro rfl; cases digit
    have minus : c ≠ '-' := by rintro rfl; cases digit
    simp [passExponent, Bind.bind, Pure.pure, skip, look, plus, minus, taken]
  | some s =>
    rcases e.sign_mem s sign with rfl | rfl <;>
      simp [passExponent, Bind.bind, Pure.pure, skip, look, taken]

/-- What does not continue a number is neither a point nor the letter of an exponent. -/
theorem Ends.other (ends : Ends rest) : ∀ c ∈ rest.head?, c ≠ '.' ∧ c ≠ 'e' ∧ c ≠ 'E' := by
  intro c first
  have other := ends c first
  simp only [continuesNumber, Bool.or_eq_false_iff, decide_eq_false_iff_not] at other
  exact ⟨other.1.1.2, other.1.2, other.2⟩

/-- An exponent after digits is passed over, if there is one. -/
theorem passAfterWhole_exponent (e : Option Exponent) (ends : Ends rest) :
    passAfterWhole (e.elim [] Exponent.text ++ rest) = (.ok (), rest) := by
  cases e with
  | none =>
    cases rest with
    | nil => rfl
    | cons c rest =>
      obtain ⟨point, small, large⟩ := ends.other c rfl
      simp [passAfterWhole, look_bind, point, small, large]
      rfl
  | some e =>
    have passed := passExponent_text e ends
    rw [Exponent.text] at passed
    rw [Option.elim_some, Exponent.text]
    rcases e.mark_eq with mark | mark <;>
    · rw [mark] at passed ⊢
      exact passed

theorem passFraction_text (f : Digits) (e : Option Exponent) (ends : Ends rest) :
    passFraction ('.' :: (f.chars ++ (e.elim [] Exponent.text ++ rest))) = (.ok (), rest) := by
  obtain ⟨c, w, chars, -⟩ := f.exists_cons
  have taken := takeAll_digits f (exponent_not_digit e ends)
  have filled : f.chars.isEmpty = false := by
    rw [chars]
    rfl
  -- After the digits a fraction goes on as the whole number would without its point.
  have same : passFraction ('.' :: (f.chars ++ (e.elim [] Exponent.text ++ rest))) =
      passAfterWhole (e.elim [] Exponent.text ++ rest) := by
    rw [passFraction]
    refine (bind_of_ok rfl).trans ((bind_of_ok taken).trans ?_)
    rw [if_neg (by rw [filled]; exact Bool.false_ne_true)]
    cases e with
    | none =>
      cases rest with
      | nil => rfl
      | cons c rest =>
        obtain ⟨point, small, large⟩ := ends.other c rfl
        simp [passAfterWhole, look_bind, point, small, large]
    | some e =>
      rw [Option.elim_some, Exponent.text]
      rcases e.mark_eq with mark | mark <;> (rw [mark]; rfl)
  rw [same, passAfterWhole_exponent e ends]

/-- What follows the digits before the point is passed over. -/
theorem passAfterWhole_tail (n : Numeral) (ends : Ends rest) :
    passAfterWhole (n.tail ++ rest) = (.ok (), rest) := by
  rw [Numeral.tail, List.append_assoc]
  cases n.fraction with
  | none => exact passAfterWhole_exponent n.exponent ends
  | some f => exact passFraction_text f n.exponent ends

/-- What does not start with a digit is not taken for one. -/
theorem getD_isDigit (stops : ∀ c ∈ rest.head?, isDigit c = false) :
    ¬ (rest.head?.map isDigit).getD false = true := by
  cases rest with
  | nil => nofun
  | cons c rest => simp [stops c rfl]

theorem passUnsigned_text (n : Numeral) (ends : Ends rest) :
    passUnsigned (n.unsignedText ++ rest) = (.ok (), rest) := by
  have stops := tail_not_digit n ends
  have taken := takeAll_digits n.whole stops
  obtain ⟨c, w, chars, digit⟩ := n.whole.exists_cons
  rw [chars, List.cons_append] at taken
  rw [Numeral.unsignedText, List.append_assoc, chars, List.cons_append]
  by_cases zero : c = '0'
  · subst zero
    obtain rfl := n.single w chars
    change (if ((n.tail ++ rest).head?.map isDigit).getD false then stopAfter .badNumber
      else passAfterWhole) (n.tail ++ rest) = _
    rw [if_neg (getD_isDigit stops), passAfterWhole_tail n ends]
  · simp only [passUnsigned, look_bind, if_pos digit, bind_of_ok taken]
    exact passAfterWhole_tail n ends

/-- The digits of a number do not start with a sign. -/
theorem unsignedText_ne (n : Numeral) (rest : List Char) :
    ∃ c w, n.unsignedText ++ rest = c :: w ∧ c ≠ '-' := by
  obtain ⟨c, w, chars, digit⟩ := n.whole.exists_cons
  refine ⟨c, w ++ (n.tail ++ rest), ?_, ?_⟩
  · rw [Numeral.unsignedText, chars, List.append_assoc, List.cons_append]
  · rintro rfl
    cases digit

/-- A number is passed over in all its writings. -/
theorem passNumber_lexeme (n : Numeral) (ends : Ends rest) :
    passNumber (n.lexeme ++ rest) = (.ok (), rest) := by
  have passed := passUnsigned_text n ends
  rw [Numeral.lexeme]
  cases n.negative with
  | true => exact passed
  | false =>
    obtain ⟨c, w, written, minus⟩ := unsignedText_ne n rest
    rw [written] at passed
    rw [if_neg Bool.false_ne_true, List.nil_append, written]
    simpa [passNumber, look_bind, minus] using passed

theorem takes_passNumber (n : Numeral) (apart : Apart lexemes) :
    passNumber.Takes (AtFront n.lexeme lexemes) () (Spaced lexemes) := by
  rintro _ ⟨rest, spaced, rfl⟩
  exact ⟨rest, passNumber_lexeme n (spaced.apart apart), spaced⟩

/-! ### Numbers that are read -/

/-- The reader never takes a whole number. -/
def NeverWhole (r : Reader Number) : Prop :=
  ∀ s m left, r s ≠ (.ok (.integer m), left)

theorem NeverWhole.bind {α : Type} {r : Reader α} {next : α → Reader Number}
    (never : ∀ a, NeverWhole (next a)) : NeverWhole (r >>= next) := by
  intro s m left taken
  rcases first : r s with ⟨stop | a, rest⟩
  · simp only [Bind.bind, first] at taken
    cases taken
  · exact never a rest m left ((bind_of_ok first).symm.trans taken)

theorem NeverWhole.ite {p : Prop} [Decidable p] {a b : Reader Number} (yes : NeverWhole a)
    (no : NeverWhole b) : NeverWhole (if p then a else b) := by
  split
  · exact yes
  · exact no

theorem neverWhole_stop (issue : Issue) : NeverWhole (stop issue) := nofun

theorem neverWhole_stopAfter (issue : Issue) : NeverWhole (stopAfter issue) := nofun

theorem neverWhole_float (v : Double) : NeverWhole (pure (.float v)) := nofun

theorem neverWhole_floatNumber (negative : Bool) (digits : Nat) (exponent : Int) :
    NeverWhole (floatNumber negative digits exponent) := by
  rw [floatNumber]
  split
  · exact neverWhole_stop _
  · exact neverWhole_float _

theorem neverWhole_exponentPart (negative : Bool) (digits : Nat) (exponent : Int) :
    NeverWhole (exponentPart negative digits exponent) := by
  rw [exponentPart]
  refine .bind fun _ => .bind fun _ => ?_
  extract_lets digitsOf
  have never (raised : Bool) : NeverWhole (digitsOf raised) := by
    refine .bind fun _ => ?_
    split
    · exact neverWhole_stop _
    · refine .ite (neverWhole_stopAfter _) (.bind fun _ => ?_)
      split
      · exact neverWhole_floatNumber _ _ _
      · next unread _ =>
        exact .ite (fun s => neverWhole_stop _ (unread ++ s)) (neverWhole_float _)
  split
  · exact .bind fun _ => .bind never
  · exact .bind fun _ => .bind never
  · exact .bind never

theorem neverWhole_afterDigits (negative : Bool) (digits : Nat) (exponent : Int) :
    NeverWhole (afterDigits negative digits exponent) := by
  rw [afterDigits]
  refine .bind fun _ => ?_
  split
  · exact neverWhole_exponentPart _ _ _
  · exact neverWhole_exponentPart _ _ _
  · exact neverWhole_floatNumber _ _ _

theorem neverWhole_fractionPart (negative : Bool) (digits : Nat) (exponent : Int) :
    NeverWhole (fractionPart negative digits exponent) := by
  rw [fractionPart]
  refine .bind fun _ => .bind fun _ => .ite (.bind fun _ => ?_) (neverWhole_afterDigits _ _ _)
  split
  · exact neverWhole_stopAfter _
  · exact neverWhole_stopAfter _

/-- A number is its sign and its digits, as far as they fit, and what follows them. -/
theorem unsigned_text (n : Numeral) (ends : Ends rest) :
    unsigned n.negative (n.unsignedText ++ rest) =
      afterWhole n.negative (absorb 0 n.whole.chars).1 (absorb 0 n.whole.chars).2.length
        (n.tail ++ rest) := by
  have stops := tail_not_digit n ends
  have taken := takeAll_digits n.whole stops
  obtain ⟨c, w, chars, digit⟩ := n.whole.exists_cons
  rw [chars, List.cons_append] at taken
  rw [Numeral.unsignedText, List.append_assoc, chars, List.cons_append]
  by_cases zero : c = '0'
  · subst zero
    obtain rfl := n.single w chars
    change (if ((n.tail ++ rest).head?.map isDigit).getD false then stopAfter .badNumber
      else afterWhole n.negative 0 0) (n.tail ++ rest) = _
    rw [if_neg (getD_isDigit stops)]
    rfl
  · simp only [unsigned, look_bind, if_pos digit, bind_of_ok taken]

theorem number_lexeme (n : Numeral) (ends : Ends rest) :
    number (n.lexeme ++ rest) =
      afterWhole n.negative (absorb 0 n.whole.chars).1 (absorb 0 n.whole.chars).2.length
        (n.tail ++ rest) := by
  have read := unsigned_text n ends
  rw [Numeral.lexeme]
  cases negative : n.negative with
  | true =>
    rw [negative] at read
    exact read
  | false =>
    obtain ⟨c, w, written, minus⟩ := unsignedText_ne n rest
    rw [negative, written] at read
    rw [if_neg Bool.false_ne_true, List.nil_append, written, number_of_ne minus, read]

/-- Digits that are all taken make their number. -/
theorem absorb_eq_ofDigits {value : Nat} {digits : List Char}
    (all : (absorb value digits).2 = []) : (absorb value digits).1 = ofDigits value digits := by
  induction digits generalizing value with
  | nil => rfl
  | cons c digits ih =>
    rw [absorb] at all ⊢
    split at all
    · cases all
    · next fits =>
      rw [if_neg fits]
      exact ih all

/-- Without fraction and exponent a number ends after its digits. -/
theorem afterWhole_ends (ends : Ends rest) (negative : Bool) (digits dropped : Nat) :
    afterWhole negative digits dropped rest =
      (if dropped = 0 then pure (wholeNumber negative digits)
        else floatNumber negative digits dropped) rest := by
  cases rest with
  | nil => rfl
  | cons c rest =>
    obtain ⟨point, small, large⟩ := ends.other c rfl
    simp [afterWhole, look_bind, point, small, large]

/-- With a fraction or an exponent no number is whole. -/
theorem neverWhole_tail {n : Numeral} (parts : n.fraction ≠ none ∨ n.exponent ≠ none)
    (negative : Bool) (digits dropped : Nat) (rest left : List Char) (m : Int) :
    afterWhole negative digits dropped (n.tail ++ rest) ≠ (.ok (.integer m), left) := by
  rw [Numeral.tail]
  cases fraction : n.fraction with
  | some f => exact neverWhole_fractionPart _ _ _ _ _ _
  | none =>
    cases exponent : n.exponent with
    | none => exact absurd parts (by simp [fraction, exponent])
    | some e =>
      rw [Option.elim_none, List.nil_append, Option.elim_some, Exponent.text]
      rcases e.mark_eq with mark | mark <;>
      · rw [mark]
        exact neverWhole_exponentPart _ _ _ _ _ _

/-- A whole number of 64 bits is read. -/
theorem number_natural {n : Numeral} {v : Nat} (whole : n.natural? = some v) (fits : v ≤ wordLimit)
    (ends : Ends rest) : number (n.lexeme ++ rest) = (.ok (.integer v), rest) := by
  rw [number_lexeme n ends]
  simp only [Numeral.natural?] at whole
  split at whole
  · next bare =>
    obtain ⟨positive, fraction, exponent⟩ := bare
    cases whole
    have tail : n.tail = [] := by
      rw [Numeral.tail, Option.isNone_iff_eq_none.1 fraction, Option.isNone_iff_eq_none.1 exponent]
      rfl
    rw [absorb_of_fits fits, tail, positive, List.nil_append]
    exact afterWhole_apart ends false _
  · cases whole

/-- A number that is read as whole and not negative is written as one. -/
theorem number_integer {n : Numeral} {m : Int} {left : List Char}
    (taken : number (n.lexeme ++ rest) = (.ok (.integer m), left)) (nonneg : 0 ≤ m)
    (ends : Ends rest) : n.natural? = some m.toNat := by
  rw [number_lexeme n ends] at taken
  have fraction : n.fraction = none := by
    by_contra some
    exact neverWhole_tail (.inl some) _ _ _ _ _ _ taken
  have exponent : n.exponent = none := by
    by_contra some
    exact neverWhole_tail (.inr some) _ _ _ _ _ _ taken
  have tail : n.tail = [] := by
    rw [Numeral.tail, fraction, exponent]
    rfl
  rw [tail, List.nil_append, afterWhole_ends ends] at taken
  split at taken
  · next all =>
    have value := absorb_eq_ofDigits (List.length_eq_zero_iff.1 all)
    have number : wholeNumber n.negative (ofDigits 0 n.whole.chars) = .integer m := by
      rw [value] at taken
      exact Except.ok.inj (congrArg Prod.fst taken)
    rw [wholeNumber] at number
    cases negative : n.negative with
    | false =>
      rw [negative, if_pos (by decide)] at number
      cases number
      rw [Numeral.natural?, if_pos ⟨negative, by rw [fraction]; rfl, by rw [exponent]; rfl⟩]
      rfl
    | true =>
      -- A negative number is not zero, which would be read as a fraction.
      rw [negative, if_neg (by decide)] at number
      split at number
      · cases number
      · next small =>
        cases number
        omega
  · exact (neverWhole_floatNumber _ _ _ _ _ _ taken).elim

end Tint.Json
