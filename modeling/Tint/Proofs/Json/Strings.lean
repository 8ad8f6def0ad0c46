import Tint.Proofs.Json.Answering

/-!
# Strings in all their writings

Any character of a string may be written as an escape, and some need two of them. Where a string is
read, its pieces have to write characters; where it is passed over, every writing will do.

## What is proved

* `scanString_contentOf`, `answers_string`: a string is read as its content, and fails without one.
* `scanString_pass`, `takes_passString`: every string is passed over.
-/

namespace Tint.Json

open Reader

variable {lexemes : List (List Char)} {rest : List Char} {strict : Bool}

/-! ### Pieces -/

theorem fourHex_text (u : CodeUnit) (rest : List Char) :
    fourHex (u.text ++ rest) = .ok (u.value, rest) := by
  simp only [CodeUnit.text, List.cons_append, List.nil_append, fourHex, u.a.eq_value, u.b.eq_value,
    u.c.eq_value, u.d.eq_value, CodeUnit.value]

theorem escaped_short {escape : Char × Char} (listed : escape ∈ shortEscapes) (rest : List Char) :
    escaped strict (escape.1 :: rest) = .ok (escape.2, rest) := by
  simp only [shortEscapes, List.mem_cons, List.not_mem_nil, or_false] at listed
  rcases listed with rfl | rfl | rfl | rfl | rfl | rfl | rfl | rfl <;> rfl

theorem short_ne_unit {escape : Char × Char} (listed : escape ∈ shortEscapes) : escape.1 ≠ 'u' := by
  revert escape
  decide

/-- An escape that fails ends a string. -/
theorem scanString_failed {s : List Char} {stop : Stop} (failed : escaped strict s = .error stop) :
    scanString strict ('\\' :: s) = .error stop := by
  rw [scanString]
  simp only [Char.reduceEq, if_false, if_true]
  split
  · next e same =>
    rw [failed] at same
    cases same
    rfl
  · next d left taken =>
    rw [failed] at taken
    cases taken

theorem scanString_plain {c : Char} (solid : c ≠ '"' ∧ c ≠ '\\' ∧ ¬ c < ' ') (rest : List Char) :
    scanString strict (c :: rest) =
      (scanString strict rest).map fun (content, last) => (c :: content, last) := by
  rw [scanString]
  simp only [solid, if_false]

theorem escaped_unit (u : CodeUnit) (rest : List Char) :
    escaped strict ('u' :: (u.text ++ rest)) = numberEscape strict (u.text ++ rest) := rfl

theorem of_char? {u : CodeUnit} {c : Char} (writes : u.char? = some c) :
    ¬ u.IsLow ∧ ¬ u.IsHigh ∧ Char.ofNat u.value = c := by
  rw [CodeUnit.char?] at writes
  split at writes
  · cases writes
  · next half =>
    obtain ⟨low, high⟩ := not_or.1 half
    exact ⟨low, high, Option.some.inj writes⟩

/-- Only a half of a pair writes no character. -/
theorem half_of_char? {p : Piece} (writes : p.char? = none) :
    ∃ u, p = .unit u ∧ (u.IsLow ∨ u.IsHigh) := by
  cases p with
  | plain c solid => cases writes
  | short escape listed => cases writes
  | unit u =>
    rw [Piece.char?, CodeUnit.char?] at writes
    split at writes
    · next half => exact ⟨u, rfl, half⟩
    · cases writes

/-- A piece that writes a character is read as that character. -/
theorem scanString_piece {p : Piece} {c : Char} (writes : p.char? = some c) (rest : List Char) :
    scanString true (p.text ++ rest) =
      (scanString true rest).map fun (content, last) => (c :: content, last) := by
  cases p with
  | plain d solid =>
    cases writes
    exact scanString_plain solid rest
  | short escape listed =>
    cases writes
    exact scanString_escape (escaped_short listed rest)
  | unit u =>
    have written : escaped true ('u' :: (u.text ++ rest)) = .ok (c, rest) := by
      obtain ⟨low, high, rfl⟩ := of_char? writes
      simp only [escaped_unit, numberEscape, fourHex_text, bind, Except.bind]
      rw [if_neg (by decide)]
      exact (if_neg low).trans (if_neg high)
    exact scanString_escape written

theorem scanString_low {u : CodeUnit} (low : u.IsLow) (rest : List Char) :
    ∃ stop, scanString true ((Piece.unit u).text ++ rest) = .error stop := by
  have failed : escaped true ('u' :: (u.text ++ rest)) =
      .error ⟨.loneSurrogate, some (byteLength rest)⟩ := by
    simp only [escaped_unit, numberEscape, fourHex_text, bind, Except.bind]
    exact if_pos low
  exact ⟨_, scanString_failed failed⟩

theorem escaped_high {u : CodeUnit} (high : u.IsHigh) (rest : List Char) :
    escaped true ('u' :: (u.text ++ rest)) = (lowSurrogate rest >>= fun (low, after) =>
      .ok (Char.ofNat ((u.value - 0xD800) * 1024 + (low - 0xDC00) + 0x10000), after)) := by
  have low : ¬ (0xDC00 ≤ u.value ∧ u.value ≤ 0xDFFF) := by
    have := high.2
    omega
  simp only [escaped_unit, numberEscape, fourHex_text, bind, Except.bind]
  rw [if_neg (by decide), if_neg low]
  exact if_pos high

/-- A first half needs a second one at once. -/
theorem scanString_high {u : CodeUnit} (high : u.IsHigh) {ps : List Piece}
    (other : ∀ v more, ps = .unit v :: more → ¬ v.IsLow) (rest : List Char) :
    ∃ stop, scanString true ((Piece.unit u).text ++ (ps.flatMap Piece.text ++ '"' :: rest)) =
      .error stop := by
  have failed : ∃ stop, lowSurrogate (ps.flatMap Piece.text ++ '"' :: rest) = .error stop := by
    cases ps with
    | nil => exact ⟨_, rfl⟩
    | cons p ps =>
      rw [List.flatMap_cons, List.append_assoc]
      generalize ps.flatMap Piece.text ++ '"' :: rest = more at *
      cases p with
      | plain c solid =>
        change ∃ stop, lowSurrogate (c :: more) = _
        unfold lowSurrogate
        split <;> simp_all
      | short escape listed =>
        have letter := short_ne_unit listed
        change ∃ stop, lowSurrogate ('\\' :: escape.1 :: more) = _
        unfold lowSurrogate
        split <;> simp_all
      | unit v =>
        have low := other v ps rfl
        change ∃ stop, lowSurrogate ('\\' :: 'u' :: (v.text ++ more)) = _
        simp only [lowSurrogate, fourHex_text, bind, Except.bind]
        exact ⟨_, if_neg low⟩
  obtain ⟨stop, failed⟩ := failed
  have escape := escaped_high high (ps.flatMap Piece.text ++ '"' :: rest)
  rw [failed] at escape
  exact ⟨stop, scanString_failed escape⟩

/-! ### Contents -/

theorem toOption_map {ε α β : Type} (f : α → β) (x : Except ε α) :
    (x.map f).toOption = x.toOption.map f := by
  cases x <;> rfl

/-- A piece is read as its character and then the rest, if what it is short of is short of it. -/
theorem scanString_step {p : Piece} {s : List Char}
    (fails : p.char? = none → ∃ stop, scanString true (p.text ++ s) = .error stop) :
    (scanString true (p.text ++ s)).toOption = p.char?.bind fun c =>
      (scanString true s).toOption.map fun (content, last) => (c :: content, last) := by
  cases writes : p.char? with
  | none =>
    obtain ⟨stop, failed⟩ := fails writes
    rw [failed]
    rfl
  | some c => rw [scanString_piece writes, toOption_map, Option.bind_some]

theorem map_bind_content {o : Option Char} {content : Option (List Char)} (rest : List Char) :
    (o.bind fun c => (content.map fun content => (content, rest)).map
        fun (content, last) => (c :: content, last)) =
      (o.bind fun c => content.map (c :: ·)).map fun content => (content, rest) := by
  cases o <;> cases content <;> rfl

/-- **A string is read as its content**, or it fails if it has none. -/
theorem scanString_contentOf (ps : List Piece) (rest : List Char) :
    (scanString true (ps.flatMap Piece.text ++ '"' :: rest)).toOption =
      (Piece.contentOf ps).map fun content => (content, rest) := by
  -- The cases are those of the content: a first half with a piece after it that is an escape too,
  -- and any other piece.
  fun_induction Piece.contentOf ps with
  | case1 =>
    rw [List.flatMap_nil, List.nil_append, scanString]
    rfl
  | case2 u v ps high low ih =>
    have second (s : List Char) :
        lowSurrogate ('\\' :: 'u' :: (v.text ++ s)) = .ok (v.value, s) := by
      simp only [lowSurrogate, fourHex_text, bind, Except.bind]
      exact if_pos low
    have escape := escaped_high high
      ('\\' :: 'u' :: (v.text ++ (ps.flatMap Piece.text ++ '"' :: rest)))
    rw [second] at escape
    simp only [List.flatMap_cons, List.append_assoc]
    have scanned := scanString_escape escape
    change (scanString true
      ('\\' :: 'u' :: (u.text ++ ('\\' :: 'u' :: (v.text ++ _))))).toOption = _
    rw [scanned, toOption_map, ih]
    cases Piece.contentOf ps <;> rfl
  | case3 u v ps high low =>
    have other (w : CodeUnit) (more : List Piece) (same : Piece.unit v :: ps = .unit w :: more) :
        ¬ w.IsLow := by
      cases same
      exact low
    obtain ⟨stop, failed⟩ := scanString_high high other rest
    rw [List.flatMap_cons, List.append_assoc, failed]
    rfl
  | case4 u v ps high ih =>
    rw [List.flatMap_cons, List.append_assoc, scanString_step, ih]
    · exact map_bind_content rest
    · intro writes
      obtain ⟨w, same, half⟩ := half_of_char? writes
      cases same
      exact scanString_low (half.resolve_right high) _
  | case5 p ps other ih =>
    rw [List.flatMap_cons, List.append_assoc, scanString_step, ih]
    · exact map_bind_content rest
    · intro writes
      obtain ⟨u, rfl, low | high⟩ := half_of_char? writes
      · exact scanString_low low _
      · exact scanString_high high (fun v more same => (other u v more rfl same).elim) rest

/-- Without its content every string is passed over. -/
theorem scanString_pass (ps : List Piece) (rest : List Char) :
    ∃ content, scanString false (ps.flatMap Piece.text ++ '"' :: rest) = .ok (content, rest) := by
  induction ps with
  | nil =>
    refine ⟨[], ?_⟩
    rw [List.flatMap_nil, List.nil_append, scanString]
    rfl
  | cons p ps ih =>
    obtain ⟨content, passed⟩ := ih
    have piece : ∃ c, scanString false (p.text ++ (ps.flatMap Piece.text ++ '"' :: rest)) =
        (scanString false (ps.flatMap Piece.text ++ '"' :: rest)).map
          fun (content, last) => (c :: content, last) := by
      cases p with
      | plain c solid => exact ⟨c, scanString_plain solid _⟩
      | short escape listed => exact ⟨_, scanString_escape (escaped_short listed _)⟩
      | unit u =>
        have written (s : List Char) :
            escaped false ('u' :: (u.text ++ s)) = .ok (Char.ofNat u.value, s) := by
          rw [escaped_unit, numberEscape, fourHex_text]
          rfl
        exact ⟨Char.ofNat u.value, scanString_escape (written _)⟩
    obtain ⟨c, piece⟩ := piece
    refine ⟨c :: content, ?_⟩
    rw [List.flatMap_cons, List.append_assoc, piece, passed]
    rfl

/-! ### Readers -/

/-- A scanner that takes what is in front is a reader that does. -/
theorem answers_ofScan {α : Type} {scan : List Char → Except Stop (α × List Char)}
    {front : List Char} {o : Option α}
    (scanned : ∀ rest, (scan (front ++ rest)).toOption = o.map fun a => (a, rest)) :
    (ofScan scan).Answers (AtFront front lexemes) o (Spaced lexemes) := by
  cases o with
  | none =>
    rintro _ ⟨rest, -, rfl⟩
    have none := scanned rest
    rw [ofScan]
    cases found : scan (front ++ rest) with
    | error stop => exact ⟨stop, _, rfl⟩
    | ok taken =>
      rw [found] at none
      cases none
  | some a =>
    rintro _ ⟨rest, spaced, rfl⟩
    have some := scanned rest
    rw [ofScan]
    cases found : scan (front ++ rest) with
    | error stop =>
      rw [found] at some
      cases some
    | ok taken =>
      rw [found] at some
      cases some
      exact ⟨rest, rfl, spaced⟩

theorem answers_string (w : Written) :
    string.Answers (AtFront w.tail lexemes) w.content (Spaced lexemes) := by
  refine answers_ofScan fun rest => ?_
  rw [Written.tail, List.append_assoc, List.singleton_append]
  exact scanString_contentOf w.pieces rest

theorem takes_passString (w : Written) :
    passString.Takes (AtFront w.tail lexemes) () (Spaced lexemes) := by
  rintro _ ⟨rest, spaced, rfl⟩
  obtain ⟨content, passed⟩ := scanString_pass w.pieces rest
  refine ⟨rest, ?_, spaced⟩
  have taken : ofScan (scanString false) (w.tail ++ rest) = (.ok content, rest) := by
    rw [Written.tail, List.append_assoc, List.singleton_append, ofScan, passed]
  exact bind_of_ok taken

end Tint.Json
