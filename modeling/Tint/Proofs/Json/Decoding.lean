import Tint.Proofs.Json.Passing

/-!
# What values are read as

Every reader of the program is a function of the value that is written, wherever the value stands
and however much white space is in it. Here these functions are put together as the readers are.

## The model

* `Decodes r decode` says that the reader `r` answers on any writing of a value `d` with `decode d`,
  whatever follows apart from a number.
* `Doc.byte?`, `Doc.name?`, `Doc.optional?` and `Doc.all?` are those functions for bytes, names,
  what may be null, and arrays.

## What is proved

* `decodes_byte`, `decodes_oneName`, `decodes_optional`, `decodes_array`.
-/

namespace Tint.Json

open Reader

variable {α β σ : Type} {lexemes : List (List Char)}

/-- The reader answers on any writing of a value with what `decode` makes of it, whatever follows
apart from a number. -/
def Decodes (r : Reader α) (decode : Doc → Option α) : Prop :=
  ∀ d lexemes, Apart lexemes →
    r.Answers (Spaced (d.lexemes ++ lexemes)) (decode d) (Spaced lexemes)

theorem Decodes.map {r : Reader α} {decode : Doc → Option α} (decodes : Decodes r decode)
    (f : α → β) : Decodes (f <$> r) fun d => (decode d).map f :=
  fun d lexemes apart => (decodes d lexemes apart).map f

/-- Looking at the front of a value shows what kind it is of. -/
theorem takes_front (d : Doc) (lexemes : List (List Char)) :
    ∃ c w rest, d.lexemes = (c :: w) :: rest ∧ d.StartsWith c ∧
      next.Takes (Spaced (d.lexemes ++ lexemes)) (some c) (AtFront (c :: w) (rest ++ lexemes)) := by
  obtain ⟨c, w, rest, written, starts⟩ := d.lexemes_cons
  refine ⟨c, w, rest, written, starts, ?_⟩
  rw [written, List.cons_append]
  exact takes_next starts.solid.1

/-! ### Bytes -/

/-- The natural that is written without sign, fraction and exponent. -/
def Doc.natural? : Doc → Option Nat
  | number n => n.natural?
  | _ => none

/-- The byte that is written. -/
def Doc.byte? (d : Doc) : Option UInt8 :=
  d.natural?.bind fun v => if v ≤ 255 then some (UInt8.ofNat v) else none

/-- What is read from a number where a natural up to a limit is wanted. -/
theorem answers_natural {high : Nat} (fits : high ≤ wordLimit) (expected : String) (n : Numeral)
    (apart : Apart lexemes) :
    (number >>= fun read => match read with
      | .integer m => if (0 : Int) ≤ m ∧ m ≤ high then pure m else float (.wrongValue m expected)
      | .float v => float (.wrongType (.float v) expected)).Answers (AtFront n.lexeme lexemes)
      (n.natural?.bind fun v => if v ≤ high then some (v : Int) else none) (Spaced lexemes) := by
  cases answer : n.natural?.bind fun v => if v ≤ high then some (v : Int) else none with
  | some m =>
    obtain ⟨v, whole, small⟩ := Option.bind_eq_some_iff.1 answer
    split at small
    · next le =>
      cases small
      have taken : number.Takes (AtFront n.lexeme lexemes) (.integer v) (Spaced lexemes) := by
        rintro _ ⟨rest, spaced, rfl⟩
        exact ⟨rest, number_natural whole (le.trans fits) (spaced.apart apart), spaced⟩
      refine Takes.bind taken ?_
      simp only [Int.natCast_nonneg, Int.ofNat_le.2 le, and_self, if_true]
      exact .pure _
    · cases small
  | none =>
    rintro _ ⟨rest, spaced, rfl⟩
    rcases read : number (n.lexeme ++ rest) with ⟨stop | m, left⟩
    · exact ⟨stop, left, by simp only [Bind.bind, read]⟩
    · cases m with
      | float v => exact ⟨_, left, bind_of_ok read⟩
      | integer m =>
        by_cases inside : (0 : Int) ≤ m ∧ m ≤ high
        · have whole := number_integer read inside.1 (spaced.apart apart)
          rw [whole, Option.bind_some, if_pos (by omega)] at answer
          cases answer
        · refine ⟨⟨.wrongValue m expected, none⟩, left, (bind_of_ok read).trans ?_⟩
          simp only [if_neg inside]
          rfl

theorem decodes_integerWithin {high : Nat} (fits : high ≤ wordLimit) (expected : String) :
    Decodes (integerWithin 0 high expected) fun d =>
      d.natural?.bind fun v => if v ≤ high then some (v : Int) else none := by
  intro d lexemes apart
  obtain ⟨c, w, rest, written, starts, front⟩ := takes_front d lexemes
  refine Answers.fixed (Takes.answers front ?_)
  by_cases number : startsNumber c = true
  · obtain ⟨n, rfl⟩ := starts.number? number
    have same : AtFront (c :: w) (rest ++ lexemes) = AtFront n.lexeme lexemes := by
      rw [Doc.lexemes] at written
      obtain ⟨lexeme, nothing⟩ := List.cons.inj written
      rw [← lexeme, ← nothing]
      rfl
    rw [startsNumber] at number
    simp only [same, number, if_true]
    exact answers_natural fits expected n apart
  · have other : d.natural? = none := by
      cases d with
      | number n => exact absurd starts number
      | _ => rfl
    rw [startsNumber] at number
    simp only [other, number]
    exact fails_wrongType expected

theorem decodes_byte : Decodes byte Doc.byte? := by
  have fits : 255 ≤ wordLimit := by decide
  intro d lexemes apart
  have answers := (decodes_integerWithin fits "u8" d lexemes apart).map fun n => UInt8.ofNat n.toNat
  have same : (d.natural?.bind fun v => if v ≤ 255 then some (v : Int) else none).map
      (fun n => UInt8.ofNat n.toNat) = d.byte? := by
    rw [Doc.byte?]
    cases d.natural? with
    | none => rfl
    | some v =>
      simp only [Option.bind_some]
      split <;> rfl
  rwa [same] at answers

/-! ### Names -/

/-- The value of a name in a table. -/
def lookup (table : List (String × α)) (name : List Char) : Option α :=
  (table.find? fun (known, _) => known.toList = name).map (·.2)

theorem answers_named (table : List (String × α)) (w : Written) :
    (named table).Answers (AtFront w.tail lexemes) (w.content.bind (lookup table))
      (Spaced lexemes) := by
  refine Answers.fixed ((answers_string w).bind fun content _ => ?_)
  rw [lookup]
  split
  · next found =>
    rw [found]
    exact .pure _
  · next found =>
    rw [found]
    exact fails_float _

/-- The null value. -/
def Doc.null? : Doc → Option Unit
  | null => some ()
  | _ => none

/-- Only null starts with its first letter. -/
theorem Doc.StartsWith.null? {d : Doc} {c : Char} (starts : d.StartsWith c) :
    c = 'n' ↔ d = .null := by
  refine ⟨?_, ?_⟩
  · rintro rfl
    cases d with
    | null => rfl
    | boolean b => cases b <;> cases starts
    | _ => cases starts
  · rintro rfl
    exact starts

theorem Doc.StartsWith.string? {d : Doc} (starts : d.StartsWith '"') : ∃ w, d = .string w := by
  cases d with
  | string w => exact ⟨w, rfl⟩
  | boolean b => cases b <;> cases starts
  | _ => cases starts

theorem Doc.StartsWith.array? {d : Doc} (starts : d.StartsWith '[') : ∃ ds, d = .array ds := by
  cases d with
  | array ds => exact ⟨ds, rfl⟩
  | boolean b => cases b <;> cases starts
  | _ => cases starts

theorem Doc.StartsWith.object? {d : Doc} (starts : d.StartsWith '\x7b') : ∃ ms, d = .object ms := by
  cases d with
  | object ms => exact ⟨ms, rfl⟩
  | boolean b => cases b <;> cases starts
  | _ => cases starts

theorem takes_null : (skip >>= fun _ => word "ull".toList).Takes
    (AtFront "null".toList lexemes) () (Spaced lexemes) :=
  takes_skip.bind (takes_word _)

theorem decodes_nothing : Decodes nothing Doc.null? := by
  intro d lexemes _
  by_cases null : d = .null
  · subst null
    rw [Doc.lexemes]
    exact Answers.fixed (Takes.answers (takes_next rfl) takes_null)
  · obtain ⟨c, w, rest, -, starts, front⟩ := takes_front d lexemes
    have other : d.null? = none := by
      cases d with
      | null => exact absurd rfl null
      | _ => rfl
    rw [other]
    refine Answers.fixed (Takes.answers front ?_)
    split
    · exact fails_stopAfter _
    · next same => exact absurd (starts.null?.1 (Option.some.inj same)) null
    · exact fails_wrongType _

/-- The value of a name in a table: of a string, or of the only key of an object with the null
value. -/
def Doc.name? (table : List (String × α)) : Doc → Option α
  | string w => w.content.bind (lookup table)
  | object [(key, null)] => key.content.bind (lookup table)
  | _ => none

theorem Doc.name?_object (table : List (String × α)) (key : Written) (value : Doc)
    (ms : List (Written × Doc)) : Doc.name? table (.object ((key, value) :: ms)) =
      (key.content.bind (lookup table)).bind fun a =>
        value.null?.bind fun _ => if ms = [] then some a else none := by
  cases value with
  | null =>
    cases ms with
    | nil => exact (Option.bind_fun_some _).symm
    | cons m ms => exact (Option.bind_fun_none _).symm
  | _ => exact (Option.bind_fun_none _).symm

theorem decodes_oneName (table : List (String × α)) :
    Decodes (oneName table) (Doc.name? table) := by
  intro d lexemes _
  obtain ⟨c, w, rest, -, starts, front⟩ := takes_front d lexemes
  cases d with
  | string s =>
    rw [Doc.lexemes]
    exact Takes.answers (takes_next rfl) (Takes.answers takes_skip (answers_named table s))
  | object ms =>
    cases ms with
    | nil =>
      rw [Doc.lexemes_object]
      refine Takes.answers (takes_next rfl) (Takes.answers takes_mark ?_)
      exact Takes.answers (takes_next rfl) (fails_stopAfter _)
    | cons m ms =>
      obtain ⟨key, value⟩ := m
      rw [Doc.lexemes_object_cons, Doc.name?_object]
      refine Takes.answers (takes_next rfl) (Takes.answers takes_mark ?_)
      refine Takes.answers (takes_next rfl) (Takes.answers takes_skip ?_)
      refine (answers_named table key).bind fun a _ => Takes.answers takes_colon ?_
      refine (decodes_nothing value _ (apart_joined _ rfl lexemes)).bind fun _ _ => ?_
      cases ms with
      | nil => exact Takes.answers (takes_next rfl) (takes_mark.bind (.pure a))
      | cons m ms => exact Takes.answers (takes_next rfl) (fails_stop _)
  | _ =>
    refine Takes.answers front ?_
    split
    · exact fails_stopAfter _
    · next same =>
      cases same
      obtain ⟨w, string⟩ := starts.string?
      cases string
    · next same =>
      cases same
      obtain ⟨ms, object⟩ := starts.object?
      cases object
    · exact fails_stopAfter _

/-! ### What may be null -/

/-- What may be null. -/
def Doc.optional? (decode : Doc → Option α) : Doc → Option (Option α)
  | null => some none
  | d => (decode d).map some

theorem decodes_optional {r : Reader α} {decode : Doc → Option α} (decodes : Decodes r decode) :
    Decodes (optional r) (Doc.optional? decode) := by
  intro d lexemes apart
  by_cases null : d = .null
  · subst null
    rw [Doc.lexemes]
    exact Takes.answers (takes_next rfl) (takes_skip.bind ((takes_word _).bind (.pure none)))
  · obtain ⟨c, w, rest, written, starts, front⟩ := takes_front d lexemes
    have other : d.optional? decode = (decode d).map some := by
      cases d with
      | null => exact absurd rfl null
      | _ => rfl
    rw [other]
    have answers := (decodes d lexemes apart).map some
    rw [written, List.cons_append] at answers
    refine Takes.answers front ?_
    split
    · next same => exact absurd (starts.null?.1 (Option.some.inj same)) null
    · exact answers.before fun _ => AtFront.spaced

/-! ### Arrays -/

/-- The elements of an array. -/
def Doc.all? (decode : Doc → Option α) : Doc → Option (List α)
  | array ds => ds.mapM decode
  | _ => none

/-- No value starts as an array ends. -/
theorem Doc.StartsWith.ne_bracket {d : Doc} {c : Char} (starts : d.StartsWith c) : c ≠ ']' := by
  rintro rfl
  exact starts.solid.2 (by decide)

/-- Every value has a character. -/
theorem Doc.flatten_lexemes_ne (d : Doc) : d.lexemes.flatten ≠ [] := by
  obtain ⟨c, w, rest, written, -⟩ := d.lexemes_cons
  rw [written]
  nofun

/-- The elements that are left are read after those that were read. -/
theorem answers_elements {r : Reader α} {decode : Doc → Option α} (decodes : Decodes r decode)
    (ds : List Doc) (read : List α) (lexemes : List (List Char)) {fuel : Nat}
    (enough : ds.length < fuel) :
    (rounds (fun read => do
      if ← element read.isEmpty then
        let a ← r
        return .inl (a :: read)
      else return .inr read.reverse) fuel read).Answers
      (Spaced (joined read.isEmpty (ds.map Doc.lexemes) ++ [']'] :: lexemes))
      ((ds.mapM decode).map (read.reverse ++ ·)) (Spaced ([']'] :: lexemes)) := by
  induction ds generalizing read fuel with
  | nil =>
    obtain ⟨fuel, rfl⟩ := Nat.exists_eq_succ_of_ne_zero (Nat.ne_zero_of_lt enough)
    rw [List.mapM_nil]
    change Takes _ _ (read.reverse ++ []) _
    rw [List.append_nil]
    exact Takes.last ((takes_element_end _).bind (.pure _))
  | cons d ds ih =>
    obtain ⟨fuel, rfl⟩ := Nat.exists_eq_succ_of_ne_zero (Nat.ne_zero_of_lt enough)
    obtain ⟨c, w, rest, written, starts⟩ := d.lexemes_cons
    -- The option that a round answers with is that of its element, put before those that were read.
    have answer : ((d :: ds).mapM decode).map (read.reverse ++ ·) =
        ((decode d).map (· :: read)).bind fun read => (ds.mapM decode).map (read.reverse ++ ·) := by
      rw [List.mapM_cons]
      cases decode d <;> cases ds.mapM decode <;> simp
    have bracket : continuesNumber ']' = false := rfl
    have element := decodes d _ (apart_joined (ds.map Doc.lexemes) bracket lexemes)
    rw [answer]
    rw [written, List.cons_append] at element
    simp only [List.map_cons, joined, written, List.append_assoc, List.cons_append]
    refine Answers.again
      (Q := Spaced (joined false (ds.map Doc.lexemes) ++ [']'] :: lexemes)) ?_ fun b made => ?_
    · refine Takes.answers (takes_element starts.solid.1 starts.ne_bracket _) ?_
      rw [if_pos rfl, Option.map_map]
      exact element.map _
    · obtain ⟨a, -, rfl⟩ := Option.map_eq_some_iff.1 made
      exact ih (a :: read) (Nat.lt_of_succ_lt_succ enough)

theorem decodes_array {r : Reader α} {decode : Doc → Option α} (decodes : Decodes r decode) :
    Decodes (Reader.array r) (Doc.all? decode) := by
  intro d lexemes _
  by_cases array : ∃ ds, d = .array ds
  · obtain ⟨ds, rfl⟩ := array
    rw [Doc.lexemes_array, List.cons_append, List.append_assoc]
    refine Answers.fixed (Takes.answers (takes_next rfl) (Takes.answers takes_mark ?_))
    refine Answers.closedBy ?_ takes_endArray
    have answers {fuel : Nat} (enough : ds.length + 1 ≤ fuel) :=
      answers_elements decodes ds [] lexemes enough
    simp only [List.reverse_nil, List.nil_append, Option.map_id'] at answers
    exact Answers.loop (fun fuel enough => answers enough) fun text spaced =>
      joined_room (fun d _ => d.flatten_lexemes_ne) spaced
  · obtain ⟨c, w, rest, -, starts, front⟩ := takes_front d lexemes
    have other : d.all? decode = none := by
      cases d with
      | array ds => exact absurd ⟨ds, rfl⟩ array
      | _ => rfl
    rw [other]
    refine Answers.fixed (Takes.answers front ?_)
    split
    · exact fails_stopAfter _
    · next same =>
      cases same
      exact absurd starts.array? array
    · exact fails_wrongType _

end Tint.Json
