import Tint.Proofs.Json.Collections

/-!
# Documents

Every value that a text of JSON can write, as it is written: the escapes of a string, the digits of
a number, the members of an object in their order, also when two of them have one name. What a
reader refuses is among them, and so that it refuses a text can be said by the text alone.

## The model

* `Written` is a string as a list of pieces; `Written.content` are its characters, if surrogates
  are paired.
* `Numeral` is a number with its sign, digits, fraction and exponent.
* `Doc` is a value, and `Doc.lexemes` how it is written but for white space.

## What is proved

* `Doc.ind`: induction on the elements and members of a value.
* `Doc.lexemes_cons`: the first character of a value tells what kind it is of.
-/

namespace Tint.Json

open Reader

/-! ### Strings -/

/-- A hexadecimal digit in either case. -/
structure HexDigit where
  /-- The character. -/
  char : Char
  /-- The number that it stands for. -/
  value : Nat
  /-- It stands for that number. -/
  eq_value : hexDigit? char = some value

/-- An escape of four hexadecimal digits, after its `u`. -/
structure CodeUnit where
  /-- The first digit. -/
  a : HexDigit
  /-- The second digit. -/
  b : HexDigit
  /-- The third digit. -/
  c : HexDigit
  /-- The last digit. -/
  d : HexDigit

namespace CodeUnit

/-- The digits. -/
def text (u : CodeUnit) : List Char := [u.a.char, u.b.char, u.c.char, u.d.char]

/-- The number of the four digits. -/
def value (u : CodeUnit) : Nat := ((u.a.value * 16 + u.b.value) * 16 + u.c.value) * 16 + u.d.value

/-- The first half of a surrogate pair. -/
def IsHigh (u : CodeUnit) : Prop := 0xD800 ≤ u.value ∧ u.value ≤ 0xDBFF

/-- The second half of a surrogate pair. -/
def IsLow (u : CodeUnit) : Prop := 0xDC00 ≤ u.value ∧ u.value ≤ 0xDFFF

instance (u : CodeUnit) : Decidable u.IsHigh := inferInstanceAs (Decidable (_ ∧ _))

instance (u : CodeUnit) : Decidable u.IsLow := inferInstanceAs (Decidable (_ ∧ _))

/-- The character of an escape by itself. -/
def char? (u : CodeUnit) : Option Char :=
  if u.IsLow ∨ u.IsHigh then none else some (Char.ofNat u.value)

/-- The character of two halves. -/
def pair (u v : CodeUnit) : Char :=
  Char.ofNat ((u.value - 0xD800) * 1024 + (v.value - 0xDC00) + 0x10000)

end CodeUnit

/-- The short escapes, each with the character that it stands for. -/
def shortEscapes : List (Char × Char) :=
  [('"', '"'), ('\\', '\\'), ('/', '/'), ('b', '\x08'), ('f', '\x0c'), ('n', '\n'), ('r', '\r'),
   ('t', '\t')]

/-- A piece of a string. -/
inductive Piece where
  /-- A character that stands for itself. -/
  | plain (c : Char) (solid : c ≠ '"' ∧ c ≠ '\\' ∧ ¬ c < ' ')
  /-- A short escape. -/
  | short (escape : Char × Char) (listed : escape ∈ shortEscapes)
  /-- An escape by a number. -/
  | unit (u : CodeUnit)

namespace Piece

/-- A piece as it is written. -/
def text : Piece → List Char
  | plain c _ => [c]
  | short escape _ => ['\\', escape.1]
  | unit u => ['\\', 'u'] ++ u.text

/-- The character of a piece by itself. -/
def char? : Piece → Option Char
  | plain c _ => some c
  | short escape _ => some escape.2
  | unit u => u.char?

/-- The characters of pieces. A half of a surrogate pair without the other one writes none. -/
def contentOf : List Piece → Option (List Char)
  | [] => some []
  | unit u :: unit v :: rest =>
    if u.IsHigh then
      if v.IsLow then (contentOf rest).map (u.pair v :: ·) else none
    else u.char?.bind fun c => (contentOf (unit v :: rest)).map (c :: ·)
  | p :: rest => p.char?.bind fun c => (contentOf rest).map (c :: ·)

end Piece

/-- A string as it is written. -/
structure Written where
  /-- The pieces between the quotes. -/
  pieces : List Piece

namespace Written

/-- The characters that are written. -/
def content (w : Written) : Option (List Char) := Piece.contentOf w.pieces

/-- The text after the opening quote. -/
def tail (w : Written) : List Char := w.pieces.flatMap Piece.text ++ ['"']

/-- The lexeme of a string. -/
def lexeme (w : Written) : List Char := '"' :: w.tail

/-- The string writes the name. -/
def Spells (w : Written) (name : String) : Prop := w.content = some name.toList

instance (w : Written) (name : String) : Decidable (w.Spells name) :=
  inferInstanceAs (Decidable (_ = _))

end Written

/-! ### Numbers -/

/-- At least one decimal digit. -/
structure Digits where
  /-- The digits. -/
  chars : List Char
  /-- There is one. -/
  nonempty : chars ≠ []
  /-- They are digits. -/
  all : ∀ c ∈ chars, isDigit c = true

/-- An exponent. -/
structure Exponent where
  /-- The letter before it. -/
  mark : Char
  /-- The letter is an e. -/
  mark_eq : mark = 'e' ∨ mark = 'E'
  /-- The sign, if there is one. -/
  sign : Option Char
  /-- The sign is a plus or a minus. -/
  sign_mem : ∀ c ∈ sign, c = '+' ∨ c = '-'
  /-- The digits. -/
  digits : Digits

/-- A number. -/
structure Numeral where
  /-- There is a minus before it. -/
  negative : Bool
  /-- The digits before the point. -/
  whole : Digits
  /-- A zero in front is the only digit. -/
  single : ∀ w, whole.chars = '0' :: w → w = []
  /-- The digits after the point. -/
  fraction : Option Digits
  /-- The exponent. -/
  exponent : Option Exponent

/-- The exponent from its letter on. -/
def Exponent.text (e : Exponent) : List Char := e.mark :: (e.sign.toList ++ e.digits.chars)

namespace Numeral

variable (n : Numeral)

/-- What follows the digits before the point. -/
def tail : List Char :=
  (n.fraction.elim [] fun f => '.' :: f.chars) ++ n.exponent.elim [] Exponent.text

/-- The number without its sign. -/
def unsignedText : List Char := n.whole.chars ++ n.tail

/-- The lexeme of a number. -/
def lexeme : List Char := (if n.negative then ['-'] else []) ++ n.unsignedText

/-- The number that the digits write, if there is no sign, no fraction and no exponent. -/
def natural? : Option Nat :=
  if n.negative = false ∧ n.fraction.isNone ∧ n.exponent.isNone then some (ofDigits 0 n.whole.chars)
  else none

end Numeral

/-- The character starts a number. -/
def startsNumber (c : Char) : Bool := c = '-' || isDigit c

/-- What starts a number starts nothing else. -/
theorem startsNumber_spec {c : Char} (starts : startsNumber c = true) :
    isSpace c = false ∧ c ∉ [']', '\x7d', ',', 'n', 't', 'f', '"', '[', '\x7b'] := by
  simp only [startsNumber, Bool.or_eq_true, decide_eq_true_eq] at starts
  rcases starts with rfl | digit
  · decide
  · refine ⟨isSpace_of_isDigit digit, fun listed => ?_⟩
    have none : [']', '\x7d', ',', 'n', 't', 'f', '"', '[', '\x7b'].all (!isDigit ·) = true := rfl
    have other := List.all_eq_true.1 none c listed
    rw [digit] at other
    cases other

/-- A number starts with a minus or a digit. -/
theorem Numeral.lexeme_cons (n : Numeral) :
    ∃ c w, n.lexeme = c :: w ∧ startsNumber c = true := by
  obtain ⟨c, w, digits⟩ := List.exists_cons_of_ne_nil n.whole.nonempty
  have digit : startsNumber c = true := by
    rw [startsNumber, n.whole.all c (digits ▸ List.mem_cons_self), Bool.or_true]
  rw [lexeme, unsignedText, digits]
  cases n.negative
  · exact ⟨c, _, rfl, digit⟩
  · exact ⟨'-', _, rfl, rfl⟩

/-! ### Values -/

/-- A value as it is written. -/
inductive Doc where
  /-- The null value. -/
  | null
  /-- A truth value. -/
  | boolean (value : Bool)
  /-- A number. -/
  | number (n : Numeral)
  /-- A string. -/
  | string (w : Written)
  /-- An array. -/
  | array (elements : List Doc)
  /-- An object, with its members in order. -/
  | object (members : List (Written × Doc))

namespace Doc

mutual

/-- The lexemes of a value. -/
def lexemes : Doc → List (List Char)
  | null => ["null".toList]
  | boolean true => ["true".toList]
  | boolean false => ["false".toList]
  | number n => [n.lexeme]
  | string w => [w.lexeme]
  | array elements => ['['] :: (elementLexemes true elements ++ [[']']])
  | object members => ['\x7b'] :: (memberLexemes true members ++ [['\x7d']])

/-- The lexemes of elements, with commas between them. -/
def elementLexemes (first : Bool) : List Doc → List (List Char)
  | [] => []
  | d :: rest => lead first ++ d.lexemes ++ elementLexemes false rest

/-- The lexemes of members, with commas between them. -/
def memberLexemes (first : Bool) : List (Written × Doc) → List (List Char)
  | [] => []
  | (key, d) :: rest =>
    lead first ++ ([key.lexeme, [':']] ++ d.lexemes) ++ memberLexemes false rest

end

/-- The lexemes of a member. -/
def memberItem (m : Written × Doc) : List (List Char) := [m.1.lexeme, [':']] ++ m.2.lexemes

theorem elementLexemes_eq (first : Bool) (ds : List Doc) :
    elementLexemes first ds = joined first (ds.map lexemes) := by
  induction ds generalizing first with
  | nil => rw [elementLexemes]; rfl
  | cons d ds ih => rw [elementLexemes, ih]; rfl

theorem memberLexemes_eq (first : Bool) (ms : List (Written × Doc)) :
    memberLexemes first ms = joined first (ms.map memberItem) := by
  induction ms generalizing first with
  | nil => rw [memberLexemes]; rfl
  | cons m ms ih => rw [memberLexemes, ih]; rfl

@[simp]
theorem lexemes_array (ds : List Doc) :
    (array ds).lexemes = ['['] :: (joined true (ds.map lexemes) ++ [[']']]) := by
  rw [lexemes, elementLexemes_eq]

@[simp]
theorem lexemes_object (ms : List (Written × Doc)) :
    (object ms).lexemes = ['\x7b'] :: (joined true (ms.map memberItem) ++ [['\x7d']]) := by
  rw [lexemes, memberLexemes_eq]

theorem lexemes_object_cons (key : Written) (d : Doc) (ms : List (Written × Doc))
    (lexemes' : List (List Char)) :
    (object ((key, d) :: ms)).lexemes ++ lexemes' = ['\x7b'] :: key.lexeme :: [':'] ::
      (d.lexemes ++ (joined false (ms.map memberItem) ++ ['\x7d'] :: lexemes')) := by
  simp [joined, lead, memberItem]

/-- **Induction on values**: what holds of an array if it holds of its elements, and of an object if
it holds of the values of its members, holds of every value. -/
@[induction_eliminator]
theorem ind {motive : Doc → Prop} (null : motive .null) (boolean : ∀ b, motive (.boolean b))
    (number : ∀ n, motive (.number n)) (string : ∀ w, motive (.string w))
    (array : ∀ ds, (∀ d ∈ ds, motive d) → motive (.array ds))
    (object : ∀ ms, (∀ m ∈ ms, motive m.2) → motive (.object ms)) (d : Doc) : motive d :=
  @Doc.rec motive (fun ds => ∀ d ∈ ds, motive d) (fun ms => ∀ m ∈ ms, motive m.2)
    (fun m => motive m.2) null boolean number string array object nofun
    (fun _ _ first others => List.forall_mem_cons.2 ⟨first, others⟩) nofun
    (fun _ _ first others => List.forall_mem_cons.2 ⟨first, others⟩) (fun _ _ value => value) d

/-! ### First characters -/

/-- The character starts the value. -/
def StartsWith : Doc → Char → Prop
  | null, c => c = 'n'
  | boolean true, c => c = 't'
  | boolean false, c => c = 'f'
  | number _, c => startsNumber c = true
  | string _, c => c = '"'
  | array _, c => c = '['
  | object _, c => c = '\x7b'

/-- The first character of a value tells what kind it is of. -/
theorem lexemes_cons (d : Doc) : ∃ c w rest, d.lexemes = (c :: w) :: rest ∧ d.StartsWith c := by
  cases d with
  | null => exact ⟨_, _, _, by rw [lexemes]; rfl, rfl⟩
  | boolean b => cases b <;> exact ⟨_, _, _, by rw [lexemes]; rfl, rfl⟩
  | number n =>
    obtain ⟨c, w, written, starts⟩ := n.lexeme_cons
    exact ⟨c, w, [], by rw [lexemes, written], starts⟩
  | string w => exact ⟨_, _, _, by rw [lexemes]; rfl, rfl⟩
  | array ds => exact ⟨_, _, _, by rw [lexemes_array], rfl⟩
  | object ms => exact ⟨_, _, _, by rw [lexemes_object], rfl⟩

/-- No value starts with white space, with a comma or with a closing bracket. -/
theorem StartsWith.solid {d : Doc} {c : Char} (starts : d.StartsWith c) :
    isSpace c = false ∧ c ∉ [']', '\x7d', ','] := by
  cases d with
  | boolean b => cases b <;> (cases starts; decide)
  | number n =>
    obtain ⟨solid, other⟩ := startsNumber_spec starts
    exact ⟨solid, by simp_all⟩
  | _ => cases starts; decide

theorem StartsWith.number? {d : Doc} {c : Char} (starts : d.StartsWith c)
    (front : startsNumber c = true) : ∃ n, d = .number n := by
  have other := (startsNumber_spec front).2
  cases d with
  | number n => exact ⟨n, rfl⟩
  | boolean b => cases b <;> simp_all [StartsWith]
  | _ => simp_all [StartsWith]

end Doc

end Tint.Json
