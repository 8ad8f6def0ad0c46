import Tint.Text.Natural

/-!
# Floating point numbers as text

The texts that write a floating point number: digits with a point and an exponent or without
them, an infinity, or what is not a number. A sign may stand in front.
-/

namespace Tint

/-- Why text is not a floating point number. -/
inductive FloatingError where
  /-- There is no character. -/
  | empty
  /-- The text has another form. -/
  | invalid
deriving DecidableEq, Repr

/-- The wording of the error. -/
def FloatingError.text : FloatingError → String
  | empty => "cannot parse float from empty string"
  | invalid => "invalid float literal"

namespace Text

/-- The text without one sign in front. -/
def unsigned : List Char → List Char
  | '+' :: rest => rest
  | '-' :: rest => rest
  | s => s

/-- The character is a decimal digit. -/
def isDigit (c : Char) : Bool := (digit? c).isSome

/-- An exponent: the letter, a sign or none, and digits. No text is an exponent too. -/
def isExponent : List Char → Bool
  | [] => true
  | c :: rest =>
    (c = 'e' || c = 'E') && unsigned rest ≠ [] && (unsigned rest).all isDigit

/-- Digits, with a point among them or at an end of them, and an exponent. -/
def isDecimal (s : List Char) : Bool :=
  let whole := s.takeWhile isDigit
  match s.dropWhile isDigit with
  | '.' :: rest =>
    (whole ≠ [] || (rest.takeWhile isDigit) ≠ []) && isExponent (rest.dropWhile isDigit)
  | rest => whole ≠ [] && isExponent rest

/-- The words for numbers that have no digits, in small letters. -/
def floatingWords : List String := ["inf", "infinity", "nan"]

/-- Text is a floating point number. -/
def checkFloating (s : List Char) : Except FloatingError Unit :=
  if s = [] then .error .empty
  else if isDecimal (unsigned s) then .ok ()
  else if floatingWords.contains (String.ofList ((unsigned s).map Char.toLower)) then .ok ()
  else .error .invalid

end Text

end Tint
