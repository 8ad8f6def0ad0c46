import Tint.Binary.Shortest
import Tint.Text.Quoted

/-!
# What can be wrong with a JSON text

An issue is a fault of the text or of the value that it writes. A failure is an issue
with the line and column at which reading stopped.
-/

namespace Tint.Json

/-- The text of a finite number: the shortest digits that read back, with a point and
at least one digit after it from `0.00001` up to but not including `10 ^ 16`, else with
an exponent that carries its sign when it is positive. -/
def floatText (v : Double) : List Char :=
  match v with
  | .nan => "NaN".toList
  | .infinity negative => (if negative then ['-'] else []) ++ "inf".toList
  | .finite negative steps =>
    let sign : List Char := if negative then ['-'] else []
    if steps = 0 then sign ++ ['0', '.', '0']
    else
      let d := Decimal.shortest Format.double steps 17
      let digits := Decimal.text d.digits
      let count : Int := digits.length
      let top := d.exponent + count - 1
      sign ++
        if -5 ≤ top ∧ top < 16 then
          if 0 ≤ d.exponent then digits ++ List.replicate d.exponent.toNat '0' ++ ['.', '0']
          else if 0 ≤ top then
            digits.take (top + 1).toNat ++ ['.'] ++ digits.drop (top + 1).toNat
          else ['0', '.'] ++ List.replicate (-top - 1).toNat '0' ++ digits
        else
          let fraction := digits.drop 1
          digits.take 1 ++ (if fraction.isEmpty then [] else '.' :: fraction) ++ ['e'] ++
            (if 0 ≤ top then ['+'] else []) ++ (toString top).toList

/-- A value that stands where another is expected. -/
inductive Found where
  /-- The null value. -/
  | null
  /-- A truth value. -/
  | boolean (value : Bool)
  /-- A whole number. -/
  | integer (value : Int)
  /-- A number with a fraction or an exponent, or one too large to be whole. -/
  | float (value : Double)
  /-- A string. -/
  | string (value : List Char)
  /-- An array. -/
  | sequence
  /-- An object. -/
  | map
deriving DecidableEq, Repr

/-- The wording of a value that is not the expected one. -/
def Found.text : Found → String
  | null => "null"
  | boolean value => "boolean `" ++ (if value then "true" else "false") ++ "`"
  | integer value => "integer `" ++ toString value ++ "`"
  | float value => "floating point `" ++ String.ofList (floatText value) ++ "`"
  | string value => "string " ++ String.ofList (Text.quoted value)
  | sequence => "sequence"
  | map => "map"

/-- What is wrong. -/
inductive Issue where
  /-- The text ends in a value or before it. -/
  | endInValue
  /-- The text ends in an array. -/
  | endInList
  /-- The text ends in an object. -/
  | endInObject
  /-- The text ends in a string. -/
  | endInString
  /-- A colon is missing. -/
  | expectedColon
  /-- An element of an array is followed by neither a comma nor the end. -/
  | expectedListComma
  /-- A member of an object is followed by neither a comma nor the end. -/
  | expectedObjectComma
  /-- One of the words `null`, `true` and `false` is not written out. -/
  | expectedWord
  /-- No value starts here. -/
  | expectedValue
  /-- An escape in a string is none of the known ones. -/
  | badEscape
  /-- A number is not written as one. -/
  | badNumber
  /-- A number is too large for a finite number of 64 bits. -/
  | numberOutOfRange
  /-- A control character stands in a string. -/
  | controlCharacter
  /-- A key is not a string. -/
  | keyNotString
  /-- A low surrogate has no high one before it. -/
  | loneSurrogate
  /-- A high surrogate has no escape after it. -/
  | unfinishedSurrogate
  /-- A comma is followed by the end. -/
  | trailingComma
  /-- More text follows than was read. -/
  | trailingCharacters
  /-- A member of a record appears twice. -/
  | duplicateField (name : String)
  /-- A record has no such member. -/
  | unknownField (name : String) (known : List String)
  /-- A record lacks a member. -/
  | missingField (name : String)
  /-- A name is none of the known ones. -/
  | unknownVariant (name : String) (known : List String)
  /-- A record written as an array is too short. -/
  | wrongLength (got : Nat) (record : String) (size : Nat)
  /-- A value is of the wrong kind. -/
  | wrongType (found : Found) (expected : String)
  /-- A whole number is out of range. -/
  | wrongValue (value : Int) (expected : String)
deriving DecidableEq, Repr

/-- A name between grave accents. -/
def ticked (name : String) : String := "`" ++ name ++ "`"

/-- The wording of a choice between known names. -/
def oneOf : List String → String
  | [] => "nothing"
  | [a] => ticked a
  | [a, b] => ticked a ++ " or " ++ ticked b
  | names => "one of " ++ String.intercalate ", " (names.map ticked)

/-- The wording of an issue. -/
def Issue.text : Issue → String
  | endInValue => "EOF while parsing a value"
  | endInList => "EOF while parsing a list"
  | endInObject => "EOF while parsing an object"
  | endInString => "EOF while parsing a string"
  | expectedColon => "expected `:`"
  | expectedListComma => "expected `,` or `]`"
  | expectedObjectComma => "expected `,` or `\x7d`"
  | expectedWord => "expected ident"
  | expectedValue => "expected value"
  | badEscape => "invalid escape"
  | badNumber => "invalid number"
  | numberOutOfRange => "number out of range"
  | controlCharacter =>
    "control character (\\u0000-\\u001F) found while parsing a string"
  | keyNotString => "key must be a string"
  | loneSurrogate => "lone leading surrogate in hex escape"
  | unfinishedSurrogate => "unexpected end of hex escape"
  | trailingComma => "trailing comma"
  | trailingCharacters => "trailing characters"
  | duplicateField name => "duplicate field " ++ ticked name
  | unknownField name known => "unknown field " ++ ticked name ++ ", expected " ++ oneOf known
  | missingField name => "missing field " ++ ticked name
  | unknownVariant name known =>
    "unknown variant " ++ ticked name ++ ", expected " ++ oneOf known
  | wrongLength got record size =>
    "invalid length " ++ toString got ++ ", expected struct " ++ record ++ " with " ++
      toString size ++ " elements"
  | wrongType found expected => "invalid type: " ++ found.text ++ ", expected " ++ expected
  | wrongValue value expected =>
    "invalid value: integer " ++ ticked (toString value) ++ ", expected " ++ expected

/-- An issue and the place where reading stopped. -/
structure Failure where
  /-- What is wrong. -/
  issue : Issue
  /-- The line, from 1. -/
  line : Nat
  /-- The number of bytes before the place on its line. -/
  column : Nat
deriving DecidableEq, Repr

/-- The wording of a failure. -/
def Failure.text (f : Failure) : String :=
  f.issue.text ++ " at line " ++ toString f.line ++ " column " ++ toString f.column

end Tint.Json
