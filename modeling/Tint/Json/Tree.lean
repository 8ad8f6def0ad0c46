import Tint.Text.Quoted

/-!
# Writing JSON

A tree of values and its compact text. The text is made of lexemes: between two of them
a reader accepts white space, and compact text has none.
-/

namespace Tint.Json

/-- A value to write. -/
inductive Tree where
  /-- The null value. -/
  | null
  /-- A whole number. -/
  | integer (value : Int)
  /-- A string. -/
  | string (content : List Char)
  /-- An array. -/
  | array (elements : List Tree)
  /-- An object, with its members in order. -/
  | object (members : List (List Char × Tree))

/-- A character within a string. -/
def stringChar (c : Char) : List Char :=
  if c = '"' then ['\\', '"']
  else if c = '\\' then ['\\', '\\']
  else if c = '\x08' then ['\\', 'b']
  else if c = '\x0c' then ['\\', 'f']
  else if c = '\n' then ['\\', 'n']
  else if c = '\r' then ['\\', 'r']
  else if c = '\t' then ['\\', 't']
  else if c < ' ' then
    let digits := Text.hex c.toNat
    ['\\', 'u'] ++ List.replicate (4 - digits.length) '0' ++ digits
  else [c]

/-- A string between its quotes. -/
def stringLexeme (content : List Char) : List Char :=
  ['"'] ++ content.flatMap stringChar ++ ['"']

namespace Tree

mutual

/-- The lexemes of a value. -/
def lexemes : Tree → List (List Char)
  | null => ["null".toList]
  | integer value => [(toString value).toList]
  | string content => [stringLexeme content]
  | array [] => [['['], [']']]
  | array (first :: rest) => [['[']] ++ first.lexemes ++ elementLexemes rest ++ [[']']]
  | object [] => [['\x7b'], ['\x7d']]
  | object ((key, value) :: rest) =>
    [['\x7b'], stringLexeme key, [':']] ++ value.lexemes ++ memberLexemes rest ++ [['\x7d']]

/-- The lexemes of the elements after the first one. -/
def elementLexemes : List Tree → List (List Char)
  | [] => []
  | value :: rest => [[',']] ++ value.lexemes ++ elementLexemes rest

/-- The lexemes of the members after the first one. -/
def memberLexemes : List (List Char × Tree) → List (List Char)
  | [] => []
  | (key, value) :: rest =>
    [[','], stringLexeme key, [':']] ++ value.lexemes ++ memberLexemes rest

end

/-- The compact text of a value. -/
def text (t : Tree) : List Char := t.lexemes.flatten

end Tree

end Tint.Json
