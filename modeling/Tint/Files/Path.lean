import Tint.Text.Split

/-!
# Paths

The name of a file as text: parts between slashes. An empty part names nothing, and
neither does a single dot, unless the path starts with it. A path that starts with a slash
starts at the top.
-/

namespace Tint.Path

/-- The parts of a path. -/
def parts (path : String) : List (List Char) := Text.split '/' path.toList

/-- The text of parts. -/
def join (parts : List (List Char)) : String := String.ofList (['/'].intercalate parts)

/-- A part that names nothing. -/
def isIdle (part : List Char) : Bool := part = [] || part = ['.']

/-- The parts without those at the end that name nothing. The first part says where the
path starts and is kept. -/
def settled : List (List Char) → List (List Char)
  | [] => []
  | first :: rest => first :: (rest.reverse.dropWhile isIdle).reverse

/-- The path without its last name, if it has more than one part. -/
def parent? (path : String) : Option String :=
  match settled (parts path) with
  | first :: second :: rest =>
    let front := settled ((first :: second :: rest).dropLast)
    some (if front = [[]] then "/" else join front)
  | _ => none

/-- The last name of a path. -/
def fileName? (path : String) : Option (List Char) :=
  (settled (parts path)).getLast?.filter fun part => !isIdle part && part ≠ ['.', '.']

/-- What follows the last dot of a name, unless nothing is before that dot. -/
def nameExtension? (name : List Char) : Option (List Char) :=
  match name.reverse.dropWhile (· ≠ '.') with
  | [] => none
  | ['.'] => none
  | _ => some (name.reverse.takeWhile (· ≠ '.')).reverse

/-- The extension of a path. -/
def extension? (path : String) : Option String :=
  ((fileName? path).bind nameExtension?).map String.ofList

/-- What a path walks along: its parts, without the empty ones before the last. A path
that ends with a slash ends at a directory, as one that ends with a dot does. -/
def steps (path : String) : List String :=
  match (parts path).reverse with
  | [] => []
  | last :: before =>
    ((before.reverse.filter (· ≠ [])) ++ [if last = [] then ['.'] else last]).map String.ofList

/-- The path ends with a slash. -/
def endsWithSlash (path : String) : Bool := path.toList.getLast? = some '/'

end Tint.Path
