import Tint.Text.Blank
import Tint.Text.Split

/-!
# Words

The parts of text between runs of white space.
-/

namespace Tint.Text

/-- The text with a blank for every character of white space. -/
def blanked (s : List Char) : List Char := s.map fun c => if isBlank c then ' ' else c

/-- The parts of text between runs of white space. No part is empty. -/
def words (s : List Char) : List (List Char) := (split ' ' (blanked s)).filter (· ≠ [])

end Tint.Text
