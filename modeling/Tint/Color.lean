import Tint.Text.Blank
import Tint.Text.Natural
import Tint.Text.Split

/-!
# Colors

A color is a red, a green and a blue. As text it is three numbers from 0 to 255
between commas; white space around a number does not matter, and a number may have a
plus sign and leading zeros.
-/

namespace Tint

/-- A red, a green and a blue. -/
structure Rgb (α : Type) where
  /-- Red. -/
  r : α
  /-- Green. -/
  g : α
  /-- Blue. -/
  b : α
deriving DecidableEq, Repr

namespace Rgb

/-- The color with `f` applied to each channel. -/
def map {α β : Type} (f : α → β) (c : Rgb α) : Rgb β := ⟨f c.r, f c.g, f c.b⟩

/-- Two colors joined channel by channel. -/
def zipWith {α β γ : Type} (f : α → β → γ) (c : Rgb α) (d : Rgb β) : Rgb γ :=
  ⟨f c.r d.r, f c.g d.g, f c.b d.b⟩

/-- The channels in order. -/
def toList {α : Type} (c : Rgb α) : List α := [c.r, c.g, c.b]

/-- The channel of a number: red, green, then blue. -/
def channel {α : Type} (c : Rgb α) : Nat → α
  | 0 => c.r
  | 1 => c.g
  | _ => c.b

end Rgb

/-- A color of one byte a channel. -/
abbrev Color := Rgb UInt8

/-- The greatest byte. -/
def byteLimit : Nat := 255

/-- Why text is not a color. -/
inductive ColorError where
  /-- A part between commas is not a byte; the first such part counts. -/
  | badPart (text : String) (cause : NaturalError)
  /-- The parts are bytes but not three. -/
  | wrongCount (text : String)
deriving DecidableEq, Repr

/-- The wording of the error. -/
def ColorError.text : ColorError → String
  | badPart s cause => "invalid color '" ++ s ++ "': " ++ cause.text
  | wrongCount s => "color '" ++ s ++ "' must have exactly three channels"

namespace Color

/-- The color that text writes. -/
def ofText (s : String) : Except ColorError Color :=
  match (Text.split ',' s.toList).mapM fun part => Text.natural byteLimit (Text.trim part) with
  | .error cause => .error (.badPart s cause)
  | .ok [r, g, b] => .ok (Rgb.map UInt8.ofNat ⟨r, g, b⟩)
  | .ok _ => .error (.wrongCount s)

end Color

end Tint
