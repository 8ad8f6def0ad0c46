import Tint.Formats.Format

/-!
# Defects of picture files

Why a file is not read as a picture, and what is said of it, from the outside in.
-/

namespace Tint

/-- Why a file is not read as a picture. -/
inductive Defect where
  /-- Its bytes cannot be had. -/
  | refused (text : String)
  /-- The rules of a format are broken; each reason is explained by the next. -/
  | malformed (format : PictureFormat) (reasons : List String)
  /-- A format is not supported. -/
  | format (name : String)
  /-- A feature of a format is not supported. -/
  | feature (format : PictureFormat) (text : String)
  /-- A kind of pixels is not supported. -/
  | pixels (format : PictureFormat) (text : String)
  /-- The sides are not such as the format has. -/
  | sides
  /-- There is no picture. -/
  | absent
  /-- The picture takes too many bytes. -/
  | tooLarge
deriving DecidableEq, Repr

namespace Defect

/-- More bytes are wanted at once than there are. -/
def unfilled : Defect := .refused "failed to fill whole buffer"

/-- The bytes end where more are expected. -/
def ended : Defect := .refused "unexpected end of file"

/-- Bytes are not text. -/
def notText : Defect := .refused "stream did not contain valid UTF-8"

/-- The format can be neither read nor written. -/
def unsupported (f : PictureFormat) : Defect := .format f.name

/-- The pixels have a kind that has no name, with a number that tells it. -/
def unknownPixels (f : PictureFormat) (n : Nat) : Defect :=
  .pixels f ("Unknown(" ++ toString n ++ ")")

/-- A picture has more bytes than a number of 64 bits counts. -/
def tooManyPixels (f : PictureFormat) (width height : Nat) : Defect :=
  .feature f ("Image dimensions (" ++ toString width ++ "x" ++ toString height ++ ") are too large")

/-- What is said of a defect, from the outside in. -/
def causes : Defect → List String
  | refused text => [text]
  | malformed f reasons =>
    ("Format error decoding " ++ f.name ++ ": " ++ reasons.headD "") :: reasons
  | format name => ["The image format " ++ name ++ " is not supported"]
  | feature f text =>
    ["The decoder for " ++ f.name ++ " does not support the format features " ++ text]
  | pixels f text =>
    ["The encoder or decoder for " ++ f.name ++ " does not support the color type `" ++ text ++ "`"]
  | sides => ["The Image's dimensions are either too small or too large"]
  | absent => ["The end of the image has been reached"]
  | tooLarge => ["Memory limit exceeded"]

/-- The first thing that is said of a defect. -/
def text (d : Defect) : String := d.causes.headD ""

end Defect

end Tint
