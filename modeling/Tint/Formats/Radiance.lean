import Tint.Binary
import Tint.Formats.Raster
import Tint.Text.Floating
import Tint.Text.Words

/-!
# Pictures of great range

A header of text lines up to an empty one, a line with the sides, and rows of pixels. A pixel
has a byte each of red, green and blue, and a byte for the power of two they are multiplied
by. Rows may be shortened, in a newer way by runs of equal bytes of one channel, or in an
older way by pixels that repeat the one before.

## The model

* `Pixel` is a pixel as the file has it, `Pixel.channel` a channel of it as a number.
* `row` reads the pixels of a row in either way.
-/

namespace Tint.Radiance

/-- The rules of the format are broken. -/
def broken {α : Type} (reason : String) : Reading α := throw (.malformed .hdr [reason])

/-- The rules of the format are broken, for a reason of its own. -/
def brokenBy {α : Type} (reason cause : String) : Reading α :=
  throw (.malformed .hdr [reason ++ ": " ++ cause, cause])

/-- The bytes that a file begins with. -/
def signature : String := "#?RADIANCE"

/-! ### The header -/

/-- The next line, without the byte that ends it; `line` is what was read of it. -/
def lineFrom (line : ByteArray) : Nat → Reading (Option ByteArray)
  | 0 => return if line.isEmpty then none else some line
  | fuel + 1 => do
    match ← Reading.byte? with
    | none => return if line.isEmpty then none else some line
    | some b => if b = 10 then return some line else lineFrom (line.push b) fuel

/-- The next line as text, if there is one. -/
def line? : Reading (Option (List Char)) := do
  let bytes ← lineFrom ByteArray.empty (← Reading.left)
  return bytes.map fun b => ((String.fromUTF8? b).getD "").toList

/-- The text, cut short if it has more characters than a limit. -/
def limited (limit : Nat) (s : List Char) : String :=
  if limit < s.length then String.ofList (s.take limit) ++ "..." else String.ofList s

/-- The value of a line has to be a number. -/
def checkNumber (name : String) (value : List Char) : Reading Unit :=
  match Text.checkFloating value with
  | .ok () => return ()
  | .error e => brokenBy ("Cannot parse " ++ name ++ " value as f32") e.text

/-- The value of a line has to be three numbers. -/
def checkNumbers (name : String) (value : List Char) : Reading Unit := do
  let numbers := Text.words value
  (numbers.take 3).forM (checkNumber name)
  if numbers.length < 3 then broken ("Not enough numbers in " ++ name)
  if 3 < numbers.length then broken ("Extra numbers in " ++ name)

/-- The only kind of pixels that is read. -/
def pixelKind : String := "32-bit_rle_rgbe"

/-- A line of the header: a name, a mark and a value. Lines of another form do not matter,
neither do those that end with the mark, and neither do other names. -/
def checkLine (line : List Char) : Reading Unit := do
  match line.dropWhile (· ≠ '=') with
  | [] | [_] => return ()
  | _ :: value =>
    match String.ofList (Text.trim (line.takeWhile (· ≠ '='))) with
    | "FORMAT" =>
      if String.ofList (Text.trim value) ≠ pixelKind then
        throw (.format ("`" ++ limited 20 value ++ "`"))
    | "EXPOSURE" => checkNumber "EXPOSURE" (Text.trim value)
    | "PIXASPECT" => checkNumber "PIXASPECT" (Text.trim value)
    | "COLORCORR" => checkNumbers "COLORCORR" value
    | _ => return ()

/-- The lines up to an empty one. -/
def checkLines : Nat → Reading Unit
  | 0 => broken "EOF in header"
  | fuel + 1 => do
    match ← line? with
    | none => broken "EOF in header"
    | some [] => return ()
    | some ('#' :: _) => checkLines fuel
    | some line =>
      checkLine line
      checkLines fuel

/-- A side of the picture. -/
def side (name : String) (text : List Char) : Reading Nat :=
  match Text.natural 4294967295 text with
  | .ok n => return n
  | .error e => brokenBy ("Cannot parse " ++ name ++ " dimension value as u32") e.text

/-- The sides in a line: rows go down and pixels of a row to the right. -/
def sides (line : List Char) : Reading (Nat × Nat) :=
  match Text.words line with
  | [first, height, second, width] =>
    if first = ['-', 'Y'] && second = ['+', 'X'] then do
      let height ← side "height" height
      return (← side "width" width, height)
    else throw (.feature .hdr ("Orientation " ++ limited 4 first ++ " " ++ limited 4 second))
  | parts =>
    if parts.length < 4 then
      broken ("Dimensions line too short: have " ++ toString parts.length ++
        " elements, expected 4")
    else broken "Dimensions line too long, expected 4 elements"

/-! ### Rows -/

/-- A pixel. -/
structure Pixel where
  /-- Red. -/
  red : UInt8
  /-- Green. -/
  green : UInt8
  /-- Blue. -/
  blue : UInt8
  /-- The power of two that the channels are multiplied by, above the least one. -/
  power : UInt8

instance : Inhabited Pixel := ⟨0, 0, 0, 0⟩

namespace Pixel

/-- The steps of a byte at the least power of two are counted in `2 ^ 13`. -/
def leastPower : Nat := 13

/-- A channel as a number. The power of zero stands for black. -/
def channel (p : Pixel) (c : Nat) : Single :=
  let byte := if c = 0 then p.red else if c = 1 then p.green else p.blue
  if p.power = 0 then Binary.zero
  else .finite false (byte.toNat <<< (p.power.toNat + leastPower))

/-- The pixel stands for a number of pixels like the one before. -/
def repeats? (p : Pixel) : Option Nat :=
  if p.red = 1 && p.green = 1 && p.blue = 1 then some p.power.toNat else none

end Pixel

/-- The next pixel. -/
def pixel : Reading Pixel := do
  let red ← Reading.byte
  let green ← Reading.byte
  let blue ← Reading.byte
  return ⟨red, green, blue, ← Reading.byte⟩

/-- A row does not have the pixels that it should have. -/
def wrongLength {α : Type} (got width : Nat) : Reading α :=
  broken ("Wrong length of decoded scanline: got " ++ toString got ++ ", expected " ++
    toString width)

/-- The bytes of one channel of a row, in runs of equal bytes and in runs of any bytes. A run
takes a byte and more, so the number of bytes that are left is fuel enough. -/
def channelFrom (width : Nat) (out : ByteArray) : Nat → Reading ByteArray
  | 0 => throw .unfilled
  | fuel + 1 => do
    if width ≤ out.size then return out
    let count := (← Reading.byte).toNat
    let length := if count ≤ 128 then count else count - 128
    if width < out.size + length then wrongLength (out.size + length) width
    if count ≤ 128 then channelFrom width (out ++ (← Reading.take count)) fuel
    else
      let value ← Reading.byte
      channelFrom width (out ++ ⟨Array.replicate length value⟩) fuel

/-- The bytes of one channel of a row. -/
def channelRow (width : Nat) : Reading ByteArray := do
  channelFrom width ByteArray.empty ((← Reading.left) + 1)

/-- The pixels of a row after the first, in the older way. Counts that follow each other are
the digits of one to the base 256, the lowest first. -/
def olderFrom (width weight : Nat) (last : Pixel) (out : Array Pixel) :
    Nat → Reading (Array Pixel)
  | 0 => throw .unfilled
  | fuel + 1 => do
    if width ≤ out.size then return out
    let p ← pixel
    match p.repeats? with
    | none => olderFrom width 1 p (out.push p) fuel
    | some count =>
      let length := count * weight
      if width < out.size + length then wrongLength (out.size + length) width
      olderFrom width (256 * weight) last (out ++ Array.replicate length last) fuel

/-- The pixels of a row. Two bytes and half of a third tell the newer way. -/
def row (width : Nat) : Reading (Array Pixel) := do
  let first ← pixel
  if first.red = 2 && first.green = 2 && first.blue < 128 then
    let red ← channelRow width
    let green ← channelRow width
    let blue ← channelRow width
    let power ← channelRow width
    return Array.ofFn fun (i : Fin width) =>
      let at' (bytes : ByteArray) := (bytes[i.val]?).getD 0
      ⟨at' red, at' green, at' blue, at' power⟩
  else
    if first.repeats?.isSome then
      broken "First pixel of a scanline shouldn't be run length marker"
    olderFrom width 1 first #[first] ((← Reading.left) + 1)

/-- The rows one after the other. -/
def rows (width : Nat) (before : Array Pixel) : Nat → Reading (Array Pixel)
  | 0 => return before
  | count + 1 => do rows width (before ++ (← row width)) count

/-- A picture of great range. -/
def picture : Reading Picture := do
  let mark ← Reading.take signature.length
  if mark.data ≠ signature.toUTF8.data then broken "Radiance HDR signature not found"
  let _ ← line?
  checkLines ((← Reading.left) + 1)
  match ← line? with
  | none => broken "EOF in dimensions line"
  | some line =>
    let (width, height) ← sides line
    let extent ← Reading.extent width height
    Reading.checkCount .hdr extent .rgb8
    Reading.checkMemory extent .rgb32F
    let pixels ← if extent.IsEmpty then pure #[] else rows width #[] height
    return Picture.ofFunction .rgb32F extent fun i => (pixels.getD (i / 3) default).channel (i % 3)

end Tint.Radiance
