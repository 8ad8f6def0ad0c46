import Tint.Binary
import Tint.Formats.Raster
import Tint.Text.Blank
import Tint.Text.Natural
import Tint.Text.Quoted

/-!
# Portable maps

Pictures whose header is text. A map of bits, of gray or of color has its numbers in the
header, with comments between them, and its samples as digits or as bytes; a map of any kind
names each number of its header on a line of its own.

## The model

* `Samples` is how samples are kept, `Header` what a header says.
* `byteSamples` and `digitSamples` read the samples; `Header.scaled` brings a sample to the full
  range.
-/

namespace Tint.Anymap

/-- How a sample is kept. -/
inductive Samples where
  /-- A bit, of which one is black; a row fills its last byte. -/
  | bits
  /-- A byte that is zero or one. -/
  | flags
  /-- A byte. -/
  | bytes
  /-- Two bytes, the highest first. -/
  | words
deriving DecidableEq, Repr

/-- What a header says. -/
structure Header where
  /-- Samples are digits. -/
  digits : Bool
  /-- The width. -/
  width : Nat
  /-- The height. -/
  height : Nat
  /-- The greatest sample. -/
  full : Nat
  /-- How samples are kept. -/
  samples : Samples
  /-- The number of samples of a pixel. -/
  depth : Nat

/-- The rules of the format are broken. -/
def broken {α : Type} (reason : String) : Reading α := throw (.malformed .pnm [reason])

/-- The byte is white space. -/
def isSpace (b : UInt8) : Bool := b = 32 || (9 ≤ b && b ≤ 13)

/-- The value of the byte as a decimal digit. -/
def digitOf? (b : UInt8) : Option Nat := Text.digit? (Char.ofNat b.toNat)

/-- A byte in two hexadecimal digits. -/
def hexByte (b : UInt8) : String :=
  let digits := Text.hex (b.toNat / 16) ++ Text.hex (b.toNat % 16)
  "0x" ++ String.ofList (digits.map Char.toUpper)

/-- Text is not a number. -/
def unparsable {α : Type} (text : List Char) (purpose : String) (e : NaturalError) : Reading α :=
  throw (.malformed .pnm
    ["Error parsing " ++ String.ofList (Text.quoted text) ++ " as " ++ purpose ++ ": " ++ e.text,
     e.text])

/-! ### Numbers -/

/-- The greatest number of a header. -/
def numberLimit : Nat := 4294967295

/-- The end of a number, if it has begun. -/
def numberEnd (value : Option Nat) : Reading Nat :=
  match value with
  | some n => return n
  | none => throw .ended

/-- The number with one more digit. -/
def numberWith (limit : Nat) (purpose : String) (value : Option Nat) (b : UInt8) : Reading Nat :=
  match digitOf? b with
  | none => broken ("Non-ASCII-digit character when parsing number in " ++ purpose)
  | some d =>
    let next := value.getD 0 * 10 + d
    if limit < next then broken "Overflow when parsing value" else return next

/-- The next number of a header, with one byte of white space after it. A comment goes from
a mark to the end of the line and leaves nothing, also inside a number. -/
def numberFrom (inComment : Bool) (value : Option Nat) : Nat → Reading Nat
  | 0 => numberEnd value
  | fuel + 1 => do
    match ← Reading.byte? with
    | none => numberEnd value
    | some b =>
      if inComment then numberFrom (b ≠ 10 && b ≠ 13) value fuel
      else if b = 35 then numberFrom true value fuel
      else if isSpace b then
        match value with
        | some n => return n
        | none => numberFrom false none fuel
      else
        numberFrom false (some (← numberWith numberLimit "number in preamble" value b)) fuel

/-- The next number of a header. -/
def number : Reading Nat := do numberFrom false none (← Reading.left)

/-! ### Headers of numbers -/

/-- The samples that hold numbers up to a greatest one. -/
def samplesFor (full : Nat) : Reading Samples :=
  if full = 0 then broken "Image MAXVAL is zero"
  else if full ≤ 255 then return .bytes
  else if full ≤ 65535 then return .words
  else broken ("Image MAXVAL exceeds 65535: " ++ toString full)

/-- The header of a map of bits. -/
def bitHeader (digits : Bool) : Reading Header := do
  let width ← number
  let height ← number
  return ⟨digits, width, height, 1, .bits, 1⟩

/-- The header of a map of gray or of color. -/
def header (digits : Bool) (depth : Nat) : Reading Header := do
  let width ← number
  let height ← number
  let full ← number
  return ⟨digits, width, height, full, ← samplesFor full, depth⟩

/-! ### Headers of lines -/

/-- The numbers that a header of lines has to give, and the words for the kind of pixels. -/
structure Lines where
  /-- The height. -/
  height : Option Nat := none
  /-- The width. -/
  width : Option Nat := none
  /-- The number of samples of a pixel. -/
  depth : Option Nat := none
  /-- The greatest sample. -/
  full : Option Nat := none
  /-- The kind of pixels. -/
  kind : Option String := none

/-- The bytes of the next line, with the byte that ends it. -/
def lineFrom (bytes : ByteArray) : Nat → Reading ByteArray
  | 0 => return bytes
  | fuel + 1 => do
    match ← Reading.byte? with
    | none => return bytes
    | some b => if b = 10 then return bytes.push b else lineFrom (bytes.push b) fuel

/-- The number of a line that may be given once. -/
def lineNumber (before : Option Nat) (name : String) (rest : List Char) : Reading (Option Nat) :=
  match before with
  | some _ => broken ("Duplicate " ++ name ++ " line")
  | none =>
    match Text.natural numberLimit (Text.trim rest) with
    | .ok n => return some n
    | .error e => unparsable rest name e

/-- What is known after one more line, that begins with a name. -/
def Lines.add (l : Lines) (name : String) (rest : List Char) : Reading Lines := do
  match name with
  | "HEIGHT" => return { l with height := ← lineNumber l.height name rest }
  | "WIDTH" => return { l with width := ← lineNumber l.width name rest }
  | "DEPTH" => return { l with depth := ← lineNumber l.depth name rest }
  | "MAXVAL" => return { l with full := ← lineNumber l.full name rest }
  | "TUPLTYPE" =>
    let more := String.ofList (Text.trim rest)
    return { l with kind := some ((l.kind.elim "" (· ++ " ")) ++ more) }
  | _ => broken ("Unknown header line with identifier " ++
      String.ofList (Text.quoted name.toList))

/-- The lines up to the last one. A line that starts with white space has an empty name, and
one that starts with a mark is a comment. -/
def linesFrom (l : Lines) : Nat → Reading Lines
  | 0 => broken "Unexpected end of PNM header"
  | fuel + 1 => do
    let bytes ← lineFrom ByteArray.empty (← Reading.left)
    match String.fromUTF8? bytes with
    | none => throw .notText
    | some text =>
      let line := text.toList
      match line with
      | [] => broken "Unexpected end of PNM header"
      | first :: _ =>
        if first = '#' then linesFrom l fuel
        else if line.any (128 ≤ ·.toNat) then broken "Non-ASCII line in PAM header"
        else
          let name := String.ofList (line.takeWhile fun c => !Text.isBlank c)
          let rest := line.dropWhile fun c => !Text.isBlank c
          if name = "ENDHDR" then return l else linesFrom (← l.add name rest) fuel

/-- A number or the lack of one. -/
def optional (n : Option Nat) : String := n.elim "None" fun n => "Some(" ++ toString n ++ ")"

/-- The kinds of pixels that have a name: how many samples they have, and whether they are
flags. -/
def kinds : List (String × Nat × Bool) :=
  [("BLACKANDWHITE", 1, true), ("BLACKANDWHITE_ALPHA", 2, true), ("GRAYSCALE", 1, false),
   ("GRAYSCALE_ALPHA", 2, false), ("RGB", 3, false), ("RGB_ALPHA", 4, false)]

/-- The samples of a kind of pixels with a name. The number of samples and the greatest one
have to suit it. -/
def namedSamples (name : String) (depth full : Nat) : Reading Samples :=
  match kinds.lookup name with
  | none => throw (.feature .pnm ("Tuple type " ++ String.ofList (Text.quoted name.toList)))
  | some (samples, isFlag) =>
    let both := "Invalid depth (" ++ toString depth ++ ") or maxval (" ++ toString full ++
      ") for tuple type " ++ name
    if isFlag then if depth = samples && full = 1 then return .flags else broken both
    else if depth = samples && full ≤ 255 then return .bytes
    else if depth = samples && full ≤ 65535 then return .words
    else if samples ≤ 2 then broken both
    else broken ("Invalid depth (" ++ toString depth ++ ") for tuple type " ++ name)

/-- The header of a map of any kind. Pixels without a kind are told by the number of their
samples. -/
def anyHeader : Reading Header := do
  match ← Reading.byte? with
  | none => throw .ended
  | some b =>
    if b ≠ 10 then broken ("Expected newline after P7 magic, got " ++ hexByte b)
    let l ← linesFrom {} (← Reading.left)
    match l.height, l.width, l.depth, l.full with
    | some height, some width, some depth, some full =>
      if full = 0 then broken "Image MAXVAL is zero"
      match l.kind with
      | some name => return ⟨false, width, height, full, ← namedSamples name depth full, depth⟩
      | none =>
        if 1 ≤ depth && depth ≤ 4 then return ⟨false, width, height, full, .bytes, depth⟩
        else broken "Tuple type not recognized"
    | height, width, depth, full =>
      broken ("Missing header line: have height=" ++ optional height ++ ", width=" ++
        optional width ++ ", depth=" ++ optional depth ++ ", maxval=" ++ optional full)

/-! ### Samples -/

namespace Header

/-- The layout of the picture. -/
def layout (h : Header) : PictureLayout := PictureLayout.ofSamples (h.samples = .words) h.depth

/-- The greatest sample of the picture. -/
def target (h : Header) : Nat := if h.samples = .words then 65535 else 255

/-- A sample brought to the full range of its layout, in numbers of 32 bits. -/
def scaled (h : Header) (n : Nat) : Nat :=
  if h.full = h.target then n
  else
    let factor : Single := Binary.ofNat h.target / Binary.ofNat h.full
    (Binary.ofNat n * factor).roundAwayTo h.target

/-- The number of samples of a row. -/
def rowSamples (h : Header) : Nat := h.width * h.depth

/-- The number of bytes of a row. -/
def rowBytes (h : Header) : Nat :=
  match h.samples with
  | .bits => (h.rowSamples + 7) / 8
  | .flags | .bytes => h.rowSamples
  | .words => 2 * h.rowSamples

/-- The sample at a place among bytes. -/
def sampleIn (h : Header) (bytes : ByteArray) (i : Nat) : Nat :=
  match h.samples with
  | .bits =>
    if Bytes.bit bytes (i / h.rowSamples * h.rowBytes) (i % h.rowSamples) then 0 else 255
  | .flags | .bytes => Bytes.one bytes i
  | .words => Bytes.high bytes (2 * i) 2

end Header

/-- What is said of a file with too few samples. -/
def tooShort : String := "Not enough data was provided to the Decoder to decode the image"

/-- The samples that are kept as bytes. -/
def byteSamples (h : Header) : Reading (Nat → Nat) := do
  let count := h.rowBytes * h.height
  let bytes ← Reading.atMost count
  if bytes.size < count then broken tooShort
  if h.samples = .flags then
    match bytes.data.find? (1 < ·) with
    | some b => broken ("Sample value " ++ toString b.toNat ++ " outside of bounds")
    | none => pure ()
  return h.sampleIn bytes

/-- The next bit that is written as a digit. -/
def bitDigit : Nat → Reading Nat
  | 0 => broken tooShort
  | fuel + 1 => do
    match ← Reading.byte? with
    | none => broken tooShort
    | some b =>
      if isSpace b then bitDigit fuel
      else if b = 48 then return 255
      else if b = 49 then return 0
      else broken ("Unexpected character " ++ hexByte b ++ " within sample raster")

/-- The next sample that is written in digits, with one byte of white space after it. -/
def sampleFrom (limit : Nat) (value : Option Nat) : Nat → Reading Nat
  | 0 => numberEnd value
  | fuel + 1 => do
    match ← Reading.byte? with
    | none => numberEnd value
    | some b =>
      if isSpace b then
        match value with
        | some n => return n
        | none => sampleFrom limit none fuel
      else sampleFrom limit (some (← numberWith limit "sample" value b)) fuel

/-- The next sample that is written in digits. -/
def digitSample (limit : Nat) : Reading Nat := do sampleFrom limit none (← Reading.left)

/-- Samples one after the other. -/
def samplesFrom (one : Reading Nat) (before : Array Nat) : Nat → Reading (Array Nat)
  | 0 => return before
  | count + 1 => do samplesFrom one (before.push (← one)) count

/-- The samples that are written in digits. -/
def digitSamples (h : Header) : Reading (Nat → Nat) := do
  let one : Reading Nat :=
    if h.samples = .bits then do bitDigit (← Reading.left) else digitSample h.target
  let numbers ← samplesFrom one #[] (h.rowSamples * h.height)
  return fun i => numbers.getD i 0

/-- The header behind the two bytes that tell the kind of the map. -/
def headerOf (first second : UInt8) : Reading Header :=
  if first ≠ 80 then unknown
  else
    match second with
    | 49 => bitHeader true
    | 50 => header true 1
    | 51 => header true 3
    | 52 => bitHeader false
    | 53 => header false 1
    | 54 => header false 3
    | 55 => anyHeader
    | _ => unknown
where
  /-- No map begins so. -/
  unknown : Reading Header :=
    broken ("Expected magic constant for PNM: P1..P7, got [" ++ hexByte first ++ ", " ++
      hexByte second ++ "]")

/-- A portable map. -/
def picture : Reading Picture := do
  let mark ← Reading.take 2
  let h ← headerOf (mark.data.getD 0 0) (mark.data.getD 1 0)
  let extent ← Reading.extent h.width h.height
  Reading.checkCount .pnm extent h.layout
  Reading.checkMemory extent h.layout
  let sample ← if h.digits then digitSamples h else byteSamples h
  return Picture.ofNumbers h.layout extent fun i => h.scaled (sample i)

end Tint.Anymap
