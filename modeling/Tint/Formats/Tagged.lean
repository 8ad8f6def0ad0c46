import Tint.Formats.Raster

/-!
# Pictures with tags

A mark that tells the order of bytes, and a directory of tagged values. They tell the sides,
the samples of a pixel, and where the strips of rows are. Of the ways to shorten strips, runs
of bytes are read here. Pictures in tiles or in planes, in colors for printing or in strips that
are shortened otherwise are read elsewhere.

## The model

* `Order` is the order of bytes in numbers.
* `Entries` are the entries of a directory, `Value` is what an entry has.
* `Plan` is what the tags say of the pixels, if they are in strips.
-/

namespace Tint.Tagged

/-- The rules of the format are broken. -/
def broken {α : Type} (reason : String) : Reading α :=
  throw (.malformed .tiff ["format error: " ++ reason, reason])

/-- A feature of the format is not supported. -/
def missing {α : Type} (text : String) : Reading α := throw (.feature .tiff text)

/-- The order of the bytes of numbers. -/
inductive Order where
  /-- The lowest byte first. -/
  | low
  /-- The highest byte first. -/
  | high
deriving DecidableEq, Repr

/-- The number in `count` bytes. -/
def Order.number (o : Order) (count : Nat) : Reading Nat :=
  match o with
  | low => Reading.low count
  | high => Reading.high count

/-- A file: the order of its bytes, and whether its places take eight bytes. -/
structure Shape where
  /-- The order of bytes. -/
  order : Order
  /-- Places take eight bytes. -/
  big : Bool

/-- The number of bytes of a place. -/
def Shape.placeBytes (s : Shape) : Nat := if s.big then 8 else 4

/-- The next place. -/
def Shape.place (s : Shape) : Reading Nat := s.order.number s.placeBytes

/-- What a file begins with. -/
def shape : Reading Shape := do
  let mark ← Reading.atMost 2
  let order ←
    if mark.data = #[73, 73] then pure Order.low
    else if mark.data = #[77, 77] then pure Order.high
    else broken "TIFF signature not found"
  match ← order.number 2 with
  | 42 => return ⟨order, false⟩
  | 43 =>
    if (← order.number 2) ≠ 8 then broken "TIFF signature not found"
    if (← order.number 2) ≠ 0 then broken "TIFF signature not found"
    return ⟨order, true⟩
  | _ => broken "TIFF signature invalid"

/-! ### Values -/

/-- The kinds of values that are numbers without a sign: their names and the number of bytes
of one. -/
def kinds : List (Nat × String × Nat) :=
  [(1, "Byte", 1), (3, "Short", 2), (4, "Unsigned", 4), (7, "Byte", 1), (13, "Ifd", 4),
   (16, "UnsignedBig", 8), (18, "IfdBig", 8)]

/-- The other kinds of values. -/
def otherKinds : List Nat := [2, 5, 6, 8, 9, 10, 11, 12, 17]

/-- A tagged value. -/
structure Value where
  /-- The name of the kind, if the value is made of numbers. -/
  name : Option String
  /-- The numbers. -/
  numbers : List Nat

/-- The numbers of a value. If they do not fit into the bytes of a place, these tell where
they are. -/
def numbers (s : Shape) (bytes count : Nat) : Reading (List Nat) := do
  let start ← get
  if s.placeBytes < bytes * count then set (← s.place)
  if (← Reading.left) < bytes * count then throw .unfilled
  let found ← Reading.several (s.order.number bytes) count
  set (start + s.placeBytes)
  return found

/-- An entry of a directory. -/
structure Entry where
  /-- The tag. -/
  tag : Nat
  /-- The kind of the value. -/
  kind : Nat
  /-- The number of numbers of the value. -/
  count : Nat
  /-- The place of the value, or of the number that tells where it is. -/
  start : Nat

/-- The next entry, if its kind is known. The numbers are read when they are asked for, so that
a value that does not matter may be anywhere. -/
def entry (s : Shape) : Reading (Option Entry) := do
  let tag ← s.order.number 2
  let kind ← s.order.number 2
  let count ← s.place
  let start ← get
  Reading.skip s.placeBytes
  let known := (kinds.lookup kind).isSome || otherKinds.contains kind
  return if known then some ⟨tag, kind, count, start⟩ else none

/-- The entries of a directory, the latest first. -/
abbrev Entries := List Entry

/-- The latest entry with a tag. -/
def Entries.find? (all : Entries) (tag : Nat) : Option Entry := List.find? (·.tag = tag) all

/-- The entries of the directory at a place. -/
def entries (s : Shape) (place : Nat) : Reading Entries := do
  set place
  let count ← s.order.number (if s.big then 8 else 2)
  if (← Reading.left) < count then throw .unfilled
  let found ← Reading.several (entry s) count
  let _ ← s.place
  return (found.filterMap id).reverse

/-- The value with a tag. -/
def value? (s : Shape) (all : Entries) (tag : Nat) : Reading (Option Value) := do
  match all.find? tag with
  | none => return none
  | some e =>
    match kinds.lookup e.kind with
    | none => return some ⟨none, []⟩
    | some (name, bytes) =>
      set e.start
      return some ⟨some name, ← numbers s bytes e.count⟩

/-- The names of tags that have to be there. -/
def tagName (tag : Nat) : String := if tag = 256 then "ImageWidth" else "ImageLength"

/-- The only number of a value. -/
def Value.single (v : Value) : Reading Nat :=
  match v.name, v.numbers with
  | some _, [n] => return n
  | some name, all =>
    let shown := all.map fun n => name ++ "(" ++ toString n ++ ")"
    broken ("expected unsigned integer, List([" ++ String.intercalate ", " shown ++ "]) found")
  | none, _ => broken "expected unsigned integer, other value found"

/-- The only number of the value with a tag. -/
def number? (s : Shape) (all : Entries) (tag : Nat) : Reading (Option Nat) := do
  match ← value? s all tag with
  | none => return none
  | some v => return some (← v.single)

/-- The numbers of the value with a tag. -/
def numbers? (s : Shape) (all : Entries) (tag : Nat) : Reading (Option (List Nat)) := do
  match ← value? s all tag with
  | none => return none
  | some v =>
    if v.name.isNone then broken "expected unsigned integer, other value found"
    return some v.numbers

/-- A side of the picture. -/
def side (s : Shape) (all : Entries) (tag : Nat) : Reading Nat := do
  match ← number? s all tag with
  | some n => return n
  | none => broken ("required tag `" ++ tagName tag ++ "` not found")

/-! ### Pixels -/

/-- What the tags say of the pixels. -/
structure Plan where
  /-- The width. -/
  width : Nat
  /-- The height. -/
  height : Nat
  /-- The meaning of the samples. -/
  meaning : Nat
  /-- The way to shorten strips. -/
  way : Nat
  /-- The number of samples of a pixel. -/
  samples : Nat
  /-- The number of bits of a sample. -/
  bits : Nat
  /-- The samples are floating point numbers. -/
  floating : Bool
  /-- The samples are differences from the pixel before. -/
  differences : Bool
  /-- The number of rows of a strip. -/
  stripRows : Nat
  /-- The place and the number of bytes of each strip. -/
  strips : List (Nat × Nat)

/-- All numbers are the same. -/
def areEqual : List Nat → Bool
  | [] => true
  | n :: rest => rest.all (· = n)

/-- The name of a kind of samples. -/
def formatName (format : Nat) : String :=
  ([(1, "Uint"), (2, "Int"), (3, "IEEEFP"), (4, "Void")].lookup format).getD
    ("Unknown(" ++ toString format ++ ")")

/-- Sizes that have to suit each other do not. -/
def unequal {α : Type} : Reading α := broken "inconsistent sizes encountered"

/-- What the tags say of the pixels, unless these are in tiles or in planes, or differences of
floating point numbers. -/
def plan? (s : Shape) (all : Entries) : Reading (Option Plan) := do
  let width ← side s all 256
  let height ← side s all 257
  if width = 0 || height = 0 then
    broken ("invalid dimensions: " ++ toString width ++ "x" ++ toString height)
  let meaning := (← number? s all 262).getD 100
  if 6 < meaning && meaning ≠ 8 then
    missing "the image is using an unknown photometric interpretation"
  let way := (← number? s all 259).getD 1
  let samples := (← number? s all 277).getD 1
  if samples = 0 then broken "samples per pixel is zero"
  let formats := (← numbers? s all 339).getD [1]
  if !areEqual formats then
    missing ("sample format [" ++ String.intercalate ", " (formats.map formatName) ++
      "] is unsupported")
  let bits := (← numbers? s all 258).getD [1]
  if bits.length ≠ samples && bits.length ≠ 1 then unequal
  if !areEqual bits then
    missing ("inconsistent bits per sample: [" ++
      String.intercalate ", " (bits.map fun b => toString b) ++ "]")
  let predictor := (← number? s all 317).getD 1
  if predictor < 1 || 3 < predictor then
    broken ("unknown predictor “" ++ toString predictor ++ "” encountered")
  let planar := (← number? s all 284).getD 1
  if planar < 1 || 2 < planar then
    broken ("unknown planar configuration “" ++ toString planar ++ "” encountered")
  let has (tag : Nat) : Bool := (all.find? tag).isSome
  if !(has 279 && has 273) || has 325 || has 324 then
    if has 325 && has 324 && !has 279 && !has 273 then return none
    broken ("file should contain either (StripByteCounts and StripOffsets) or " ++
      "(TileByteCounts and TileOffsets), other combination was found")
  let starts := (← numbers? s all 273).getD []
  let lengths := (← numbers? s all 279).getD []
  let stripRows := (← number? s all 278).getD height
  let planes := if planar = 2 then samples else 1
  if starts.length ≠ lengths.length || stripRows = 0 ||
      starts.length ≠ ((height - 1) / stripRows + 1) * planes then unequal
  if planar = 2 || predictor = 3 then return none
  return some { width, height, meaning, way, samples, bits := bits.headD 1,
                floating := formats.headD 1 = 3, differences := predictor = 2, stripRows,
                strips := starts.zip lengths }

namespace Plan

/-- The ways to shorten strips that have a name and are not read here. -/
def otherWays : List Nat := [2, 3, 4, 5, 6, 7, 8, 32946]

/-- The pixels are for other readers: the strips are shortened in another way, or there is alpha
with gray, or the colors are those of a print. -/
def isForeign (p : Plan) : Bool :=
  otherWays.contains p.way ||
    ((p.meaning ≤ 1 && p.samples = 2 || p.meaning = 5 && p.samples = 4) &&
      (p.bits = 8 || p.bits = 16))

/-- The layout of the picture. -/
def layout (p : Plan) : Reading PictureLayout :=
  let gray := p.meaning ≤ 1 && p.samples = 1
  let color := p.meaning = 2 && (p.samples = 3 || p.samples = 4)
  if gray && (p.bits = 1 || p.bits = 8 || p.bits = 16) || color && (p.bits = 8 || p.bits = 16) then
    return PictureLayout.ofSamples (p.bits = 16) p.samples
  else if color && p.bits = 32 && p.floating then
    return if p.samples = 3 then .rgb32F else .rgba32F
  else throw (.unknownPixels .tiff (p.bits * p.samples))

/-- The number of bytes of a row. -/
def rowBytes (p : Plan) : Nat := (p.width * p.samples * p.bits + 7) / 8

/-- The rows of a strip, of which the last may have less. -/
def rowsOf (p : Plan) (strip : Nat) : Nat := min p.stripRows (p.height - strip * p.stripRows)

end Plan

/-- Bytes in runs, until there are enough of them. A run takes a byte and more, so the number
of bytes that are left is fuel enough. -/
def runsFrom (size : Nat) (out : ByteArray) : Nat → Reading ByteArray
  | 0 => throw .unfilled
  | fuel + 1 => do
    if size ≤ out.size then return out.extract 0 size
    let code := (← Reading.byte).toNat
    if code < 128 then runsFrom size (out ++ (← Reading.take (code + 1))) fuel
    else if code = 128 then runsFrom size out fuel
    else
      let value ← Reading.byte
      runsFrom size (out ++ ⟨Array.replicate (257 - code) value⟩) fuel

/-- The bytes of a strip. A way to shorten it that is none of the known ones is not supported. -/
def strip (p : Plan) (place rows : Nat) : Reading ByteArray := do
  set place
  match p.way with
  | 1 => Reading.take (rows * p.rowBytes)
  | 32773 => runsFrom (rows * p.rowBytes) ByteArray.empty ((← Reading.left) + 1)
  | way => missing ("compression method Unknown(" ++ toString way ++ ") is unsupported")

/-- The bytes of strips, from the one with a number on. -/
def stripsFrom (p : Plan) (n : Nat) (out : ByteArray) : List (Nat × Nat) → Reading ByteArray
  | [] => return out
  | (place, _) :: rest => do stripsFrom p (n + 1) (out ++ (← strip p place (p.rowsOf n))) rest

/-- The number of `count` bytes from a place on. -/
def Order.numberAt (o : Order) (bytes : ByteArray) (start count : Nat) : Nat :=
  match o with
  | low => Bytes.low bytes start count
  | high => Bytes.high bytes start count

/-- A sample as the file has it. -/
def Plan.written (p : Plan) (o : Order) (bytes : ByteArray) (row column : Nat) : Nat :=
  let first := row * p.rowBytes
  if p.bits = 1 then
    if Bytes.bit bytes first column then 255 else 0
  else o.numberAt bytes (first + column * (p.bits / 8)) (p.bits / 8)

/-- A sample of the picture. Samples may be differences, and gray may be the other way
around. -/
def Plan.sample (p : Plan) (o : Order) (bytes : ByteArray) (row column : Nat) : Nat :=
  let full := if p.bits = 1 then 255 else 1 <<< p.bits - 1
  let n :=
    if p.differences then
      ((List.range (column / p.samples + 1)).foldl
        (fun sum k => sum + p.written o bytes row (column % p.samples + k * p.samples)) 0) %
          (full + 1)
    else p.written o bytes row column
  if p.meaning = 0 then full - n else n

/-- A picture in strips. -/
def pixels (s : Shape) (p : Plan) : Reading Picture := do
  let layout ← p.layout
  let extent ← Reading.extent p.width p.height
  Reading.checkMemory extent layout
  let bytes ← stripsFrom p 0 ByteArray.empty p.strips
  let sample (i : Nat) : Nat :=
    p.sample s.order bytes (i / (p.width * p.samples)) (i % (p.width * p.samples))
  return Picture.ofFunction layout extent fun i =>
    match layout.depth with
    | .byte => UInt8.ofNat (sample i)
    | .word => UInt16.ofNat (sample i)
    | .single => Binary.ofBits (sample i)

/-- A picture with tags. -/
def picture (foreign : Foreign) : Reading Picture := do
  let s ← shape
  let place ← s.place
  if place = 0 then broken "image file directory not found"
  match ← plan? s (← entries s place) with
  | none => Reading.elsewhere foreign .tiff
  | some p => if p.isForeign then Reading.elsewhere foreign .tiff else pixels s p

end Tint.Tagged
