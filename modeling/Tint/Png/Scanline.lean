import Tint.Png.Header

/-!
# Rows of picture files

Before compression each row of a picture is filtered: every byte is written as its distance
from what its neighbours to the left and above let expect. A picture that comes in passes is
cut into pictures that hold every eighth pixel, then every fourth, and so on.

## The model

* `Filter.expect` is the byte that neighbours let expect.
* `Pass` says which pixels a pass holds, `Grid` holds the bytes of a pass without filter.
* `Grid.sample` is one sample.
-/

namespace Tint.Png

/-! ### Filters -/

/-- How the bytes of a row are written. -/
inductive Filter where
  /-- As they are. -/
  | keep
  /-- As distances from the left. -/
  | left
  /-- As distances from above. -/
  | above
  /-- As distances from the mean of left and above. -/
  | mean
  /-- As distances from the nearest of left, above and corner to their plane. -/
  | nearest
deriving DecidableEq, Repr

namespace Filter

/-- The filter that a number stands for. -/
def ofNat? : Nat → Option Filter
  | 0 => some keep
  | 1 => some left
  | 2 => some above
  | 3 => some mean
  | 4 => some nearest
  | _ => none

/-- The distance of two numbers. -/
def distance (a b : Nat) : Nat := (a - b) + (b - a)

/-- The one of three bytes that is nearest to `left + above - corner`. Of two that are
equally near the first counts. -/
def nearestOf (left above corner : Nat) : Nat :=
  let toLeft := distance above corner
  let toAbove := distance left corner
  let toCorner := distance (left + above) (2 * corner)
  if toLeft ≤ toAbove ∧ toLeft ≤ toCorner then left
  else if toAbove ≤ toCorner then above
  else corner

/-- The byte that the neighbours let expect. -/
def expect (f : Filter) (left above corner : Nat) : Nat :=
  match f with
  | .keep => 0
  | .left => left
  | .above => above
  | .mean => (left + above) / 2
  | .nearest => nearestOf left above corner

end Filter

/-- The rows of a pass without filter. -/
structure Grid where
  /-- The number of bytes of a row. -/
  rowBytes : Nat
  /-- The bytes, row after row. -/
  bytes : ByteArray

/-- The bytes of one row behind those of the rows above it. `reach` is the number of bytes
to the left neighbour, and `place` the number of bytes of this row that are done. -/
def unfilterRow (filter : Filter) (reach rowBytes : Nat) (data : ByteArray) (start : Nat) :
    Nat → ByteArray → Option ByteArray
  | 0, out => some out
  | count + 1, out => do
    let place := rowBytes - (count + 1)
    let written ← data[start + place]?
    let byteAt (inside : Bool) (back : Nat) : Nat :=
      if inside && back ≤ out.size then (out[out.size - back]?).elim 0 UInt8.toNat else 0
    let left := byteAt (reach ≤ place) reach
    let above := byteAt true rowBytes
    let corner := byteAt (reach ≤ place) (rowBytes + reach)
    let byte := written.toNat + filter.expect left above corner
    unfilterRow filter reach rowBytes data start count (out.push (UInt8.ofNat byte))

/-- The bytes of rows behind those of the rows above them. -/
def unfilterRows (reach rowBytes : Nat) (data : ByteArray) :
    Nat → Nat → ByteArray → Option ByteArray
  | 0, _, out => some out
  | rows + 1, start, out => do
    let filter ← Filter.ofNat? (← data[start]?).toNat
    let out ← unfilterRow filter reach rowBytes data (start + 1) rowBytes out
    unfilterRows reach rowBytes data rows (start + 1 + rowBytes) out

/-! ### Passes -/

/-- The pixels of a pass: each `stepX`-th of a row from `offsetX` on, in each `stepY`-th row
from `offsetY` on. -/
structure Pass where
  /-- The first column. -/
  offsetX : Nat
  /-- The first row. -/
  offsetY : Nat
  /-- The step from column to column. -/
  stepX : Nat
  /-- The step from row to row. -/
  stepY : Nat
deriving DecidableEq, Repr

namespace Pass

/-- The pass that holds all pixels. -/
def whole : Pass := ⟨0, 0, 1, 1⟩

/-- The seven passes of a picture that comes in passes. -/
def seven : List Pass :=
  [⟨0, 0, 8, 8⟩, ⟨4, 0, 8, 8⟩, ⟨0, 4, 4, 8⟩, ⟨2, 0, 4, 4⟩, ⟨0, 2, 2, 4⟩, ⟨1, 0, 2, 2⟩,
    ⟨0, 1, 1, 2⟩]

/-- The passes of a picture. -/
def ofHeader (h : Header) : List Pass := if h.interlaced then seven else [whole]

/-- The number of columns of a pass. -/
def columns (p : Pass) (width : Nat) : Nat := (width + p.stepX - 1 - p.offsetX) / p.stepX

/-- The number of rows of a pass. -/
def rows (p : Pass) (height : Nat) : Nat := (height + p.stepY - 1 - p.offsetY) / p.stepY

/-- The pass holds the pixel in column `x` of row `y`. -/
def holds (p : Pass) (x y : Nat) : Bool :=
  p.offsetX ≤ x && (x - p.offsetX) % p.stepX = 0 && p.offsetY ≤ y && (y - p.offsetY) % p.stepY = 0

end Pass

/-- The rows of passes, one pass after the other. A pass without columns has no rows. -/
def readGrids (h : Header) (data : ByteArray) : List Pass → Nat → Option (List (Pass × Grid))
  | [], _ => some []
  | p :: passes, start => do
    let columns := p.columns h.extent.width
    let rows := if columns = 0 then 0 else p.rows h.extent.height
    let rowBytes := h.rowBytes columns
    let bytes ← unfilterRows ((h.pixelBits + 7) / 8) rowBytes data rows start ByteArray.empty
    let rest ← readGrids h data passes (start + rows * (rowBytes + 1))
    return (p, ⟨rowBytes, bytes⟩) :: rest

/-- A sample of a row, as the bits of it are written: `index` counts the samples of the
row. -/
def Grid.sample (g : Grid) (bits row index : Nat) : Nat :=
  let place := row * g.rowBytes + index * bits / 8
  let byteAt (i : Nat) : Nat := (g.bytes[i]?).elim 0 UInt8.toNat
  if bits = 16 then byteAt place * 256 + byteAt (place + 1)
  else byteAt place >>> (8 - bits - index * bits % 8) % (1 <<< bits)

/-- A sample of the pixel in column `x` of row `y`. -/
def sampleAt (h : Header) (grids : List (Pass × Grid)) (x y channel : Nat) : Nat :=
  match grids.find? fun (p, _) => p.holds x y with
  | none => 0
  | some (p, g) =>
    g.sample h.bits ((y - p.offsetY) / p.stepY)
      ((x - p.offsetX) / p.stepX * h.meaning.samples + channel)

end Tint.Png
