import ShaderSketch.Canvas.Frame

/-!
# Pictures

A still picture has its rows from the top; a frame is read back with its bottom row first.

## Main definitions

* `Picture` : a picture of four bytes a pixel
* `Picture.ofFrame?` : the picture of a frame
-/

namespace ShaderSketch

/-- A picture of four bytes a pixel, with its rows from the top. -/
structure Picture where
  width : UInt32
  height : UInt32
  pixels : Frame.Pixels
  deriving Repr, DecidableEq

namespace Picture

/-- The first `n` rows of `stride` bytes. -/
def rows {α : Type} (stride : Nat) : (n : Nat) → List α → List (List α)
  | 0, _ => []
  | n + 1, bytes => bytes.take stride :: rows stride n (bytes.drop stride)

/-- The picture of a frame, when there are bytes enough; those past the last row are left out. -/
def ofFrame? (width height : UInt32) (frame : Frame.Pixels) : Option Picture :=
  if 4 * width.toNat * height.toNat ≤ frame.length then
    some ⟨width, height, (rows (4 * width.toNat) height.toNat frame).reverse.flatten⟩
  else none

end Picture

end ShaderSketch
