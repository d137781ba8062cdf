import ShaderSketch.Canvas.Basic
import ShaderSketch.Files.Tree

/-!
# Saving a frame

## Main definitions

* `Canvas.picture` : the picture of a source
* `Canvas.saveAs` : the picture of a source, written to a file

## Design notes

The frame is shown as well, so the canvas ends up with what was saved. A file is opened only once
there is a picture to write.
-/

namespace ShaderSketch.Canvas

variable {σ ℓ : Type}

/-- The picture of a source. A surface without pixels is not drawn on. -/
def picture (s : Surface σ ℓ) (source : String) (c : Canvas σ) :
    Except PictureFailure Picture × Canvas σ :=
  let view := s.view c.surface
  let empty := PictureFailure.empty view.width view.height
  if view.width = 0 ∨ view.height = 0 then (.error empty, c)
  else
    match c.capture s source with
    | (.error e, c) => (.error (.frame e), c)
    | (.ok pixels, c) =>
      match Picture.ofFrame? view.width view.height pixels with
      | some picture => (.ok picture, c)
      | none => (.error empty, c)

/-- Writes the picture of a source to a file. -/
def saveAs (s : Surface σ ℓ) (source : String) (path : Path) (c : Canvas σ) (files : Tree) :
    Except PictureFailure Unit × Canvas σ × Tree :=
  match c.picture s source with
  | (.error e, c) => (.error e, c, files)
  | (.ok picture, c) =>
    match files.savePicture path picture with
    | .error e => (.error (.file e.message), c, files)
    | .ok files => (.ok (), c, files)

end ShaderSketch.Canvas
