import ShaderSketch.Proofs.Atomicity
import ShaderSketch.Proofs.Forecast
import ShaderSketch.Proofs.Saved

/-!
# Upright pictures

A picture that is saved shows the frame that was read back, with its rows the other way round, or
the file at its path is left alone.

## Main definitions

* `Picture.pixelAt` — the bytes of a pixel
* `Picture.Upright` — a picture shows a frame upright
* `Canvas.Saving` — what it comes to that the picture of a source is saved

## Main results

* `Picture.upright_of_ofFrame` : the picture of a frame shows it upright
* `MemorySurface.pixels_of_attempt` : a frame read back in memory is the background all over
* `Canvas.saved_upright` : a picture is saved upright, or the files stay what they were
-/

namespace ShaderSketch

open Surface

/-! ## Rows and pixels -/

namespace Picture

open ShaderSketch.Frame

variable {α : Type}

/-- A row of bytes, `stride` of them. -/
def row (stride : Nat) (bytes : List α) (y : Nat) : List α :=
  (bytes.drop (stride * y)).take stride

theorem rows_eq (stride n : Nat) (bytes : List α) :
    rows stride n bytes = (List.range n).map (row stride bytes) := by
  induction n generalizing bytes with
  | zero => rfl
  | succ n ih =>
      have hnext (y : Nat) : row stride (bytes.drop stride) y = row stride bytes (y + 1) := by
        rw [row, row, List.drop_drop, Nat.mul_succ, Nat.add_comm]
      rw [rows, ih, List.range_succ_eq_map, List.map_cons, List.map_map]
      exact congrArg₂ List.cons rfl (List.map_congr_left fun y _ => hnext y)

theorem length_row {stride y n : Nat} {bytes : List α} (hy : y < n)
    (h : stride * n ≤ bytes.length) : (row stride bytes y).length = stride := by
  have hfits : stride * y + stride ≤ stride * n := Nat.mul_le_mul_left stride hy
  rw [row, List.length_take, List.length_drop]
  omega

/-- Blocks of a common length are the rows of what they add up to. -/
theorem row_flatten {stride y : Nat} {blocks : List (List α)}
    (h : ∀ block ∈ blocks, block.length = stride) (hy : y < blocks.length) :
    row stride blocks.flatten y = blocks[y] := by
  induction blocks generalizing y with
  | nil => cases hy
  | cons block blocks ih =>
      obtain ⟨rfl, hblocks⟩ := List.forall_mem_cons.mp h
      cases y with
      | zero => simp [row]
      | succ y =>
          have hskip : row block.length (block :: blocks).flatten (y + 1) =
              row block.length blocks.flatten y := by
            rw [row, row, List.flatten_cons, Nat.mul_succ, Nat.add_comm, ← List.drop_drop,
              List.drop_left]
          rw [hskip, ih hblocks (Nat.lt_of_succ_lt_succ hy), List.getElem_cons_succ]

/-- The bytes of the pixel in a column and a row, in rows of `width` pixels. -/
def pixelAt (width : Nat) (bytes : Pixels) (x y : Nat) : Pixels :=
  (bytes.drop (4 * (y * width + x))).take 4

/-- A pixel is in its row. -/
theorem pixelAt_eq {width x : Nat} (bytes : Pixels) (y : Nat) (hx : x < width) :
    pixelAt width bytes x y = ((row (4 * width) bytes y).drop (4 * x)).take 4 := by
  have hplace : 4 * (y * width + x) = 4 * width * y + 4 * x := by
    rw [Nat.mul_add, Nat.mul_comm y, Nat.mul_assoc]
  rw [row, List.drop_take, List.take_take, min_eq_left (by omega), List.drop_drop, pixelAt, hplace]

theorem pixelAt_replicate {width height x y : Nat} {pixel : Pixels} (hpixel : pixel.length = 4)
    (hx : x < width) (hy : y < height) :
    pixelAt width (List.replicate (width * height) pixel).flatten x y = pixel := by
  have hplace : y * width + x < width * height := by
    calc y * width + x < y * width + width := Nat.add_lt_add_left hx _
      _ = width * (y + 1) := by rw [Nat.mul_succ, Nat.mul_comm]
      _ ≤ width * height := Nat.mul_le_mul_left width hy
  have hblocks : ∀ block ∈ List.replicate (width * height) pixel, block.length = 4 := by
    intro block hblock
    rw [List.eq_of_mem_replicate hblock, hpixel]
  have hrow := row_flatten hblocks (y := y * width + x) (by rwa [List.length_replicate])
  rwa [List.getElem_replicate] at hrow

/-- A picture of the size of a surface has every pixel of a frame in its column, and in the row that
is as far from the top as the frame has it from the bottom.  The frame may be longer than it needs
to be; only the bytes of its pixels are looked at. -/
structure Upright (view : View) (frame : Pixels) (p : Picture) : Prop where
  width : p.width = view.width
  height : p.height = view.height
  full : p.pixels.length = 4 * view.width.toNat * view.height.toNat
  pixel : ∀ x < view.width.toNat, ∀ y < view.height.toNat,
    pixelAt view.width.toNat p.pixels x y =
      pixelAt view.width.toNat frame x (view.height.toNat - 1 - y)

/-- **The picture of a frame shows it upright.**  That a picture was made of the frame is all that
is asked: it is made when there are enough bytes. -/
theorem upright_of_ofFrame {view : View} {frame : Pixels} {p : Picture}
    (h : ofFrame? view.width view.height frame = some p) : Upright view frame p := by
  unfold ofFrame? at h
  split at h
  case isFalse => cases h
  case isTrue henough =>
    cases h
    rw [rows_eq]
    generalize hblocks : ((List.range view.height.toNat).map
      (row (4 * view.width.toNat) frame)).reverse = blocks
    have hcount : blocks.length = view.height.toNat := by simp [← hblocks]
    have hlength : ∀ block ∈ blocks, block.length = 4 * view.width.toNat := by
      intro block hblock
      rw [← hblocks, List.mem_reverse, List.mem_map] at hblock
      obtain ⟨y, hy, rfl⟩ := hblock
      exact length_row (List.mem_range.mp hy) henough
    refine ⟨rfl, rfl, ?_, fun x hx y hy => ?_⟩
    · show blocks.flatten.length = _
      rw [List.length_flatten, List.map_congr_left hlength, List.map_const', List.sum_replicate_nat,
        hcount, Nat.mul_comm]
    · -- the rows were put together from the last to the first
      have hblock : y < blocks.length := hcount ▸ hy
      have hrow : blocks[y] = row (4 * view.width.toNat) frame (view.height.toNat - 1 - y) := by
        simp [← hblocks, List.getElem_reverse]
      rw [pixelAt_eq _ _ hx, pixelAt_eq _ _ hx, row_flatten hlength hblock, hrow]

end Picture

/-! ## What was read back -/

/-- The bytes of a frame that were read back. -/
def Surface.Exchange.readBack? {ℓ : Type} : Exchange ℓ → Option Frame.Pixels
  | ⟨.gl (.readRgba _ _), pixels⟩ => some pixels
  | _ => none

namespace Frame

/-- A side that is too large for a signed word is a negative one. -/
theorem toNat_side (n : UInt32) : (side n).toNat = if n.toNat < 0x80000000 then n.toNat else 0 := by
  have hside : side n =
      if 2 * n.toNat < 2 ^ 32 then (n.toNat : Int) else n.toNat - (2 ^ 32 : Nat) :=
    BitVec.toInt_eq_toNat_cond n.toBitVec
  have hn : n.toNat < 2 ^ 32 := n.toNat_lt
  rw [hside]
  split <;> split <;> omega

variable {ℓ : Type} {said : List (Exchange ℓ)}

theorem readBack_of_touches {e : Exchange ℓ} (h : e.touches = false) : e.readBack? = none := by
  unfold Exchange.readBack?
  split <;> first | rfl | cases h

/-- Nothing is read back by building. -/
theorem filterMap_readBack_of_builds (h : ∀ e ∈ said, e.builds) :
    said.filterMap Exchange.readBack? = [] :=
  List.filterMap_eq_nil_iff.mpr fun e he =>
    readBack_of_touches (Exchange.touches_of_builds (h e he))

/-- The pixels of an attempt that succeeds are what was read back, once. -/
theorem Attempting.readBack {view : View} {rectangle : Option Gl.Handle} {source : String}
    {outcome : Except Canvas.Failure Pixels × Option Gl.Handle}
    (h : Attempting view rectangle source true said outcome) {pixels : Pixels}
    (hdrawn : outcome.1 = .ok pixels) : said.filterMap Exchange.readBack? = [pixels] := by
  cases h with
  | noContext => cases hdrawn
  | noProgram => cases hdrawn
  | noRectangle => cases hdrawn
  | finished _ assembled holding position resolution time painting shown =>
      cases shown with
      | error e => cases hdrawn
      | ok _ =>
          cases hdrawn
          have hholding : ∀ {r b} {said : List (Exchange ℓ)}, Holding r said b →
              said.filterMap Exchange.readBack? = [] := by
            rintro r b said ⟨⟩ <;> rfl
          have hfeeding (b p) : (feeding view p b position resolution time).filterMap
              Exchange.readBack? = [] := by
            cases position <;> cases resolution <;> cases time <;> rfl
          simp only [List.filterMap_append, filterMap_readBack_of_builds assembled.builds,
            hholding holding, hfeeding]
          cases painting
          rfl

/-- The pixels of an attempt that succeeds are what painting the frame resulted in, whatever the
surface was like by then. -/
theorem exists_run_paint {σ : Type} {s : Surface σ ℓ} {x : σ} {view : View}
    {rectangle : Option Gl.Handle} {source : String} {capture : Bool} {pixels : Pixels}
    (h : ((attempt view rectangle source capture).run s x).1.1 = .ok pixels) :
    ∃ x', ((paint view capture).run s x').1 = pixels := by
  unfold attempt at h
  split at h
  case isFalse => cases h
  case isTrue =>
    rw [attemptOn, Routine.run_bind] at h
    generalize (assembled source).run s x = assembly at h
    obtain ⟨_ | program, x⟩ := assembly
    · cases h
    dsimp only at h
    rw [Routine.run_bind] at h
    generalize (takeRectangle rectangle).run s x = taken at h
    obtain ⟨_ | buffer, x⟩ := taken
    · cases h
    dsimp only at h
    rw [Routine.run_bind, Routine.run_bind] at h
    -- the program is deleted and the frame is shown, and neither changes the pixels
    rw [Routine.run_call_bind, Routine.run_present_bind] at h
    refine ⟨((bindInputs view program buffer).run s x).2, ?_⟩
    split at h
    · cases h
    · cases h
      rfl

end Frame

/-! ## Surfaces in memory -/

namespace MemorySurface

open ShaderSketch.Frame Gl

/-- The background, as the bytes of a pixel: black, and nothing shines through. -/
theorem background_bytes : background.channels.map Memory.channelByte = [0, 0, 0, 255] := by
  decide +kernel

/-- What the frame was cleared to is what is read back, whether it was drawn over or refused. -/
theorem pixels_of_paint (view : View) (m : MemorySurface) :
    ((paint view true).run plain m).1 = blankPixels view true := by
  generalize hcleared : (m.gl.record (.viewport (side view.width) (side view.height))).record
    (.clear background) = cleared
  have htexel (e : Event) (hdraw : (cleared.record e).clears = cleared.clears) :
      (cleared.record e).texel = background.channels.map Memory.channelByte := by
    have hclears : cleared.clears = m.gl.clears ++ [background] := by
      simp [← hcleared, Memory.clears, Memory.record]
    rw [Memory.texel, hdraw, hclears, List.getLast?_concat]
  have hread : ((paint view true).run plain m).1 =
      (List.replicate (Memory.pixelCount (side view.width) (side view.height))
        (Memory.answer (.drawTriangleStrip 0 Shader.corners.length) cleared).2.texel).flatten := by
    rw [← hcleared]
    rfl
  rw [hread, blankPixels, if_pos rfl, Memory.answer]
  dsimp only
  split
  · rw [htexel _ (by simp [Memory.clears, Memory.record])]
  · rw [Memory.refuse, htexel _ (by simp [Memory.clears, Memory.record])]

/-- **A frame that is read back in memory is the background all over.** -/
theorem pixels_of_attempt {c : Canvas MemorySurface} {source : String} {pixels : Pixels}
    (h : (c.attempt plain source true).1 = .ok pixels) :
    pixels = blankPixels (plain.view c.surface) true := by
  obtain ⟨x, rfl⟩ := exists_run_paint h
  exact pixels_of_paint _ x

/-- As many pixels as a surface has, as long as its sides are small enough for a signed word. -/
theorem pixelCount_side {width height : UInt32} (hwidth : width.toNat < 0x80000000)
    (hheight : height.toNat < 0x80000000) :
    Memory.pixelCount (side width) (side height) = width.toNat * height.toNat := by
  rw [Memory.pixelCount, toNat_side, toNat_side, if_pos hwidth, if_pos hheight]

end MemorySurface

/-! ## Canvases -/

namespace Canvas

open ShaderSketch.Frame Picture

variable {σ ℓ : Type}

/-- A surface on which there are no pixels. -/
def Flat (view : View) : Prop := view.width = 0 ∨ view.height = 0

section

variable {s : Surface σ ℓ} {source : String} {path : Path} {c : Canvas σ} {files : Tree}

theorem picture_of_flat (h : Flat (s.view c.surface)) :
    c.picture s source =
      (.error (.empty (s.view c.surface).width (s.view c.surface).height), c) := if_pos h

/-- There is no picture of a source that is not drawn. -/
theorem picture_of_error (sized : ¬Flat (s.view c.surface)) {e : Failure}
    (h : (c.attempt s source true).1 = .error e) :
    c.picture s source = (.error (.frame e), (c.attempt s source true).2) := by
  generalize hdrawn : c.attempt s source true = drawn at h ⊢
  obtain ⟨_, c'⟩ := drawn
  cases h
  refine (if_neg sized).trans ?_
  simp only [capture, hdrawn]

/-- The picture of a source is that of the frame, if there is one. -/
theorem picture_of_ok (sized : ¬Flat (s.view c.surface)) {pixels : Pixels}
    (h : (c.attempt s source true).1 = .ok pixels) :
    c.picture s source =
      ((ofFrame? (s.view c.surface).width (s.view c.surface).height pixels).elim
        (.error (.empty (s.view c.surface).width (s.view c.surface).height)) .ok,
        (c.attempt s source true).2) := by
  generalize hdrawn : c.attempt s source true = drawn at h ⊢
  obtain ⟨_, c'⟩ := drawn
  cases h
  refine (if_neg sized).trans ?_
  simp only [capture, hdrawn]
  cases ofFrame? (s.view c.surface).width (s.view c.surface).height pixels <;> rfl

/-- There is no picture of a frame that is too short. -/
theorem picture_of_short (sized : ¬Flat (s.view c.surface)) {pixels : Pixels}
    (h : (c.attempt s source true).1 = .ok pixels)
    (hshort : pixels.length <
      4 * (s.view c.surface).width.toNat * (s.view c.surface).height.toNat) :
    c.picture s source = (.error (.empty (s.view c.surface).width (s.view c.surface).height),
      (c.attempt s source true).2) := by
  rw [picture_of_ok sized h, ofFrame?, if_neg (Nat.not_le_of_lt hshort)]
  rfl

/-- A frame that is long enough has a picture. -/
theorem picture_of_enough (sized : ¬Flat (s.view c.surface)) {pixels : Pixels}
    (h : (c.attempt s source true).1 = .ok pixels)
    (henough : 4 * (s.view c.surface).width.toNat * (s.view c.surface).height.toNat ≤
      pixels.length) :
    ∃ picture, c.picture s source = (.ok picture, (c.attempt s source true).2) := by
  rw [picture_of_ok sized h, ofFrame?, if_pos henough]
  exact ⟨_, rfl⟩

theorem saveAs_of_error {e : PictureFailure} {c' : Canvas σ}
    (h : c.picture s source = (.error e, c')) :
    c.saveAs s source path files = (.error e, c', files) := by
  rw [saveAs, h]

/-- With a picture, only the file can be in the way. -/
theorem saveAs_of_ok {picture : Picture} {c' : Canvas σ}
    (h : c.picture s source = (.ok picture, c')) :
    (c.saveAs s source path files).1 = .ok () ∨
      ∃ reason, c.saveAs s source path files = (.error (.file reason), c', files) := by
  rw [saveAs, h]
  dsimp only
  split
  · exact .inr ⟨_, rfl⟩
  · exact .inl rfl

/-- A picture of a source that was saved is there, and shows the frame that was drawn. -/
theorem exists_upright (h : (c.saveAs s source path files).1 = .ok ()) :
    ¬Flat (s.view c.surface) ∧ ∃ pixels picture, (c.attempt s source true).1 = .ok pixels ∧
      (c.saveAs s source path files).2.2.picture? path = some picture ∧
      Upright (s.view c.surface) pixels picture := by
  obtain ⟨picture, hpicture, hthere⟩ := saveAs_eq_ok h
  have sized : ¬Flat (s.view c.surface) := by
    intro hflat
    rw [picture_of_flat hflat] at hpicture
    cases hpicture
  refine ⟨sized, ?_⟩
  cases hdrawn : (c.attempt s source true).1 with
  | error e =>
      rw [picture_of_error sized hdrawn] at hpicture
      cases hpicture
  | ok pixels =>
      rw [picture_of_ok sized hdrawn] at hpicture
      cases hframe : ofFrame? (s.view c.surface).width (s.view c.surface).height pixels with
      | none =>
          rw [hframe] at hpicture
          cases hpicture
      | some p =>
          rw [hframe] at hpicture
          cases hpicture
          exact ⟨pixels, picture, rfl, hthere, upright_of_ofFrame hframe⟩

end

/-- A frame is shown by an attempt that succeeds, and what was read back are its pixels. -/
theorem shown_of_drawn {s : Surface σ ℓ} {source : String} {c : Canvas (Logged σ ℓ)}
    {pixels : Pixels} (h : (c.attempt s.logged source true).1 = .ok pixels) :
    (c.attempt s.logged source true).2.shown = c.shown + 1 ∧
      ∃ said, (c.attempt s.logged source true).2.surface.log = c.surface.log ++ said ∧
        said.filterMap Exchange.readBack? = [pixels] := by
  obtain ⟨said, hattempted⟩ := attempt_logged s source true c
  refine ⟨?_, said, hattempted.log, hattempted.conversation.readBack h⟩
  rw [shown, hattempted.log, List.countP_append, hattempted.conversation.shows, h]
  rfl

/-- What it comes to that the picture of a source is saved to a path among files, when an attempt on
a canvas comes to `drawn`.  Without pixels on the surface nothing is said; a frame that could not be
drawn, or of which too few bytes were read back, leaves the files what they were; otherwise nothing
but the file can be in the way.  The first four tell what is left behind in each way that saving can
fail, and the last three what a picture that was saved has to do with the frame. -/
structure Saving (view : View) (path : Path) (c : Canvas (Logged σ ℓ)) (files : Tree)
    (drawn : Except Failure Pixels × Canvas (Logged σ ℓ))
    (saved : Except PictureFailure Unit × Canvas (Logged σ ℓ) × Tree) : Prop where
  flat : Flat view →
    saved = (.error (.empty view.width view.height), c, files)
  undrawn : ¬Flat view → ∀ e, drawn.1 = .error e →
    saved = (.error (.frame e), drawn.2, files)
  short : ¬Flat view → ∀ pixels, drawn.1 = .ok pixels →
    pixels.length < 4 * view.width.toNat * view.height.toNat →
      saved = (.error (.empty view.width view.height), drawn.2, files) ∧
        drawn.2.shown = c.shown + 1
  enough : ¬Flat view → ∀ pixels, drawn.1 = .ok pixels →
    4 * view.width.toNat * view.height.toNat ≤ pixels.length →
      saved.1 = .ok () ∨ ∃ reason, saved = (.error (.file reason), drawn.2, files)
  upright : saved.1 = .ok () → ∃ pixels picture, drawn.1 = .ok pixels ∧
    saved.2.2.picture? path = some picture ∧ Upright view pixels picture
  shown : saved.1 = .ok () → saved.2.1.shown = c.shown + 1
  readBack : ∀ pixels, drawn.1 = .ok pixels → ∃ said,
    drawn.2.surface.log = c.surface.log ++ said ∧ said.filterMap Exchange.readBack? = [pixels]

theorem saving (s : Surface σ ℓ) (source : String) (path : Path) (c : Canvas (Logged σ ℓ))
    (files : Tree) :
    Saving (s.view c.surface.state) path c files (c.attempt s.logged source true)
      (c.saveAs s.logged source path files) where
  flat hflat := saveAs_of_error (picture_of_flat hflat)
  undrawn sized _ hdrawn := saveAs_of_error (picture_of_error sized hdrawn)
  short sized _ hdrawn hshort :=
    ⟨saveAs_of_error (picture_of_short sized hdrawn hshort), (shown_of_drawn hdrawn).1⟩
  enough sized _ hdrawn henough := by
    obtain ⟨picture, hpicture⟩ := picture_of_enough sized hdrawn henough
    exact saveAs_of_ok hpicture
  upright hsaved := (exists_upright hsaved).2
  shown hsaved := by
    obtain ⟨sized, pixels, _, hdrawn, -⟩ := exists_upright hsaved
    rw [saveAs_canvas, picture_canvas]
    exact (congrArg Canvas.shown (if_neg sized)).trans (shown_of_drawn hdrawn).1
  readBack _ hdrawn := (shown_of_drawn hdrawn).2

/-- **A picture is saved upright, or the files stay what they were.**  On every surface, whatever
was read back from it, a picture that is saved has every pixel of the frame, the rows from the top,
and one frame was shown for it.  In memory the frame is the background all over. -/
theorem saved_upright :
    (∀ {σ ℓ : Type} (s : Surface σ ℓ) (source : String) (path : Path) (c : Canvas (Logged σ ℓ))
      (files : Tree),
      Saving (s.view c.surface.state) path c files (c.attempt s.logged source true)
        (c.saveAs s.logged source path files)) ∧
    ∀ (source : String) (path : Path) (c : Canvas MemorySurface) (files : Tree),
      c.surface.width.toNat < 0x80000000 → c.surface.height.toNat < 0x80000000 →
      (c.saveAs MemorySurface.plain source path files).1 = .ok () →
        ∃ picture, (c.saveAs MemorySurface.plain source path files).2.2.picture? path =
            some picture ∧
          picture.width = c.surface.width ∧ picture.height = c.surface.height ∧
          ∀ x < c.surface.width.toNat, ∀ y < c.surface.height.toNat,
            pixelAt c.surface.width.toNat picture.pixels x y = [0, 0, 0, 255] := by
  refine ⟨fun s source path c files => saving s source path c files, ?_⟩
  intro source path c files hwidth hheight hsaved
  obtain ⟨-, pixels, picture, hdrawn, hthere, upright⟩ := exists_upright hsaved
  refine ⟨picture, hthere, upright.width, upright.height, fun x hx y hy => ?_⟩
  have hblank : pixels = (List.replicate (c.surface.width.toNat * c.surface.height.toNat)
      [0, 0, 0, 255]).flatten := by
    rw [MemorySurface.pixels_of_attempt hdrawn, blankPixels, if_pos rfl,
      MemorySurface.background_bytes]
    exact congrArg (fun n => (List.replicate n _).flatten)
      (MemorySurface.pixelCount_side hwidth hheight)
  refine (upright.pixel x hx y hy).trans ?_
  rw [hblank]
  exact pixelAt_replicate rfl hx (by show c.surface.height.toNat - 1 - y < _; omega)

/-- A driver that reads back two columns and three rows, with bytes that are all different, and one
byte more. -/
def counting : Gl.Script where
  pixels := some ((List.range 25).map UInt8.ofNat)

/-- A canvas of two columns and three rows that keeps a log. -/
def logbook : Canvas (Logged MemorySurface String) := onto { width := 2, height := 3 }

/-- A canvas of two columns and one row. -/
def strip : Canvas MemorySurface := { surface := { width := 2, height := 1 } }

theorem saved_upright_counting :
    (logbook.saveAs (MemorySurface.scripted counting).logged "void main() {}" (.ofText "a.png")
      (.workingAt [])).2.1.shown = 1 ∧
    (∃ picture, (logbook.saveAs (MemorySurface.scripted counting).logged "void main() {}"
        (.ofText "a.png") (.workingAt [])).2.2.picture? (.ofText "a.png") = some picture ∧
      pixelAt 2 picture.pixels 1 0 = [20, 21, 22, 23]) ∧
    ∃ picture, (strip.saveAs MemorySurface.plain "void main() {}" (.ofText "a.png")
        (.workingAt [])).2.2.picture? (.ofText "a.png") = some picture ∧
      pixelAt 2 picture.pixels 1 0 = [0, 0, 0, 255] := by
  have hsaved : (logbook.saveAs (MemorySurface.scripted counting).logged "void main() {}"
      (.ofText "a.png") (.workingAt [])).1 = .ok () := by decide +kernel
  have hdrawn : (logbook.attempt (MemorySurface.scripted counting).logged "void main() {}" true).1 =
      .ok ((List.range 25).map UInt8.ofNat) := by decide +kernel
  have hstrip : (strip.saveAs MemorySurface.plain "void main() {}" (.ofText "a.png")
      (.workingAt [])).1 = .ok () := by decide +kernel
  have saving := saved_upright.1 (MemorySurface.scripted counting) "void main() {}"
    (.ofText "a.png") logbook (.workingAt [])
  refine ⟨saving.shown hsaved, ?_, ?_⟩
  · obtain ⟨pixels, picture, hpixels, hthere, upright⟩ := saving.upright hsaved
    obtain rfl : (List.range 25).map UInt8.ofNat = pixels := by
      rw [hdrawn] at hpixels
      cases hpixels
      rfl
    exact ⟨picture, hthere, (upright.pixel 1 (by decide) 0 (by decide)).trans (by decide)⟩
  · obtain ⟨picture, hthere, -, -, hpixel⟩ := saved_upright.2 "void main() {}" (.ofText "a.png")
      strip (.workingAt []) (by decide) (by decide) hstrip
    exact ⟨picture, hthere, hpixel 1 (by decide) 0 (by decide)⟩

end Canvas

end ShaderSketch
