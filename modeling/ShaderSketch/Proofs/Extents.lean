import ShaderSketch.Canvas.NativeSurface
import ShaderSketch.Proofs.Upright

/-!
# How many bytes a frame has

The sides of a surface are words of 32 bits.  Graphics calls take them for signed words, so that a
side of which the first bit is set is negative; negative sides count as none, and what is left is
multiplied in words of 64 bits.  The greatest product, four bytes for each of `2³¹ - 1` columns and
as many rows, just fits into such a word.

## Main definitions

* `Frame.clamped` — a side, in the words that are multiplied
* `Frame.extent` — the bytes of the frame of a surface
* `Surface.Metered` — a surface that answers with as many bytes as it was asked for, in every state
* `Canvas.Signed` — a surface whose sides are small enough for a signed word
* `Canvas.Measured` — what is read back for a snapshot
* `Canvas.Fitting` — what comes of saving the picture of a source, by the sides of the surface

## Main results

* `Frame.fits` : no product wraps
* `Frame.toNat_bytes` : the words come to the bytes of the frame
* `Frame.Attempting.asks` : a frame is read back whole
* `Canvas.saveAs_of_unsigned` : nothing is written with a side that is too large
* `Canvas.frames_measured` : frames have as many bytes as they should on either kind of surface
-/

namespace ShaderSketch

open Surface

/-! ## Words -/

namespace Frame

/-- A side in the words that are multiplied: it is taken for a signed word of 32 bits, clamped at
zero, and widened to 64 bits. -/
def clamped (n : UInt32) : UInt64 := (max n.toInt32 0).toInt64.toUInt64

/-- The bytes of the frame of a surface: four for each pixel, but none if a side is too large for a
signed word. -/
def extent (width height : UInt32) : Nat :=
  if width.toNat < 0x80000000 ∧ height.toNat < 0x80000000 then 4 * width.toNat * height.toNat else 0

/-- The product of two sides and four times that are small enough for words of 64 bits.  The words
wrap without a notice, so that this is not seen from the results. -/
structure Fits (width height : UInt32) : Prop where
  pixels : (clamped width).toNat * (clamped height).toNat < UInt64.size
  bytes : (clamped width * clamped height).toNat * 4 < UInt64.size

theorem toNat_clamped (n : UInt32) : (clamped n).toNat = (side n).toNat := by
  show (if n.toInt32 ≤ 0 then 0 else n.toInt32).toInt64.toUInt64.toNat = n.toInt32.toInt.toNat
  split
  · next hnegative =>
      have hside : n.toInt32.toInt ≤ 0 := Int32.le_iff_toInt_le.mp hnegative
      rw [Int.toNat_of_nonpos hside]
      rfl
  · next hpositive =>
      have hwide : 0 ≤ n.toInt32.toInt64 := by
        rw [Int64.le_iff_toInt_le, Int32.toInt_toInt64]
        exact Int.le_of_lt (Int32.lt_iff_toInt_lt.mp (Int32.not_le.mp hpositive))
      rw [Int64.toNat_toUInt64_of_le hwide, Int32.toNatClampNeg_toInt64, Int32.toNat_toInt]

theorem toNat_clamped_lt (n : UInt32) : (clamped n).toNat < 0x80000000 := by
  rw [toNat_clamped, toNat_side]
  split
  · next h => exact h
  · decide

/-- **No product wraps.**  A side in these words is less than `2³¹`, and so four times the product
of two is less than `2⁶⁴`. -/
theorem fits (width height : UInt32) : Fits width height := by
  have hpixels : (clamped width).toNat * (clamped height).toNat ≤ 0x7fffffff * 0x7fffffff :=
    Nat.mul_le_mul (Nat.le_pred_of_lt (toNat_clamped_lt width))
      (Nat.le_pred_of_lt (toNat_clamped_lt height))
  have hbytes : (clamped width * clamped height).toNat ≤
      (clamped width).toNat * (clamped height).toNat := by
    rw [UInt64.toNat_mul]
    exact Nat.mod_le _ _
  have hsize : 0x7fffffff * 0x7fffffff * 4 < UInt64.size := by decide
  exact ⟨by omega, by omega⟩

/-- The words come to the number of pixels. -/
theorem toNat_pixels (width height : UInt32) :
    (clamped width * clamped height).toNat = Gl.Memory.pixelCount (side width) (side height) := by
  rw [UInt64.toNat_mul, Nat.mod_eq_of_lt (fits width height).pixels, toNat_clamped, toNat_clamped,
    Gl.Memory.pixelCount]

/-- What the pixels of a surface come to, if a side that is too large for a signed word has none. -/
theorem pixelCount_mul_four (width height : UInt32) :
    Gl.Memory.pixelCount (side width) (side height) * 4 = extent width height := by
  rw [Gl.Memory.pixelCount, toNat_side, toNat_side, extent]
  by_cases hsides : width.toNat < 0x80000000 ∧ height.toNat < 0x80000000
  · rw [if_pos hsides, if_pos hsides.1, if_pos hsides.2, Nat.mul_comm, Nat.mul_assoc]
  · rw [if_neg hsides]
    rcases not_and_or.mp hsides with hwidth | hheight
    · rw [if_neg hwidth, Nat.zero_mul, Nat.zero_mul]
    · rw [if_neg hheight, Nat.mul_zero, Nat.zero_mul]

/-- **The words come to the bytes of the frame.** -/
theorem toNat_bytes (width height : UInt32) :
    (clamped width * clamped height * 4).toNat = extent width height := by
  have hfour : (4 : UInt64).toNat = 4 := rfl
  rw [UInt64.toNat_mul, hfour, Nat.mod_eq_of_lt (fits width height).bytes, toNat_pixels,
    pixelCount_mul_four]

end Frame

/-! ## Read-backs -/

/-- Whether four bytes for each pixel come back in an exchange, if any are read back. -/
def Surface.Exchange.Full {ℓ : Type} : Exchange ℓ → Prop
  | ⟨.gl (.readRgba width height), pixels⟩ =>
    pixels.length = Gl.Memory.pixelCount width height * 4
  | _ => True

/-- A surface that answers in full, whatever state it is in.  It is asked of every state, since an
attempt may have led to any by the time that it reads back. -/
def Surface.Metered {σ ℓ : Type} (s : Surface σ ℓ) : Prop :=
  ∀ request x, Exchange.Full ⟨request, (s.answer request x).1⟩

theorem Gl.Memory.length_texel (m : Gl.Memory) : m.texel.length = 4 := by
  unfold texel
  split <;> rfl

theorem MemorySurface.metered_plain : MemorySurface.plain.Metered := by
  intro request m
  cases request with
  | gl call =>
      cases call with
      | readRgba width height =>
          show ((List.replicate (Gl.Memory.pixelCount width height) m.gl.texel).flatten).length = _
          rw [List.length_flatten, List.map_replicate, List.sum_replicate_nat,
            Gl.Memory.length_texel]
      | _ => trivial
  | present => trivial

theorem NativeSurface.metered_recorded : NativeSurface.recorded.Metered := by
  intro request m
  cases request with
  | gl call =>
      cases call with
      | readRgba width height =>
          show (Gl.Native.frame width height).length = _
          rw [Gl.Native.frame, List.length_map, List.length_range]
          rfl
      | _ => trivial
  | present => trivial

/-- Whether an exchange reads back the whole frame of a surface, if it reads back any. -/
def Surface.Exchange.Asks {ℓ : Type} (view : View) : Exchange ℓ → Prop
  | ⟨.gl (.readRgba width height), _⟩ =>
    width = Frame.side view.width ∧ height = Frame.side view.height
  | _ => True

namespace Frame

variable {ℓ : Type} {view : View} {said : List (Exchange ℓ)}

theorem asks_of_builds {e : Exchange ℓ} (h : e.builds) : e.Asks view := by
  have htouches := Exchange.touches_of_builds h
  unfold Exchange.Asks
  split
  · cases htouches
  · trivial

/-- **A frame is read back whole**, or not at all.  The size is the one that the surface had when
the attempt began, and nothing in an attempt changes it. -/
theorem Attempting.asks {rectangle : Option Gl.Handle} {source : String} {capture : Bool}
    {outcome : Except Canvas.Failure Pixels × Option Gl.Handle}
    (h : Attempting view rectangle source capture said outcome) : ∀ e ∈ said, e.Asks view := by
  cases h with
  | noContext => exact List.forall_mem_nil _
  | noProgram _ failed => exact fun e he => asks_of_builds (failed.builds e he)
  | noRectangle _ assembled =>
      rw [List.forall_mem_append]
      refine ⟨fun e he => asks_of_builds (assembled.builds e he), ?_⟩
      simp [told, Exchange.Asks]
  | finished _ assembled holding position resolution time painting shown =>
      simp only [List.forall_mem_append]
      refine ⟨fun e he => asks_of_builds (assembled.builds e he), ?_, ?_, ?_, ?_⟩
      · cases holding <;> simp [told, Exchange.Asks]
      · cases position <;> cases resolution <;> cases time <;>
          simp [feeding, told, Exchange.Asks]
      · cases painting <;> simp [strokes, told, Exchange.Asks]
      · simp [told, Exchange.Asks]

end Frame

/-! ## Canvases -/

namespace Canvas

open ShaderSketch.Frame Picture

variable {σ ℓ : Type} {s : Surface σ ℓ}

/-- What is read back for a snapshot: the whole surface is asked for, its sides taken for signed
words, and as many bytes come back as it has; they are the pixels of the snapshot.  What comes back
is as long as what was asked for, which is the size in signed words and not that of the surface. -/
structure Measured (s : Surface σ ℓ) (source : String) (c : Canvas σ) : Prop where
  asked : ∀ width height pixels,
    ⟨.gl (.readRgba width height), pixels⟩ ∈ c.said s source true →
      width = side (s.view c.surface).width ∧ height = side (s.view c.surface).height ∧
        pixels.length = extent (s.view c.surface).width (s.view c.surface).height
  captured : ∀ pixels, (c.attempt s source true).1 = .ok pixels →
    pixels.length = extent (s.view c.surface).width (s.view c.surface).height

/-- What is asked for is known from the conversation, and how much comes back from the surface. -/
theorem measured (metered : s.Metered) (source : String) (c : Canvas σ) : Measured s source c := by
  have hasked (width height : Int) (pixels : Pixels)
      (hsaid : ⟨.gl (.readRgba width height), pixels⟩ ∈ c.said s source true) :
      width = side (s.view c.surface).width ∧ height = side (s.view c.surface).height ∧
        pixels.length = extent (s.view c.surface).width (s.view c.surface).height := by
    obtain ⟨rfl, rfl⟩ : width = _ ∧ height = _ := (attempting_said s source true c).asks _ hsaid
    have hfull : pixels.length = _ := Routine.forall_said metered _ _ _ hsaid
    exact ⟨rfl, rfl, hfull.trans (pixelCount_mul_four _ _)⟩
  refine ⟨hasked, ?_⟩
  intro pixels hdrawn
  have hread := (attempting_said s source true c).readBack hdrawn
  obtain ⟨e, he, hpixels⟩ := List.mem_filterMap.mp (hread ▸ List.mem_singleton_self pixels)
  unfold Exchange.readBack? at hpixels
  split at hpixels
  · cases hpixels
    exact (hasked _ _ _ he).2.2
  · cases hpixels

/-- A surface whose sides are small enough for a signed word. -/
def Signed (view : View) : Prop := view.width.toNat < 0x80000000 ∧ view.height.toNat < 0x80000000

/-- What comes of saving the picture of a source, by the sides of the surface.  If one is too large
for a signed word then nothing is written, and the frame is empty if it was drawn at all.  Otherwise
nothing but the file can be in the way of a frame that was drawn, and the picture has the size of
the surface, with all rows of the frame in place.  A file that cannot be written is told as such; a
frame that is too short never gets that far. -/
structure Fitting (s : Surface σ ℓ) (source : String) (path : Path) (c : Canvas σ) (files : Tree) :
    Prop where
  untouched : ¬Signed (s.view c.surface) →
    (c.saveAs s source path files).2.2 = files
  empty : ¬Signed (s.view c.surface) → ∀ pixels, (c.attempt s source true).1 = .ok pixels →
      (c.saveAs s source path files).1 =
        .error (.empty (s.view c.surface).width (s.view c.surface).height)
  drawn : Signed (s.view c.surface) → ¬Flat (s.view c.surface) →
    ∀ pixels, (c.attempt s source true).1 = .ok pixels →
      (c.saveAs s source path files).1 = .ok () ∨
        ∃ reason, (c.saveAs s source path files).1 = .error (.file reason)
  saved : (c.saveAs s source path files).1 = .ok () →
    Signed (s.view c.surface) ∧ ∃ pixels picture, (c.attempt s source true).1 = .ok pixels ∧
      (c.saveAs s source path files).2.2.picture? path = some picture ∧
      Upright (s.view c.surface) pixels picture

/-- With a side that is too large, a frame that was drawn has no bytes, and nothing is written. -/
theorem saveAs_of_unsigned (metered : s.Metered) (source : String) (path : Path) (c : Canvas σ)
    (files : Tree) (large : ¬Signed (s.view c.surface)) :
    ∃ e c', c.saveAs s source path files = (.error e, c', files) ∧
      ∀ pixels, (c.attempt s source true).1 = .ok pixels →
        e = .empty (s.view c.surface).width (s.view c.surface).height := by
  by_cases sized : Flat (s.view c.surface)
  · exact ⟨_, _, saveAs_of_error (picture_of_flat sized), fun _ _ => rfl⟩
  cases hdrawn : (c.attempt s source true).1 with
  | error e =>
      refine ⟨_, _, saveAs_of_error (picture_of_error sized hdrawn), ?_⟩
      intro pixels hpixels
      cases hpixels
  | ok pixels =>
      have hnone : pixels.length = 0 :=
        ((measured metered source c).captured pixels hdrawn).trans (if_neg large)
      have hpos {n : UInt32} (h : n ≠ 0) : 0 < n.toNat :=
        Nat.pos_of_ne_zero fun hzero => h (UInt32.toNat_inj.mp hzero)
      have hsome : 0 < 4 * (s.view c.surface).width.toNat * (s.view c.surface).height.toNat :=
        Nat.mul_pos (Nat.mul_pos (by decide) (hpos fun h => sized (.inl h)))
          (hpos fun h => sized (.inr h))
      exact ⟨_, _, saveAs_of_error (picture_of_short sized hdrawn (hnone ▸ hsome)), fun _ _ => rfl⟩

/-- A surface that answers in full leaves no frame too short, apart from the ones with a side that
is too large. -/
theorem fitting (metered : s.Metered) (source : String) (path : Path) (c : Canvas σ)
    (files : Tree) : Fitting s source path c files where
  untouched large := by
    obtain ⟨e, c', hsaved, -⟩ := saveAs_of_unsigned metered source path c files large
    rw [hsaved]
  empty large pixels hdrawn := by
    obtain ⟨e, c', hsaved, hempty⟩ := saveAs_of_unsigned metered source path c files large
    rw [hsaved, hempty pixels hdrawn]
  drawn small sized pixels hdrawn := by
    have hlength : pixels.length =
        4 * (s.view c.surface).width.toNat * (s.view c.surface).height.toNat :=
      ((measured metered source c).captured pixels hdrawn).trans (if_pos small)
    obtain ⟨picture, hpicture⟩ := picture_of_enough sized hdrawn (Nat.le_of_eq hlength.symm)
    rcases saveAs_of_ok hpicture with hsaved | ⟨reason, hsaved⟩
    · exact .inl hsaved
    · exact .inr ⟨reason, congrArg Prod.fst hsaved⟩
  saved hsaved := by
    refine ⟨?_, (exists_upright hsaved).2⟩
    by_contra large
    obtain ⟨e, c', herror, -⟩ := saveAs_of_unsigned metered source path c files large
    rw [herror] at hsaved
    cases hsaved

/-- **Frames have as many bytes as they should**, on either kind of surface, whatever its size and
whatever happened to it before.  No product on the way there wraps; and since a side that is too
large for a signed word leaves no bytes, a frame of such a surface is never taken for a picture. -/
theorem frames_measured :
    (∀ width height : UInt32, Fits width height ∧
      (clamped width * clamped height).toNat * 4 = extent width height ∧
      (clamped width * clamped height * 4).toNat = extent width height) ∧
    (∀ (source : String) (path : Path) (c : Canvas MemorySurface) (files : Tree),
      Measured MemorySurface.plain source c ∧
        Fitting MemorySurface.plain source path c files) ∧
    ∀ (source : String) (path : Path) (c : Canvas NativeSurface) (files : Tree),
      Measured NativeSurface.recorded source c ∧
        Fitting NativeSurface.recorded source path c files := by
  refine ⟨?_, ?_, ?_⟩
  · intro width height
    refine ⟨fits width height, ?_, toNat_bytes width height⟩
    rw [toNat_pixels, pixelCount_mul_four]
  · intro source path c files
    exact ⟨measured MemorySurface.metered_plain source c,
      fitting MemorySurface.metered_plain source path c files⟩
  · intro source path c files
    exact ⟨measured NativeSurface.metered_recorded source c,
      fitting NativeSurface.metered_recorded source path c files⟩

/-- A canvas that is one column wider than a signed word can say. -/
def broad : Canvas MemorySurface := { surface := { width := 0x80000000, height := 1 } }

theorem frames_measured_broad :
    (broad.attempt MemorySurface.plain "void main() {}" true).1 = .ok [] ∧
    (broad.saveAs MemorySurface.plain "void main() {}" (.ofText "a.png") (.workingAt [])).1 =
      .error (.empty 0x80000000 1) := by
  have hdrawn : (broad.attempt MemorySurface.plain "void main() {}" true).1 = .ok [] := by
    decide +kernel
  have hlarge : ¬Signed (MemorySurface.plain.view broad.surface) :=
    fun hsigned => absurd hsigned.1 (by decide)
  exact ⟨hdrawn, (frames_measured.2.1 "void main() {}" (.ofText "a.png") broad
    (.workingAt [])).2.empty hlarge [] hdrawn⟩

end Canvas

end ShaderSketch
