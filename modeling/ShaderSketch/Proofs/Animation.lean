import ShaderSketch.Proofs.Displayed
import ShaderSketch.Proofs.Inputs
import ShaderSketch.Proofs.Pacing
import ShaderSketch.Viewer.Basic

/-!
# Sources that move

Two readers look for the time in a source.  The context looks for a line that declares it, and
feeds it to what is drawn; the panel looks for the word anywhere, and the viewer draws again and
again what has it.  The second finds all that the first finds, so that nothing that is fed the time
stands still.

## Main definitions

* `Canvas.FedTime` — whether an attempt to draw a source feeds it the time

## Main results

* `Gl.Declares.infix_name` : what a text declares, it speaks of
* `Canvas.fedTime_iff` : a source is fed the time when it is drawn and declares it
* `Viewer.wakes_of_fed_time` : a viewer does not sleep for good over a source that is fed the time

## Design notes

A source is fed before its frame is shown, so one whose frame then cannot be shown was fed as well.
-/

namespace ShaderSketch

open Surface

/-! ## What a text speaks of -/

namespace Text

/-- What follows the start of a declaration stands at the end of the line, so that a name in it
stands in the line. -/
theorem suffix_of_afterStart? {start s rest : List Char} (h : afterStart? start s = some rest) :
    rest <:+ s := by
  induction start generalizing s with
  | nil =>
      obtain rfl := Option.some.inj h
      exact List.suffix_rfl
  | cons a start ih =>
      cases s with
      | nil => cases h
      | cons c s =>
          rw [afterStart?] at h
          split at h
          · exact (ih h).trans (List.suffix_cons c s)
          · cases h

theorem infix_of_lastWord? {s word : List Char} (h : lastWord? s = some word) : word <:+: s := by
  unfold lastWord? at h
  split at h
  · cases h
  · obtain rfl := Option.some.inj h
    have hreversed := (List.takeWhile_prefix (!isBlank ·)).isInfix.trans
      (List.dropWhile_suffix (l := s.reverse) isBlank).isInfix
    have hinfix := List.reverse_infix.mpr hreversed
    rwa [List.reverse_reverse] at hinfix

theorem prefix_dropReturn (l : List Char) : dropReturn l <+: l := by
  unfold dropReturn
  split
  · exact List.dropLast_prefix l
  · exact List.prefix_rfl

/-- A line of a text is part of it. -/
theorem infix_of_mem_lines {s line : List Char} (h : line ∈ lines s) : line <:+: s := by
  induction s using lines_induction with
  | last l hl =>
      cases l with
      | nil => cases h
      | cons c l =>
          rw [lines_of_not_mem hl (List.cons_ne_nil c l), List.mem_singleton] at h
          exact h ▸ List.infix_rfl
  | line l s hl ih =>
      rw [lines_append_feed hl, List.mem_cons] at h
      obtain rfl | hmem := h
      · exact ((prefix_dropReturn l).trans (List.prefix_append l _)).isInfix
      · exact (ih hmem).trans ⟨l ++ ['\n'], [], by simp⟩

end Text

namespace Gl

/-- A line speaks of what it declares. -/
theorem infix_of_declaredName? {qualifier line name : List Char}
    (h : declaredName? qualifier line = some name) : name <:+: line := by
  simp only [declaredName?, Option.bind_eq_bind, Option.bind_eq_some_iff, Option.pure_def,
    Option.some.injEq] at h
  obtain ⟨rest, hrest, -, -, word, hword, rfl⟩ := h
  calc word.takeWhile (· ≠ '[')
    _ <:+: word := (List.takeWhile_prefix _).isInfix
    _ <:+: rest.takeWhile (· ≠ ';') := Text.infix_of_lastWord? hword
    _ <:+: rest := (List.takeWhile_prefix _).isInfix
    _ <:+: Text.trimStart line := (Text.suffix_of_afterStart? hrest).isInfix
    _ <:+: line := (List.dropWhile_suffix _).isInfix

/-- **A text speaks of what it declares.**  A declaration is only one of the ways to speak of a
name, so that a source which merely mentions the time moves too, though it is fed nothing. -/
theorem Declares.infix_name {text : List Char} {name : String} (h : Declares text name) :
    name.toList <:+: text := by
  obtain ⟨line, hline, hname⟩ := h
  exact (infix_of_declaredName? hname).trans (Text.infix_of_mem_lines hline)

end Gl

/-! ## What is fed the time -/

namespace Frame

open Gl

/-- The inputs of a source bring it the time if it declares that. -/
theorem time_mem_inputEvents {view : View} {source : String} {program rectangle : Handle} :
    (∃ seconds, .uniformFloat Shader.time seconds ∈ inputEvents view source program rectangle) ↔
      Declares source.toList Shader.time := by
  rw [inputEvents_eq, feed]
  split <;> split <;> simp_all

end Frame

namespace Canvas

open ShaderSketch.Frame Gl MemorySurface

variable {c : Canvas MemorySurface}

/-- Whether an attempt to draw a source feeds it the time.  The events of the attempt are those
behind the events that were there before it. -/
def FedTime (c : Canvas MemorySurface) (source : String) (capture : Bool) : Prop :=
  ∃ seconds, .uniformFloat Shader.time seconds ∈
    (c.attempt plain source capture).2.surface.gl.events.drop c.surface.gl.events.length

/-- **A source is fed the time when it is drawn and declares it**, whether its frame is shown or
not.  Rest buys that these events are known: the verdicts on the program and the filling of the
rectangle feed nothing, and neither does what is painted, so that only the inputs of the frame are
left to look at. -/
theorem fedTime_iff (rest : c.surface.AtRest c.rectangle) (source : String) (capture : Bool) :
    c.FedTime source capture ↔
      drew (c.forecast source) = true ∧ Declares source.toList Shader.time := by
  have hquiet {events : List Event} (h : ∀ e ∈ events, e.feeds = false) (seconds : Binary) :
      Event.uniformFloat Shader.time seconds ∉ events := fun hmem => nomatch h _ hmem
  rw [FedTime, attempt_eq_forecast rest, events_afterwards, List.drop_left]
  -- making a program feeds nothing, however far it gets
  simp only [List.mem_append, hquiet (forall_mem_traces (fun _ _ => rfl) (fun _ => rfl) _ _),
    false_or]
  rw [drawing]
  cases hdrew : drew (c.forecast source) with
  | false => simp
  | true =>
      obtain ⟨after, hpaint, hafter⟩ := exists_paintEvents (plain.view c.surface) capture
      have hfilling := quiet_traces source c.rectangle (c.surface.gl.issued + 4)
      have hnofill := hquiet fun e he => (hfilling e (List.mem_append_right _ he)).1
      have hnopaint : ∀ e ∈ paintEvents (plain.view c.surface) capture, e.feeds = false := by
        rw [hpaint]
        simpa [Event.feeds] using fun e he => (hafter e he).1
      simp only [if_true, List.mem_append, hnofill, hquiet hnopaint, false_or, or_false,
        time_mem_inputEvents, true_and]

end Canvas

/-! ## Viewers -/

namespace Viewer

open ShaderSketch.Frame Gl MemorySurface

variable {σ ℓ : Type}

/-- A viewer with a source that speaks of the time wakes up by itself, unless a picture is still to
be written. -/
theorem react_idle_of_readsTime (s : Surface σ ℓ) {v : Viewer σ} (hexport : v.exportTo = none)
    (htime : v.panel.readsTime = true) (now : Nat) :
    ∃ wake, now ≤ wake ∧ ((v.react s (.idle now)).1 = [.drawWindow, .sleep (.until wake)] ∨
      (v.react s (.idle now)).1 = [.sleep (.until wake)]) := by
  have hmoving : (v.exportTo.isNone && v.panel.readsTime) = true := by
    rw [hexport, htime]
    rfl
  rw [react, keepPace, hmoving]
  obtain ⟨hstill, -⟩ | ⟨-, -, hdue⟩ | ⟨-, wake, -, hlater, hearly⟩ :=
    v.pacer.consult_cases ⟨true, now⟩
  · cases hstill
  · rw [hdue]
    exact ⟨_, Nat.le_add_right _ _, .inl rfl⟩
  · rw [hearly]
    exact ⟨wake, hlater.le, .inr rfl⟩

/-- **What is fed the time is drawn again.**  A program for a source exposes the time only if the
source speaks of it.  And after any turns on a panel with a canvas in memory, whatever happened to
the surface, a source that is on screen and is fed the time when it is drawn is one that moves: a
viewer with that panel that is idle sleeps until the next frame, and not until something happens,
unless a picture is still to be written.  The context has to be new for the canvas to be at rest
after the turns, whatever they were (`rest_life`); nothing else is asked of it, nor of the turns. -/
theorem wakes_of_fed_time :
    (∀ (g : Memory) (p : Memory.Program) (source : String),
      g.attachedSource? p .vertex = some Shader.vertexSource →
      g.attachedSource? p .fragment = some (Shader.prepare source) →
      Shader.time ∈ (g.link p).uniforms →
        Text.contains Shader.time.toList source.toList = true) ∧
    ∀ (m : MemorySurface) (prompt : String) (turns : List (Panel.Turn Incident)), m.gl = {} →
      let r := (Panel.Showing.onto prompt { surface := m }).steps troubled turns
      ∀ capture, r.canvas.FedTime r.panel.source capture →
        r.panel.readsTime = true ∧
        ∀ v : Viewer MemorySurface, v.panel = r.panel → v.exportTo = none →
          ∀ now, ∃ wake, now ≤ wake ∧
            ((v.react plain (.idle now)).1 = [.drawWindow, .sleep (.until wake)] ∨
              (v.react plain (.idle now)).1 = [.sleep (.until wake)]) := by
  constructor
  · intro g p source hvertex hfragment htime
    have hlink : (g.link p).uniforms = uniforms source := by
      rw [Memory.link, hvertex, hfragment]
      rfl
    rw [hlink, mem_uniforms] at htime
    exact Text.contains_iff.mpr htime.infix_name
  · intro m prompt turns hgl r capture hfed
    obtain ⟨life, hlife⟩ := Panel.exists_life troubled
      (Panel.Showing.onto prompt { surface := m }) turns
    have rest : r.canvas.surface.AtRest r.canvas.rectangle := by
      rw [hlife]
      exact Canvas.rest_steps hgl life
    have htime : r.panel.readsTime = true :=
      Text.contains_iff.mpr ((Canvas.fedTime_iff rest _ capture).mp hfed).2.infix_name
    refine ⟨htime, fun v hpanel hexport now => ?_⟩
    exact react_idle_of_readsTime plain hexport (hpanel ▸ htime) now

/-- A source with the time comes on screen, and then the next frame is going to fail. -/
def pulsing : List (Panel.Turn Incident) :=
  [.display "uniform float u_time;\nvoid main() {}", .change (.spoilNextFrame "lost")]

/-- A viewer with a panel and a canvas, which has no picture to write. -/
def showing (r : Panel.Showing σ) : Viewer σ where
  panel := r.panel
  canvas := r.canvas
  title := ""
  opening := .initial
  source := none
  exportTo := none
  files := {}

/-- The frame of that source cannot be shown any more, but the viewer goes on waking up. -/
theorem wakes_of_fed_time_pulsing :
    let m : MemorySurface := { width := 8, height := 8 }
    let r := (Panel.Showing.onto "waves" { surface := m }).steps troubled pulsing
    (r.canvas.attempt plain r.panel.source false).1 = .error (.showing "lost") ∧
      r.canvas.FedTime r.panel.source false ∧
      .sleep .forever ∉ ((showing r).react plain (.idle 7)).1 := by
  have hwakes := wakes_of_fed_time.2 { width := 8, height := 8 } "waves" pulsing rfl
  dsimp only at hwakes ⊢
  -- the run is evaluated for what the theorem asks of it, and for nothing more
  obtain ⟨r, hr⟩ : ∃ r, r = (Panel.Showing.onto "waves" { surface :=
    ({ width := 8, height := 8 } : MemorySurface) }).steps troubled pulsing := ⟨_, rfl⟩
  rw [← hr] at hwakes ⊢
  have hrun : (r.canvas.attempt plain r.panel.source false).1 = .error (.showing "lost") ∧
      .uniformFloat Shader.time (Binary.ofNat .single 0) ∈
        (r.canvas.attempt plain r.panel.source false).2.surface.gl.events.drop
          r.canvas.surface.gl.events.length := by
    rw [hr]
    decide +kernel
  refine ⟨hrun.1, ⟨_, hrun.2⟩, ?_⟩
  obtain ⟨-, hawake⟩ := hwakes false ⟨_, hrun.2⟩
  obtain ⟨wake, -, hdue | hearly⟩ := hawake (showing r) rfl rfl 7
  · simp [hdue]
  · simp [hearly]

end Viewer

end ShaderSketch
