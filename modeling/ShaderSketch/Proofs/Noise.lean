import ShaderSketch.Proofs.Export

/-!
# Noise while a picture is awaited

The window is to be drawn, or there is nothing left to do: events that come from outside whenever it
suits the system.  To a viewer that still has a picture to write they are noise.

## Main definitions

* `Viewer.Turn`, `Viewer.course` — an event or a change of the surface, and a viewer after many with
  all that it wanted done
* `Viewer.Event.isNoise` — the events that are noise
* `Viewer.quieted` — turns without the noise that comes before the picture is written
* `Viewer.Expectant` — the invariant of a viewer that waits with its picture
* `Viewer.Undisturbed` — two runs that differ in noise alone

## Main results

* `Viewer.take_of_noise` : to a viewer that waits, noise does nothing
* `Viewer.told_quieted` : a run goes as it would without the noise
* `Viewer.undisturbed_of_plan` : no run of a plan for a picture is disturbed by noise

## Design notes

A change of the surface is a function of what the surface is then.  Had noise drawn a frame, or
spent a failure that was due, the same change would lead the two runs to two surfaces.
-/

namespace ShaderSketch.Viewer

variable {σ ℓ : Type} {s : Surface σ ℓ} {v : Viewer σ}

/-! ## Courses -/

/-- What a viewer goes through: events, and changes of its surface from what that is.  A change is a
function of the surface, so that it comes to something else on a surface on which something else was
drawn. -/
inductive Turn (σ : Type)
  | event (e : Event)
  | change (f : σ → σ)

/-- A viewer after a turn, with what it wants done. -/
def take (s : Surface σ ℓ) (v : Viewer σ) : Turn σ → List Action × Viewer σ
  | .event e => v.react s e
  | .change f => ([], { v with canvas := { v.canvas with surface := f v.canvas.surface } })

/-- A viewer after many turns, with all that it wants done. -/
def course (s : Surface σ ℓ) (v : Viewer σ) : List (Turn σ) → List Action × Viewer σ
  | [] => ([], v)
  | t :: turns =>
    let (rest, v') := course s (v.take s t).2 turns
    ((v.take s t).1 ++ rest, v')

/-- Whether an event is noise: the window is to be drawn, or there is nothing left to do. -/
def Event.isNoise : Event → Bool
  | .exposed | .idle _ => true
  | .started | .prompted _ | .answered _ | .resized _ _ | .closed | .ending | .other => false

/-- Whether a turn is noise. -/
def Turn.isNoise : Turn σ → Bool
  | .event e => e.isNoise
  | .change _ => false

/-- Whether a turn brings the result of a request. -/
def Turn.answers : Turn σ → Bool
  | .event (.answered _) => true
  | .event _ | .change _ => false

/-- Whether an action is to sleep. -/
def Action.isSleep : Action → Bool
  | .sleep _ => true
  | .setTitle _ | .printLine _ | .printError _ | .drawWindow | .fitSurface _ _ | .send _ _ |
    .leave => false

/-- What a viewer is after many turns, and what it wanted done apart from sleeping. -/
def told (s : Surface σ ℓ) (v : Viewer σ) (turns : List (Turn σ)) : List Action × Viewer σ :=
  ((v.course s turns).1.filter (!·.isSleep), (v.course s turns).2)

/-- Turns without the noise that comes before the picture is written.  For a prompt that is the
noise before the first result; otherwise a viewer writes as soon as it has started, and all the
turns are left.  It is told by what the viewer opened with and by the turns alone, and not by how
the run goes. -/
def quieted (o : Opening) (turns : List (Turn σ)) : List (Turn σ) :=
  match o with
  | .prompt _ =>
    (turns.takeWhile (!·.answers)).filter (!·.isNoise) ++ turns.dropWhile (!·.answers)
  | .initial | .file _ => turns

theorem told_cons (t : Turn σ) (turns : List (Turn σ)) :
    v.told s (t :: turns) =
      ((v.take s t).1.filter (!·.isSleep) ++ ((v.take s t).2.told s turns).1,
        ((v.take s t).2.told s turns).2) := by
  simp only [told, course, List.filter_append]

/-! ## Waiting with a picture -/

/-- A viewer that waits with its picture: it was opened for a prompt, the picture is still to be
written, and no redraw is due.  The last part is what makes asking for the time harmless: a redraw
that was due would be forgotten in the asking, and the state of the pacer would tell that somebody
asked. -/
structure Expectant (v : Viewer σ) : Prop where
  awaits : v.awaits
  unwritten : v.exportTo.isSome
  unpaced : v.pacer.upcoming = none

theorem pacer_dropRequest (v : Viewer σ) : v.dropRequest.pacer = v.pacer := by
  unfold dropRequest
  split <;> rfl

theorem pacer_ask (v : Viewer σ) : v.ask.2.pacer = v.pacer := by
  unfold ask
  rcases v.panel.ask with ⟨_ | prompt, panel⟩
  · rfl
  · exact pacer_dropRequest { v with panel, tokens := v.tokens.create.2 }

theorem pacer_opened (s : Surface σ ℓ) (v : Viewer σ) : (v.opened s).pacer = v.pacer := by
  unfold opened showSource
  dsimp only
  split <;> rfl

/-- A viewer that was opened for a prompt keeps its pace while it starts. -/
theorem pacer_start (s : Surface σ ℓ) (h : v.awaits) : (v.start s).2.pacer = v.pacer := by
  obtain ⟨text, htext⟩ := h
  rw [start_eq, htext]
  exact (pacer_ask _).trans (pacer_opened s v)

namespace Expectant

/-- Nothing but a result of a request ends the waiting. -/
theorem take (h : v.Expectant) {t : Turn σ} (ht : t.answers = false) :
    (v.take s t).2.Expectant := by
  cases t with
  | change f => exact ⟨h.awaits, h.unwritten, h.unpaced⟩
  | event e =>
      have hsame : Same v (v.react s e).2 := by
        refine same_react s (.inr ⟨h.awaits, ?_⟩)
        rintro result rfl
        cases ht
      refine ⟨?_, ?_, ?_⟩
      · obtain ⟨text, htext⟩ := h.awaits
        exact ⟨text, hsame.opening.trans htext⟩
      · exact (congrArg Option.isSome hsame.exportTo).trans h.unwritten
      · show (v.react s e).2.pacer.upcoming = none
        cases e with
        | started => exact (congrArg Pacer.upcoming (pacer_start s h.awaits)).trans h.unpaced
        | prompted prompt => exact (congrArg Pacer.upcoming (pacer_ask _)).trans h.unpaced
        | answered result => cases ht
        | exposed =>
            rw [react, refresh, if_pos h.unwritten]
            exact h.unpaced
        | closed | ending =>
            exact (congrArg Pacer.upcoming (pacer_dropRequest v)).trans h.unpaced
        | idle now =>
            simp [react, keepPace, Pacer.consult, Option.isNone_eq_false_iff.mpr h.unwritten]
        | resized | other => exact h.unpaced

end Expectant

/-- Where nothing moves and no redraw is due, asking whether to draw leaves the pace alone. -/
theorem consult_still {p : Pacer} (h : p.upcoming = none) (now : Nat) :
    p.consult false now = (none, p) := by
  obtain ⟨period, upcoming⟩ := p
  subst h
  rfl

/-- **Noise does nothing to a viewer that waits** with its picture: it stays as it is, and wants
nothing but to sleep.  That the viewer is left as it is means all of it, surface and pacer included,
so that nothing that comes later can tell. -/
theorem take_of_noise (h : v.Expectant) {t : Turn σ} (ht : t.isNoise) :
    (v.take s t).2 = v ∧ ∀ action ∈ (v.take s t).1, action = .sleep .forever := by
  cases t with
  | change f => cases ht
  | event e =>
      cases e with
      | exposed =>
          have hstill : v.refresh s = v := if_pos h.unwritten
          exact ⟨hstill, nofun⟩
      | idle now =>
          have hpace : v.pacer.consult (v.exportTo.isNone && v.panel.readsTime) now =
              (none, v.pacer) := by
            rw [Option.isNone_eq_false_iff.mpr h.unwritten]
            exact consult_still h.unpaced now
          simp [take, react, keepPace, hpace]
      | started | prompted | answered | resized | closed | ending | other => cases ht

/-! ## Two runs -/

/-- A viewer that waits goes through many turns as it would without the noise before the first
result. -/
theorem told_quieted_of_expectant (h : v.Expectant) {o : Opening} (ho : ∃ text, o = .prompt text)
    (turns : List (Turn σ)) : v.told s (quieted o turns) = v.told s turns := by
  obtain ⟨text, rfl⟩ := ho
  induction turns generalizing v with
  | nil => rfl
  | cons t turns ih =>
      cases hanswers : t.answers with
      | true => simp [quieted, hanswers]
      | false =>
          have hrest := ih (h.take (s := s) hanswers)
          cases hnoise : t.isNoise with
          | true =>
              obtain ⟨hsame, hsleep⟩ := take_of_noise (s := s) h hnoise
              have hsilent : (v.take s t).1.filter (!·.isSleep) = [] := by
                rw [List.filter_eq_nil_iff]
                intro action hmem
                rw [hsleep action hmem]
                decide
              have hquiet : quieted (.prompt text) (t :: turns) = quieted (.prompt text) turns := by
                simp [quieted, hanswers, hnoise]
              rw [hquiet, told_cons, hsilent, hsame, ih h]
              rfl
          | false =>
              have hquiet : quieted (.prompt text) (t :: turns) =
                  t :: quieted (.prompt text) turns := by
                simp [quieted, hanswers, hnoise]
              rw [hquiet, told_cons, told_cons, hrest]

/-- A viewer without a picture to write gets none. -/
theorem written_course {turns : List (Turn σ)} (h : v.exportTo = none) :
    (v.course s turns).2.exportTo = none := by
  induction turns generalizing v with
  | nil => exact h
  | cons t turns ih =>
      refine ih ?_
      cases t with
      | change f => exact h
      | event e => exact (same_react s (.inl h)).exportTo.trans h

/-- A viewer that waits has written its picture when the first result has come. -/
theorem unwritten_course (h : v.Expectant) (turns : List (Turn σ)) :
    (v.course s turns).2.exportTo.isSome ↔ ∀ t ∈ turns, t.answers = false := by
  induction turns generalizing v with
  | nil => simpa [course] using h.unwritten
  | cons t turns ih =>
      show ((v.take s t).2.course s turns).2.exportTo.isSome ↔ _
      cases hanswers : t.answers with
      | false =>
          rw [ih (h.take hanswers)]
          simp [hanswers]
      | true =>
          have hnone : (v.take s t).2.exportTo = none := by
            cases t with
            | change f => cases hanswers
            | event e =>
                cases e with
                | answered result =>
                    show (v.receive s result).2.exportTo = none
                    rw [receive_eq]
                    exact exportTo_writePicture s _
                | _ => cases hanswers
          simp [written_course hnone, hanswers]

/-- A viewer that waits goes on waiting as long as no result comes. -/
theorem Expectant.course (h : v.Expectant) {turns : List (Turn σ)}
    (hturns : ∀ t ∈ turns, t.answers = false) : (v.course s turns).2.Expectant := by
  induction turns generalizing v with
  | nil => exact h
  | cons t turns ih =>
      have hfirst := h.take (s := s) (hturns t List.mem_cons_self)
      exact ih hfirst fun t' ht' => hturns t' (List.mem_cons_of_mem t ht')

/-- Noise disturbs no run of a viewer that has a picture to write.  The first part says that the
picture is still to be written for just as long as `quieted` takes noise away, so that the last one
speaks of all the noise there is until then. -/
structure Undisturbed (s : Surface σ ℓ) (v : Viewer σ) : Prop where
  /-- The picture is still to be written as long as the viewer waits for the first result. -/
  unwritten (turns : List (Turn σ)) :
    (v.course s (.event .started :: turns)).2.exportTo.isSome ↔
      v.awaits ∧ ∀ t ∈ turns, t.answers = false
  /-- Until then noise changes nothing: no frame is drawn, no failure is spent, no drawing is asked
  for, and the panel keeps its complaint or its silence. -/
  still (turns : List (Turn σ)) {t : Turn σ} : t.isNoise →
    (v.course s (.event .started :: turns)).2.exportTo.isSome →
      ((v.course s (.event .started :: turns)).2.take s t).2 =
        (v.course s (.event .started :: turns)).2 ∧
      ∀ action ∈ ((v.course s (.event .started :: turns)).2.take s t).1, action = .sleep .forever
  /-- Two runs that differ only in such noise end alike and want the same done. -/
  alike {turns turns' : List (Turn σ)} : quieted v.opening turns = quieted v.opening turns' →
    v.told s (.event .started :: turns) = v.told s (.event .started :: turns')

/-- A viewer that has a picture to write waits with it once it has started, if it was opened for a
prompt. -/
theorem expectant_started (s : Surface σ ℓ) (hawaits : v.awaits) (hexport : v.exportTo.isSome)
    (hpace : v.pacer.upcoming = none) : (v.start s).2.Expectant := by
  obtain ⟨text, htext⟩ := hawaits
  have hsame := same_started s htext
  refine ⟨⟨text, hsame.opening.trans htext⟩, ?_, ?_⟩
  · rw [hsame.exportTo]
    exact hexport
  · rw [pacer_start s ⟨text, htext⟩]
    exact hpace

/-- A viewer that was not opened for a prompt has written its picture once it has started. -/
theorem written_started (s : Surface σ ℓ) (h : ¬ v.awaits) : (v.start s).2.exportTo = none := by
  rw [start_eq]
  cases hopening : v.opening with
  | prompt text => exact absurd ⟨text, hopening⟩ h
  | initial | file path => exact exportTo_writePicture s _

/-- When the picture of a run is still to be written. -/
theorem unwritten_iff (s : Surface σ ℓ) (hexport : v.exportTo.isSome)
    (hpace : v.pacer.upcoming = none) (turns : List (Turn σ)) :
    (v.course s (.event .started :: turns)).2.exportTo.isSome ↔
      v.awaits ∧ ∀ t ∈ turns, t.answers = false := by
  show ((v.start s).2.course s turns).2.exportTo.isSome ↔ _
  by_cases hawaits : v.awaits
  · rw [unwritten_course (expectant_started s hawaits hexport hpace), and_iff_right hawaits]
  · simp [written_course (written_started s hawaits), hawaits]

/-- A viewer that has a picture to write goes through many turns as it would without the noise that
comes before that. -/
theorem told_quieted (s : Surface σ ℓ) (hexport : v.exportTo.isSome)
    (hpace : v.pacer.upcoming = none) (turns : List (Turn σ)) :
    v.told s (.event .started :: quieted v.opening turns) =
      v.told s (.event .started :: turns) := by
  cases hopening : v.opening with
  | initial | file path => rfl
  | prompt text =>
      have hwaits := expectant_started s ⟨text, hopening⟩ hexport hpace
      have hrest := told_quieted_of_expectant (s := s) hwaits ⟨text, rfl⟩ turns
      rw [told_cons, told_cons]
      show (_ ++ ((v.start s).2.told s _).1, ((v.start s).2.told s _).2) = _
      rw [hrest]
      rfl

/-- **Noise disturbs no run for a picture.**  However a run for a picture goes, whatever its
surface answers, and whatever becomes of its request: to be told to draw, or that nothing is left to
do, changes nothing until the picture is written. -/
theorem undisturbed_of_plan (s : Surface σ ℓ) {e : Environment} {files : Tree} {a : Arguments}
    {p : Plan} {path : Path} (hplan : plan e files a = .ok p) (hpath : a.exportTo = some path)
    (x : σ) : Undisturbed s (ofPlan p x files) := by
  obtain ⟨hoptions, -⟩ := plan_eq_ok_iff.mp hplan
  have hexport : (ofPlan p x files).exportTo.isSome :=
    Option.isSome_of_eq_some ((exportTo_of_options hoptions).trans hpath)
  have hpace : (ofPlan p x files).pacer.upcoming = none := rfl
  refine ⟨unwritten_iff s hexport hpace, ?_, ?_⟩
  · intro turns t hnoise hunwritten
    obtain ⟨hawaits, hturns⟩ := (unwritten_iff s hexport hpace turns).mp hunwritten
    have hwaits := expectant_started s hawaits hexport hpace
    exact take_of_noise (hwaits.course hturns) hnoise
  · intro turns turns' hquiet
    rw [← told_quieted s hexport hpace, ← told_quieted s hexport hpace turns', hquiet]

/-- An obliging surface that counts the frames which it shows, apart from one that is spoiled. -/
def spoilable : Surface (Nat × Bool) Unit where
  view _ := obliging.view ()
  answer
    | .gl call, x => ((obliging.answer (.gl call) ()).1, x)
    | .present, (shown, true) => (.error (.showing "lost"), (shown, false))
    | .present, (shown, false) => (.ok (), (shown + 1, false))

/-- The run of a prompt whose first answer meets a frame that cannot be shown. -/
def spoiledTurns : List (Turn (Nat × Bool)) :=
  [.change fun x => (x.1, true), .event (.answered (.ok "x")), .event .ending]

/-- The same run with noise before the failure is due, and between the failure and the answer. -/
def noisyTurns : List (Turn (Nat × Bool)) :=
  [.event (.idle 1), .event .exposed, .change fun x => (x.1, true), .event .exposed,
    .event (.idle 2), .event (.answered (.ok "x")), .event .ending]

/-- The answer meets the failure in both runs, after one frame was shown. -/
theorem undisturbed_of_plan_spoiled :
    ∃ p, plan {} {} pictureArguments = .ok p ∧
      let start := ofPlan p (0, false) {}
      Undisturbed spoilable start ∧
        start.told spoilable (.event .started :: noisyTurns) =
          start.told spoilable (.event .started :: spoiledTurns) ∧
        (start.course spoilable (.event .started :: spoiledTurns)).2.failure.isSome ∧
        (start.course spoilable (.event .started :: spoiledTurns)).2.canvas.surface =
          (1, false) := by
  have hrun : ((plan {} {} pictureArguments).toOption.map fun p =>
      let v := ((ofPlan p (0, false) {}).course spoilable (.event .started :: spoiledTurns)).2
      (p.options.opening, v.failure.isSome, v.canvas.surface)) =
      some (.prompt "plasma", true, (1, false)) := by
    decide +kernel
  cases hplan : plan {} {} pictureArguments with
  | error e => simp [hplan, Except.toOption] at hrun
  | ok p =>
      rw [hplan] at hrun
      obtain ⟨hopening, hrest⟩ := Prod.mk.inj (Option.some.inj hrun)
      obtain ⟨hfailure, hshown⟩ := Prod.mk.inj hrest
      have hundisturbed := undisturbed_of_plan spoilable hplan rfl (0, false)
      refine ⟨p, rfl, hundisturbed, hundisturbed.alike ?_, hfailure, hshown⟩
      show quieted p.options.opening _ = quieted p.options.opening _
      rw [hopening]
      rfl

end ShaderSketch.Viewer
