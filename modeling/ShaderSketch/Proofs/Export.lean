import ShaderSketch.Proofs.Checks
import ShaderSketch.Proofs.Saved
import ShaderSketch.Viewer.Basic

/-!
# Runs that write a picture

A viewer that was asked for a picture and ends well has written it, and it shows what was asked for.
The exceptions are a window that is closed too early and a request that was given up.

## Main definitions

* `Viewer.Moment`, `Viewer.play` — an event or a change of the surface, and a viewer after many
* `Viewer.Same` — two states of a viewer with the same prospects
* `Viewer.Exported` — the picture of a source is at a path

## Main results

* `Viewer.same_play` : only the first result can make a waiting viewer write, and nothing makes it
  write again
* `Viewer.exported_of_success` : a run that ends well has written what was asked for
-/

namespace ShaderSketch.Viewer

variable {σ ℓ : Type}

/-! ## Runs -/

/-- What a viewer goes through: events, and changes of its surface. -/
inductive Moment (σ : Type)
  | event (e : Event)
  | change (surface : σ)

/-- A viewer after a moment. -/
def pass (s : Surface σ ℓ) (v : Viewer σ) : Moment σ → Viewer σ
  | .event e => (v.react s e).2
  | .change surface => { v with canvas := { v.canvas with surface } }

/-- A viewer after many moments. -/
def play (s : Surface σ ℓ) (v : Viewer σ) (moments : List (Moment σ)) : Viewer σ :=
  moments.foldl (pass s) v

theorem play_append (s : Surface σ ℓ) (v : Viewer σ) (moments moments' : List (Moment σ)) :
    v.play s (moments ++ moments') = (v.play s moments).play s moments' :=
  List.foldl_append

/-- No result of a request comes in. -/
def Unanswered (moments : List (Moment σ)) : Prop :=
  ∀ result, Moment.event (.answered result) ∉ moments

/-! ## What stays the same -/

/-- Two states of a viewer with the same prospects: the same failure and files, and the same picture
still to be written.  The panel and the canvas may differ: what is drawn while the viewer waits
decides nothing about the file. -/
structure Same (v v' : Viewer σ) : Prop where
  failure : v'.failure = v.failure
  files : v'.files = v.files
  exportTo : v'.exportTo = v.exportTo
  opening : v'.opening = v.opening

theorem Same.refl (v : Viewer σ) : Same v v := ⟨rfl, rfl, rfl, rfl⟩

theorem Same.trans {v v' v'' : Viewer σ} (h : Same v v') (h' : Same v' v'') : Same v v'' where
  failure := h'.failure.trans h.failure
  files := h'.files.trans h.files
  exportTo := h'.exportTo.trans h.exportTo
  opening := h'.opening.trans h.opening

theorem same_dropRequest (v : Viewer σ) : Same v v.dropRequest := by
  unfold dropRequest
  split <;> exact ⟨rfl, rfl, rfl, rfl⟩

theorem same_ask (v : Viewer σ) : Same v v.ask.2 := by
  unfold ask
  rcases v.panel.ask with ⟨_ | prompt, panel⟩
  · exact .refl v
  · have h := same_dropRequest { v with panel, tokens := v.tokens.create.2 }
    exact ⟨h.failure, h.files, h.exportTo, h.opening⟩

theorem same_showSource (s : Surface σ ℓ) (v : Viewer σ) : Same v (v.showSource s).2 := by
  unfold showSource
  split <;> exact ⟨rfl, rfl, rfl, rfl⟩

theorem same_refresh (s : Surface σ ℓ) (v : Viewer σ) : Same v (v.refresh s) := by
  unfold refresh
  split <;> exact ⟨rfl, rfl, rfl, rfl⟩

theorem same_writePicture (s : Surface σ ℓ) {v : Viewer σ} (h : v.exportTo = none) :
    Same v (v.writePicture s).2 := by
  unfold writePicture
  rw [h]
  exact .refl v

/-- The viewer with its first sources shown, before it turns to what was asked for. -/
def opened (s : Surface σ ℓ) (v : Viewer σ) : Viewer σ :=
  let (_, panel, canvas) := v.panel.displayInitial s v.canvas
  ({ v with panel, canvas }.showSource s).2

theorem same_opened (s : Surface σ ℓ) (v : Viewer σ) : Same v (v.opened s) := by
  have h := same_showSource s { v with
    panel := (v.panel.displayInitial s v.canvas).2.1
    canvas := (v.panel.displayInitial s v.canvas).2.2 }
  exact ⟨h.failure, h.files, h.exportTo, h.opening⟩

/-- A viewer that starts shows its first sources, and then asks or writes. -/
theorem start_eq (s : Surface σ ℓ) (v : Viewer σ) :
    (v.start s).2 = match v.opening with
      | .prompt _ => (v.opened s).ask.2
      | .initial | .file _ => ((v.opened s).writePicture s).2 := by
  have hstart : (v.start s).2 = (match (v.opened s).opening with
      | .prompt _ => (v.opened s).ask
      | .initial | .file _ => (v.opened s).writePicture s).2 :=
    rfl
  rw [hstart, (same_opened s v).opening]
  cases v.opening <;> rfl

/-- The viewer with a result taken in, before it turns to the picture. -/
def heard (s : Surface σ ℓ) (result : Except Service.Failure String) (v : Viewer σ) : Viewer σ :=
  let v := v.dropRequest
  let (panel, canvas) := v.panel.receive s result v.canvas
  { v with panel, canvas }

theorem same_heard (s : Surface σ ℓ) (result : Except Service.Failure String) (v : Viewer σ) :
    Same v (v.heard s result) := by
  have h := same_dropRequest v
  exact ⟨h.failure, h.files, h.exportTo, h.opening⟩

theorem receive_eq (s : Surface σ ℓ) (result : Except Service.Failure String) (v : Viewer σ) :
    (v.receive s result).2 = ((v.heard s result).writePicture s).2 :=
  rfl

/-- Whether a viewer waits for a request before it writes.  No event changes what a viewer opens
with; it is the result that makes it turn to its picture. -/
def awaits (v : Viewer σ) : Prop := ∃ text, v.opening = .prompt text

/-- A viewer that has nothing to write, or that waits for a result that does not come, goes on as it
was. -/
theorem same_react (s : Surface σ ℓ) {v : Viewer σ} {e : Event}
    (h : v.exportTo = none ∨ v.awaits ∧ ∀ result, e ≠ .answered result) :
    Same v (v.react s e).2 := by
  cases e with
  | started =>
      have hopened := same_opened s v
      rw [react, start_eq]
      obtain hnone | ⟨⟨text, htext⟩, -⟩ := h
      · have hwrite := same_writePicture s (hopened.exportTo.trans hnone)
        cases v.opening with
        | prompt text => exact hopened.trans (same_ask _)
        | initial => exact hopened.trans hwrite
        | file path => exact hopened.trans hwrite
      · rw [htext]
        exact hopened.trans (same_ask _)
  | prompted prompt =>
      have h := same_ask { v with panel := v.panel.withPrompt prompt }
      exact ⟨h.failure, h.files, h.exportTo, h.opening⟩
  | answered result =>
      obtain hnone | ⟨-, hanswer⟩ := h
      · have hheard := same_heard s result v
        rw [react, receive_eq]
        exact hheard.trans (same_writePicture s (hheard.exportTo.trans hnone))
      · exact absurd rfl (hanswer result)
  | exposed => exact same_refresh s v
  | resized width height => exact .refl v
  | closed => exact same_dropRequest v
  | idle now =>
      simp only [react, keepPace]
      split <;> exact ⟨rfl, rfl, rfl, rfl⟩
  | ending =>
      have h := same_dropRequest v
      exact ⟨h.failure, h.files, h.exportTo, h.opening⟩
  | other => exact .refl v

/-- A whole run goes on as it was, if there is nothing to write or the viewer waits for a result
that does not come. -/
theorem same_play (s : Surface σ ℓ) {v : Viewer σ} {moments : List (Moment σ)}
    (h : v.exportTo = none ∨ v.awaits ∧ Unanswered moments) : Same v (v.play s moments) := by
  induction moments generalizing v with
  | nil => exact .refl v
  | cons m moments ih =>
      have hpass : Same v (v.pass s m) := by
        cases m with
        | change surface => exact ⟨rfl, rfl, rfl, rfl⟩
        | event e =>
            refine same_react s (h.imp_right fun ⟨hawaits, hanswers⟩ => ⟨hawaits, ?_⟩)
            rintro result rfl
            exact hanswers result List.mem_cons_self
      -- whichever of the two holds is about what stays the same
      refine hpass.trans (ih (h.imp hpass.exportTo.trans fun ⟨⟨text, htext⟩, hanswers⟩ => ⟨?_, ?_⟩))
      · exact ⟨text, hpass.opening.trans htext⟩
      · exact fun result hmem => hanswers result (List.mem_cons_of_mem _ hmem)

/-! ## Writing the picture -/

/-- A source was drawn on a canvas, and the picture of it that was taken next is at a path. -/
def Exported (s : Surface σ ℓ) (source : String) (c : Canvas σ) (path : Path) (files : Tree) :
    Prop :=
  (c.draw s source).1 = .ok () ∧
    ∃ picture, ((c.draw s source).2.picture s source).1 = .ok picture ∧
      files.picture? path = some picture

/-- A panel without a complaint after a source was to come on screen shows that source. -/
theorem display_eq_ok (s : Surface σ ℓ) {source : String} {p : Panel} {c : Canvas σ}
    (h : (p.display s source c).2.1.complaint = none) :
    (c.draw s source).1 = .ok () ∧ (p.display s source c).2.1.source = source ∧
      (p.display s source c).2.2 = (c.draw s source).2 := by
  unfold Panel.display at h ⊢
  rcases hdraw : c.draw s source with ⟨_ | _, c'⟩
  · rw [hdraw] at h
    cases h
  · exact ⟨rfl, rfl, rfl⟩

/-- After a picture was asked for, there is none to write any more.  The path is spent even when
nothing was written, so that a picture is written once at most, and a failure is not made up for
later. -/
theorem exportTo_writePicture (s : Surface σ ℓ) (v : Viewer σ) :
    (v.writePicture s).2.exportTo = none := by
  unfold writePicture
  rcases hpath : v.exportTo with _ | path
  · exact hpath
  · dsimp only
    cases v.panel.complaint <;> rfl

/-- A viewer that ends well after it wrote its picture had no complaint, and the picture is of what
was on screen. -/
theorem writePicture_eq_ok (s : Surface σ ℓ) {v : Viewer σ} {path : Path}
    (hpath : v.exportTo = some path) (h : (v.writePicture s).2.failure = none) :
    v.panel.complaint = none ∧ ∃ picture, (v.canvas.picture s v.panel.source).1 = .ok picture ∧
      (v.writePicture s).2.files.picture? path = some picture := by
  unfold writePicture at h ⊢
  simp only [hpath] at h ⊢
  cases hcomplaint : v.panel.complaint with
  | some message => simp [hcomplaint] at h
  | none =>
      simp only [hcomplaint] at h ⊢
      -- a picture that could not be saved would be the failure of the viewer
      have hsaved : (v.canvas.saveAs s v.panel.source path v.files).1 = .ok () := by
        cases hresult : (v.canvas.saveAs s v.panel.source path v.files).1 with
        | ok _ => rfl
        | error e => simp [hresult] at h
      exact ⟨trivial, Canvas.saveAs_eq_ok hsaved⟩

/-- What was written after a source was to come on screen is that source. -/
theorem exported_display (s : Surface σ ℓ) {source : String} {p : Panel} {c : Canvas σ}
    {v : Viewer σ} {path : Path} (hpanel : v.panel = (p.display s source c).2.1)
    (hcanvas : v.canvas = (p.display s source c).2.2) (hpath : v.exportTo = some path)
    (h : (v.writePicture s).2.failure = none) :
    Exported s source c path (v.writePicture s).2.files := by
  obtain ⟨hcomplaint, picture, hpicture, hfile⟩ := writePicture_eq_ok s hpath h
  rw [hpanel] at hcomplaint
  obtain ⟨hdrawn, hsource, hcanvas'⟩ := display_eq_ok s hcomplaint
  rw [hpanel, hcanvas, hsource, hcanvas'] at hpicture
  exact ⟨hdrawn, picture, hpicture, hfile⟩

/-- Only a source that came back and was given to the screen is written after a request, unless the
request was given up. -/
theorem exported_heard (s : Surface σ ℓ) {result : Except Service.Failure String} {v : Viewer σ}
    {path : Path} (hpath : v.exportTo = some path) (hresult : result ≠ .error .givenUp)
    (h : ((v.heard s result).writePicture s).2.failure = none) :
    ∃ text, result = .ok text ∧
      Exported s text v.canvas path ((v.heard s result).writePicture s).2.files := by
  have hpath' := (same_heard s result v).exportTo.trans hpath
  have hcanvas : v.dropRequest.canvas = v.canvas := by
    unfold dropRequest
    split <;> rfl
  cases result with
  | ok text =>
      refine ⟨text, rfl, ?_⟩
      rw [← hcanvas]
      exact exported_display s rfl rfl hpath' h
  | error e =>
      -- a failure that is not a cancellation leaves a complaint, and then nothing is written
      obtain ⟨hcomplaint, -⟩ := writePicture_eq_ok s hpath' h
      have hgivenUp : e.isGivenUp = false := by
        cases e <;> first | rfl | exact absurd rfl hresult
      simp [heard, Panel.receive, hgivenUp] at hcomplaint

/-! ## Whole runs -/

/-- The canvas of a source that was to come on screen is the one it was drawn on. -/
theorem canvas_display (s : Surface σ ℓ) (source : String) (p : Panel) (c : Canvas σ) :
    (p.display s source c).2.2 = (c.draw s source).2 := by
  unfold Panel.display
  rcases c.draw s source with ⟨_ | _, c'⟩ <;> rfl

/-- Once its picture was written or has failed, a run ends as it is. -/
theorem same_written (s : Surface σ ℓ) (v : Viewer σ) (moments : List (Moment σ)) :
    Same (v.writePicture s).2 ((v.writePicture s).2.play s moments) :=
  same_play s (.inl (exportTo_writePicture s v))

/-- A viewer that waits is as it was after it started. -/
theorem same_started (s : Surface σ ℓ) {v : Viewer σ} {text : String}
    (h : v.opening = .prompt text) : Same v (v.start s).2 := by
  rw [start_eq, h]
  exact (same_opened s v).trans (same_ask _)

/-- A run that writes as soon as it started, and ends well, has written the source that came on
screen last. -/
theorem exported_started (s : Surface σ ℓ) {v : Viewer σ} {path : Path} {source : String}
    {p : Panel} {c : Canvas σ} (hstart : (v.start s).2 = ((v.opened s).writePicture s).2)
    (hpanel : (v.opened s).panel = (p.display s source c).2.1)
    (hcanvas : (v.opened s).canvas = (p.display s source c).2.2)
    (hpath : v.exportTo = some path) (moments : List (Moment σ))
    (h : (v.play s (.event .started :: moments)).failure = none) :
    Exported s source c path (v.play s (.event .started :: moments)).files := by
  have hplay : v.play s (.event .started :: moments) =
      ((v.opened s).writePicture s).2.play s moments :=
    congrArg (play s · moments) hstart
  -- what comes after the picture changes neither the failure nor the files
  have hrest := same_written s (v.opened s) moments
  rw [hplay, hrest.failure] at h
  rw [hplay, hrest.files]
  exact exported_display s hpanel hcanvas ((same_opened s v).exportTo.trans hpath) h

/-- A run for the initial source that ends well has written it. -/
theorem exported_initial (s : Surface σ ℓ) {v : Viewer σ} {path : Path}
    (hopening : v.opening = .initial) (hsource : v.source = none) (hpath : v.exportTo = some path)
    (moments : List (Moment σ)) (h : (v.play s (.event .started :: moments)).failure = none) :
    Exported s Shader.initialSource v.canvas path
      (v.play s (.event .started :: moments)).files := by
  have hstart : (v.start s).2 = ((v.opened s).writePicture s).2 := by rw [start_eq, hopening]
  have hopened : v.opened s = { v with
      panel := (v.panel.displayInitial s v.canvas).2.1
      canvas := (v.panel.displayInitial s v.canvas).2.2 } := by
    unfold opened showSource
    simp only [hsource]
  exact exported_started s hstart (congrArg panel hopened) (congrArg canvas hopened) hpath moments h

/-- A run for the source from a file that ends well has written that, whether or not the initial
source was drawn before. -/
theorem exported_file (s : Surface σ ℓ) {v : Viewer σ} {path file : Path} {text : String}
    (hopening : v.opening = .file file) (hsource : v.source = some text)
    (hpath : v.exportTo = some path) (moments : List (Moment σ))
    (h : (v.play s (.event .started :: moments)).failure = none) :
    Exported s text (v.canvas.draw s Shader.initialSource).2 path
      (v.play s (.event .started :: moments)).files := by
  have hstart : (v.start s).2 = ((v.opened s).writePicture s).2 := by rw [start_eq, hopening]
  let first := v.panel.displayInitial s v.canvas
  have hopened : v.opened s = { v with
      panel := (first.2.1.display s text first.2.2).2.1
      canvas := (first.2.1.display s text first.2.2).2.2
      source := none } := by
    unfold opened showSource
    simp only [hsource]
    rfl
  rw [← canvas_display s _ v.panel]
  exact exported_started s hstart (congrArg panel hopened) (congrArg canvas hopened) hpath moments h

/-- A run for a prompt to which no result comes in ends as it began. -/
theorem same_unanswered (s : Surface σ ℓ) {v : Viewer σ} {text : String}
    (hopening : v.opening = .prompt text) {moments : List (Moment σ)} (h : Unanswered moments) :
    Same v (v.play s (.event .started :: moments)) := by
  have hstarted := same_started s hopening
  exact hstarted.trans (same_play s (.inr ⟨⟨text, hstarted.opening.trans hopening⟩, h⟩))

/-- A run for a prompt that ends well has written the first source that came back. -/
theorem exported_prompt (s : Surface σ ℓ) {v : Viewer σ} {path : Path} {text : String}
    (hopening : v.opening = .prompt text) (hpath : v.exportTo = some path)
    {before after : List (Moment σ)} {result : Except Service.Failure String}
    (hbefore : Unanswered before) (hresult : result ≠ .error .givenUp)
    (h : (v.play s (.event .started :: (before ++ .event (.answered result) :: after))).failure =
      none) :
    ∃ source, result = .ok source ∧
      Exported s source (v.play s (.event .started :: before)).canvas path
        (v.play s (.event .started :: (before ++ .event (.answered result) :: after))).files := by
  have hwaiting := same_unanswered s hopening hbefore
  have hplay : v.play s (.event .started :: (before ++ .event (.answered result) :: after)) =
      (((v.play s (.event .started :: before)).heard s result).writePicture s).2.play s after := by
    rw [← List.cons_append, play_append]
    show (Viewer.receive s result _).2.play s after = _
    rw [receive_eq]
  -- the viewer still waits for the first result, and after it there is nothing to write
  have hrest := same_written s ((v.play s (.event .started :: before)).heard s result) after
  rw [hplay, hrest.failure] at h
  rw [hplay, hrest.files]
  exact exported_heard s (hwaiting.exportTo.trans hpath) hresult h

/-- **A run that ends well has written what was asked for.**  When a picture is asked for, a run
without a failure has left it at its path, and it shows the initial source, the text of the file, or
the source that the service returned, drawn on the viewer's canvas as it then was.  A run that ends
before any result came in ends well and writes nothing, and of a run whose request was given up
nothing is said.  The plan is there to say which source was asked for, and the events may come in
any order; that the run ends well is asked only where a picture is promised. -/
theorem exported_of_success (s : Surface σ ℓ) {e : Environment} {files : Tree} {a : Arguments}
    {p : Plan} {path : Path} (hplan : plan e files a = .ok p) (hpath : a.exportTo = some path)
    (x : σ) (moments : List (Moment σ)) :
    let start := ofPlan p x files
    let v := start.play s (.event .started :: (moments ++ [.event .ending]))
    match p.options.opening with
      | .initial => v.failure = none →
          Exported s Shader.initialSource start.canvas path v.files
      | .file source => v.failure = none → ∃ text, files.readText source = .ok text ∧
          Exported s text (start.canvas.draw s Shader.initialSource).2 path v.files
      | .prompt _ => (Unanswered moments → v.failure = none ∧ v.files = files) ∧
          ∀ before result after, moments = before ++ .event (.answered result) :: after →
            Unanswered before → result ≠ .error .givenUp → v.failure = none →
              ∃ text, result = .ok text ∧ Exported s text
                (start.play s (.event .started :: before)).canvas path v.files := by
  intro start v
  obtain ⟨hoptions, hsource⟩ := plan_eq_ok_iff.mp hplan
  have hexport : start.exportTo = some path := (exportTo_of_options hoptions).trans hpath
  cases hopening : p.options.opening with
  | initial =>
      rw [hopening] at hsource
      have hnone : start.source = none := (Except.ok.inj hsource).symm
      exact fun hok => exported_initial s hopening hnone hexport _ hok
  | file source =>
      rw [hopening] at hsource
      obtain ⟨text, hread, htext⟩ := text_of_source hsource
      exact fun hok => ⟨text, hread, exported_file s hopening htext hexport _ hok⟩
  | prompt text =>
      refine ⟨?_, ?_⟩
      · intro hmoments
        have hall : Unanswered (moments ++ [.event .ending]) := fun result hmem => by
          simp only [List.mem_append, List.mem_singleton, Moment.event.injEq, reduceCtorEq,
            or_false] at hmem
          exact hmoments result hmem
        have hsame := same_unanswered s (v := start) hopening hall
        exact ⟨hsame.failure, hsame.files⟩
      · intro before result after hmoments hbefore hresult hok
        have hv : v = start.play s (.event .started ::
            (before ++ .event (.answered result) :: (after ++ [.event .ending]))) := by
          simp only [v, hmoments, List.append_assoc, List.cons_append]
        rw [hv] at hok ⊢
        exact exported_prompt s hopening hexport hbefore hresult hok

/-! ## Two runs -/

/-- A surface of one pixel on which everything succeeds. -/
def obliging : Surface Unit Unit where
  view _ := ⟨1, 1, true, Binary.ofNat .single 0⟩
  answer request x := (match request with
    | .present => .ok ()
    | .gl (.createShader _) | .gl .createProgram | .gl .createBuffer => .ok 1
    | .gl (.compileStatus _) | .gl (.linkStatus _) => true
    | .gl (.shaderLog _) | .gl (.programLog _) => ""
    | .gl (.attribLocation _ _) => none
    | .gl (.uniformLocation _ _) => none
    | .gl (.readRgba _ _) => [0, 0, 0, 255]
    | .gl (.shaderSource _ _) | .gl (.compileShader _) | .gl (.deleteShader _)
    | .gl (.attachShader _ _) | .gl (.detachShader _ _) | .gl (.linkProgram _)
    | .gl (.useProgram _) | .gl (.deleteProgram _) | .gl (.uploadArrayBuffer _ _)
    | .gl (.bindArrayBuffer _) | .gl (.deleteBuffer _) | .gl (.floatAttribPointer _ _)
    | .gl (.uniformVec2 _ _ _) | .gl (.uniformFloat _ _) | .gl (.viewport _ _)
    | .gl (.clearColor _) | .gl (.drawTriangleStrip _ _) => (), x)

/-- A command line that asks for the picture of a prompt. -/
def pictureArguments : Arguments :=
  { prompt := some "plasma", endpoint := some "http://[::1]"
    exportTo := some (.ofText "out.png"), config := some (.ofText "config.toml") }

theorem exported_of_success_plasma :
    ∃ p, plan {} {} pictureArguments = .ok p ∧
      let start := ofPlan p () {}
      let v := start.play obliging [.event .started, .event (.answered (.ok "x")), .event .ending]
      v.failure = none ∧
        Exported obliging "x" (start.play obliging [.event .started]).canvas (.ofText "out.png")
          v.files := by
  have hrun : ((plan {} {} pictureArguments).toOption.map fun p => (p.options.opening,
      ((ofPlan p () {}).play obliging
        [.event .started, .event (.answered (.ok "x")), .event .ending]).failure)) =
      some (.prompt "plasma", none) := by
    decide +kernel
  cases hplan : plan {} {} pictureArguments with
  | error e => simp [hplan, Except.toOption] at hrun
  | ok p =>
      rw [hplan] at hrun
      obtain ⟨hopening, hfailure⟩ := Prod.mk.inj (Option.some.inj hrun)
      have hwritten := exported_of_success obliging hplan rfl () [.event (.answered (.ok "x"))]
      rw [hopening] at hwritten
      obtain ⟨text, htext, hexported⟩ := hwritten.2 [] (.ok "x") [] rfl nofun nofun hfailure
      cases htext
      exact ⟨p, rfl, hfailure, hexported⟩

/-- A window that is closed before the result comes in ends its run well and without a picture. -/
theorem closed_before_answer :
    ∃ p, plan {} {} pictureArguments = .ok p ∧ p.options.exportTo = some (.ofText "out.png") ∧
      let v := (ofPlan p () {}).play obliging [.event .started, .event .closed, .event .ending]
      v.failure = none ∧ v.files.picture? (.ofText "out.png") = none := by
  have hrun : ((plan {} {} pictureArguments).toOption.map fun p => (p.options.exportTo,
      ((ofPlan p () {}).play obliging [.event .started, .event .closed, .event .ending]).failure,
      ((ofPlan p () {}).play obliging [.event .started, .event .closed,
        .event .ending]).files.picture? (.ofText "out.png"))) =
      some (some (.ofText "out.png"), none, none) := by
    decide +kernel
  cases hplan : plan {} {} pictureArguments with
  | error e => simp [hplan, Except.toOption] at hrun
  | ok p =>
      rw [hplan] at hrun
      obtain ⟨hexport, hrest⟩ := Prod.mk.inj (Option.some.inj hrun)
      obtain ⟨hfailure, hpicture⟩ := Prod.mk.inj hrest
      exact ⟨p, rfl, hexport, hfailure, hpicture⟩

end ShaderSketch.Viewer
