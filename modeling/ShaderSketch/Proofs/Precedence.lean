import ShaderSketch.Options

/-!
# Which layer prevails

What a run does is said in layers: the command line, the settings below it, and the defaults below
these.  Of several layers the first one that says something prevails, and what lies beneath it is
not looked at, however wrong it may be.

## Main definitions

* `Options.Prevails` — the first of several layers that says something
* `Options.Choice`, `Options.Chosen` — the values that prevail for given arguments and settings
* `Options.AgreeBeneath` — settings that agree on all that the command line leaves open
* `Options.Opens` — what comes on screen first for given arguments
* `Options.Settled` — options that are made of what prevails

## Main results

`Options.combine_prevails` : the options depend on what prevails and on nothing else, they exist
exactly when it is acceptable, and then they are made of it.
-/

namespace ShaderSketch.Options

/-! ## Layers -/

/-- The first of several layers that says something prevails.  Layers below may say anything, which
is what makes a layer upper. -/
inductive Prevails {α : Type} : List (Option α) → α → Prop
  | here (a : α) (beneath : List (Option α)) : Prevails (some a :: beneath) a
  | beneath {a : α} {layers : List (Option α)} (h : Prevails layers a) : Prevails (none :: layers) a

/-- Layers are searched from above, up to the first that says something. -/
theorem prevails_iff {α : Type} {layers : List (Option α)} {a : α} :
    Prevails layers a ↔ layers.findSome? id = some a := by
  induction layers with
  | nil => exact iff_of_false nofun nofun
  | cons layer layers ih =>
      cases layer with
      | none =>
          rw [List.findSome?_cons_of_isNone rfl, ← ih]
          exact ⟨fun | .beneath h => h, .beneath⟩
      | some b =>
          rw [List.findSome?_cons_of_isSome rfl]
          constructor
          · rintro ⟨⟩
            rfl
          · rintro ⟨⟩
            exact .here a layers

/-- One value prevails at most. -/
theorem Prevails.unique {α : Type} {layers : List (Option α)} {a b : α} (h : Prevails layers a)
    (h' : Prevails layers b) : a = b :=
  Option.some.inj ((prevails_iff.mp h).symm.trans (prevails_iff.mp h'))

/-- Something prevails over a default. -/
theorem prevails_getD {α : Type} (first second : Option α) (default : α) :
    Prevails [first, second, some default] ((first <|> second).getD default) := by
  rw [prevails_iff]
  cases first <;> cases second <;> rfl

/-! ## What prevails -/

/-- The endpoint, the timeout in seconds and the size of the window. -/
@[ext]
structure Choice where
  endpoint : String
  timeout : Nat
  size : Size

/-- The values that prevail: those of the command line, then those of the settings, then the
defaults.  A blank endpoint on the command line says nothing; settings always have a size.  Choosing
is apart from accepting: a value that prevails and cannot be used is an error, and no lower layer
takes its place. -/
structure Chosen (a : Arguments) (s : Settings) (choice : Choice) : Prop where
  endpoint : Prevails [a.endpoint.filter fun e => !Text.blank e, s.endpoint,
    some Service.Endpoint.defaultText] choice.endpoint
  timeout : Prevails [a.timeout, s.timeout, some Service.Endpoint.defaultTimeout] choice.timeout
  size : Prevails [a.size, some ⟨s.window.width, s.window.height⟩] choice.size

theorem Chosen.unique {a : Arguments} {s : Settings} {choice choice' : Choice}
    (h : Chosen a s choice) (h' : Chosen a s choice') : choice = choice' :=
  Choice.ext (h.endpoint.unique h'.endpoint) (h.timeout.unique h'.timeout) (h.size.unique h'.size)

/-- The values that are chosen are those that prevail. -/
theorem chosen_choose (a : Arguments) (s : Settings) :
    Chosen a s ⟨chooseEndpoint a s, chooseTimeout a s, chooseSize a s⟩ where
  endpoint := prevails_getD _ _ _
  timeout := prevails_getD _ _ _
  size := by
    rw [prevails_iff, chooseSize]
    cases a.size <;> rfl

/-- Settings that agree on the title, and on every key that the command line leaves open.  What is
left open on the command line is asked for only there; the title is no option, so that it comes from
the settings always. -/
structure AgreeBeneath (a : Arguments) (s s' : Settings) : Prop where
  title : s.window.title = s'.window.title
  endpoint : (∀ e ∈ a.endpoint, Text.blank e) → s.endpoint = s'.endpoint
  timeout : a.timeout = none → s.timeout = s'.timeout
  size : a.size = none →
    s.window.width = s'.window.width ∧ s.window.height = s'.window.height

/-- **What lies beneath is not looked at.**  Errors are meant as well, with the texts that they
carry. -/
theorem AgreeBeneath.combine_eq {a : Arguments} {s s' : Settings} (h : AgreeBeneath a s s') :
    combine a s = combine a s' := by
  have hendpoint : chooseEndpoint a s = chooseEndpoint a s' := by
    unfold chooseEndpoint
    cases hspoken : a.endpoint.filter fun e => !Text.blank e with
    | some e => rfl
    | none =>
        have hblank : ∀ e ∈ a.endpoint, Text.blank e := by
          intro e he
          simpa using Option.filter_eq_none_iff.mp hspoken e he
        rw [h.endpoint hblank]
  have htimeout : chooseTimeout a s = chooseTimeout a s' := by
    unfold chooseTimeout
    cases hspoken : a.timeout with
    | some seconds => rfl
    | none => rw [h.timeout hspoken]
  have hsize : chooseSize a s = chooseSize a s' := by
    unfold chooseSize
    cases hspoken : a.size with
    | some size => rfl
    | none => rw [(h.size hspoken).1, (h.size hspoken).2]
  simp only [combine, hendpoint, htimeout, hsize, h.title]

/-! ## The options -/

/-- What comes on screen first: a source for a prompt that is not blank, else one from a file, else
the initial one. -/
inductive Opens (a : Arguments) : Opening → Prop
  | prompt {text : String} (given : a.prompt = some text) (visible : Text.blank text = false) :
      Opens a (.prompt text)
  | file {path : Path} (silent : ∀ text ∈ a.prompt, Text.blank text)
      (given : a.source = some path) :
      Opens a (.file path)
  | initial (silent : ∀ text ∈ a.prompt, Text.blank text) (lacking : a.source = none) :
      Opens a .initial

/-- The three openings exclude each other, so that this is the one. -/
theorem opens_choose (a : Arguments) : Opens a (chooseOpening a) := by
  unfold chooseOpening
  cases hspoken : a.prompt.filter fun p => !Text.blank p with
  | some text =>
      obtain ⟨hgiven, hvisible⟩ := Option.filter_eq_some_iff.mp hspoken
      exact .prompt hgiven (by simpa using hvisible)
  | none =>
      have hsilent : ∀ text ∈ a.prompt, Text.blank text := by
        intro text htext
        simpa using Option.filter_eq_none_iff.mp hspoken text htext
      cases hsource : a.source with
      | some path => exact .file hsilent hsource
      | none => exact .initial hsilent hsource

/-- Values that options can be made of.  Each part is about one value, and no value is accepted for
the sake of another. -/
structure Acceptable (choice : Choice) : Prop where
  timeout : choice.timeout ≠ 0
  endpoint : ∃ service, Service.Endpoint.ofText choice.endpoint = .ok service
  width : choice.size.width ≠ 0
  height : choice.size.height ≠ 0

/-- Options that are made of what prevails: requests may take a second at least, the window has
pixels, and it is shown exactly when no picture is to be written. -/
structure Settled (a : Arguments) (s : Settings) (choice : Choice) (o : Options) : Prop where
  service : (Service.Endpoint.ofText choice.endpoint).map (·.withTimeout choice.timeout) =
    .ok o.service
  timeout : 1 ≤ o.service.timeout
  window : o.window = ⟨s.window.title, choice.size.width, choice.size.height, o.window.visible⟩
  width : 0 < o.window.width
  height : 0 < o.window.height
  visible : o.window.visible ↔ a.exportTo = none
  opening : Opens a o.opening
  exportTo : o.exportTo = a.exportTo

/-- There are options exactly for values that they can be made of. -/
theorem combine_isOk_iff (a : Arguments) (s : Settings) :
    (∃ o, combine a s = .ok o) ↔
      Acceptable ⟨chooseEndpoint a s, chooseTimeout a s, chooseSize a s⟩ := by
  unfold combine
  constructor
  · rintro ⟨o, ho⟩
    split at ho
    · cases ho
    · rename_i htimeout
      split at ho
      · cases ho
      · rename_i service hservice
        dsimp only at ho
        split at ho
        · cases ho
        · rename_i hsize
          obtain ⟨hwidth, hheight⟩ := not_or.mp hsize
          exact ⟨htimeout, ⟨service, hservice⟩, hwidth, hheight⟩
  · rintro ⟨htimeout, ⟨service, hservice⟩, hwidth, hheight⟩
    dsimp only at htimeout hservice hwidth hheight
    rw [if_neg htimeout, hservice]
    dsimp only
    rw [if_neg (not_or.mpr ⟨hwidth, hheight⟩)]
    exact ⟨_, rfl⟩

/-- Every check that was passed leaves its part in the options. -/
theorem settled_of_combine {a : Arguments} {s : Settings} {o : Options} (h : combine a s = .ok o) :
    Settled a s ⟨chooseEndpoint a s, chooseTimeout a s, chooseSize a s⟩ o := by
  obtain ⟨htimeout, ⟨service, hservice⟩, hwidth, hheight⟩ := (combine_isOk_iff a s).mp ⟨o, h⟩
  dsimp only at htimeout hservice hwidth hheight
  rw [combine, if_neg htimeout, hservice] at h
  dsimp only at h
  rw [if_neg (not_or.mpr ⟨hwidth, hheight⟩)] at h
  obtain rfl := Except.ok.inj h
  exact {
    service := by rw [hservice]; rfl
    timeout := Nat.one_le_iff_ne_zero.mpr htimeout
    window := rfl
    width := UInt32.pos_iff_ne_zero.mpr hwidth
    height := UInt32.pos_iff_ne_zero.mpr hheight
    visible := Option.isNone_iff_eq_none
    opening := opens_choose a
    exportTo := rfl }

/-- **The upper layer prevails.**  Settings that agree on the title and on all that the command line
leaves open come to the same options, or to the same error.  For all arguments and settings one
choice of values prevails; there are options exactly when it is acceptable, and then they are made
of it. -/
theorem combine_prevails (a : Arguments) (s : Settings) :
    (∀ s', AgreeBeneath a s s' → combine a s = combine a s') ∧
      ∃ choice, Chosen a s choice ∧ (∀ choice', Chosen a s choice' → choice' = choice) ∧
        ((∃ o, combine a s = .ok o) ↔ Acceptable choice) ∧
        ∀ o, combine a s = .ok o → Settled a s choice o :=
  ⟨fun _ h => h.combine_eq, _, chosen_choose a s, fun _ h => h.unique (chosen_choose a s),
    combine_isOk_iff a s, fun _ => settled_of_combine⟩

/-- A command line that leaves nothing open but what is drawn. -/
def outspoken : Arguments where
  endpoint := some "http://[::1]"
  timeout := some 5
  size := some ⟨4, 2⟩

/-- Settings that would be refused wherever they prevailed. -/
def hopeless : Settings where
  endpoint := some "ftp://nowhere"
  timeout := some 0
  window := { width := 0, height := 0 }

/-- Even hopeless settings do not matter where the command line says it all. -/
theorem combine_prevails_outspoken :
    AgreeBeneath outspoken {} hopeless ∧ combine outspoken {} = combine outspoken hopeless ∧
      (∃ e, combine {} hopeless = .error e) := by
  have hagree : AgreeBeneath outspoken {} hopeless :=
    ⟨rfl, fun h => absurd (h _ rfl) (by decide), nofun, nofun⟩
  exact ⟨hagree, (combine_prevails outspoken {}).1 hopeless hagree, _, rfl⟩

end ShaderSketch.Options
