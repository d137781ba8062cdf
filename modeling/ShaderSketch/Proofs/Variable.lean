import ShaderSketch.Proofs.Invocation
import ShaderSketch.Proofs.Results
import ShaderSketch.Options

/-!
# The endpoint from the environment

The endpoint that the environment names can be read in two ways: straight from the variable, and by
way of a command line that names none and settings that name none either.  Blanks and defaults come
in at different places on the two ways, but both end at the same endpoint, or at the same error.

## Main definitions

* `CommandLine.Names` — the words that name a parameter
* `CommandLine.Draft.Without` — nothing was taken in yet for the endpoint
* `CommandLine.Spoken` — what an environment says of the endpoint
* `Options.Agree` — the endpoint of a library and the options of a program agree

## Main results

* `CommandLine.without_words` : words that do not name the endpoint leave it open
* `CommandLine.parse_without` : then it is what the variable says
* `Options.combine_eq` : options of which only the endpoint can be wrong
* `Options.agree_of_variable` : both ways agree

## Design notes

Words behind the mark that ends the options name nothing, whatever they look like.  The invariant of
the induction over the words therefore speaks of the words in front of it as long as it is to come.
-/

namespace ShaderSketch

open Service (Endpoint)

namespace CommandLine

/-! ## Words that name a parameter -/

/-- The words that name a parameter, with a value in the same word or without one. -/
def Names (p : Parameter) (word : List UInt8) : Prop :=
  word = 0x2d :: 0x2d :: Utf8.encode p.name.toList ∨ ∃ value, word = attached (p, value)

/-- A word that is read as an option of a name is spelled with it. -/
theorem spelled_of_long {word name : List UInt8} {value : Option (List UInt8)}
    (h : Word.of word = .long name value) :
    word = 0x2d :: 0x2d :: (name ++ (value.map (0x3d :: ·)).getD []) := by
  unfold Word.of at h
  split at h
  · cases h
  · next rest _ =>
      have hrest : rest.takeWhile (· ≠ 0x3d) ++ rest.dropWhile (· ≠ 0x3d) = rest :=
        List.takeWhile_append_dropWhile
      dsimp only at h
      split at h
      · next hdrop =>
          obtain ⟨rfl, rfl⟩ := Word.long.inj h
          rw [hdrop, List.append_nil] at hrest
          rw [hrest]
          simp
      · next b value' hdrop =>
          obtain ⟨rfl, rfl⟩ := Word.long.inj h
          -- the word is cut at an equals sign, which is written back
          have hb : b = 0x3d := by
            have hstop := List.head?_dropWhile_not (fun c : UInt8 => decide (c ≠ 0x3d)) rest
            rw [hdrop] at hstop
            simpa using hstop
          rw [hdrop, hb] at hrest
          rw [Option.map_some, Option.getD_some, hrest]
  · cases h
  · cases h

/-- The mark that ends the options names no parameter. -/
theorem not_names_mark {p : Parameter} (hp : p.name.toList ≠ []) : ¬ Names p mark := by
  have hname : Utf8.encode p.name.toList ≠ [] := by
    intro h
    have hnil : Utf8.decode? [] = some [] := Utf8.decode?_encode []
    rw [← h, Utf8.decode?_encode] at hnil
    exact hp (Option.some.inj hnil)
  rintro (heq | ⟨value, heq⟩)
  · exact hname (by simpa [mark] using heq.symm)
  · simp [mark, attached] at heq

/-- A word that is read as an option for a parameter names it. -/
theorem names_of_long {word name : List UInt8} {value : Option (List UInt8)} {text : List Char}
    {p : Parameter} (h : Word.of word = .long name value) (htext : Utf8.decode? name = some text)
    (hp : Parameter.ofName? (String.ofList text) = some p) : Names p word := by
  have hname : name = Utf8.encode p.name.toList := by
    have hfound := List.find?_some hp
    have heq : p.name = String.ofList text := by simpa using hfound
    rw [heq, String.toList_ofList, Utf8.decode?_eq_some_iff.mp htext]
  have hspelled := spelled_of_long h
  rw [hname] at hspelled
  cases value with
  | none => exact .inl (by simpa using hspelled)
  | some value => exact .inr ⟨value, by simpa [attached] using hspelled⟩

/-! ## Drafts without an endpoint -/

/-- Nothing was taken in yet for the endpoint. -/
structure Draft.Without (d : Draft) : Prop where
  given : .endpoint ∉ d.given
  pending : ∀ value, d.pending ≠ some (.endpoint, value)
  endpoint : d.arguments.endpoint = none

/-- Other values leave the endpoint as it is. -/
theorem endpoint_assign {a a' : Arguments} {p : Parameter} {bytes : List UInt8}
    (h : assign a p bytes = .ok a') (hp : p ≠ .endpoint) : a'.endpoint = a.endpoint := by
  cases p with
  | endpoint => exact absurd rfl hp
  | prompt | source | config =>
      obtain ⟨_, -, heq⟩ := bind_eq_ok_iff.mp h
      obtain rfl := Except.ok.inj heq
      rfl
  | timeout | size | exportTo =>
      obtain ⟨_, -, heq⟩ := bind_eq_ok_iff.mp h
      split at heq
      · obtain rfl := Except.ok.inj heq
        rfl
      · cases heq

namespace Draft

variable {d d' : Draft}

theorem Without.take (h : d.Without) {p : Parameter} {bytes : List UInt8}
    (htake : d.take p bytes = .ok d') (hp : p ≠ .endpoint) : d'.Without := by
  unfold Draft.take at htake
  split at htake
  · cases htake
  · obtain ⟨a, ha, htake⟩ := bind_eq_ok_iff.mp htake
    obtain rfl := Except.ok.inj htake
    refine ⟨?_, h.pending, (endpoint_assign ha hp).trans h.endpoint⟩
    simpa [h.given] using Ne.symm hp

theorem Without.settle (h : d.Without) (hsettle : d.settle = .ok d') : d'.Without := by
  unfold Draft.settle at hsettle
  split at hsettle
  · exact Except.ok.inj hsettle ▸ h
  · cases hsettle
  · next p bytes hpending =>
      have hp : p ≠ .endpoint := by
        rintro rfl
        exact h.pending _ hpending
      exact Without.take (d := { d with pending := none }) ⟨h.given, nofun, h.endpoint⟩ hsettle hp

theorem Without.alone (h : d.Without) {word : List UInt8} (halone : d.alone word = .ok d') :
    d'.Without := by
  unfold Draft.alone at halone
  split at halone
  · cases halone
  · obtain ⟨d₁, hsettle, halone⟩ := bind_eq_ok_iff.mp halone
    obtain rfl := Except.ok.inj halone
    have h₁ := h.settle hsettle
    exact ⟨h₁.given, by simp, h₁.endpoint⟩

/-- A flag that is answered ends the reading. -/
theorem answer_ne_ok (d : Draft) (flag : Flag) : d.answer flag ≠ .ok d' := by
  intro h
  obtain ⟨_, -, hthrow⟩ := bind_eq_ok_iff.mp h
  cases hthrow

/-- An option in one word, or one that waits for its value: neither of them is the endpoint, as the
word does not name it. -/
theorem Without.long (h : d.Without) {word name : List UInt8} {value : Option (List UInt8)}
    (hword : Word.of word = .long name value) (hnames : ¬ Names .endpoint word)
    (hlong : d.long name value = .ok d') : d'.Without := by
  unfold Draft.long at hlong
  split at hlong
  · cases hlong
  · next text htext =>
      have hother {p : Parameter} (hp : Parameter.ofName? (String.ofList text) = some p) :
          p ≠ .endpoint := by
        rintro rfl
        exact hnames (names_of_long hword htext hp)
      split at hlong
      · next p bytes hp =>
          obtain ⟨d₁, hsettle, htake⟩ := bind_eq_ok_iff.mp hlong
          exact (h.settle hsettle).take htake (hother hp)
      · next p hp =>
          obtain ⟨d₁, hsettle, hpure⟩ := bind_eq_ok_iff.mp hlong
          obtain rfl := Except.ok.inj hpure
          have h₁ := h.settle hsettle
          exact ⟨h₁.given, by simp [hother hp], h₁.endpoint⟩
      · cases hlong
      · exact absurd hlong (answer_ne_ok d _)
      · cases hlong

/-- **A word that does not name the endpoint leaves it open**, and so does any word behind the mark
that ends the options.  A word may be the value of the option in front of it, so that this has to be
known not to be the endpoint. -/
theorem Without.word (h : d.Without) {w : List UInt8}
    (hnames : d.escaped = false → ¬ Names .endpoint w) (hword : d.word w = .ok d') :
    d'.Without := by
  unfold Draft.word at hword
  split at hword
  · exact h.alone hword
  · next hopen =>
      have hunnamed := hnames (by simpa using hopen)
      split at hword
      · obtain rfl := Except.ok.inj hword
        exact ⟨h.given, h.pending, h.endpoint⟩
      · next hlong => exact h.long hlong hunnamed hword
      · unfold Draft.short at hword
        split at hword
        · exact Except.ok.inj hword ▸ h
        · split at hword
          · exact absurd hword (answer_ne_ok d _)
          · exact absurd hword (answer_ne_ok d _)
          · cases hword
          · cases hword
      · split at hword
        · next p hpending =>
            obtain rfl := Except.ok.inj hword
            have hp : p ≠ .endpoint := by
              rintro rfl
              exact h.pending _ hpending
            exact ⟨h.given, by simp [hp], h.endpoint⟩
        · exact h.alone hword

/-- Values are taken in on either side of the mark that ends the options. -/
theorem escaped_take {p : Parameter} {bytes : List UInt8} (h : d.take p bytes = .ok d') :
    d'.escaped = d.escaped := by
  unfold Draft.take at h
  split at h
  · cases h
  · obtain ⟨_, -, h⟩ := bind_eq_ok_iff.mp h
    obtain rfl := Except.ok.inj h
    rfl

theorem escaped_settle (h : d.settle = .ok d') : d'.escaped = d.escaped := by
  unfold Draft.settle at h
  split at h
  · exact Except.ok.inj h ▸ rfl
  · cases h
  · exact escaped_take (d := { d with pending := none }) h

theorem escaped_alone {word : List UInt8} (h : d.alone word = .ok d') :
    d'.escaped = d.escaped := by
  unfold Draft.alone at h
  split at h
  · cases h
  · obtain ⟨d₁, hsettle, h⟩ := bind_eq_ok_iff.mp h
    obtain rfl := Except.ok.inj h
    have hkept : d₁.escaped = d.escaped := escaped_settle hsettle
    exact hkept

/-- Behind the mark it stays that way. -/
theorem escaped_word (hescaped : d.escaped = true) {w : List UInt8} (h : d.word w = .ok d') :
    d'.escaped = true := by
  rw [Draft.word, if_pos hescaped] at h
  exact (escaped_alone h).trans hescaped

theorem escaped_mark (hopen : d.escaped = false) (h : d.word mark = .ok d') :
    d'.escaped = true := by
  have hmark : d.word mark = .ok { d with escaped := true } := by
    rw [Draft.word, hopen]
    rfl
  rw [hmark] at h
  exact Except.ok.inj h ▸ rfl

end Draft

/-- **Words that do not name the endpoint leave it open.**  Behind the mark a word may look like the
option, and is none. -/
theorem without_words {words : List (List UInt8)} {d d' : Draft} (h : d.Without)
    (hnames : d.escaped = false → ∀ w ∈ words.takeWhile (· ≠ mark), ¬ Names .endpoint w)
    (hwords : words.foldlM Draft.word d = .ok d') : d'.Without := by
  induction words generalizing d with
  | nil => exact Except.ok.inj hwords ▸ h
  | cons w words ih =>
      rw [List.foldlM_cons] at hwords
      obtain ⟨d₁, hword, hwords⟩ := bind_eq_ok_iff.mp hwords
      by_cases hmark : w = mark
      · have hunnamed : ¬ Names .endpoint w := by
          rw [hmark]
          exact not_names_mark (by decide)
        refine ih (h.word (fun _ => hunnamed) hword) (fun hopen => ?_) hwords
        -- the draft is behind the mark now
        have hescaped : d₁.escaped = true := by
          cases hd : d.escaped with
          | false => exact Draft.escaped_mark hd (hmark ▸ hword)
          | true => exact Draft.escaped_word hd hword
        rw [hescaped] at hopen
        cases hopen
      · rw [List.takeWhile_cons_of_pos (by simpa using hmark)] at hnames
        refine ih (h.word (fun hopen => hnames hopen w List.mem_cons_self) hword)
          (fun hopen => ?_) hwords
        cases hd : d.escaped with
        | false => exact fun w' hw' => hnames hd w' (List.mem_cons_of_mem _ hw')
        | true =>
            rw [Draft.escaped_word hd hword] at hopen
            cases hopen

/-! ## Command lines without an endpoint -/

/-- What an environment says of the endpoint: it says nothing, or it names one. -/
def Spoken (e : Environment) (value : Option String) : Prop :=
  e.get? Endpoint.variableName = value.map fun text => Utf8.encode text.toList

theorem Spoken.text? {e : Environment} {value : Option String} (h : Spoken e value) :
    e.text? Endpoint.variableName = value := by
  rw [Environment.text?, h]
  cases value with
  | none => rfl
  | some text =>
      simp only [Option.map_some, Option.bind_eq_bind, Option.bind_some, Utf8.decode?_encode,
        Option.pure_def, String.ofList_toList]

/-- The environment fills in the endpoint of a draft that has none. -/
theorem fromEnvironment_without {e : Environment} {value : Option String} (h : Spoken e value)
    {d : Draft} (hd : d.Without) :
    ∃ given, (given.filter fun p => p = .prompt || p = .source) =
        (d.given.filter fun p => p = .prompt || p = .source) ∧
      d.fromEnvironment e = .ok { d with
        arguments := { d.arguments with endpoint := value }, given := given } := by
  rw [Draft.fromEnvironment, h]
  cases value with
  | none =>
      have hkept : { d.arguments with endpoint := none } = d.arguments := by
        rw [← hd.endpoint]
      exact ⟨d.given, rfl, by rw [hkept]; rfl⟩
  | some text =>
      have hnew : d.given.contains .endpoint = false := by simpa using hd.given
      -- the endpoint is neither of the two that may be in conflict
      refine ⟨d.given ++ [.endpoint], by simp, ?_⟩
      simp only [Option.map_some, hnew, Draft.take, assign, textValue_encode, bind, Except.bind,
        pure, Except.pure, String.ofList_toList, Bool.false_eq_true, if_false]

/-- **A command line that does not name the endpoint** is read as it would be without an
environment, with the endpoint of the environment filled in.  The words are read in the same way on
both sides, with their errors, and the variable only comes in at the end. -/
theorem parse_without {words : List (List UInt8)}
    (hnames : ∀ w ∈ words.takeWhile (· ≠ mark), ¬ Names .endpoint w) {e : Environment}
    {value : Option String} (h : Spoken e value) :
    parse e words = (parse {} words).map fun a => { a with endpoint := value } := by
  unfold parse
  cases hwords : words.foldlM Draft.word {} with
  | error stop => rfl
  | ok d =>
      have hd : d.Without := without_words ⟨by simp, by simp, rfl⟩ (fun _ => hnames) hwords
      cases hsettle : d.settle with
      | error stop => simp only [hsettle, bind, Except.bind, Except.map]
      | ok d₁ =>
          have hd₁ := hd.settle hsettle
          have hempty : d₁.fromEnvironment {} = .ok d₁ := rfl
          obtain ⟨given, hgiven, hfrom⟩ := fromEnvironment_without h hd₁
          have hconflict : Draft.checkConflict { d₁ with
              arguments := { d₁.arguments with endpoint := value }, given := given } =
              d₁.checkConflict := by
            rw [Draft.checkConflict, Draft.checkConflict, hgiven]
          simp only [hsettle, hempty, hfrom, hconflict, bind, Except.bind]
          cases d₁.checkConflict with
          | error stop => rfl
          | ok _ => rfl

end CommandLine

/-! ## Both ways -/

namespace Options

open CommandLine

/-- The endpoint of a library and the options of a program agree: both exist or none does, they have
the same addresses, and they fail by the same error, which the program tells as a cause.  Neither
side is taken for the right one. -/
structure Agree (library : Except Endpoint.Error Endpoint) (program : Except Error Options) :
    Prop where
  exist : (∃ service, library = .ok service) ↔ ∃ o, program = .ok o
  same : ∀ service o, library = .ok service → program = .ok o →
    o.service.base = service.base ∧ o.service.target = service.target
  fail : ∀ e, library = .error e ↔ program = .error (.endpoint e)
  chain : ∀ e e', library = .error e → program = .error e' → e.message ∈ e'.chain

/-- **Options of which only the endpoint can be wrong.**  What is put together of the endpoint
afterwards cannot fail, so that it is a function (`finish`) and the two sides fail together. -/
theorem combine_eq {a : Arguments} {s : Settings} (htimeout : chooseTimeout a s ≠ 0)
    (hsize : (chooseSize a s).width ≠ 0 ∧ (chooseSize a s).height ≠ 0) :
    ∃ finish : Endpoint → Options,
      (∀ service, (finish service).service = service.withTimeout (chooseTimeout a s)) ∧
      combine a s = ((Endpoint.ofText (chooseEndpoint a s)).mapError .endpoint).map finish := by
  refine ⟨fun service => {
    service := service.withTimeout (chooseTimeout a s)
    window := ⟨s.window.title, (chooseSize a s).width, (chooseSize a s).height, a.exportTo.isNone⟩
    opening := chooseOpening a
    exportTo := a.exportTo }, fun _ => rfl, ?_⟩
  rw [combine, if_neg htimeout]
  cases Endpoint.ofText (chooseEndpoint a s) with
  | error e => rfl
  | ok service =>
      dsimp only
      rw [if_neg (not_or.mpr hsize)]
      rfl

/-- Where the settings have no endpoint, the program asks where the library would for the same
value: a blank one says nothing on either way, before it is trimmed on both. -/
theorem ofText_chooseEndpoint {a : Arguments} {s : Settings} (hs : s.endpoint = none) :
    Endpoint.ofText (chooseEndpoint a s) = Endpoint.ofVariable a.endpoint := by
  rw [chooseEndpoint, hs]
  cases a.endpoint with
  | none => rfl
  | some text =>
      cases hblank : Text.blank text with
      | true =>
          rw [Option.filter_some_neg (by simp [hblank]), Endpoint.ofVariable, if_pos hblank]
          rfl
      | false =>
          rw [Option.filter_some_pos (by simp [hblank]), Endpoint.ofVariable,
            if_neg (by simp [hblank])]
          rfl

/-- What a program makes of an endpoint agrees with a library that has it, and so does an error
that it passes on. -/
theorem agree_of_map (library : Except Endpoint.Error Endpoint) {finish : Endpoint → Options}
    {seconds : Nat} (hfinish : ∀ service, (finish service).service = service.withTimeout seconds) :
    Agree library ((library.mapError .endpoint).map finish) where
  exist := by
    rw [map_ok_iff]
    simp only [mapError_eq_ok_iff]
  same service o hservice ho := by
    obtain ⟨service', hservice', rfl⟩ := map_eq_ok_iff.mp ho
    rw [mapError_eq_ok_iff, hservice] at hservice'
    obtain rfl := Except.ok.inj hservice'
    rw [hfinish]
    exact ⟨rfl, rfl⟩
  fail e := by
    rw [map_eq_error_iff, mapError_eq_error_iff]
    simp
  chain e e' he he' := by
    obtain ⟨e'', he'', rfl⟩ := mapError_eq_error_iff.mp (map_eq_error_iff.mp he')
    rw [he] at he''
    obtain rfl := Except.error.inj he''
    exact List.mem_cons_of_mem _ List.mem_cons_self

/-- Blank values are passed over, as if there was none. -/
theorem combine_of_blank {a : Arguments} (h : ∀ text ∈ a.endpoint, Text.blank text)
    (s : Settings) : combine { a with endpoint := none } s = combine a s := by
  have hendpoint : a.endpoint.filter (fun text => !Text.blank text) = none := by
    rw [Option.filter_eq_none_iff]
    simpa using h
  simp only [combine, chooseEndpoint, hendpoint]
  rfl

/-- **The variable is read alike on both ways.**  Whatever text it has, and whether or not it is
set, a library that reads it and a program whose words and settings name no endpoint agree, as long
as the other options are in order.  A blank text is the same as none to both. -/
theorem agree_of_variable {e : Environment} {value : Option String} (hvalue : Spoken e value)
    {words : List (List UInt8)} (hwords : ∀ w ∈ words.takeWhile (· ≠ mark), ¬ Names .endpoint w)
    {a : Arguments} (hparse : parse e words = .ok a) {s : Settings} (hs : s.endpoint = none)
    (htimeout : chooseTimeout a s ≠ 0)
    (hsize : (chooseSize a s).width ≠ 0 ∧ (chooseSize a s).height ≠ 0) :
    Agree (Endpoint.ofVariable (e.text? Endpoint.variableName)) (combine a s) ∧
      ((∀ text ∈ value, Text.blank text) → ∀ e', Spoken e' none →
        Endpoint.ofVariable (e.text? Endpoint.variableName) =
            Endpoint.ofVariable (e'.text? Endpoint.variableName) ∧
          ∃ a', parse e' words = .ok a' ∧ combine a s = combine a' s) := by
  rw [parse_without hwords hvalue] at hparse
  obtain ⟨a₀, ha₀, rfl⟩ := map_eq_ok_iff.mp hparse
  rw [hvalue.text?]
  obtain ⟨finish, hfinish, hcombine⟩ := combine_eq htimeout hsize
  refine ⟨?_, fun hblank e' he' => ⟨?_, ?_⟩⟩
  · rw [hcombine, ofText_chooseEndpoint hs]
    exact agree_of_map _ hfinish
  · rw [he'.text?]
    cases value with
    | none => rfl
    | some text => rw [Endpoint.ofVariable, if_pos (hblank text rfl), Endpoint.ofVariable]
  · -- without the variable the same words leave the endpoint open
    refine ⟨{ a₀ with endpoint := none }, ?_, ?_⟩
    · rw [parse_without hwords he', ha₀]
      rfl
    · exact (combine_of_blank hblank s).symm

/-- An environment in which only the variable for the endpoint is set. -/
def saying (text : String) : Environment where
  values := [(Endpoint.variableName, Utf8.encode text.toList)]

/-- Words with a prompt that looks like an option for the endpoint without being one. -/
def disguised : List (List UInt8) := [mark, attached (.endpoint, [0x61])]

/-- Beside a prompt that looks like an option for the endpoint, a variable of another scheme is
refused on both ways, and a blank one is passed over. -/
theorem agree_of_variable_disguised :
    (∃ a, parse (saying "mailto:x") disguised = .ok a ∧ a.prompt = some "--endpoint=a" ∧
      Endpoint.ofVariable ((saying "mailto:x").text? Endpoint.variableName) =
        .error (.invalid "mailto:x" "unsupported scheme 'mailto', expected http or https") ∧
      combine a {} = .error (.endpoint
        (.invalid "mailto:x" "unsupported scheme 'mailto', expected http or https"))) ∧
    ∃ a a', parse (saying " ") disguised = .ok a ∧ parse {} disguised = .ok a' ∧
      a.endpoint = some " " ∧ combine a {} = combine a' {} := by
  have hwords : ∀ w ∈ disguised.takeWhile (· ≠ mark), ¬ Names .endpoint w := by simp [disguised]
  constructor
  · have hparse : parse (saying "mailto:x") disguised =
        .ok { prompt := some "--endpoint=a", endpoint := some "mailto:x" } := by decide +kernel
    have hrefused : Endpoint.ofVariable ((saying "mailto:x").text? Endpoint.variableName) =
        .error (.invalid "mailto:x" "unsupported scheme 'mailto', expected http or https") := by
      decide +kernel
    have hvalue : Spoken (saying "mailto:x") (some "mailto:x") := rfl
    obtain ⟨hagree, -⟩ := agree_of_variable hvalue hwords hparse (s := {}) rfl (by decide)
      (by decide)
    exact ⟨_, hparse, rfl, hrefused, (hagree.fail _).mp hrefused⟩
  · have hparse : parse (saying " ") disguised =
        .ok { prompt := some "--endpoint=a", endpoint := some " " } := by decide +kernel
    have hvalue : Spoken (saying " ") (some " ") := rfl
    obtain ⟨-, hblank⟩ := agree_of_variable hvalue hwords hparse (s := {}) rfl (by decide)
      (by decide)
    obtain ⟨-, a', hparse', heq⟩ := hblank (by simp; rfl) {} rfl
    exact ⟨_, a', hparse, hparse', rfl, heq⟩

end Options

end ShaderSketch
