import Mathlib.Data.List.Basic
import ShaderSketch.Service.Client

/-!
# Calls that are polled

A client makes its calls one after another, and they share a token.  What comes of a call depends on
the prompt, on the service, and on when the token is cancelled: before the call starts, after its
first poll, or in the course of an earlier call.

## Main definitions

* `Service.Client.follow` — a call through a run of events
* `Service.Client.asks` — the client after calls
* `Service.Client.Conducted` — what a call comes to

## Main results

* `Service.Client.follow_ended`, `Service.Client.follow_waiting` : a result is final, and only a
  cancellation ends a call that nobody answers
* `Service.Client.keeps_follow` : nothing that is sent is taken back, and neither is a cancellation
* `Service.Client.conducted` : what every call comes to, whatever was called before
-/

namespace ShaderSketch.Service.Client

variable {c c' : Client} {prompt : String}

/-! ## Events -/

/-- A call and its client after events. -/
def follow (s : Call × Client) (events : List Event) : Call × Client := events.foldl step s

/-- What a client keeps: its endpoint, its service, what it sent, and a cancellation.  It goes for a
single event as for a whole series of calls, since it is passed on from each to the next. -/
structure Keeps (c c' : Client) : Prop where
  endpoint : c'.endpoint = c.endpoint
  fate : c'.fate = c.fate
  sent : c.sent <+: c'.sent
  cancelled : c.cancelled → c'.cancelled

theorem Keeps.refl (c : Client) : Keeps c c := ⟨rfl, rfl, List.prefix_rfl, id⟩

theorem Keeps.trans {c'' : Client} (h : Keeps c c') (h' : Keeps c' c'') : Keeps c c'' :=
  ⟨h'.endpoint.trans h.endpoint, h'.fate.trans h.fate, h.sent.trans h'.sent,
    h'.cancelled ∘ h.cancelled⟩

theorem keeps_poll (c : Client) (call : Call) : Keeps c (c.poll call).2 := by
  cases call with
  | made prompt =>
      rw [poll]
      split
      · exact .refl c
      split
      · exact .refl c
      · exact ⟨rfl, rfl, List.prefix_append _ _, id⟩
  | waiting => exact .refl c
  | ended result => exact .refl c

/-- **No event takes back what was sent, or a cancellation.** -/
theorem keeps_follow (s : Call × Client) (events : List Event) :
    Keeps s.2 (follow s events).2 := by
  induction events generalizing s with
  | nil => exact .refl s.2
  | cons event events ih =>
      refine Keeps.trans ?_ (ih (step s event))
      cases event with
      | poll => exact keeps_poll s.2 s.1
      | cancel => exact ⟨rfl, rfl, List.prefix_rfl, fun _ => rfl⟩

theorem poll_cancelled (c : Client) (call : Call) : (c.poll call).2.cancelled = c.cancelled := by
  cases call with
  | made prompt =>
      rw [poll]
      split
      · rfl
      split
      · rfl
      · rfl
  | waiting => rfl
  | ended result => rfl

/-- The token is cancelled when it was, or when that happens, and by nothing else. -/
theorem follow_cancelled (s : Call × Client) (events : List Event) :
    (follow s events).2.cancelled ↔ s.2.cancelled ∨ .cancel ∈ events := by
  induction events generalizing s with
  | nil => simp [follow]
  | cons event events ih =>
      rw [follow, List.foldl_cons, ← follow, ih]
      cases event with
      | poll => simp [step, poll_cancelled]
      | cancel => simp [step]

/-- **A result is final**, whatever happens afterwards, and nothing more is sent.  Neither a poll
nor a cancellation changes it any more, so that it can be told from the events up to the end. -/
theorem follow_ended (c : Client) (result : Except Failure String) (events : List Event) :
    (follow (.ended result, c) events).1 = .ended result ∧
      (follow (.ended result, c) events).2.sent = c.sent := by
  induction events generalizing c with
  | nil => exact ⟨rfl, rfl⟩
  | cons event events ih =>
      cases event with
      | poll => exact ih c
      | cancel => exact ih { c with cancelled := true }

/-- Whether a call that waits is polled after its token is cancelled. -/
def notices (cancelled : Bool) : List Event → Bool
  | [] => false
  | .poll :: events => cancelled || notices cancelled events
  | .cancel :: events => notices true events

/-- **A call that nobody answers waits until it notices a cancellation**, and sends nothing more.
Being cancelled and noticing it are two things: the call is over only at a poll behind the
cancellation. -/
theorem follow_waiting (silent : c.fate = .silence) (events : List Event) :
    (follow (.waiting, c) events).1 =
        (if notices c.cancelled events then .ended (.error .givenUp) else .waiting) ∧
      (follow (.waiting, c) events).2.sent = c.sent := by
  induction events generalizing c with
  | nil => exact ⟨rfl, rfl⟩
  | cons event events ih =>
      cases event with
      | poll =>
          have hrace : step (.waiting, c) .poll = (c.race, c) := rfl
          rw [follow, List.foldl_cons, hrace, race, silent, notices]
          cases hcancelled : c.cancelled with
          | true => exact follow_ended c _ events
          | false =>
              have hrest := ih silent
              rw [hcancelled] at hrest
              exact hrest
      | cancel => exact ih (c := { c with cancelled := true }) silent

/-! ## Calls -/

theorem follow_blank (c : Client) (blank : Text.blank prompt) (events : List Event) :
    (follow (.made prompt, c) (.poll :: events)).1 = .ended (.error .blankPrompt) ∧
      (follow (.made prompt, c) (.poll :: events)).2.sent = c.sent := by
  have hpoll : c.poll (.made prompt) = (.ended (.error .blankPrompt), c) := by
    rw [poll, if_pos blank]
  rw [follow, List.foldl_cons, step, hpoll]
  exact follow_ended c _ events

theorem follow_stopped (visible : ¬ Text.blank prompt) (cancelled : c.cancelled)
    (events : List Event) :
    (follow (.made prompt, c) (.poll :: events)).1 = .ended (.error .givenUp) ∧
      (follow (.made prompt, c) (.poll :: events)).2.sent = c.sent := by
  have hpoll : c.poll (.made prompt) = (.ended (.error .givenUp), c) := by
    rw [poll, if_neg visible, if_pos cancelled]
  rw [follow, List.foldl_cons, step, hpoll]
  exact follow_ended c _ events

/-- **A call that starts sends its prompt**, and is over with the reply that is there, or waits.
The prompt must not be blank and the token must not be cancelled yet, since these are looked at
before anything is sent. -/
theorem follow_sent (visible : ¬ Text.blank prompt) (idle : c.cancelled = false)
    (events : List Event) :
    (follow (.made prompt, c) (.poll :: events)).1 =
        (match c.fate.reply? with
        | some reply => .ended (reply.bind Response.source)
        | none => if notices false events then .ended (.error .givenUp) else .waiting) ∧
      (follow (.made prompt, c) (.poll :: events)).2.sent =
        c.sent ++ [⟨c.endpoint.target, prompt⟩] := by
  have hpoll : c.poll (.made prompt) = ((c.send prompt).race, c.send prompt) := by
    rw [poll, if_neg visible, if_neg (by simp [idle])]
  have hidle : (c.send prompt).cancelled = false := idle
  rw [follow, List.foldl_cons, step, hpoll, race, hidle, if_neg Bool.false_ne_true]
  change (follow (match c.fate.reply? with | some _ => _ | none => _, c.send prompt) events).1 = _ ∧
    (follow (match c.fate.reply? with | some _ => _ | none => _, c.send prompt) events).2.sent = _
  cases hreply : c.fate.reply? with
  | some reply => exact follow_ended (c.send prompt) _ events
  | none =>
      have silent : c.fate = .silence := by
        cases hfate : c.fate <;> simp [hfate, Fate.reply?] at hreply ⊢
      have hwait := follow_waiting (c := c.send prompt) silent events
      rw [hidle] at hwait
      exact hwait

/-! ## What is asked -/

/-- Whether a call cannot start: its token is cancelled, or will be first. -/
def Stopped (c : Client) (interruption : Interruption) : Prop :=
  c.cancelled ∨ interruption = .before

/-- Every interruption comes to a first poll, with the token cancelled or not. -/
theorem exists_first (c : Client) (prompt : String) (interruption : Interruption) :
    ∃ c' events, Keeps c c' ∧ c'.sent = c.sent ∧ (c'.cancelled ↔ c.Stopped interruption) ∧
      follow (.made prompt, c) interruption.events =
        follow (.made prompt, c') (.poll :: events) ∧
      notices false events = decide (interruption = .during) := by
  cases interruption with
  | none => exact ⟨c, [], .refl c, rfl, by simp [Stopped], rfl, rfl⟩
  | before =>
      exact ⟨{ c with cancelled := true }, [], ⟨rfl, rfl, List.prefix_rfl, fun _ => rfl⟩, rfl,
        by simp [Stopped], rfl, rfl⟩
  | during => exact ⟨c, [.cancel, .poll], .refl c, rfl, by simp [Stopped], rfl, rfl⟩

/-- What a call comes to: its result, and the client that it leaves. -/
structure Conducted (c : Client) (prompt : String) (interruption : Interruption)
    (result : Option (Except Failure String)) (c' : Client) : Prop where
  keeps : Keeps c c'
  unsent : Text.blank prompt ∨ c.Stopped interruption → c'.sent = c.sent
  sent : ¬ Text.blank prompt → ¬ c.Stopped interruption →
    c'.sent = c.sent ++ [⟨c.endpoint.target, prompt⟩]
  blank : Text.blank prompt → result = some (.error .blankPrompt)
  stopped : ¬ Text.blank prompt → c.Stopped interruption → result = some (.error .givenUp)
  lost : ¬ Text.blank prompt → ¬ c.Stopped interruption → ∀ reason, c.fate = .lost reason →
    result = some (.error (.undelivered reason))
  refused : ¬ Text.blank prompt → ¬ c.Stopped interruption → ∀ status body,
    c.fate = .answered ⟨status, body⟩ → ¬ (200 ≤ status ∧ status ≤ 299) →
    result = some (.error (.refused status))
  answered : ¬ Text.blank prompt → ¬ c.Stopped interruption → ∀ status body,
    c.fate = .answered ⟨status, body⟩ → 200 ≤ status ∧ status ≤ 299 →
    result = some (Body.source body)
  silence : ¬ Text.blank prompt → ¬ c.Stopped interruption → c.fate = .silence →
    result = if interruption = .during then some (.error .givenUp) else none
  cancelled : c'.cancelled ↔ c.Stopped interruption ∨ interruption = .during
  final : ∀ ready, (c.ask prompt .none).1 = some ready →
    ∀ events, (follow (.made prompt, c) (.poll :: events)).1 = .ended ready
  waits : ¬ Text.blank prompt → ¬ c.Stopped interruption → c.fate = .silence →
    ∀ events, (follow (.made prompt, c) (.poll :: events)).1 =
      if notices false events then .ended (.error .givenUp) else .waiting

theorem source_of_failure {status : Nat} {body : String} (h : ¬ (200 ≤ status ∧ status ≤ 299)) :
    Response.source ⟨status, body⟩ = .error (.refused status) := by
  rw [Response.source, if_neg]
  simp only [Response.isSuccess, Bool.and_eq_true, decide_eq_true_eq]
  omega

theorem source_of_success {status : Nat} {body : String} (h : 200 ≤ status ∧ status ≤ 299) :
    Response.source ⟨status, body⟩ = Body.source body := by
  rw [Response.source, if_pos]
  simp only [Response.isSuccess, Bool.and_eq_true, decide_eq_true_eq]
  omega

/-- A call that is over at its first poll stays so. -/
theorem follow_of_ask {result : Except Failure String} (h : (c.ask prompt .none).1 = some result)
    (events : List Event) : (follow (.made prompt, c) (.poll :: events)).1 = .ended result := by
  change (c.poll (.made prompt)).1.result? = some result at h
  change (follow (c.poll (.made prompt)) events).1 = .ended result
  generalize c.poll (.made prompt) = s at h ⊢
  obtain ⟨call, c'⟩ := s
  cases call with
  | ended result' =>
      obtain rfl := Option.some.inj h
      exact (follow_ended c' result' events).1
  | made _ => cases h
  | waiting => cases h

/-- What becomes of a call that nobody answers. -/
theorem follow_silent (visible : ¬ Text.blank prompt) (idle : c.cancelled = false)
    (silent : c.fate = .silence) (events : List Event) :
    (follow (.made prompt, c) (.poll :: events)).1 =
      if notices false events then .ended (.error .givenUp) else .waiting := by
  rw [(follow_sent visible idle events).1, silent]
  rfl

/-- The cases are what stops a call before its first poll, and what its reply is then. -/
theorem conducted_ask (c : Client) (prompt : String) (interruption : Interruption) :
    Conducted c prompt interruption (c.ask prompt interruption).1
      (c.ask prompt interruption).2 := by
  obtain ⟨c₁, events, hkeeps, hsent, hstopped, hfollow, hnotices⟩ :=
    exists_first c prompt interruption
  have hask : c.ask prompt interruption =
      ((follow (.made prompt, c) interruption.events).1.result?,
        (follow (.made prompt, c) interruption.events).2) := rfl
  have hcancelled : (c.ask prompt interruption).2.cancelled ↔
      c.Stopped interruption ∨ interruption = .during := by
    rw [hask, follow_cancelled]
    cases interruption <;> simp [Stopped, Interruption.events]
  have hkept : Keeps c (c.ask prompt interruption).2 :=
    keeps_follow (.made prompt, c) interruption.events
  rw [hask, hfollow] at hcancelled hkept ⊢
  by_cases hblank : Text.blank prompt
  · obtain ⟨hresult, hnone⟩ := follow_blank c₁ hblank events
    rw [hresult]
    exact {
      keeps := hkept
      unsent _ := hnone.trans hsent
      blank _ := rfl
      cancelled := hcancelled
      sent h := absurd hblank h
      stopped h := absurd hblank h
      lost h := absurd hblank h
      refused h := absurd hblank h
      answered h := absurd hblank h
      silence h := absurd hblank h
      final _ h := follow_of_ask h
      waits h := absurd hblank h }
  by_cases hearly : c.Stopped interruption
  · obtain ⟨hresult, hnone⟩ := follow_stopped hblank (hstopped.mpr hearly) events
    rw [hresult]
    exact {
      keeps := hkept
      unsent _ := hnone.trans hsent
      stopped _ _ := rfl
      cancelled := hcancelled
      blank h := absurd h hblank
      sent _ h := absurd hearly h
      lost _ h := absurd hearly h
      refused _ h := absurd hearly h
      answered _ h := absurd hearly h
      silence _ h := absurd hearly h
      final _ h := follow_of_ask h
      waits _ h := absurd hearly h }
  · have hidle : c₁.cancelled = false := by simpa using mt hstopped.mp hearly
    obtain ⟨hresult, hone⟩ := follow_sent hblank hidle events
    rw [hresult, hkeeps.fate, hnotices]
    exact {
      keeps := hkept
      sent _ _ := by rw [hone, hsent, hkeeps.endpoint]
      cancelled := hcancelled
      lost _ _ reason h := by rw [h]; rfl
      refused _ _ status body h hstatus := by
        rw [h]
        exact congrArg some (source_of_failure hstatus)
      answered _ _ status body h hstatus := by
        rw [h]
        exact congrArg some (source_of_success hstatus)
      silence _ _ h := by
        rw [h]
        cases interruption <;> rfl
      unsent h := absurd h (by tauto)
      blank h := absurd h hblank
      stopped _ h := absurd h hearly
      final _ h := follow_of_ask h
      waits _ _ silent := follow_silent hblank (by simpa using mt Or.inl hearly) silent }

/-! ## Calls one after another -/

/-- The client after calls. -/
def asks (c : Client) (calls : List (String × Interruption)) : Client :=
  calls.foldl (fun c call => (c.ask call.1 call.2).2) c

/-- **Calls one after another** keep what the client sent, and the token is cancelled when it was
cancelled before or in the course of one of them.  It is all that a call needs to know of the calls
before it. -/
theorem asks_spec (c : Client) (calls : List (String × Interruption)) :
    Keeps c (c.asks calls) ∧
      ((c.asks calls).cancelled ↔ c.cancelled ∨ ∃ call ∈ calls, call.2 ≠ .none) := by
  induction calls generalizing c with
  | nil => exact ⟨.refl c, by simp [asks]⟩
  | cons call calls ih =>
      obtain ⟨prompt, interruption⟩ := call
      have hcall := conducted_ask c prompt interruption
      obtain ⟨hkeeps, hcancelled⟩ := ih (c.ask prompt interruption).2
      refine ⟨hcall.keeps.trans hkeeps, ?_⟩
      rw [asks, List.foldl_cons, ← asks, hcancelled, hcall.cancelled]
      cases interruption <;> simp [Stopped]

/-- A client whose token is cancelled sends nothing any more. -/
theorem asks_sent {c : Client} (h : c.cancelled) (calls : List (String × Interruption)) :
    (c.asks calls).sent = c.sent := by
  induction calls generalizing c with
  | nil => rfl
  | cons call calls ih =>
      obtain ⟨prompt, interruption⟩ := call
      have hcall := conducted_ask c prompt interruption
      rw [asks, List.foldl_cons, ← asks, ih (hcall.keeps.cancelled h),
        hcall.unsent (.inr (.inl h))]

/-- **What a call comes to after other calls**: it starts unless the token was cancelled before or
in the course of one of them, and if the token is cancelled after it, no later call starts.  The
other calls may be any, and cancelled at any moment; the token is one for all of them, which is why
a cancellation in one of them is the end of all that follow. -/
theorem conducted (endpoint : Endpoint) (fate : Fate)
    (earlier later : List (String × Interruption)) (prompt : String)
    (interruption : Interruption) :
    let c := asks { endpoint, fate } earlier
    let c' := (c.ask prompt interruption).2
    (c.endpoint = endpoint ∧ c.fate = fate ∧
        (c.cancelled ↔ ∃ call ∈ earlier, call.2 ≠ .none)) ∧
      Conducted c prompt interruption (c.ask prompt interruption).1 c' ∧
      (c'.cancelled → (c'.asks later).cancelled ∧ (c'.asks later).sent = c'.sent) := by
  obtain ⟨hkeeps, hcancelled⟩ := asks_spec { endpoint, fate } earlier
  refine ⟨⟨hkeeps.endpoint, hkeeps.fate, by simpa using hcancelled⟩, conducted_ask _ _ _,
    fun h => ⟨(asks_spec _ later).1.cancelled h, asks_sent h later⟩⟩

end ShaderSketch.Service.Client
