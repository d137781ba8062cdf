import Mathlib.Data.List.Nodup
import Mathlib.Data.List.Range
import Mathlib.Logic.Relation
import ShaderSketch.Canvas.MemorySurface
import ShaderSketch.Proofs.Kinship
import ShaderSketch.Viewer.Basic

/-!
# Requests under way

A viewer, together with the requests that it has sent.  Each of them may deliver its result once, at
any time or never, and events of all kinds may come in between.

## Main definitions

* `Viewer.Sent` — a request that was sent, and its result once the viewer was told
* `Viewer.Traffic`, `Viewer.Traffic.Step` — a viewer with its requests, and what can happen next
* `Viewer.Desk` — what a viewer knows of its requests
* `Viewer.Orderly` — the invariant: nothing is running, or the last request is
* `Viewer.OneRequest` — what the invariant comes to

## Main results

* `Viewer.dealt_react` : an event does nothing to the desk, drops the token that lies there, or asks
* `Viewer.orderly_step` : every step keeps the order
* `Viewer.one_request_at_a_time` : one request at a time, and none is left running

## Design notes

The panel, the viewer and the request each have a record of the same thing: the panel waits, the
viewer holds a token, and the request has no result yet.  A token can be dropped while its request
runs on, so the three agree only up to that.
-/

namespace ShaderSketch

namespace Viewer

open Cancellation

variable {σ ℓ : Type}

/-! ## Traffic -/

/-- A request that was sent: its prompt, the token that cancels it, and its result once the viewer
was told.  The entry stays when the result was delivered, so that nothing is forgotten of a request
that is over. -/
structure Sent where
  prompt : String
  token : Token
  result : Option (Except Service.Failure String) := none
  deriving DecidableEq

/-- The requests that are sent by actions. -/
def requests (actions : List Action) : List Sent :=
  actions.filterMap fun
    | .send prompt token => some { prompt, token }
    | _ => none

/-- A viewer with all requests that it has sent, the oldest first.  The list of requests is kept
beside the viewer, which itself holds one token at most. -/
structure Traffic (σ : Type) where
  viewer : Viewer σ
  sent : List Sent := []

namespace Traffic

/-- What can happen next: an event, a request that delivers its result, or a change of the
surface. -/
inductive Move (σ : Type)
  | event (e : Event)
  | deliver (i : Nat) (result : Except Service.Failure String)
  | change (surface : σ)

/-- A viewer after an event, with the requests sent before it and in it. -/
def handle (s : Surface σ ℓ) (t : Traffic σ) (e : Event) (sent : List Sent) : Traffic σ :=
  ⟨(t.viewer.react s e).2, sent ++ requests (t.viewer.react s e).1⟩

/-- **Steps.**  Results come from requests only, and only from those that have not delivered one
yet; every other event may come at any time. -/
inductive Step (s : Surface σ ℓ) (t : Traffic σ) : Move σ → Traffic σ → Prop
  | event {e : Event} (own : ∀ result, e ≠ .answered result) :
      Step s t (.event e) (t.handle s e t.sent)
  | deliver {i : Nat} {r : Sent} {result : Except Service.Failure String}
      (sent : t.sent[i]? = some r) (running : r.result = none) :
      Step s t (.deliver i result)
        (t.handle s (.answered result) (t.sent.set i { r with result := some result }))
  | change {surface : σ} :
      Step s t (.change surface)
        { t with viewer := { t.viewer with canvas := { t.viewer.canvas with surface } } }

/-- What can come of some traffic after any number of steps. -/
def Reachable (s : Surface σ ℓ) : Traffic σ → Traffic σ → Prop :=
  Relation.ReflTransGen fun t t' => ∃ m, Step s t m t'

/-- A viewer before its first event, which has sent nothing. -/
def start (p : Plan) (surface : σ) (files : Tree) : Traffic σ :=
  { viewer := ofPlan p surface files }

/-- The requests whose results the viewer was not told. -/
def running (t : Traffic σ) : List Sent := t.sent.filter (·.result.isNone)

/-- Whether the token of a request is cancelled. -/
def cancelled (t : Traffic σ) (r : Sent) : Bool := t.viewer.tokens.isCancelled r.token

end Traffic

/-! ## The desk -/

/-- What a viewer knows of its requests: whether it waits for one, the flags of all tokens, and the
token that it holds. -/
structure Desk where
  waiting : Bool
  tokens : Families
  request : Option Token

/-- What a viewer knows of its requests. -/
def desk (v : Viewer σ) : Desk := ⟨v.panel.waiting, v.tokens, v.request⟩

/-- A desk without the token that lay on it. -/
def Desk.drop (d : Desk) : Desk :=
  match d.request with
  | some token => { d with tokens := d.tokens.cancel token, request := none }
  | none => d

/-- A desk with a new token, which belongs to a new request. -/
def Desk.ask (d : Desk) : Desk :=
  { Desk.drop { d with tokens := d.tokens.create.2 } with
    waiting := true, request := some d.tokens.create.1 }

theorem Desk.drop_of_none {d : Desk} (h : d.request = none) : d.drop = d := by
  rw [Desk.drop, h]

/-- What is cancelled stays cancelled when the token is dropped. -/
theorem Desk.isCancelled_drop {d : Desk} {token : Token} (h : d.tokens.isCancelled token) :
    d.drop.tokens.isCancelled token := by
  unfold Desk.drop
  split
  · exact Families.isCancelled_cancel h
  · exact h

/-- What is cancelled stays cancelled when a request is sent. -/
theorem Desk.isCancelled_ask {d : Desk} {token : Token} (h : d.tokens.isCancelled token) :
    d.ask.tokens.isCancelled token := by
  have hcreate : ({ d with tokens := d.tokens.create.2 } : Desk).tokens.isCancelled token :=
    Families.isCancelled_create h
  exact Desk.isCancelled_drop hcreate

/-- What comes of a desk in an event that is no result: nothing, the token is dropped, or a request
is sent where none was running.  What an event does to the panel otherwise, and to the surface, is
of no concern to the desk. -/
inductive Dealt (d : Desk) : Desk → List Sent → Prop
  | nothing : Dealt d d []
  | dropped : Dealt d d.drop []
  | asked (prompt : String) (idle : d.waiting = false) :
      Dealt d d.ask [{ prompt, token := d.tokens.create.1 }]

/-- What is cancelled stays cancelled in every event. -/
theorem Dealt.isCancelled {d d' : Desk} {new : List Sent} {token : Token} (hdealt : Dealt d d' new)
    (h : d.tokens.isCancelled token) : d'.tokens.isCancelled token := by
  cases hdealt with
  | nothing => exact h
  | dropped => exact Desk.isCancelled_drop h
  | asked => exact Desk.isCancelled_ask h

theorem desk_dropRequest (v : Viewer σ) : v.dropRequest.desk = v.desk.drop := by
  obtain ⟨panel, canvas, title, opening, source, exportTo, tokens, _ | token, pacer, failure,
    files⟩ := v <;> rfl

theorem desk_refresh (s : Surface σ ℓ) (v : Viewer σ) : (v.refresh s).desk = v.desk := by
  unfold refresh
  split
  · rfl
  · exact congrArg (Desk.mk · v.tokens v.request) (Panel.waiting_refresh s v.panel v.canvas)

theorem desk_writePicture (s : Surface σ ℓ) (v : Viewer σ) :
    (v.writePicture s).2.desk = v.desk ∧ requests (v.writePicture s).1 = [] := by
  unfold writePicture
  split
  · exact ⟨rfl, rfl⟩
  · dsimp only
    split <;> exact ⟨rfl, rfl⟩

theorem desk_keepPace (now : Nat) (v : Viewer σ) :
    (v.keepPace now).2.desk = v.desk ∧ requests (v.keepPace now).1 = [] := by
  unfold keepPace
  dsimp only
  rcases v.pacer.consult _ now with ⟨_ | turn, pacer⟩
  · exact ⟨rfl, rfl⟩
  · refine ⟨rfl, ?_⟩
    dsimp only
    split <;> rfl

theorem requests_tell (v : Viewer σ) : requests v.tell = [] := by
  unfold tell
  split <;> rfl

theorem desk_showSource (s : Surface σ ℓ) (v : Viewer σ) :
    (v.showSource s).2.desk = v.desk ∧ requests (v.showSource s).1 = [] := by
  unfold showSource
  split
  · exact ⟨rfl, rfl⟩
  · refine ⟨?_, requests_tell _⟩
    exact congrArg (Desk.mk · v.tokens v.request) (Panel.waiting_display s _ v.panel v.canvas)

/-- A viewer that waits for a new request, before the token of the old one is dropped. -/
def awaiting (v : Viewer σ) : Viewer σ :=
  { v with
    panel := { v.panel with complaint := none, fromRefresh := false, waiting := true }
    tokens := v.tokens.create.2 }

theorem ask_of_mayAsk {v : Viewer σ} (h : v.panel.mayAsk) :
    v.ask = let v' := { v.awaiting.dropRequest with request := some v.tokens.create.1 }
      ([v'.retitle, .send v.panel.prompt v.tokens.create.1], v') := by
  unfold ask Panel.ask
  rw [if_pos h]
  rfl

theorem ask_of_not_mayAsk {v : Viewer σ} (h : v.panel.mayAsk = false) : v.ask = ([], v) := by
  unfold ask Panel.ask
  rw [if_neg (by simp [h])]

/-- A viewer that may ask sends the prompt of its panel, and puts a new token on its desk. -/
theorem desk_ask {v : Viewer σ} (h : v.panel.mayAsk) :
    v.ask.2.desk = v.desk.ask ∧
      requests v.ask.1 = [{ prompt := v.panel.prompt, token := v.tokens.create.1 }] := by
  rw [ask_of_mayAsk h]
  refine ⟨?_, rfl⟩
  have hdrop := desk_dropRequest v.awaiting
  have hdesk : v.awaiting.desk = { v.desk with waiting := true, tokens := v.tokens.create.2 } := rfl
  -- the token that is dropped lay there before, whatever the panel says of the new request
  have hask : { v.awaiting.desk.drop with request := some v.tokens.create.1 } = v.desk.ask := by
    rw [hdesk]
    unfold Desk.ask Desk.drop desk
    cases v.request <;> rfl
  rw [← hask, ← hdrop]
  rfl

theorem dealt_ask (v : Viewer σ) : Dealt v.desk v.ask.2.desk (requests v.ask.1) := by
  cases hmay : v.panel.mayAsk with
  | false =>
      rw [ask_of_not_mayAsk hmay]
      exact .nothing
  | true =>
      obtain ⟨hdesk, hsent⟩ := desk_ask hmay
      rw [hdesk, hsent]
      have hidle : v.panel.waiting = false := by
        rw [Panel.mayAsk, Bool.and_eq_true] at hmay
        simpa using hmay.1
      exact .asked v.panel.prompt hidle

/-- A viewer that starts may ask for its prompt, and does so last. -/
theorem dealt_start (s : Surface σ ℓ) (v : Viewer σ) :
    Dealt v.desk (v.start s).2.desk (requests (v.start s).1) := by
  unfold start
  dsimp only
  -- both sources are shown without a look at the desk
  generalize hshown : Viewer.mk _ _ _ _ _ _ _ _ _ _ _ = shown
  have hdesk : shown.desk = v.desk := by
    rw [← hshown]
    exact congrArg (Desk.mk · v.tokens v.request) (Panel.waiting_display s _ v.panel v.canvas)
  obtain ⟨hsource, hsilent⟩ := desk_showSource s shown
  rw [hdesk] at hsource
  rw [requests, List.filterMap_append]
  change Dealt v.desk _ (requests _ ++ requests _)
  rw [hsilent, List.nil_append, ← hsource]
  split
  · exact dealt_ask _
  · obtain ⟨hpicture, hnone⟩ := desk_writePicture s (shown.showSource s).2
    rw [hpicture, hnone]
    exact .nothing
  · obtain ⟨hpicture, hnone⟩ := desk_writePicture s (shown.showSource s).2
    rw [hpicture, hnone]
    exact .nothing

/-- A result takes the token from the desk, and nothing is waited for any more. -/
theorem desk_receive (s : Surface σ ℓ) (result : Except Service.Failure String) (v : Viewer σ) :
    (v.receive s result).2.desk = { v.desk.drop with waiting := false } ∧
      requests (v.receive s result).1 = [] := by
  unfold receive
  dsimp only
  generalize hheard : Viewer.mk _ _ _ _ _ _ _ _ _ _ _ = heard
  have hdesk : heard.desk = { v.dropRequest.desk with waiting := false } := by
    rw [← hheard]
    exact congrArg (Desk.mk · _ _) (Panel.waiting_receive s result v.dropRequest.panel _)
  obtain ⟨hpicture, hnone⟩ := desk_writePicture s heard
  refine ⟨?_, ?_⟩
  · rw [hpicture, hdesk, desk_dropRequest]
  · rw [requests, List.filterMap_append]
    change requests _ ++ requests _ = []
    rw [requests_tell, hnone]
    rfl

/-- **What an event does to the desk.**  An event that is no result does nothing to it, drops the
token that lies there, or sends a request if none is running.  The events are gone through once, and
here: a step of the traffic knows of them only what this says. -/
theorem dealt_react (s : Surface σ ℓ) (v : Viewer σ) {e : Event}
    (own : ∀ result, e ≠ .answered result) :
    Dealt v.desk (v.react s e).2.desk (requests (v.react s e).1) := by
  cases e with
  | started => exact dealt_start s v
  | prompted prompt => exact dealt_ask { v with panel := v.panel.withPrompt prompt }
  | answered result => exact absurd rfl (own result)
  | exposed =>
      have hdesk : (v.react s .exposed).2.desk = v.desk := desk_refresh s v
      rw [hdesk]
      exact .nothing
  | resized width height => exact .nothing
  | closed =>
      have hdesk : (v.react s .closed).2.desk = v.desk.drop := desk_dropRequest v
      rw [hdesk]
      exact .dropped
  | idle now =>
      obtain ⟨hdesk, hnone⟩ := desk_keepPace now v
      change Dealt v.desk (v.keepPace now).2.desk (requests (v.keepPace now).1)
      rw [hdesk, hnone]
      exact .nothing
  | ending =>
      have hdesk : (v.react s .ending).2.desk = v.desk.drop := desk_dropRequest v
      rw [hdesk]
      exact .dropped
  | other => exact .nothing

/-! ## The invariant -/

/-- Requests and tokens are numbered alike: each request has the token that was created for it, and
no token was created for anything else. -/
def Numbered (d : Desk) (sent : List Sent) : Prop :=
  sent.map Sent.token = (List.range d.tokens.flags.length).map Token.mk

/-- A request is over when the viewer was told its result; its token is cancelled by then. -/
def Over (d : Desk) (r : Sent) : Prop := r.result.isSome ∧ d.tokens.isCancelled r.token

/-- **The invariant.**  Nothing is running and nothing lies on the desk; or the last request is
running, and its token lies on the desk unless it is cancelled.  In the second case the token may be
missing from the desk: the request was cancelled then, but it still has its result to deliver. -/
inductive Orderly (d : Desk) : List Sent → Prop
  | idle {sent : List Sent} (numbered : Numbered d sent) (past : ∀ r ∈ sent, Over d r)
      (waiting : d.waiting = false) (request : d.request = none) : Orderly d sent
  | busy {before : List Sent} {r : Sent} (numbered : Numbered d (before ++ [r]))
      (past : ∀ r ∈ before, Over d r) (waiting : d.waiting = true) (running : r.result = none)
      (held : d.request = if d.tokens.isCancelled r.token then none else some r.token) :
      Orderly d (before ++ [r])

theorem Numbered.lt {d : Desk} {sent : List Sent} {r : Sent} (h : Numbered d sent)
    (hr : r ∈ sent) : r.token.family < d.tokens.flags.length := by
  have hmem : r.token ∈ (List.range d.tokens.flags.length).map Token.mk :=
    h ▸ List.mem_map_of_mem hr
  obtain ⟨i, hi, heq⟩ := List.mem_map.mp hmem
  rw [← heq]
  exact List.mem_range.mp hi

/-- Dropping the token creates none. -/
theorem Numbered.drop {d : Desk} {sent : List Sent} (h : Numbered d sent) :
    Numbered d.drop sent := by
  unfold Numbered Desk.drop at *
  split
  · simpa [Families.cancel] using h
  · exact h

theorem Over.drop {d : Desk} {r : Sent} (h : Over d r) : Over d.drop r :=
  ⟨h.1, Desk.isCancelled_drop h.2⟩

theorem Over.ask {d : Desk} {r : Sent} (h : Over d r) : Over d.ask r :=
  ⟨h.1, Desk.isCancelled_ask h.2⟩

/-- When the last request is the only one running, its token is cancelled once it is dropped. -/
theorem isCancelled_of_held {d : Desk} {token : Token}
    (hlt : token.family < d.tokens.flags.length)
    (held : d.request = if d.tokens.isCancelled token then none else some token) :
    d.drop.tokens.isCancelled token := by
  cases hcancelled : d.tokens.isCancelled token with
  | true =>
      have hnone : d.request = none := by rw [held, if_pos hcancelled]
      rwa [Desk.drop_of_none hnone]
  | false =>
      have hsome : d.request = some token := by rw [held, if_neg (by simp [hcancelled])]
      rw [Desk.drop, hsome]
      exact Families.isCancelled_cancel_self hlt

theorem Desk.drop_waiting (d : Desk) : d.drop.waiting = d.waiting := by
  unfold Desk.drop
  split <;> rfl

theorem Desk.drop_request (d : Desk) : d.drop.request = none := by
  unfold Desk.drop
  split
  · rfl
  · assumption

/-- Dropping the token keeps the order, and leaves no token that is not cancelled. -/
theorem Orderly.drop {d : Desk} {sent : List Sent} (h : Orderly d sent) :
    Orderly d.drop sent ∧ ∀ r ∈ sent, d.drop.tokens.isCancelled r.token := by
  cases h with
  | idle numbered past waiting request =>
      rw [Desk.drop_of_none request]
      exact ⟨.idle numbered past waiting request, fun r hr => (past r hr).2⟩
  | @busy before last numbered past waiting running held =>
      have hcancelled := isCancelled_of_held (numbered.lt (by simp)) held
      refine ⟨.busy numbered.drop (fun r hr => (past r hr).drop) (d.drop_waiting.trans waiting)
        running ?_, ?_⟩
      · rw [if_pos hcancelled, Desk.drop_request]
      · intro r' hr'
        obtain hbefore | hlast := List.mem_append.mp hr'
        · exact (past r' hbefore).drop.2
        · rwa [List.mem_singleton.mp hlast]

/-- A request that is sent while none is running is the one that runs. -/
theorem Orderly.ask {d : Desk} {sent : List Sent} (h : Orderly d sent) (idle : d.waiting = false)
    (prompt : String) : Orderly d.ask (sent ++ [{ prompt, token := d.tokens.create.1 }]) := by
  cases h with
  | idle numbered past waiting request =>
      have hask : d.ask = ⟨true, d.tokens.create.2, some d.tokens.create.1⟩ := by
        have hdrop : Desk.drop { d with tokens := d.tokens.create.2 } =
            { d with tokens := d.tokens.create.2 } := Desk.drop_of_none request
        rw [Desk.ask, hdrop]
      refine .busy ?_ (fun r hr => (past r hr).ask) (by rw [hask]) rfl ?_
      · rw [Numbered, List.map_append, numbered, hask]
        simp [Families.create, List.range_succ]
      · rw [hask]
        simp only [Families.not_isCancelled_create]
        rfl
  | busy numbered past waiting => simp [idle] at waiting

/-- A result that comes in is that of the last request, and then nothing is running. -/
theorem Orderly.deliver {d : Desk} {sent : List Sent} {i : Nat} {r : Sent}
    (h : Orderly d sent) (hr : sent[i]? = some r) (running : r.result = none)
    (result : Except Service.Failure String) :
    i + 1 = sent.length ∧
      Orderly { d.drop with waiting := false } (sent.set i { r with result := some result }) := by
  cases h with
  | idle numbered past =>
      have hover := (past r (List.mem_of_getElem? hr)).1
      simp [running] at hover
  | @busy before last numbered past waiting _ held =>
      have hi : i = before.length := by
        by_contra hne
        have hlt : i < before.length := by
          have := (List.getElem?_eq_some_iff.mp hr).1
          simp at this
          omega
        rw [List.getElem?_append_left hlt] at hr
        have hover := (past r (List.mem_of_getElem? hr)).1
        simp [running] at hover
      subst hi
      obtain rfl : last = r := by simpa using hr
      have hlt := numbered.lt (List.mem_append_right before (List.mem_singleton_self last))
      have hset : (before ++ [last]).set before.length { last with result := some result } =
          before ++ [{ last with result := some result }] := by
        simp
      rw [hset]
      refine ⟨by simp, .idle ?_ ?_ rfl d.drop_request⟩
      · have hnumbered := numbered.drop
        rw [Numbered, List.map_append] at hnumbered ⊢
        exact hnumbered
      · intro r' hr'
        obtain hbefore | hlast := List.mem_append.mp hr'
        · exact (past r' hbefore).drop
        · rw [List.mem_singleton.mp hlast]
          exact ⟨rfl, isCancelled_of_held hlt held⟩

theorem Orderly.dealt {d d' : Desk} {sent new : List Sent} (h : Orderly d sent)
    (hdealt : Dealt d d' new) : Orderly d' (sent ++ new) := by
  cases hdealt with
  | nothing =>
      rw [List.append_nil]
      exact h
  | dropped =>
      rw [List.append_nil]
      exact h.drop.1
  | asked prompt idle => exact h.ask idle prompt

namespace Traffic

variable {s : Surface σ ℓ} {t t' : Traffic σ} {m : Move σ}

/-- **Every step keeps the order.**  Deliveries come at any time, so that the case of a request
which was cancelled and delivers later is one of these. -/
theorem orderly_step (h : Orderly t.viewer.desk t.sent) (hstep : Step s t m t') :
    Orderly t'.viewer.desk t'.sent := by
  cases hstep with
  | event own => exact h.dealt (dealt_react s t.viewer own)
  | @deliver i r result sent running =>
      obtain ⟨-, horderly⟩ := h.deliver sent running result
      obtain ⟨hdesk, hnone⟩ := desk_receive s result t.viewer
      change Orderly (t.viewer.receive s result).2.desk
        (_ ++ requests (t.viewer.receive s result).1)
      rw [hdesk, hnone, List.append_nil]
      exact horderly
  | change => exact h

/-- A token that is cancelled stays so. -/
theorem isCancelled_step {token : Token} (h : t.viewer.tokens.isCancelled token)
    (hstep : Step s t m t') : t'.viewer.tokens.isCancelled token := by
  cases hstep with
  | event own =>
      have hdesk : t.viewer.desk.tokens.isCancelled token := h
      exact (dealt_react s t.viewer own).isCancelled hdesk
  | @deliver i r result sent running =>
      obtain ⟨hdesk, -⟩ := desk_receive s result t.viewer
      change (t.viewer.receive s result).2.desk.tokens.isCancelled token
      rw [hdesk]
      exact Desk.isCancelled_drop h
  | change => exact h

theorem isCancelled_reachable {token : Token} (h : t.viewer.tokens.isCancelled token)
    (hreach : Reachable s t t') : t'.viewer.tokens.isCancelled token := by
  induction hreach with
  | refl => exact h
  | tail _ hstep ih =>
      obtain ⟨m, hstep⟩ := hstep
      exact isCancelled_step ih hstep

theorem Reachable.event {t₀ : Traffic σ} (hreach : Reachable s t₀ t) {e : Event}
    (own : ∀ result, e ≠ .answered result) : Reachable s t₀ (t.handle s e t.sent) :=
  hreach.tail ⟨_, .event own⟩

theorem Reachable.deliver {t₀ : Traffic σ} (hreach : Reachable s t₀ t) {i : Nat} {r : Sent}
    (sent : t.sent[i]? = some r) (running : r.result = none)
    (result : Except Service.Failure String) :
    Reachable s t₀
      (t.handle s (.answered result) (t.sent.set i { r with result := some result })) :=
  hreach.tail ⟨_, .deliver sent running⟩

theorem orderly_reachable (p : Plan) (surface : σ) (files : Tree)
    (hreach : Reachable s (start p surface files) t) : Orderly t.viewer.desk t.sent := by
  induction hreach with
  | refl => exact .idle rfl (List.forall_mem_nil _) rfl rfl
  | tail _ hstep ih =>
      obtain ⟨m, hstep⟩ := hstep
      exact orderly_step ih hstep

end Traffic

/-! ## One request at a time -/

/-- What the order comes to: at most one request is running, one exactly while the panel waits, and
it is the last one sent; a token on the desk is that of the running request; each request has a
token of its own, and there are no others; and of all these tokens only the one on the desk is not
cancelled.  All of it follows from the two cases of `Orderly`, and nothing of it has to be carried
along by itself. -/
structure OneRequest (t : Traffic σ) : Prop where
  atMostOne : t.running.length ≤ 1
  waiting : t.viewer.panel.waiting = true ↔ t.running.length = 1
  latest : ∀ r ∈ t.running, t.sent.getLast? = some r
  held : ∀ token, t.viewer.request = some token →
    t.viewer.panel.waiting = true ∧ ∃ r ∈ t.running, r.token = token
  tokens : t.sent.map Sent.token = (List.range t.viewer.tokens.flags.length).map Token.mk
  live : ∀ r ∈ t.sent, t.cancelled r = false ↔ t.viewer.request = some r.token
  atMostOneLive : (t.sent.filter (!t.cancelled ·)).length ≤ 1

/-- Of requests that are over, none is running, and none has a token that is not cancelled. -/
theorem filter_of_over {d : Desk} {sent : List Sent} (past : ∀ r ∈ sent, Over d r) :
    sent.filter (·.result.isNone) = [] ∧
      sent.filter (fun r => !d.tokens.isCancelled r.token) = [] := by
  constructor
  · refine List.filter_eq_nil_iff.mpr fun r hr => ?_
    have hresult := (past r hr).1
    simpa [Option.isSome_iff_ne_none] using hresult
  · refine List.filter_eq_nil_iff.mpr fun r hr => ?_
    simp [(past r hr).2]

/-- When all requests but the last are over, a token is not cancelled just if it is on the desk. -/
theorem live_iff_of_held {d : Desk} {before : List Sent} {last : Sent}
    (past : ∀ r ∈ before, Over d r)
    (held : d.request = if d.tokens.isCancelled last.token then none else some last.token) :
    ∀ r ∈ before ++ [last],
      d.tokens.isCancelled r.token = false ↔ d.request = some r.token := by
  intro r hr
  rw [held]
  obtain hbefore | hlast := List.mem_append.mp hr
  · -- a token that is cancelled is not the one on the desk
    have hcancelled := (past r hbefore).2
    rw [hcancelled]
    split
    · simp
    case isFalse hnot =>
      refine ⟨fun h => (by cases h), fun h => absurd hcancelled ?_⟩
      rwa [← Option.some.inj h]
  · rw [List.mem_singleton.mp hlast]
    cases d.tokens.isCancelled last.token <;> simp

/-- Both cases of the invariant come to the same seven facts; in the second the running request is
the last of the list. -/
theorem OneRequest.of_orderly {t : Traffic σ} (h : Orderly t.viewer.desk t.sent) :
    OneRequest t := by
  obtain ⟨viewer, sent⟩ := t
  cases h with
  | idle numbered past waiting request =>
      obtain ⟨hrunning, hlive⟩ := filter_of_over past
      have hnone : Traffic.running ⟨viewer, sent⟩ = [] := hrunning
      have hwaiting : viewer.panel.waiting = false := waiting
      have hrequest : viewer.request = none := request
      refine ⟨by simp [hnone], by simp [hnone, hwaiting], by simp [hnone], by simp [hrequest],
        numbered, fun r hr => ?_,
        Nat.le_trans (Nat.le_of_eq (congrArg List.length hlive)) (by simp)⟩
      have hcancelled : viewer.tokens.isCancelled r.token = true := (past r hr).2
      simp [Traffic.cancelled, hcancelled, hrequest]
  | @busy before last numbered past waiting running held =>
      obtain ⟨hrunning, hlive⟩ := filter_of_over past
      have hone : Traffic.running ⟨viewer, before ++ [last]⟩ = [last] := by
        rw [Traffic.running, List.filter_append, hrunning]
        simp [running]
      have hwaiting : viewer.panel.waiting = true := waiting
      refine ⟨by simp [hone], by simp [hone, hwaiting], ?_, ?_, numbered,
        live_iff_of_held past held, ?_⟩
      · intro r hr
        change r ∈ Traffic.running ⟨viewer, before ++ [last]⟩ at hr
        change (before ++ [last]).getLast? = some r
        rw [hone, List.mem_singleton] at hr
        simp [hr]
      · intro token htoken
        refine ⟨hwaiting, last, by simp [hone], ?_⟩
        rw [show viewer.request = _ from held] at htoken
        split at htoken
        · cases htoken
        · exact Option.some.inj htoken
      · have hfilter : before.filter (fun r => !viewer.tokens.isCancelled r.token) = [] := hlive
        change ((before ++ [last]).filter fun r => !viewer.tokens.isCancelled r.token).length ≤ 1
        rw [List.filter_append, hfilter, List.nil_append]
        exact List.length_filter_le _ _

/-- When nothing is running the panel does not wait. -/
theorem OneRequest.running_eq_nil_iff {t : Traffic σ} (h : OneRequest t) :
    t.running = [] ↔ t.viewer.panel.waiting = false := by
  have hmost := h.atMostOne
  rw [← List.length_eq_zero_iff]
  cases hwaiting : t.viewer.panel.waiting with
  | true =>
      have hone := h.waiting.mp hwaiting
      simp [hone]
  | false =>
      have hne : t.running.length ≠ 1 := by
        intro hone
        rw [h.waiting.mpr hone] at hwaiting
        cases hwaiting
      simp only [iff_true]
      omega

/-- A prompt that is typed is sent as it is, when nothing is running and it is not blank. -/
theorem OneRequest.sent_of_prompted {s : Surface σ ℓ} {t t' : Traffic σ} {line : String}
    (h : OneRequest t) (hstep : Traffic.Step s t (.event (.prompted line)) t') :
    t'.sent = t.sent ++ if t.running = [] ∧ Text.blank line = false then
      [{ prompt := line, token := t.viewer.tokens.create.1 }] else [] := by
  cases hstep with
  | event own =>
      have hreact : t.viewer.react s (.prompted line) =
          ask { t.viewer with panel := t.viewer.panel.withPrompt line } := rfl
      have hmay : (t.viewer.panel.withPrompt line).mayAsk = true ↔
          t.running = [] ∧ Text.blank line = false := by
        rw [h.running_eq_nil_iff, Panel.mayAsk, Bool.and_eq_true, Bool.not_eq_true',
          Bool.not_eq_true']
        rfl
      rw [Traffic.handle, hreact]
      cases hasks : (t.viewer.panel.withPrompt line).mayAsk with
      | true =>
          obtain ⟨-, hsent⟩ := desk_ask
            (v := { t.viewer with panel := t.viewer.panel.withPrompt line }) hasks
          rw [if_pos (hmay.mp hasks)]
          exact congrArg (t.sent ++ ·) hsent
      | false =>
          rw [ask_of_not_mayAsk hasks, if_neg (fun hok => by simp [hmay.mpr hok] at hasks)]
          rfl

/-- **One request at a time, and none is left running.**  In whatever order prompts, results and
other events come in, every traffic that is reached has at most one request running; only the last
request can deliver a result; when the window is closed, and again when the viewer ends, every token
created so far is cancelled and stays so; and a prompt that is typed sends exactly one request, with
the prompt as it is, if nothing is running and it is not blank, and none otherwise. -/
theorem one_request_at_a_time (s : Surface σ ℓ) (p : Plan) (surface : σ) (files : Tree)
    {t : Traffic σ} (hreach : Traffic.Reachable s (.start p surface files) t) :
    OneRequest t ∧
    (∀ i result t', Traffic.Step s t (.deliver i result) t' → i + 1 = t.sent.length) ∧
    (∀ e t', e = .closed ∨ e = .ending → Traffic.Step s t (.event e) t' →
      t'.viewer.request = none ∧ ∀ r ∈ t'.sent,
        t'.cancelled r ∧ ∀ t'', Traffic.Reachable s t' t'' → t''.cancelled r) ∧
    ∀ line t', Traffic.Step s t (.event (.prompted line)) t' →
      t'.sent = t.sent ++ if t.running = [] ∧ Text.blank line = false then
        [{ prompt := line, token := t.viewer.tokens.create.1 }] else [] := by
  have horderly := Traffic.orderly_reachable p surface files hreach
  have hone := OneRequest.of_orderly horderly
  refine ⟨hone, ?_, ?_, fun line t' hstep => hone.sent_of_prompted hstep⟩
  · intro i result t' hstep
    cases hstep with
    | deliver sent running => exact (horderly.deliver sent running result).1
  · intro e t' he hstep
    -- both events drop the token from the desk and send nothing
    have hdrop : t'.viewer.desk = t.viewer.desk.drop ∧ t'.sent = t.sent := by
      cases hstep with
      | event own =>
          obtain rfl | rfl := he
          · exact ⟨desk_dropRequest t.viewer, List.append_nil _⟩
          · exact ⟨desk_dropRequest t.viewer, List.append_nil _⟩
    obtain ⟨hdesk, hsent⟩ := hdrop
    have hrequest : t'.viewer.request = none := (congrArg Desk.request hdesk).trans
      t.viewer.desk.drop_request
    refine ⟨hrequest, fun r hr => ?_⟩
    rw [hsent] at hr
    have hcancelled : t'.viewer.desk.tokens.isCancelled r.token := hdesk ▸ horderly.drop.2 r hr
    exact ⟨hcancelled, fun t'' hreach' => Traffic.isCancelled_reachable hcancelled hreach'⟩

/-! ## A run -/

/-- A plan that opens with a prompt. -/
def wavesPlan : Plan :=
  let url : Url := { scheme := "http".toList, username := [], password := []
                     host := .domain "localhost".toList, port := none, path := ([], [])
                     query := none, fragment := none }
  { options := { service := { base := url, target := url, timeout := 1 }
                 window := ⟨"waves", 1, 1, true⟩, opening := .prompt "waves", exportTo := none }
    source := none }

/-- A window without a context, on which no source is drawn. -/
def bareWindow : MemorySurface := { width := 1, height := 1, hasContext := false }

/-- Traffic in which the window is to be closed while a request is running, a prompt comes too
early, the request is given up, and the prompt comes again. -/
def interrupted : Traffic MemorySurface :=
  let s := MemorySurface.plain
  let t := Traffic.start wavesPlan bareWindow {}
  let t := t.handle s .started t.sent
  let t := t.handle s .closed t.sent
  let t := t.handle s (.prompted "rain") t.sent
  let t := t.handle s (.answered (.error .givenUp))
    (t.sent.set 0 { prompt := "waves", token := ⟨0⟩, result := some (.error .givenUp) })
  t.handle s (.prompted "rain") t.sent

theorem one_request_at_a_time_interrupted :
    Traffic.Reachable MemorySurface.plain (.start wavesPlan bareWindow {}) interrupted ∧
      OneRequest interrupted ∧
      interrupted.sent = [{ prompt := "waves", token := ⟨0⟩, result := some (.error .givenUp) },
        { prompt := "rain", token := ⟨1⟩ }] ∧
      interrupted.viewer.request = some ⟨1⟩ := by
  have hreach : Traffic.Reachable MemorySurface.plain (.start wavesPlan bareWindow {})
      interrupted := by
    have hstart : Traffic.Reachable MemorySurface.plain (.start wavesPlan bareWindow {})
        (.start wavesPlan bareWindow {}) := .refl
    have hearly := ((hstart.event (e := .started) nofun).event (e := .closed) nofun).event
      (e := .prompted "rain") nofun
    have hgivenUp := hearly.deliver (i := 0) (r := { prompt := "waves", token := ⟨0⟩ })
      (by decide +kernel) rfl (.error .givenUp)
    exact hgivenUp.event (e := .prompted "rain") nofun
  refine ⟨hreach, (one_request_at_a_time MemorySurface.plain wavesPlan _ {} hreach).1, ?_, ?_⟩
  · decide +kernel
  · decide +kernel

end Viewer

end ShaderSketch
