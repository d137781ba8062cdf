import ShaderSketch.Proofs.Stray

/-!
# Reports of stray handles

Tests of a pipeline count the refusals that a context in memory recorded, and take it that no object
was used after it was deleted when there are none.  That is right but for two uses which the context
does not notice: a source for a shader that is not there, and a shader that is not there and is
detached from a program that is.

## Main definitions

* `Surface.Live` — whether an object was made in a conversation and not deleted since
* `Gl.Call.operates` — whether a call works on objects
* `Gl.Memory.Overlooks` — the stray handles that go unnoticed
* `Gl.Memory.Reporting` — which calls are reported

## Main results

* `Gl.Memory.Strays.events_eq` : a stray handle that is noticed is reported
* `Gl.Memory.recorded_of_unflagged` : nothing else is
* `Gl.Memory.refusals_eq_zero_iff` : what it means that there are no refusals
* `Gl.Memory.stray_handles_reported` : which calls are reported, of everything that is done

## Design notes

Drawing names no object and is refused when no program is current, so that it counts among the
refusals as well.
-/

namespace ShaderSketch

open Surface

/-! ## Live objects of a conversation -/

namespace Surface

/-- Whether an object was made in a conversation and not deleted since. -/
def Live {ℓ : Type} (said : List (Exchange ℓ)) (o : Gl.Object) : Prop :=
  ∃ front e back, said = front ++ e :: back ∧ e.made = some o ∧ ∀ e' ∈ back, e'.deleted ≠ some o

variable {ℓ : Type} {said : List (Exchange ℓ)} {o : Gl.Object}

/-- What is live after one exchange more. -/
theorem live_concat (said : List (Exchange ℓ)) (e : Exchange ℓ) :
    Live (said ++ [e]) o ↔ e.made = some o ∨ Live said o ∧ e.deleted ≠ some o := by
  constructor
  · rintro ⟨front, e', back, hsaid, hmade, hkept⟩
    obtain rfl | ⟨back, last, rfl⟩ := List.eq_nil_or_concat back
    · obtain ⟨-, heq⟩ := List.append_inj' hsaid rfl
      obtain ⟨rfl, -⟩ := List.cons.inj heq
      exact .inl hmade
    · rw [List.concat_eq_append, ← List.cons_append, ← List.append_assoc] at hsaid
      obtain ⟨rfl, heq⟩ := List.append_inj' hsaid rfl
      obtain ⟨rfl, -⟩ := List.cons.inj heq
      exact .inr ⟨⟨front, e', back, rfl, hmade, fun d hd => hkept d (by simp [hd])⟩,
        hkept _ (by simp)⟩
  · rintro (hmade | ⟨⟨front, e', back, rfl, hmade, hkept⟩, hlast⟩)
    · exact ⟨said, e, [], rfl, hmade, by simp⟩
    · refine ⟨front, e', back ++ [e], by simp, hmade, fun d hd => ?_⟩
      obtain hd | hd := List.mem_append.mp hd
      · exact hkept d hd
      · rwa [List.mem_singleton.mp hd]

/-- **A ledger holds what was made and not deleted since.** -/
theorem mem_live_iff (said : List (Exchange ℓ)) :
    o ∈ (Gl.Ledger.replay {} said).live ↔ Live said o := by
  induction said using List.reverseRecOn with
  | nil => simp [Live]
  | append_singleton said e ih =>
      rw [Gl.Ledger.replay_append, Gl.Ledger.replay_cons, Gl.Ledger.replay_nil,
        Gl.Ledger.live_after, List.mem_append, List.mem_filter, live_concat, ih]
      simp

end Surface

namespace Gl

/-- Whether a call works on objects: it is refused under some name, or it gives a shader its
source. -/
def Call.operates {ℓ : Type} : Call ℓ → Bool
  | .shaderSource _ _ => true
  | c => c.entry?.isSome

namespace Memory

variable {m : Memory} {c : Call String} {acts : List Act}

/-! ## One call -/

/-- The stray handles that go unnoticed: a source for a shader that is not there, and a shader that
is not there and is detached from a program that is.  A detachment from a program that is not there
is none of them, since the program is looked for. -/
inductive Overlooks (m : Memory) : Call String → Prop
  | source {s : Handle} (text : String) (absent : ¬ m.Has ⟨.shader, s⟩) :
      Overlooks m (.shaderSource s text)
  | detach {p s : Handle} (present : m.Has ⟨.program, p⟩) (absent : ¬ m.Has ⟨.shader, s⟩) :
      Overlooks m (.detachShader p s)

/-- Nothing is recorded of a stray handle that goes unnoticed. -/
theorem Overlooks.events_eq (h : m.Overlooks c) : (answer c m).2.events = m.events := by
  cases h with
  | source => rfl
  | detach present =>
      rw [has_program] at present
      simp only [answer, detachShader, if_pos present]

/-- A call that works on objects is refused when it has a stray handle that is noticed. -/
theorem Strays.answer_eq (h : m.Strays c) (noticed : ¬ m.Overlooks c) :
    (answer c m).2 = (c.entry?.map m.refuse).getD m := by
  obtain hanswer | ⟨p, s, rfl, present, absent⟩ := strays_cases h
  · exact hanswer
  · exact absurd (.detach present absent) noticed

/-- **A stray handle that is noticed is reported**, by one event and under the name of the call.
Three things are asked of the call: it names something that is not there, it is one that works on
objects, and it is none of the two that go unnoticed. -/
theorem Strays.events_eq (h : m.Strays c) (noticed : ¬ m.Overlooks c) (operates : c.operates) :
    ∃ entry, c.entry? = some entry ∧
      (answer c m).2.events = m.events ++ [.invalidHandle entry] := by
  have hanswer := h.answer_eq noticed
  cases hentry : c.entry? with
  | some entry =>
      rw [hentry] at hanswer
      exact ⟨entry, rfl, congrArg events hanswer⟩
  | none =>
      cases c with
      | shaderSource s text =>
          obtain ⟨o, hnamed, absent⟩ := h
          obtain rfl := List.mem_singleton.mp hnamed
          exact absurd (.source text absent) noticed
      | _ => simp [Call.operates, hentry] at operates

/-- What is reported of a call: a stray handle that is noticed, and drawing without a program. -/
def Flags (m : Memory) (c : Call String) : Prop :=
  c.operates ∧ m.Strays c ∧ ¬ m.Overlooks c ∨ (m.exchange c).draws ∧ m.current = none

/-- Events that are no refusals do not count among them. -/
theorem refusals_of_events {m' : Memory} {events : List Event} (h : m'.events = m.events ++ events)
    (unrefused : ∀ entry, .invalidHandle entry ∉ events) : m'.refusals = m.refusals := by
  unfold refusals
  rw [h, List.countP_append, Nat.add_eq_left, List.countP_eq_zero]
  intro e he
  cases e with
  | invalidHandle entry => exact absurd he (unrefused entry)
  | _ => simp

/-- Where nothing is recorded, no refusal is. -/
theorem unrefused_nil {m' : Memory} (heq : m'.events = m.events) :
    ∃ events, m'.events = m.events ++ events ∧ ∀ entry, .invalidHandle entry ∉ events :=
  ⟨[], by simp [heq], by simp⟩

/-- Where one event is recorded that is not a refusal, no refusal is. -/
theorem unrefused_one {m' : Memory} (e : Event) (heq : m'.events = m.events ++ [e])
    (hne : ∀ entry, e ≠ .invalidHandle entry) :
    ∃ events, m'.events = m.events ++ events ∧ ∀ entry, .invalidHandle entry ∉ events :=
  ⟨[e], heq, fun entry hmem => hne entry (List.mem_singleton.mp hmem).symm⟩

/-- A call without stray handles is not refused. -/
theorem recorded_of_live (h : ¬ m.Strays c) (drawn : (m.exchange c).draws → m.current ≠ none) :
    ∃ events, (answer c m).2.events = m.events ++ events ∧
      ∀ entry, .invalidHandle entry ∉ events := by
  have live (o : Object) (ho : o ∈ (m.exchange c).named) : m.Has o := by
    by_contra absent
    exact h ⟨o, ho, absent⟩
  cases c with
  | createShader | createProgram | createBuffer =>
      simp only [answer, createShader, createProgram, createBuffer]
      split <;> exact unrefused_nil rfl
  | shaderSource | compileStatus | shaderLog | linkStatus | programLog | attribLocation
  | uniformLocation => exact unrefused_nil rfl
  | floatAttribPointer | uniformVec2 | uniformFloat | viewport | clearColor | readRgba =>
      exact unrefused_one _ rfl (by simp)
  | compileShader s =>
      have hs := has_shader.mp (live _ List.mem_cons_self)
      obtain ⟨shader, hget⟩ := Option.isSome_iff_exists.mp hs
      simp only [answer, compileShader, hget]
      exact unrefused_one _ rfl (by simp)
  | linkProgram p =>
      have hp := has_program.mp (live _ List.mem_cons_self)
      obtain ⟨program, hget⟩ := Option.isSome_iff_exists.mp hp
      simp only [answer, linkProgram, hget]
      exact unrefused_one _ rfl (by simp)
  | deleteShader | deleteProgram | deleteBuffer =>
      have hlive := live _ List.mem_cons_self
      simp only [has_shader, has_program, has_buffer] at hlive
      simp only [answer, deleteShader, deleteProgram, deleteBuffer, if_pos hlive]
      exact unrefused_nil rfl
  | attachShader p s =>
      have hp := has_program.mp (live ⟨.program, p⟩ (by simp [exchange, Exchange.named]))
      have hs := has_shader.mp (live ⟨.shader, s⟩ (by simp [exchange, Exchange.named]))
      simp only [answer, attachShader, hp, hs, Bool.and_self, if_true]
      exact unrefused_nil rfl
  | detachShader p s =>
      have hp := has_program.mp (live ⟨.program, p⟩ (by simp [exchange, Exchange.named]))
      simp only [answer, detachShader, if_pos hp]
      exact unrefused_nil rfl
  | uploadArrayBuffer b data =>
      have hb := has_buffer.mp (live _ List.mem_cons_self)
      simp only [answer, uploadArrayBuffer, if_pos hb]
      exact ⟨[_, _], List.append_assoc _ _ _, by simp⟩
  | useProgram program =>
      have hall : program.all m.programs.contains := by
        rw [Option.all_eq_true]
        exact fun p hp => has_program.mp
          (live ⟨.program, p⟩ (List.mem_map_of_mem (Option.mem_toList.mpr hp)))
      simp only [answer, useProgram, if_pos hall]
      exact unrefused_one _ rfl (by simp)
  | bindArrayBuffer buffer =>
      have hall : buffer.all m.buffers.contains := by
        rw [Option.all_eq_true]
        exact fun b hb => has_buffer.mp
          (live ⟨.buffer, b⟩ (List.mem_map_of_mem (Option.mem_toList.mpr hb)))
      simp only [answer, bindArrayBuffer, if_pos hall]
      exact unrefused_one _ rfl (by simp)
  | drawTriangleStrip first count =>
      have hcurrent := Option.isSome_iff_ne_none.mpr (drawn rfl)
      simp only [answer, if_pos hcurrent]
      exact unrefused_one _ rfl (by simp)

/-- **Nothing is refused but what is flagged.**  The events that are recorded instead tell of the
work that was done. -/
theorem recorded_of_unflagged (h : ¬ m.Flags c) :
    ∃ events, (answer c m).2.events = m.events ++ events ∧
      ∀ entry, .invalidHandle entry ∉ events := by
  by_cases hstrays : m.Strays c
  · refine unrefused_nil ?_
    by_cases hoverlooks : m.Overlooks c
    · exact hoverlooks.events_eq
    · rw [hstrays.answer_eq hoverlooks]
      cases hentry : c.entry? with
      | none => rfl
      | some entry =>
          refine absurd (.inl ⟨?_, hstrays, hoverlooks⟩) h
          cases c <;> simp_all [Call.operates, Call.entry?]
  · exact recorded_of_live hstrays fun draws hnone => h (.inr ⟨draws, hnone⟩)

/-- What is flagged is one refusal more. -/
theorem Flags.refusals_eq (h : m.Flags c) : (answer c m).2.refusals = m.refusals + 1 := by
  obtain ⟨operates, hstrays, noticed⟩ | ⟨draws, hnone⟩ := h
  · obtain ⟨entry, -, hevents⟩ := hstrays.events_eq noticed operates
    unfold refusals
    rw [hevents, List.countP_append]
    rfl
  · cases c with
    | drawTriangleStrip first count =>
        simp [answer, hnone, refusals, Memory.refuse, Memory.record]
    | _ => cases draws

/-! ## Many acts -/

/-- There are no refusals after an act if there were none before and the act is not flagged. -/
theorem refusals_act_eq_zero_iff (m : Memory) (a : Act) :
    (m.act a).refusals = 0 ↔ m.refusals = 0 ∧ ∀ c, a = .call c → ¬ m.Flags c := by
  cases a with
  | call c =>
      by_cases hflags : m.Flags c
      · have hmore : (m.act (.call c)).refusals = m.refusals + 1 := hflags.refusals_eq
        simp [hmore, hflags]
      · obtain ⟨events, hevents, unrefused⟩ := recorded_of_unflagged hflags
        have hsame : (m.act (.call c)).refusals = m.refusals := refusals_of_events hevents unrefused
        simp [hsame, hflags]
  | barShaders | barPrograms | barBuffers =>
      simp [act, barShaders, barPrograms, barBuffers, refusals]

/-- **There are no refusals if no call was flagged**, and only then.  A refusal is never taken back,
so that a count of zero in the end is one of zero all the way. -/
theorem refusals_eq_zero_iff (m : Memory) (acts : List Act) :
    (m.after acts).refusals = 0 ↔ m.refusals = 0 ∧
      ∀ before c later, acts = before ++ .call c :: later → ¬ (m.after before).Flags c := by
  induction acts generalizing m with
  | nil => simp [after]
  | cons a acts ih =>
      rw [after_cons, ih, refusals_act_eq_zero_iff, and_assoc]
      refine and_congr_right fun _ => ?_
      constructor
      · rintro ⟨hfirst, hrest⟩ before c later heq
        cases before with
        | nil => exact hfirst c (List.cons.inj heq).1
        | cons b before =>
            obtain ⟨rfl, hacts⟩ := List.cons.inj heq
            exact hrest before c later hacts
      · intro h
        refine ⟨fun c hc => h [] c acts (hc ▸ rfl), fun before c later heq => ?_⟩
        exact h (a :: before) c later (congrArg (a :: ·) heq)

/-- Which calls are reported after some acts.  The objects that are there were made and not deleted
since.  A call that works on objects is reported when it names one that is not there, unless that
goes unnoticed, and is not reported when it names none.  And there are no refusals when, and only
when, every such call named live objects or went unnoticed, and nothing was drawn without a program.
What is recorded is told apart from what should be: the first says what is there in terms of what
was done, and the others speak of stray handles in these terms. -/
structure Reporting (acts : List Act) : Prop where
  live : ∀ o, (after {} acts).Has o ↔ Live (said {} acts) o
  reported : ∀ c : Call String, c.operates → (after {} acts).Strays c →
    ¬ (after {} acts).Overlooks c → ∃ entry, c.entry? = some entry ∧
      (answer c (after {} acts)).2.events = (after {} acts).events ++ [.invalidHandle entry]
  silent : ∀ c : Call String, c.operates →
    ((after {} acts).Strays c → (after {} acts).Overlooks c) → ∃ events,
      (answer c (after {} acts)).2.events = (after {} acts).events ++ events ∧
        ∀ entry, .invalidHandle entry ∉ events
  clean : (after {} acts).refusals = 0 ↔
    ∀ before c later, acts = before ++ .call c :: later →
      (c.operates → (after {} before).Strays c → (after {} before).Overlooks c) ∧
        (((after {} before).exchange c).draws → (after {} before).current ≠ none)

/-- **Stray handles are reported**, whatever was done before, but for a source for a shader that is
not there and for a shader that is not there and is detached from a program that is. -/
theorem stray_handles_reported (acts : List Act) : Reporting acts where
  live o := (has_after_iff acts).trans (mem_live_iff _)
  reported _ operates strays noticed := strays.events_eq noticed operates
  silent c operates overlooked := by
    refine recorded_of_unflagged ?_
    rintro (⟨-, hstrays, noticed⟩ | ⟨draws, -⟩)
    · exact noticed (overlooked hstrays)
    · cases c with
      | drawTriangleStrip => simp [Call.operates, Call.entry?] at operates
      | _ => cases draws
  clean := by
    rw [refusals_eq_zero_iff, and_iff_right (by rfl)]
    refine forall₄_congr fun before c later _ => ?_
    unfold Flags
    tauto

/-- A shader that was deleted gets a source, or is detached from a program, and no event says so. -/
theorem stray_handles_unnoticed :
    let acts : List Act :=
      [.call (.createShader .vertex), .call .createProgram, .call (.deleteShader 1)]
    let source : Call String := .shaderSource 1 "void main() {}"
    let detach : Call String := .detachShader 2 1
    (source.operates ∧ (after {} acts).Strays source ∧
        (after {} (acts ++ [.call source])).refusals = 0) ∧
      (detach.operates ∧ (after {} acts).Strays detach ∧
        (after {} (acts ++ [.call detach])).refusals = 0) := by
  refine ⟨⟨rfl, ⟨⟨.shader, 1⟩, ?_, by decide⟩, rfl⟩, ⟨rfl, ⟨⟨.shader, 1⟩, ?_, by decide⟩, rfl⟩⟩ <;>
    simp [exchange, Exchange.named]

end Memory

end Gl

end ShaderSketch
