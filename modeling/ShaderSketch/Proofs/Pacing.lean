import Mathlib.Data.List.Basic
import Mathlib.Data.List.Induction
import ShaderSketch.Viewer.Pacer

/-!
# The pace over time

A pacer is asked again and again, at times that do not go back.  Among queries at which something
moves, frames are at least a period apart, and whoever waits waits for the next frame.

## Main definitions

* `Pacer.Query` — a time at which a pacer is asked, and whether anything moves then
* `Pacer.after`, `Pacer.answer` — a pacer after queries, and its answer to one more
* `Pacer.Fresh` — whether no frame is awaited after queries
* `Pacer.Awaited` — the frame that is awaited after queries is due at a time
* `Pacer.Timely` — what an answer has to be, given the queries before it

## Main results

* `Pacer.awaits_after` : a pacer holds the time of the frame that is awaited, if one is
* `Pacer.keeps_pace` : every answer is timely, and the frames of a stretch keep their distance

## Design notes

That a frame is awaited is a property of the queries and their answers.  What the pacer holds is
the business of one lemma, and nothing else depends on it.
-/

namespace ShaderSketch.Pacer

/-- A time at which a pacer is asked, and whether anything moves then. -/
structure Query where
  moving : Bool
  now : Nat
  deriving Repr, DecidableEq

/-- The pacer after queries. -/
def after (p : Pacer) (queries : List Query) : Pacer :=
  queries.foldl (fun p q => (p.consult q.moving q.now).2) p

/-- The answer of a new pacer to a query after others. -/
def answer (period : Nat) (past : List Query) (q : Query) : Option Turn :=
  ((after ⟨period, none⟩ past).consult q.moving q.now).1

/-- The answer of a new pacer to the last of some queries. -/
def lastAnswer? (period : Nat) (past : List Query) : Option Turn :=
  past.getLast?.bind (answer period past.dropLast)

/-- Whether the next query at which something moves is the first, at all or since nothing moved. -/
def Fresh (past : List Query) : Prop := ∀ q ∈ past.getLast?, q.moving = false

/-- The frame that is awaited after queries is due at a time: the last frame among them was given
that time, something moved ever since, and every later answer was to wait until then.  The frame may
be any number of queries back; what is said of the answers since is that they repeated its time, so
that no other frame was given in between. -/
def Awaited (period : Nat) (past : List Query) (wake : Nat) : Prop :=
  ∃ front due between, past = front ++ due :: between ∧ (∀ q ∈ due :: between, q.moving = true) ∧
    answer period front due = some ⟨true, wake⟩ ∧
    ∀ earlier q, earlier ++ [q] <+: between →
      answer period (front ++ due :: earlier) q = some ⟨false, wake⟩

/-- What the answer to a query has to be, given those before it.  It gives a later time, at most a
period later.  A frame is due at the first query and once the time of the previous answer has come;
the next one is then due a period later.  Otherwise the answer repeats the time of the frame that is
awaited. -/
structure Timely (period : Nat) (past : List Query) (q : Query) (turn : Turn) : Prop where
  later : q.now < turn.wake
  soon : turn.wake ≤ q.now + period
  due : turn.draw = true ↔ Fresh past ∨
    ∃ previous, lastAnswer? period past = some previous ∧ previous.wake ≤ q.now
  ahead : turn.draw = true → turn.wake = q.now + period
  repeats : turn.draw = false → Awaited period past turn.wake

/-! ## One query -/

variable {p : Pacer} {q : Query} {past : List Query} {period wake : Nat}

/-- **What a query comes to.**  Nothing moves, and no frame is awaited any more; or a frame is due,
since none is awaited or its time has come; or the answer is to wait for the one that is.  Each
answer and the state behind it are told in one go, and everything below goes by these three cases.
-/
theorem consult_cases (p : Pacer) (q : Query) :
    (q.moving = false ∧ p.consult q.moving q.now = (none, { p with upcoming := none })) ∨
    (q.moving = true ∧ (∀ wake ∈ p.upcoming, wake ≤ q.now) ∧
      p.consult q.moving q.now =
        (some ⟨true, q.now + p.period⟩, { p with upcoming := some (q.now + p.period) })) ∨
    (q.moving = true ∧ ∃ wake, p.upcoming = some wake ∧ q.now < wake ∧
      p.consult q.moving q.now = (some ⟨false, wake⟩, p)) := by
  cases hmoving : q.moving with
  | false => exact .inl ⟨rfl, by simp [consult]⟩
  | true =>
      refine .inr ?_
      cases hupcoming : p.upcoming with
      | none => exact .inl ⟨rfl, nofun, by simp [consult, hupcoming]⟩
      | some wake =>
          by_cases hearly : q.now < wake
          · exact .inr ⟨rfl, wake, rfl, hearly, by simp [consult, hupcoming, hearly]⟩
          · refine .inl ⟨rfl, ?_, by simp [consult, hupcoming, hearly]⟩
            rintro _ ⟨⟩
            exact Nat.not_lt.mp hearly

theorem period_consult (p : Pacer) (moving : Bool) (now : Nat) :
    (p.consult moving now).2.period = p.period := by
  unfold consult
  dsimp only
  split
  · rfl
  · split
    · split <;> rfl
    · rfl

/-! ## Many queries -/

@[simp] theorem after_nil (p : Pacer) : p.after [] = p := rfl

@[simp] theorem after_cons (p : Pacer) (q : Query) (queries : List Query) :
    p.after (q :: queries) = (p.consult q.moving q.now).2.after queries := rfl

theorem after_append (p : Pacer) (first queries : List Query) :
    p.after (first ++ queries) = (p.after first).after queries := List.foldl_append

@[simp] theorem period_after (p : Pacer) (queries : List Query) :
    (p.after queries).period = p.period := by
  induction queries generalizing p with
  | nil => rfl
  | cons q queries ih => exact (ih _).trans (period_consult p q.moving q.now)

theorem lastAnswer?_concat (period : Nat) (past : List Query) (q : Query) :
    lastAnswer? period (past ++ [q]) = answer period past q := by
  simp [lastAnswer?]

theorem fresh_nil : Fresh [] := nofun

theorem fresh_concat : Fresh (past ++ [q]) ↔ q.moving = false := by simp [Fresh]

theorem Awaited.of_due (h : q.moving = true) (hanswer : answer period past q = some ⟨true, wake⟩) :
    Awaited period (past ++ [q]) wake :=
  ⟨past, q, [], rfl, by simpa using h, hanswer, by simp⟩

theorem Awaited.wait (h : Awaited period past wake) (hq : q.moving = true)
    (hanswer : answer period past q = some ⟨false, wake⟩) : Awaited period (past ++ [q]) wake := by
  obtain ⟨front, due, between, rfl, hmoving, hdue, hwaited⟩ := h
  refine ⟨front, due, between ++ [q], by simp, ?_, hdue, fun earlier q' hprefix => ?_⟩
  · rw [← List.cons_append, List.forall_mem_append]
    exact ⟨hmoving, List.forall_mem_singleton.mpr hq⟩
  · obtain hlast | hearlier := List.prefix_concat_iff.mp hprefix
    · obtain ⟨rfl, hsame⟩ := List.append_inj' hlast rfl
      obtain rfl := List.singleton_inj.mp hsame
      exact hanswer
    · exact hwaited earlier q' hearlier

/-- While a frame is awaited, something moves. -/
theorem Awaited.not_fresh (h : Awaited period past wake) : ¬ Fresh past := by
  obtain ⟨front, due, between, rfl, hmoving, -, -⟩ := h
  intro hfresh
  obtain ⟨between', last, hconcat⟩ := (due :: between).eq_nil_or_concat'.resolve_left (by simp)
  rw [hconcat, ← List.append_assoc, fresh_concat] at hfresh
  rw [hmoving last (by simp [hconcat])] at hfresh
  cases hfresh

/-- A frame that is due is followed by one a period later. -/
theorem wake_of_answer (h : answer period past q = some ⟨true, wake⟩) : wake = q.now + period := by
  unfold answer at h
  obtain ⟨-, hanswer⟩ | ⟨-, -, hanswer⟩ | ⟨-, wake', -, -, hanswer⟩ :=
    consult_cases (after ⟨period, none⟩ past) q
  all_goals rw [hanswer] at h
  · cases h
  · obtain rfl := (Turn.mk.inj (Option.some.inj h)).2
    rw [period_after]
  · cases h

/-- **A pacer holds the time of the frame that is awaited**, if one is.  The state of a pacer is one
number, and this says what it means in terms of the answers that were given before; it is the
invariant of the induction over the queries. -/
theorem awaits_after (period : Nat) (past : List Query) :
    match (after ⟨period, none⟩ past).upcoming with
    | none => Fresh past
    | some wake =>
      Awaited period past wake ∧ ∃ draw, lastAnswer? period past = some ⟨draw, wake⟩ := by
  induction past using List.reverseRecOn with
  | nil => exact fresh_nil
  | append_singleton past q ih =>
      rw [after_append, after_cons, after_nil, lastAnswer?_concat]
      obtain ⟨hstill, hconsult⟩ | ⟨hmoving, -, hconsult⟩ | ⟨hmoving, wake, hwake, -, hconsult⟩ :=
        consult_cases (after ⟨period, none⟩ past) q
      · rw [hconsult]
        exact fresh_concat.mpr hstill
      · have hanswer : answer period past q = some ⟨true, q.now + period⟩ := by
          rw [answer, hconsult, period_after]
        rw [hconsult, period_after]
        exact ⟨.of_due hmoving hanswer, true, hanswer⟩
      · have hanswer : answer period past q = some ⟨false, wake⟩ := by rw [answer, hconsult]
        rw [hwake] at ih
        rw [hconsult]
        dsimp only
        rw [hwake]
        exact ⟨ih.1.wait hmoving hanswer, false, hanswer⟩

/-! ## Whole histories -/

/-- At times that do not go back, an awaited frame is due a period from now at the latest. -/
theorem Awaited.soon (h : Awaited period past wake) (ordered : ∀ t ∈ past, t.now ≤ q.now) :
    wake ≤ q.now + period := by
  obtain ⟨front, due, between, rfl, -, hdue, -⟩ := h
  have hnow := ordered due (by simp)
  have hwake := wake_of_answer hdue
  omega

/-- **Every answer is timely.**  A period of zero would make the next frame due at the time of the
last, which is no later time.  That queries do not go back in time gives the bound from above: what
is awaited lies a period ahead of the query that it was given at, and so at most a period ahead of
every later one. -/
theorem timely (positive : 0 < period) (ordered : ∀ t ∈ past, t.now ≤ q.now)
    (hmoving : q.moving = true) :
    ∃ turn, answer period past q = some turn ∧ Timely period past q turn := by
  have hawaits := awaits_after period past
  obtain ⟨hstill, -⟩ | ⟨-, hdue, hconsult⟩ | ⟨-, wake, hwake, hearly, hconsult⟩ :=
    consult_cases (after ⟨period, none⟩ past) q
  · rw [hmoving] at hstill
    cases hstill
  · have hanswer : answer period past q = some ⟨true, q.now + period⟩ := by
      rw [answer, hconsult, period_after]
    refine ⟨_, hanswer, ?_, Nat.le_refl _, ?_, fun _ => rfl, nofun⟩
    · exact Nat.lt_add_of_pos_right positive
    · refine ⟨fun _ => ?_, fun _ => rfl⟩
      cases hupcoming : (after ⟨period, none⟩ past).upcoming with
      | none =>
          rw [hupcoming] at hawaits
          exact .inl hawaits
      | some wake =>
          rw [hupcoming] at hawaits
          obtain ⟨-, draw, hlast⟩ := hawaits
          exact .inr ⟨_, hlast, hdue wake hupcoming⟩
  · have hanswer : answer period past q = some ⟨false, wake⟩ := by rw [answer, hconsult]
    rw [hwake] at hawaits
    obtain ⟨hawaited, draw, hlast⟩ := hawaits
    refine ⟨_, hanswer, hearly, hawaited.soon ordered, ⟨nofun, ?_⟩, nofun, fun _ => hawaited⟩
    rintro (hfresh | ⟨previous, hprevious, hcome⟩)
    · exact absurd hfresh hawaited.not_fresh
    · rw [hlast] at hprevious
      obtain rfl := Option.some.inj hprevious
      exact absurd hearly (Nat.not_lt.mpr hcome)

/-- While something moves, the time that is held does not decrease. -/
theorem le_upcoming_after {p : Pacer} {queries : List Query} (hwake : p.upcoming = some wake)
    (hmoving : ∀ q ∈ queries, q.moving = true) :
    ∃ later, (p.after queries).upcoming = some later ∧ wake ≤ later := by
  induction queries generalizing p wake with
  | nil => exact ⟨wake, hwake, Nat.le_refl _⟩
  | cons q queries ih =>
      rw [List.forall_mem_cons] at hmoving
      rw [after_cons]
      obtain ⟨hstill, -⟩ | ⟨-, hdue, hconsult⟩ | ⟨-, wake', hwake', -, hconsult⟩ :=
        consult_cases p q
      · rw [hmoving.1] at hstill
        cases hstill
      · obtain ⟨later, hlater, hle⟩ := ih (p := { p with upcoming := some (q.now + p.period) })
          rfl hmoving.2
        rw [hconsult]
        have hcome := hdue wake hwake
        exact ⟨later, hlater, by omega⟩
      · rw [hconsult]
        exact ih hwake hmoving.2

/-- The time that an answer gives is the one that is held afterwards. -/
theorem upcoming_of_answer {turn : Turn} (h : answer period past q = some turn) :
    (after ⟨period, none⟩ (past ++ [q])).upcoming = some turn.wake := by
  rw [after_append, after_cons, after_nil]
  unfold answer at h
  obtain ⟨-, hconsult⟩ | ⟨-, -, hconsult⟩ | ⟨-, wake, hwake, -, hconsult⟩ :=
    consult_cases (after ⟨period, none⟩ past) q
  all_goals rw [hconsult] at h ⊢
  · cases h
  · obtain rfl := Option.some.inj h
    rfl
  · obtain rfl := Option.some.inj h
    exact hwake

/-- In a stretch in which something moves, times do not decrease, and frames keep their distance. -/
theorem stretch {first last : Query} {between : List Query}
    (hmoving : ∀ q ∈ first :: (between ++ [last]), q.moving = true) {a b : Turn}
    (ha : answer period past first = some a)
    (hb : answer period (past ++ first :: between) last = some b) :
    a.wake ≤ b.wake ∧ (a.draw = true → b.draw = true → first.now + period ≤ last.now) := by
  simp only [List.forall_mem_cons, List.forall_mem_append] at hmoving
  obtain ⟨held, hheld, hle⟩ := le_upcoming_after (upcoming_of_answer ha) hmoving.2.1
  rw [← after_append, List.append_assoc, List.singleton_append] at hheld
  unfold answer at hb
  obtain ⟨hstill, -⟩ | ⟨-, hdue, hconsult⟩ | ⟨-, wake, hwake, -, hconsult⟩ :=
    consult_cases (after ⟨period, none⟩ (past ++ first :: between)) last
  · rw [hmoving.2.2.1] at hstill
    cases hstill
  · rw [hconsult] at hb
    obtain rfl := Option.some.inj hb
    have hcome := hdue held hheld
    refine ⟨by dsimp only; omega, fun hdraw _ => ?_⟩
    obtain ⟨draw, wake⟩ := a
    obtain rfl := hdraw
    have hwake := wake_of_answer ha
    dsimp only at hle
    omega
  · rw [hconsult] at hb
    obtain rfl := Option.some.inj hb
    rw [hwake] at hheld
    obtain rfl := Option.some.inj hheld
    exact ⟨hle, nofun⟩

/-- **A pacer keeps its pace.**  Let a new pacer with a period that is not zero be asked at times
that do not go back.  It has no answer when nothing moves, and a timely one otherwise.  Between two
queries, as long as something moves at every one of them, the times that it gives do not decrease,
and if a frame is due at both, they are at least a period apart.  Both halves speak of queries at
any place among the others, so that the pacer may have rested and started again before them; it must
not rest in between. -/
theorem keeps_pace (positive : 0 < period) {queries : List Query}
    (ordered : queries.Pairwise (·.now ≤ ·.now)) :
    (∀ past q rest, queries = past ++ q :: rest →
      (q.moving = false → answer period past q = none) ∧
      (q.moving = true → ∃ turn, answer period past q = some turn ∧ Timely period past q turn)) ∧
    ∀ past first between last rest, queries = past ++ first :: (between ++ last :: rest) →
      (∀ q ∈ first :: (between ++ [last]), q.moving = true) →
      ∃ a b, answer period past first = some a ∧
        answer period (past ++ first :: between) last = some b ∧ a.wake ≤ b.wake ∧
        (a.draw = true → b.draw = true → first.now + period ≤ last.now) := by
  have hanswer (past : List Query) (q : Query) (rest : List Query)
      (hsplit : queries = past ++ q :: rest) (hmoving : q.moving = true) :
      ∃ turn, answer period past q = some turn ∧ Timely period past q turn := by
    rw [hsplit, List.pairwise_append] at ordered
    exact timely positive (fun t ht => ordered.2.2 t ht q List.mem_cons_self) hmoving
  refine ⟨fun past q rest hsplit => ⟨fun hstill => ?_, hanswer past q rest hsplit⟩, ?_⟩
  · simp [answer, consult, hstill]
  · intro past first between last rest hsplit hmoving
    obtain ⟨a, ha, -⟩ := hanswer past first _ hsplit (hmoving first List.mem_cons_self)
    obtain ⟨b, hb, -⟩ := hanswer (past ++ first :: between) last rest (by simp [hsplit])
      (hmoving last (by simp))
    exact ⟨a, b, ha, hb, stretch hmoving ha hb⟩

/-- An early query, one that comes several frames late, an early one behind it, and a pause. -/
def unsteady : List Query :=
  [⟨true, 0⟩, ⟨true, 20⟩, ⟨true, 150⟩, ⟨true, 160⟩, ⟨false, 170⟩, ⟨true, 171⟩]

theorem keeps_pace_unsteady :
    unsteady.Pairwise (·.now ≤ ·.now) ∧
      Timely 33 (unsteady.take 3) ⟨true, 160⟩ ⟨false, 183⟩ ∧
      Timely 33 (unsteady.take 5) ⟨true, 171⟩ ⟨true, 204⟩ ∧
      ∃ a b, answer 33 [] ⟨true, 0⟩ = some a ∧ answer 33 (unsteady.take 2) ⟨true, 150⟩ = some b ∧
        a.draw = true ∧ b.draw = true ∧ a.wake ≤ b.wake := by
  have ordered : unsteady.Pairwise (·.now ≤ ·.now) := by decide
  obtain ⟨hanswers, hstretch⟩ := keeps_pace (show 0 < 33 by decide) ordered
  obtain ⟨early, hearly, htimely⟩ := (hanswers (unsteady.take 3) ⟨true, 160⟩ _ rfl).2 rfl
  obtain ⟨resumed, hresumed, htimely'⟩ := (hanswers (unsteady.take 5) ⟨true, 171⟩ _ rfl).2 rfl
  obtain ⟨a, b, ha, hb, hle, -⟩ :=
    hstretch [] ⟨true, 0⟩ [⟨true, 20⟩] ⟨true, 150⟩ _ rfl (by decide)
  obtain rfl : early = ⟨false, 183⟩ := Option.some.inj (hearly.symm.trans (by decide))
  obtain rfl : resumed = ⟨true, 204⟩ := Option.some.inj (hresumed.symm.trans (by decide))
  have hfirst : a = ⟨true, 33⟩ := Option.some.inj (ha.symm.trans (by decide))
  have hlate : b = ⟨true, 183⟩ := Option.some.inj (hb.symm.trans (by decide))
  exact ⟨ordered, htimely, htimely', a, b, ha, hb, by rw [hfirst], by rw [hlate], hle⟩

end ShaderSketch.Pacer
