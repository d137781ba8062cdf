import Mathlib.Data.List.Induction
import Mathlib.Logic.Relation
import ShaderSketch.Service.Cancellation

/-!
# Families of tokens

Tokens and guards come from one another, in any order and any number.  A family is what comes from
one created token, and it is read off the history of what was done: the registry, with its numbered
flags, has no part in it.

## Main definitions

* `Cancellation.Item` — a token or a guard, by the order in which they came
* `Cancellation.Registry.made`, `Registry.struck` — the item that a step hands out, and the one that
  it cancels or drops
* `Cancellation.Possible` — a history in which every step names what is there
* `Cancellation.Stems`, `Cancellation.Comes`, `Cancellation.Kin` — families
* `Cancellation.Revoked` — some step before cancelled an item of the family, or dropped it
* `Cancellation.WellKept` — what the registry keeps of the families
* `Cancellation.Familial` — what all this means for the tokens

## Main results

* `Cancellation.wellKept_of_possible` : the invariant, that items of a family bear one token, and
  those of two families two
* `Cancellation.cancelled_by_family` : a token is cancelled when its family was revoked, and never
  else

## Design notes

A dropped guard leaves nothing in the registry, though others may have come from it before, and they
are still of its family.  So the invariant says of a guard only which token it can still bear.
-/

namespace ShaderSketch.Cancellation

open Relation

/-! ## Flags -/

namespace Families

variable {f : Families} {token token' : Token}

/-- A cancelled token was created. -/
theorem lt_of_isCancelled (h : f.isCancelled token) : token.family < f.flags.length := by
  by_contra hge
  rw [isCancelled, List.getElem?_eq_none (Nat.not_lt.mp hge)] at h
  cases h

/-- Creating a token leaves those alone that were created before. -/
theorem isCancelled_create_of_lt (h : token.family < f.flags.length) :
    f.create.2.isCancelled token = f.isCancelled token := by
  rw [isCancelled, isCancelled, create, List.getElem?_append_left h]

/-- What is cancelled stays cancelled when another token is created. -/
theorem isCancelled_create (h : f.isCancelled token) : f.create.2.isCancelled token :=
  (isCancelled_create_of_lt (lt_of_isCancelled h)).trans h

/-- A new token is not cancelled. -/
theorem not_isCancelled_create : f.create.2.isCancelled f.create.1 = false := by
  simp [isCancelled, create]

/-- Cancelling a token cancels its family and no other. -/
theorem isCancelled_cancel_iff (h : token.family < f.flags.length) :
    (f.cancel token').isCancelled token ↔ f.isCancelled token ∨ token' = token := by
  obtain ⟨family⟩ := token
  obtain ⟨family'⟩ := token'
  unfold isCancelled cancel
  rw [List.getElem?_set]
  by_cases heq : family' = family
  · subst heq
    rw [if_pos rfl, if_pos h]
    simp
  · rw [if_neg heq]
    simp [heq]

/-- What is cancelled stays cancelled when another token is. -/
theorem isCancelled_cancel (h : f.isCancelled token) : (f.cancel token').isCancelled token :=
  (isCancelled_cancel_iff (lt_of_isCancelled h)).mpr (.inl h)

/-- A token that was created is cancelled once it is cancelled. -/
theorem isCancelled_cancel_self (h : token.family < f.flags.length) :
    (f.cancel token).isCancelled token :=
  (isCancelled_cancel_iff h).mpr (.inr rfl)

end Families

/-! ## Items -/

/-- A token or a guard, by the order in which they came. -/
inductive Item
  | token (i : Nat)
  | guard (i : Nat)
  deriving Repr, DecidableEq

/-- The item that a new item comes from. -/
def Step.source : Step → Option Item
  | .clone i | .guard i => some (.token i)
  | .guardToken i => some (.guard i)
  | _ => none

namespace Registry

variable {r : Registry} {t : Step} {x y : Item} {tk tk' : Token}

/-- Whether a guard was not dropped yet. -/
def holds (r : Registry) (i : Nat) : Bool := r.guards[i]?.join.isSome

/-- The item that a step hands out; a guard that was dropped hands out nothing. -/
def made (r : Registry) : Step → Option Item
  | .new | .clone _ => some (.token r.tokens.length)
  | .guard _ => some (.guard r.guards.length)
  | .guardToken i => if r.holds i then some (.token r.tokens.length) else none
  | _ => none

/-- The item that a step cancels or drops; a guard is dropped only once. -/
def struck (r : Registry) : Step → Option Item
  | .cancel i | .waitCancel _ i => some (.token i)
  | .dropGuard i => if r.holds i then some (.guard i) else none
  | _ => none

/-- Whether an item was handed out. -/
def Has (r : Registry) : Item → Prop
  | .token i => i < r.tokens.length
  | .guard i => i < r.guards.length

/-- Whether all that a step names was handed out. -/
def Knows (r : Registry) : Step → Prop
  | .new => True
  | .clone i | .cancel i | .guard i | .wait i => r.Has (.token i)
  | .guardToken i | .dropGuard i => r.Has (.guard i)
  | .waitCancel i j => r.Has (.token i) ∧ r.Has (.token j)

instance (r : Registry) (x : Item) : Decidable (r.Has x) :=
  match x with
  | .token i => inferInstanceAs (Decidable (i < r.tokens.length))
  | .guard i => inferInstanceAs (Decidable (i < r.guards.length))

instance (r : Registry) (t : Step) : Decidable (r.Knows t) :=
  match t with
  | .new => inferInstanceAs (Decidable True)
  | .clone i | .cancel i | .guard i | .wait i => inferInstanceAs (Decidable (r.Has (.token i)))
  | .guardToken i | .dropGuard i => inferInstanceAs (Decidable (r.Has (.guard i)))
  | .waitCancel i j => inferInstanceAs (Decidable (r.Has (.token i) ∧ r.Has (.token j)))

/-- The token that an item bears.  Of a dropped guard nothing is known any more. -/
def Bears (r : Registry) : Item → Token → Prop
  | .token i, tk => r.tokens[i]? = some tk
  | .guard i, tk => r.guards[i]? = some none ∨ r.guards[i]? = some (some tk)

/-- What bears a token was handed out. -/
theorem has_of_bears (h : r.Bears x tk) : r.Has x := by
  cases x with
  | token i => exact (List.getElem?_eq_some_iff.mp h).1
  | guard i =>
      obtain hnone | hsome := h
      · exact (List.getElem?_eq_some_iff.mp hnone).1
      · exact (List.getElem?_eq_some_iff.mp hsome).1

/-- An item bears one token and no other. -/
def Carries (r : Registry) (x : Item) (tk : Token) : Prop :=
  r.Bears x tk ∧ ∀ tk', r.Bears x tk' → tk' = tk

theorem carries_token {i : Nat} (h : r.Has (.token i)) : r.Carries (.token i) (r.token i) := by
  have hget : r.tokens[i]? = some (r.token i) := by
    rw [token, List.getElem?_eq_getElem h, Option.getD_some]
  exact ⟨hget, fun tk' h' => Option.some.inj (h'.symm.trans hget)⟩

theorem carries_guard {i : Nat} (h : r.guards[i]?.join = some tk) : r.Carries (.guard i) tk := by
  have hget : r.guards[i]? = some (some tk) := Option.join_eq_some_iff.mp h
  refine ⟨.inr hget, ?_⟩
  rintro tk' (hnone | hsome)
  · rw [hget] at hnone
    cases hnone
  · rw [hget] at hsome
    cases hsome
    rfl

/-- What a step comes to: a token is created, a token or a guard is handed out for an item, a token
is cancelled, a guard is dropped, or nothing happens. -/
inductive Effect (r : Registry) (t : Step) : Registry → Prop
  | created (source : t.source = none) (made : r.made t = some (.token r.tokens.length))
      (struck : r.struck t = none) : Effect r t r.create
  | handed {x : Item} {tk : Token} (source : t.source = some x) (carries : r.Carries x tk)
      (made : r.made t = some (.token r.tokens.length)) (struck : r.struck t = none) :
      Effect r t (r.hand tk)
  | guarded {x : Item} {tk : Token} (source : t.source = some x) (carries : r.Carries x tk)
      (made : r.made t = some (.guard r.guards.length)) (struck : r.struck t = none) :
      Effect r t { r with guards := r.guards ++ [some tk] }
  | cancelled {y : Item} {tk : Token} (struck : r.struck t = some y) (carries : r.Carries y tk)
      (made : r.made t = none) : Effect r t (r.cancel tk)
  | dropped {i : Nat} {tk : Token} (struck : r.struck t = some (.guard i))
      (carries : r.Carries (.guard i) tk) (made : r.made t = none) :
      Effect r t ({ r with guards := r.guards.set i none }.cancel tk)
  | nothing (struck : r.struck t = none) (made : r.made t = none) : Effect r t r

/-- **A step has one of these effects.** -/
theorem effect_step (h : r.Knows t) : Effect r t (r.step t).2 := by
  cases t with
  | new => exact .created rfl rfl rfl
  | clone i => exact .handed rfl (carries_token h) rfl rfl
  | guard i => exact .guarded rfl (carries_token h) rfl rfl
  | cancel i => exact .cancelled rfl (carries_token h) rfl
  | waitCancel i j => exact .cancelled rfl (carries_token h.2) rfl
  | wait i => exact .nothing rfl rfl
  | guardToken i =>
      cases hguard : r.guards[i]?.join with
      | none =>
          simp only [step, hguard]
          exact .nothing rfl (by simp [made, holds, hguard])
      | some tk =>
          simp only [step, hguard]
          exact .handed rfl (carries_guard hguard) (by simp [made, holds, hguard]) rfl
  | dropGuard i =>
      cases hguard : r.guards[i]?.join with
      | none =>
          simp only [step, hguard]
          exact .nothing (by simp [struck, holds, hguard]) rfl
      | some tk =>
          simp only [step, hguard]
          exact .dropped (by simp [struck, holds, hguard]) (carries_guard hguard) rfl

variable {r' : Registry}

/-- A step takes no item away. -/
theorem Effect.has (h : Effect r t r') (hx : r.Has x) : r'.Has x := by
  cases h with
  | created | handed | guarded =>
      cases x <;> simp only [Has, create, hand, List.length_append] at hx ⊢ <;> omega
  | dropped =>
      cases x with
      | token i => exact hx
      | guard i => simpa [Has, cancel] using hx
  | cancelled | nothing => exact hx

/-- What a step hands out was not there before. -/
theorem Effect.not_has_of_made (h : Effect r t r') (hx : r.made t = some x) : ¬ r.Has x := by
  cases h with
  | created _ made | handed _ _ made | guarded _ _ made =>
      obtain rfl := Option.some.inj (made.symm.trans hx)
      exact Nat.lt_irrefl _
  | cancelled _ _ made | dropped _ _ made | nothing _ made =>
      rw [made] at hx
      cases hx

/-- What is there after a step was there before, or was handed out by it. -/
theorem Effect.has_or_made (h : Effect r t r') (hx : r'.Has x) :
    r.Has x ∨ r.made t = some x := by
  cases h with
  | created _ made | handed _ _ made =>
      cases x with
      | guard i => exact .inl hx
      | token i =>
          have hi : i < r.tokens.length + 1 := by simpa [Has, create, hand] using hx
          obtain hlt | rfl := Nat.lt_succ_iff_lt_or_eq.mp hi
          · exact .inl hlt
          · exact .inr made
  | guarded _ _ made =>
      cases x with
      | token i => exact .inl hx
      | guard i =>
          have hi : i < r.guards.length + 1 := by simpa [Has] using hx
          obtain hlt | rfl := Nat.lt_succ_iff_lt_or_eq.mp hi
          · exact .inl hlt
          · exact .inr made
  | dropped =>
      cases x with
      | token i => exact .inl hx
      | guard i => exact .inl (by simpa [Has, cancel] using hx)
  | cancelled | nothing => exact .inl hx

/-- Tokens stay what they are. -/
theorem Effect.token_eq (h : Effect r t r') {i : Nat} (hi : r.Has (.token i)) :
    r'.tokens[i]? = r.tokens[i]? := by
  cases h with
  | created | handed => exact List.getElem?_append_left hi
  | guarded | cancelled | dropped | nothing => rfl

/-- Items go on bearing their tokens. -/
theorem Effect.bears (h : Effect r t r') (hx : r.Bears x tk) : r'.Bears x tk := by
  cases x with
  | token i => exact (h.token_eq (has_of_bears hx)).trans hx
  | guard i =>
      have hi : i < r.guards.length := has_of_bears hx
      cases h with
      | guarded =>
          rw [Bears, List.getElem?_append_left hi]
          exact hx
      | @dropped j =>
          show (r.guards.set j none)[i]? = _ ∨ (r.guards.set j none)[i]? = _
          rw [List.getElem?_set]
          split
          · exact .inl (if_pos (by omega))
          · exact hx
      | created | handed | cancelled | nothing => exact hx

/-- What is handed out for an item bears the same token. -/
theorem Effect.bears_made (h : Effect r t r') (source : t.source = some x)
    (hy : r.made t = some y) (hx : r.Bears x tk) : r'.Bears y tk := by
  cases h with
  | created none =>
      rw [none] at source
      cases source
  | handed source' carries made | guarded source' carries made =>
      obtain rfl := Option.some.inj (source'.symm.trans source)
      obtain rfl := Option.some.inj (made.symm.trans hy)
      obtain rfl := carries.2 tk hx
      simp [Bears, hand]
  | cancelled _ _ made | dropped _ _ made | nothing _ made =>
      rw [made] at hy
      cases hy

/-- A step that strikes an item strikes one that bears a single token. -/
theorem Effect.carries_of_struck (h : Effect r t r') (hy : r.struck t = some y) :
    ∃ tk, r.Carries y tk := by
  cases h with
  | cancelled struck carries | dropped struck carries =>
      obtain rfl := Option.some.inj (struck.symm.trans hy)
      exact ⟨_, carries⟩
  | created _ _ struck | handed _ _ _ struck | guarded _ _ _ struck | nothing struck =>
      rw [struck] at hy
      cases hy

/-- The token of an item that is struck is the one that the item bears. -/
theorem Carries.eq_iff (h : r.Carries y tk') (struck : r.struck t = some y) :
    tk' = tk ↔ ∃ x, r.struck t = some x ∧ r.Bears x tk := by
  constructor
  · rintro rfl
    exact ⟨y, struck, h.1⟩
  · rintro ⟨x, hx, hbears⟩
    obtain rfl := Option.some.inj (struck.symm.trans hx)
    exact (h.2 tk hbears).symm

/-- **A step cancels the token of the item that it strikes**, and no other. -/
theorem Effect.isCancelled_iff (h : Effect r t r') (htk : tk.family < r.families.flags.length) :
    r'.isCancelled tk ↔ r.isCancelled tk ∨ ∃ y, r.struck t = some y ∧ r.Bears y tk := by
  cases h with
  | created _ _ struck =>
      rw [struck]
      simpa [isCancelled, create, hand] using
        Bool.eq_iff_iff.mp (Families.isCancelled_create_of_lt htk)
  | handed _ _ _ struck | guarded _ _ _ struck | nothing struck =>
      simp [struck, isCancelled, hand]
  | cancelled struck carries | dropped struck carries =>
      exact (Families.isCancelled_cancel_iff htk).trans (or_congr_right (carries.eq_iff struck))

/-- No step takes a family away. -/
theorem Effect.families_le (h : Effect r t r') :
    r.families.flags.length ≤ r'.families.flags.length := by
  cases h <;> simp [create, hand, cancel, Families.create, Families.cancel]

/-! ## Histories -/

/-- The registry after a history. -/
def after (history : List Step) : Registry := history.foldl (fun r t => (r.step t).2) {}

theorem after_concat (history : List Step) (t : Step) :
    after (history ++ [t]) = ((after history).step t).2 := by
  rw [after, List.foldl_append]
  rfl

end Registry

open Registry

/-- Whether every step of a history names only what was handed out when it comes. -/
def Possible (history : List Step) : Prop :=
  ∀ before t, before ++ [t] <+: history → (after before).Knows t

/-- One item comes directly from another: it was handed out for that one. -/
def Stems (history : List Step) (x y : Item) : Prop :=
  ∃ before t, before ++ [t] <+: history ∧ t.source = some x ∧ (after before).made t = some y

/-- One item comes from another, over any number of others or none. -/
def Comes (history : List Step) : Item → Item → Prop := ReflTransGen (Stems history)

/-- An item that was created, and comes from no other, with the token that it was given. -/
def Founds (history : List Step) (x : Item) (tk : Token) : Prop :=
  ∃ before t, before ++ [t] <+: history ∧ t = .new ∧ (after before).made t = some x ∧
    (after before).families.create.1 = tk

/-- Two items of one family: both come from one that was created. -/
def Kin (history : List Step) (x y : Item) : Prop :=
  ∃ founder, (∃ tk, Founds history founder tk) ∧ Comes history founder x ∧
    Comes history founder y

/-- Some step cancelled an item of the family of a given one, or dropped it. -/
def Revoked (history : List Step) (x : Item) : Prop :=
  ∃ before t, before ++ [t] <+: history ∧
    ∃ y, (after before).struck t = some y ∧ Kin history y x

variable {history before : List Step} {t : Step} {f f' x y : Item} {tk tk' : Token}

/-- What holds at each step of a longer history holds at those of the shorter one, and at the
last. -/
theorem exists_prefix_concat {P : List Step → Step → Prop} :
    (∃ before u, before ++ [u] <+: history ++ [t] ∧ P before u) ↔
      (∃ before u, before ++ [u] <+: history ∧ P before u) ∨ P history t := by
  simp only [List.prefix_concat_iff]
  constructor
  · rintro ⟨before, u, heq | hprefix, h⟩
    · obtain ⟨rfl, hu⟩ := List.append_inj' heq rfl
      obtain rfl := List.singleton_inj.mp hu
      exact .inr h
    · exact .inl ⟨before, u, hprefix, h⟩
  · rintro (⟨before, u, hprefix, h⟩ | h)
    · exact ⟨before, u, .inr hprefix, h⟩
    · exact ⟨history, t, .inl rfl, h⟩

/-- Every step of a history comes at some place of it. -/
theorem possible_iff_getElem :
    Possible history ↔
      ∀ i, (hi : i < history.length) → (after (history.take i)).Knows history[i] := by
  constructor
  · intro h i hi
    refine h (history.take i) history[i] ?_
    rw [List.take_append_getElem]
    exact List.take_prefix (i + 1) history
  · rintro h before t ⟨later, rfl⟩
    simpa using h before.length (by simp)

instance (history : List Step) : Decidable (Possible history) :=
  decidable_of_iff _ possible_iff_getElem.symm

/-- A history is possible if its last turn has its token when it comes. -/
theorem possible_concat :
    Possible (history ++ [t]) ↔ Possible history ∧ (after history).Knows t := by
  constructor
  · intro h
    exact ⟨fun before u hu => h before u (hu.trans (List.prefix_append _ _)),
      h history t List.prefix_rfl⟩
  · rintro ⟨h, hknows⟩ before u hu
    by_contra hnot
    obtain ⟨before', u', hu', hnot'⟩ | hnot' :=
      exists_prefix_concat (P := fun before u => ¬ (after before).Knows u).mp
        ⟨before, u, hu, hnot⟩
    · exact hnot' (h before' u' hu')
    · exact hnot' hknows

theorem stems_concat :
    Stems (history ++ [t]) x y ↔
      Stems history x y ∨ t.source = some x ∧ (after history).made t = some y :=
  exists_prefix_concat

theorem founds_concat :
    Founds (history ++ [t]) x tk ↔ Founds history x tk ∨
      t = .new ∧ (after history).made t = some x ∧ (after history).families.create.1 = tk :=
  exists_prefix_concat

theorem Comes.concat (h : Comes history x y) : Comes (history ++ [t]) x y :=
  ReflTransGen.mono (fun _ _ hs => stems_concat.mpr (.inl hs)) _ _ h

/-! ## What is there -/

/-- The effect of a step of a history. -/
theorem Possible.effect (h : Possible history) (hp : before ++ [t] <+: history) :
    Effect (after before) t (after (before ++ [t])) := by
  rw [after_concat]
  exact effect_step (h before t hp)

/-- Items stay there. -/
theorem Possible.has (h : Possible history) (hp : before <+: history)
    (hx : (after before).Has x) : (after history).Has x := by
  induction history using List.reverseRecOn with
  | nil =>
      obtain rfl := List.prefix_nil.mp hp
      exact hx
  | append_singleton history t ih =>
      obtain rfl | hp := List.prefix_concat_iff.mp hp
      · exact hx
      · have hhas := ih (possible_concat.mp h).1 hp
        exact (h.effect List.prefix_rfl).has hhas

/-- A step that is possible names an item that is there as the source of a new one. -/
theorem has_of_source {r : Registry} (h : r.Knows t) (source : t.source = some x) : r.Has x := by
  cases t <;> cases source
  all_goals exact h

/-- Whatever is handed out is created or has a source. -/
theorem new_or_source {r : Registry} (hx : r.made t = some x) :
    t = .new ∨ ∃ p, t.source = some p := by
  cases t with
  | new => exact .inl rfl
  | clone i | guard i | guardToken i => exact .inr ⟨_, rfl⟩
  | cancel | dropGuard | wait | waitCancel => cases hx

/-- What something comes from is there. -/
theorem Stems.has (hs : Stems history x y) (h : Possible history) : (after history).Has x := by
  obtain ⟨before, t, hp, source, -⟩ := hs
  have hx : (after before).Has x := has_of_source (h before t hp) source
  exact h.has ((List.prefix_append _ _).trans hp) hx

/-- What is struck is there. -/
theorem has_of_struck (h : Possible history) (hp : before ++ [t] <+: history)
    (hy : (after before).struck t = some y) : (after before).Has y := by
  obtain ⟨tk, hcarries⟩ := (h.effect hp).carries_of_struck hy
  exact has_of_bears hcarries.1

/-- From what is not there comes nothing else. -/
theorem Comes.eq_of_not_has (hc : Comes history x y) (h : Possible history)
    (hx : ¬ (after history).Has x) : y = x := by
  obtain heq | ⟨z, hs, -⟩ := hc.cases_head
  · exact heq.symm
  · exact absurd (hs.has h) hx

/-- What comes from an item after one more step came from it before, or was just handed out for
one that did. -/
theorem Comes.of_concat (hc : Comes (history ++ [t]) x y) (h : Possible (history ++ [t])) :
    Comes history x y ∨
      ∃ p, Comes history x p ∧ t.source = some p ∧ (after history).made t = some y := by
  obtain ⟨hbefore, hknows⟩ := possible_concat.mp h
  have heffect := h.effect List.prefix_rfl
  induction hc with
  | refl => exact .inl .refl
  | @tail y z _ hs ih =>
      -- What was just handed out is new, so nothing comes from it yet.
      obtain hs | ⟨source, made⟩ := stems_concat.mp hs
      · obtain hc | ⟨p, -, -, made⟩ := ih
        · exact .inl (hc.tail hs)
        · exact absurd (hs.has hbefore) (heffect.not_has_of_made made)
      · obtain hc | ⟨p, -, -, made'⟩ := ih
        · exact .inr ⟨y, hc, source, made⟩
        · exact absurd (has_of_source hknows source) (heffect.not_has_of_made made')

/-- One more step leaves alone what an item that is there comes from. -/
theorem comes_concat_iff (h : Possible (history ++ [t])) (hy : (after history).Has y) :
    Comes (history ++ [t]) x y ↔ Comes history x y := by
  refine ⟨fun hc => ?_, Comes.concat⟩
  obtain hc | ⟨p, -, -, made⟩ := hc.of_concat h
  · exact hc
  · exact absurd hy ((h.effect List.prefix_rfl).not_has_of_made made)

/-! ## The invariant -/

/-- Some step struck an item that comes from a given one. -/
def Struck (history : List Step) (f : Item) : Prop :=
  ∃ before t, before ++ [t] <+: history ∧
    ∃ y, (after before).struck t = some y ∧ Comes history f y

/-- What the registry keeps of the families after a history. -/
structure WellKept (history : List Step) : Prop where
  /-- The flag of each family is there. -/
  bounded {f : Item} {tk : Token} : Founds history f tk →
    tk.family < (after history).families.flags.length
  /-- Every item is of a family. -/
  founded {x : Item} : (after history).Has x → ∃ f tk, Founds history f tk ∧ Comes history f x
  /-- All items of a family bear its token. -/
  borne {f x : Item} {tk : Token} : Founds history f tk → Comes history f x →
    (after history).Bears x tk
  /-- No two families have one token. -/
  single {f f' : Item} {tk : Token} : Founds history f tk → Founds history f' tk → f = f'
  /-- The flag of a family is set when an item of it was struck. -/
  revoked {f : Item} {tk : Token} : Founds history f tk →
    ((after history).isCancelled tk ↔ Struck history f)

/-- One more step strikes an item of a family, or it has been struck before. -/
theorem struck_concat (h : Possible (history ++ [t])) :
    Struck (history ++ [t]) f ↔
      Struck history f ∨ ∃ y, (after history).struck t = some y ∧ Comes history f y := by
  obtain ⟨hbefore, -⟩ := possible_concat.mp h
  rw [Struck, exists_prefix_concat]
  refine or_congr ?_ ?_
  · constructor
    · rintro ⟨before, u, hp, y, hy, hc⟩
      have hhas := hbefore.has ((List.prefix_append _ _).trans hp) (has_of_struck hbefore hp hy)
      exact ⟨before, u, hp, y, hy, (comes_concat_iff h hhas).mp hc⟩
    · rintro ⟨before, u, hp, y, hy, hc⟩
      exact ⟨before, u, hp, y, hy, hc.concat⟩
  · refine exists_congr fun y => and_congr_right fun hy => ?_
    exact comes_concat_iff h (has_of_struck h List.prefix_rfl hy)

/-- An item that was not there was never struck, nor anything that comes from it. -/
theorem not_struck_of_not_has (h : Possible history) (hf : ¬ (after history).Has f) :
    ¬ Struck history f := by
  rintro ⟨before, t, hp, y, hy, hc⟩
  obtain rfl := hc.eq_of_not_has h hf
  exact hf (h.has ((List.prefix_append _ _).trans hp) (has_of_struck h hp hy))

theorem wellKept_nil : WellKept [] := by
  have none {f : Item} {tk : Token} : ¬ Founds [] f tk := by
    rintro ⟨before, t, hp, -⟩
    simp at hp
  exact
    { bounded := fun hf => absurd hf none
      founded := by
        intro x hx
        cases x <;> exact absurd hx (Nat.not_lt_zero _)
      borne := fun hf => absurd hf none
      single := fun hf => absurd hf none
      revoked := fun hf => absurd hf none }

namespace WellKept

variable (w : WellKept history)
include w

/-- Each token has one founder: the last turn founds none that was founded before. -/
theorem single_concat (hf : Founds (history ++ [t]) f tk) (hf' : Founds (history ++ [t]) f' tk) :
    f = f' := by
  -- The token of a new family is none of those before.
  have hnew {g : Item} (hg : Founds history g tk)
      (heq : (after history).families.create.1 = tk) : False := by
    have hlt := w.bounded hg
    rw [← heq] at hlt
    exact Nat.lt_irrefl _ hlt
  obtain hf | ⟨-, made, heq⟩ := founds_concat.mp hf
  · obtain hf' | ⟨-, -, heq'⟩ := founds_concat.mp hf'
    · exact w.single hf hf'
    · exact (hnew hf heq').elim
  · obtain hf' | ⟨-, made', -⟩ := founds_concat.mp hf'
    · exact (hnew hf' heq).elim
    · exact Option.some.inj (made.symm.trans made')

variable (h : Possible (history ++ [t]))
include h

/-- An item that is struck comes from the family whose token it bears, and from no other. -/
theorem comes_iff_bears (hf : Founds history f tk) (hy : (after history).struck t = some y) :
    Comes history f y ↔ (after history).Bears y tk := by
  refine ⟨w.borne hf, fun hbears => ?_⟩
  obtain ⟨tk₁, -, hone⟩ := (h.effect List.prefix_rfl).carries_of_struck hy
  obtain ⟨f', tk', hf', hc⟩ := w.founded (has_of_bears hbears)
  have htk : tk' = tk := (hone tk' (w.borne hf' hc)).trans (hone tk hbears).symm
  subst htk
  obtain rfl := w.single hf hf'
  exact hc

theorem bounded_concat (hf : Founds (history ++ [t]) f tk) :
    tk.family < (after (history ++ [t])).families.flags.length := by
  obtain hf | ⟨rfl, -, rfl⟩ := founds_concat.mp hf
  · exact Nat.lt_of_lt_of_le (w.bounded hf) (h.effect List.prefix_rfl).families_le
  · rw [after_concat]
    simp [step, create, hand, Families.create]

theorem founded_concat (hx : (after (history ++ [t])).Has x) :
    ∃ f tk, Founds (history ++ [t]) f tk ∧ Comes (history ++ [t]) f x := by
  obtain ⟨-, hknows⟩ := possible_concat.mp h
  obtain hx | made := (h.effect List.prefix_rfl).has_or_made hx
  · obtain ⟨f, tk, hf, hc⟩ := w.founded hx
    exact ⟨f, tk, founds_concat.mpr (.inl hf), hc.concat⟩
  · obtain rfl | ⟨p, source⟩ := new_or_source made
    · exact ⟨x, _, founds_concat.mpr (.inr ⟨rfl, made, rfl⟩), .refl⟩
    · obtain ⟨f, tk, hf, hc⟩ := w.founded (has_of_source hknows source)
      exact ⟨f, tk, founds_concat.mpr (.inl hf),
        hc.concat.tail (stems_concat.mpr (.inr ⟨source, made⟩))⟩

/-- What comes of a founder bears its token; the last turn hands it on, or has nothing to do with
it. -/
theorem borne_concat (hf : Founds (history ++ [t]) f tk) (hc : Comes (history ++ [t]) f x) :
    (after (history ++ [t])).Bears x tk := by
  have heffect := h.effect List.prefix_rfl
  obtain hf | ⟨rfl, made, rfl⟩ := founds_concat.mp hf
  · obtain hc | ⟨p, hc, source, made⟩ := hc.of_concat h
    · exact heffect.bears (w.borne hf hc)
    · exact heffect.bears_made source made (w.borne hf hc)
  · obtain hc | ⟨p, -, source, -⟩ := hc.of_concat h
    · obtain rfl := hc.eq_of_not_has (possible_concat.mp h).1 (heffect.not_has_of_made made)
      obtain rfl := Option.some.inj made
      rw [after_concat]
      simp [Bears, step, create, hand]
    · cases source

/-- A token is cancelled when something of its family was struck, be it by the last turn or before.
-/
theorem revoked_concat (hf : Founds (history ++ [t]) f tk) :
    (after (history ++ [t])).isCancelled tk ↔ Struck (history ++ [t]) f := by
  have heffect := h.effect List.prefix_rfl
  rw [struck_concat h]
  obtain hf | ⟨rfl, made, rfl⟩ := founds_concat.mp hf
  · rw [heffect.isCancelled_iff (w.bounded hf), w.revoked hf]
    refine or_congr_right (exists_congr fun y => and_congr_right fun hy => ?_)
    exact (w.comes_iff_bears h hf hy).symm
  · have hfresh : ¬ Struck history f :=
      not_struck_of_not_has (possible_concat.mp h).1 (heffect.not_has_of_made made)
    have hflag : (after (history ++ [.new])).isCancelled (after history).families.create.1 =
        false := by
      rw [after_concat]
      exact Families.not_isCancelled_create
    simp [hflag, hfresh, struck]

/-- **Step.**  One more step keeps the families. -/
theorem concat : WellKept (history ++ [t]) where
  bounded := w.bounded_concat h
  founded := w.founded_concat h
  borne := w.borne_concat h
  single := w.single_concat
  revoked := w.revoked_concat h

end WellKept

/-- **Invariant.**  The registry keeps the families of every possible history. -/
theorem wellKept_of_possible (h : Possible history) : WellKept history := by
  induction history using List.reverseRecOn with
  | nil => exact wellKept_nil
  | append_singleton history t ih => exact (ih (possible_concat.mp h).1).concat h

/-! ## Tokens and their families -/

/-- Whether the token handed out at a given place is cancelled after a history. -/
def Cancelled (history : List Step) (i : Nat) : Bool :=
  (after history).isCancelled ((after history).token i)

/-- Items of one family bear one token. -/
theorem Kin.bears (hk : Kin history x y) (h : Possible history) :
    ∃ tk, (after history).Bears x tk ∧ (after history).Bears y tk := by
  obtain ⟨f, ⟨tk, hf⟩, hx, hy⟩ := hk
  have w := wellKept_of_possible h
  exact ⟨tk, w.borne hf hx, w.borne hf hy⟩

/-- The token at a place is the one that its family was given. -/
theorem exists_founds (h : Possible history) {i : Nat} (hi : (after history).Has (.token i)) :
    ∃ f, Founds history f ((after history).token i) ∧ Comes history f (.token i) := by
  have w := wellKept_of_possible h
  obtain ⟨f, tk, hf, hc⟩ := w.founded hi
  obtain rfl := (carries_token hi).2 tk (w.borne hf hc)
  exact ⟨f, hf, hc⟩

/-- A token comes from one creation only. -/
theorem founder_unique (h : Possible history) {i : Nat} (hf : Founds history f tk)
    (hc : Comes history f (.token i)) (hf' : Founds history f' tk')
    (hc' : Comes history f' (.token i)) : f = f' := by
  have w := wellKept_of_possible h
  have hbears : (after history).tokens[i]? = some tk := w.borne hf hc
  have hbears' : (after history).tokens[i]? = some tk' := w.borne hf' hc'
  obtain rfl := Option.some.inj (hbears.symm.trans hbears')
  exact w.single hf hf'

/-- What is of the family of a token comes from the creation of that token. -/
theorem kin_token_iff (h : Possible history) {i : Nat} (hf : Founds history f tk)
    (hc : Comes history f (.token i)) : Kin history y (.token i) ↔ Comes history f y := by
  constructor
  · rintro ⟨f', ⟨tk', hf'⟩, hy, hc'⟩
    obtain rfl := founder_unique h hf hc hf' hc'
    exact hy
  · intro hy
    exact ⟨f, ⟨tk, hf⟩, hy, hc⟩

/-- The flag of a token is set when its family was revoked. -/
theorem cancelled_iff_revoked (h : Possible history) {i : Nat}
    (hi : (after history).Has (.token i)) : Cancelled history i ↔ Revoked history (.token i) := by
  obtain ⟨f, hf, hc⟩ := exists_founds h hi
  rw [Cancelled, (wellKept_of_possible h).revoked hf]
  simp only [Struck, Revoked, kin_token_iff h hf hc]

/-- One more step revokes the family of an item, or it has been revoked before. -/
theorem revoked_concat_iff (h : Possible (history ++ [t])) {i : Nat}
    (hi : (after history).Has (.token i)) :
    Revoked (history ++ [t]) (.token i) ↔ Revoked history (.token i) ∨
      ∃ y, (after history).struck t = some y ∧ Kin history y (.token i) := by
  obtain ⟨hbefore, -⟩ := possible_concat.mp h
  obtain ⟨f, hf, hc⟩ := exists_founds hbefore hi
  have hf' : Founds (history ++ [t]) f ((after history).token i) := founds_concat.mpr (.inl hf)
  have hsplit : Struck (history ++ [t]) f ↔ _ := struck_concat h
  simp only [Revoked, kin_token_iff h hf' hc.concat, kin_token_iff hbefore hf hc]
  exact hsplit

/-- What the families mean for the tokens, in the state that a history leads to. -/
structure Familial (history : List Step) : Prop where
  /-- A token is cancelled when a step cancelled an item of its family, or dropped it. -/
  cancelled {i : Nat} : (after history).Has (.token i) →
    (Cancelled history i ↔ Revoked history (.token i))
  /-- Nothing takes this back. -/
  lasting {i : Nat} {later : List Step} : (after history).Has (.token i) →
    Possible (history ++ later) → Cancelled history i → Cancelled (history ++ later) i
  /-- All tokens of a family agree. -/
  agreeing {i j : Nat} : Kin history (.token i) (.token j) →
    Cancelled history i = Cancelled history j
  /-- A step that strikes nothing of its family leaves a token alone. -/
  apart {i : Nat} {t : Step} : (after history).Has (.token i) → (after history).Knows t →
    (∀ y, (after history).struck t = some y → ¬ Kin history y (.token i)) →
    Cancelled (history ++ [t]) i = Cancelled history i
  /-- Creating a token, and handing one out or a guard for what is there, cancels nothing. -/
  quiet {i : Nat} {t : Step} : (after history).Has (.token i) → (after history).Knows t →
    (t = .new ∨ t.source.isSome) → Cancelled (history ++ [t]) i = Cancelled history i
  /-- Waiting for a token is over at a poll when the token is cancelled at that time. -/
  poll {i : Nat} : (after history).Knows (.wait i) → ∃ ended,
    ((after history).step (.wait i)).1 = .ready ended ∧ (ended ↔ Revoked history (.token i))
  /-- One who waits is polled again after a token was cancelled. -/
  pollAgain {i j : Nat} : (after history).Knows (.waitCancel i j) → ∃ before later,
    ((after history).step (.waitCancel i j)).1 = .readyAfter before later ∧
    (before ↔ Revoked history (.token i)) ∧
    (later ↔ Revoked (history ++ [.waitCancel i j]) (.token i))

/-- A token that is cancelled is cancelled for good. -/
theorem cancelled_append {i : Nat} {later : List Step} (hi : (after history).Has (.token i))
    (hlater : Possible (history ++ later)) (hc : Cancelled history i) :
    Cancelled (history ++ later) i := by
  induction later using List.reverseRecOn with
  | nil => simpa using hc
  | append_singleton later t ih =>
      rw [← List.append_assoc] at hlater ⊢
      obtain ⟨hbefore, -⟩ := possible_concat.mp hlater
      have hhas := hbefore.has (List.prefix_append _ _) hi
      have hhas' := hlater.has (List.prefix_append _ _) hhas
      have hrevoked := (cancelled_iff_revoked hbefore hhas).mp (ih hbefore)
      exact (cancelled_iff_revoked hlater hhas').mpr
        ((revoked_concat_iff hlater hhas).mpr (.inl hrevoked))

/-- A step that strikes nothing of its family leaves a token alone. -/
theorem cancelled_concat (h : Possible history) {i : Nat} (hi : (after history).Has (.token i))
    (hknows : (after history).Knows t)
    (hstruck : ∀ y, (after history).struck t = some y → ¬ Kin history y (.token i)) :
    Cancelled (history ++ [t]) i = Cancelled history i := by
  have h' : Possible (history ++ [t]) := possible_concat.mpr ⟨h, hknows⟩
  have hi' := h'.has (List.prefix_append _ _) hi
  have hnone : ¬ ∃ y, (after history).struck t = some y ∧ Kin history y (.token i) := by
    rintro ⟨y, hy, hk⟩
    exact hstruck y hy hk
  rw [Bool.eq_iff_iff, cancelled_iff_revoked h' hi', cancelled_iff_revoked h hi,
    revoked_concat_iff h' hi, or_iff_left hnone]

/-- A step that hands something out strikes nothing. -/
theorem struck_of_source {r : Registry} (h : t = .new ∨ t.source.isSome) : r.struck t = none := by
  obtain rfl | h := h
  · rfl
  · cases t with
    | clone | guard | guardToken => rfl
    | new | cancel | dropGuard | wait | waitCancel => cases h

/-- **A token is cancelled when its family was revoked**, and never else: families last, each of
them agrees, none of them touches another, and waiting is over when the flag is set. -/
theorem cancelled_by_family (h : Possible history) : Familial history where
  cancelled := cancelled_iff_revoked h
  lasting := cancelled_append
  agreeing := by
    intro i j hk
    obtain ⟨tk, hi, hj⟩ := hk.bears h
    obtain rfl := (carries_token (has_of_bears hi)).2 tk hi
    rw [Cancelled, Cancelled, (carries_token (has_of_bears hj)).2 _ hj]
  apart := cancelled_concat h
  quiet := by
    intro i t hi hknows hsource
    refine cancelled_concat h hi hknows ?_
    intro y hy
    rw [struck_of_source hsource] at hy
    cases hy
  poll := by
    intro i hi
    exact ⟨_, rfl, cancelled_iff_revoked h hi⟩
  pollAgain := by
    intro i j hknows
    have h' : Possible (history ++ [.waitCancel i j]) := possible_concat.mpr ⟨h, hknows⟩
    refine ⟨_, _, rfl, cancelled_iff_revoked h hknows.1, ?_⟩
    rw [← cancelled_iff_revoked h' (h'.has (List.prefix_append _ _) hknows.1), Cancelled,
      after_concat]
    simp [step, Registry.token, Registry.cancel, Families.cancel]

/-- Two families: the guard that is dropped was made for a clone in the first, and the token taken
from it before is cancelled with that family. -/
theorem cancelled_by_family_two :
    Possible [.new, .new, .clone 0, .guard 2, .guardToken 0, .dropGuard 0, .wait 1] ∧
      Familial [.new, .new, .clone 0, .guard 2, .guardToken 0, .dropGuard 0, .wait 1] ∧
      (after [.new, .new, .clone 0, .guard 2, .guardToken 0, .dropGuard 0, .wait 1]).cancelled =
        [true, false, true, true] :=
  ⟨by decide, cancelled_by_family (by decide), by decide⟩

end ShaderSketch.Cancellation
