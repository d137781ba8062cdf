import Mathlib.Data.List.Perm.Basic
import ShaderSketch.Proofs.Results
import ShaderSketch.Toml.Value

/-!
# Reading a table key by key

A table is gone through key by key, and each key that means something is taken into its own part of
what is being read.  When the keys are all different, what each part comes to can be said of its key
alone: the keys beside it make no difference, nor does the order in which they stand.

## Main definitions

* `Toml.takeIn` — everything of a table taken in
* `Toml.onKey`, `Toml.passOver` — keys that mean something, and all others
* `Toml.Field` — a key that is taken into one part of what is being read, as no other is
* `Toml.Takes` — the keys that mean something, and what may stand under them

## Main results

* `Toml.Table.lookup_perm` : the order of a table does not matter
* `Toml.Field.of_takeIn` : what a part comes to after all keys
* `Toml.Takes.takeIn` : when all keys can be taken in
* `Toml.takeIn_error` : what a table fails by

## Design notes

A reader of tables is a chain of keys that mean something, and each of these results goes along the
chain.  A key more in the chain is one more step in the proofs about it.
-/

namespace ShaderSketch.Toml

/-! ## Tables by their keys -/

namespace Table

variable {t t' : Table} {key : String} {v : Value}

/-- In a table with keys that are all different, a key has the value that stands beside it. -/
theorem lookup_eq_some_iff (apart : (t.map Prod.fst).Nodup) :
    t.lookup key = some v ↔ (key, v) ∈ t := by
  constructor
  · intro hlookup
    obtain ⟨front, back, rfl, -⟩ := List.lookup_eq_some_iff.mp hlookup
    simp
  · intro hmem
    obtain ⟨front, back, rfl⟩ := List.append_of_mem hmem
    refine List.lookup_eq_some_iff.mpr ⟨front, back, rfl, fun e he => ?_⟩
    rw [List.map_append, List.nodup_append] at apart
    have hne := apart.2.2 e.1 (List.mem_map_of_mem he) key (by simp)
    simpa using hne.symm

/-- The order of a table does not matter when its keys are all different. -/
theorem lookup_perm (apart : (t.map Prod.fst).Nodup) (h : t.Perm t') (key : String) :
    t'.lookup key = t.lookup key := by
  have apart' : (t'.map Prod.fst).Nodup := (h.map Prod.fst).nodup_iff.mp apart
  ext v
  rw [lookup_eq_some_iff apart, lookup_eq_some_iff apart', h.mem_iff]

theorem lookup_map (f : String → Value → Value) (t : Table) (key : String) :
    (t.map fun e => (e.1, f e.1 e.2)).lookup key = (t.lookup key).map (f key) := by
  induction t with
  | nil => rfl
  | cons e t ih =>
      rw [List.map_cons, List.lookup_cons, List.lookup_cons]
      split
      · next heq => rw [eq_of_beq heq]; rfl
      · exact ih

/-- What holds of the values that stand beside a key holds of the value of the key. -/
theorem forall_mem_iff (apart : (t.map Prod.fst).Nodup) {P : Value → Prop} :
    (∀ e ∈ t, e.1 = key → P e.2) ↔ ∀ v, t.lookup key = some v → P v := by
  constructor
  · exact fun h v hv => h (key, v) ((lookup_eq_some_iff apart).mp hv) rfl
  · rintro h ⟨_, v⟩ he rfl
    exact h v ((lookup_eq_some_iff apart).mpr he)

end Table

/-! ## Going through a table -/

variable {σ ε α : Type} {set : σ → String → Value → Except ε σ} {t : Table} {s s' : σ}

/-- Everything of a table taken in, key by key. -/
def takeIn (set : σ → String → Value → Except ε σ) (t : Table) (s : σ) : Except ε σ :=
  t.foldlM (fun s (k, v) => set s k v) s

theorem takeIn_cons (set : σ → String → Value → Except ε σ) (k : String) (v : Value) (t : Table)
    (s : σ) : takeIn set ((k, v) :: t) s = (set s k v).bind (takeIn set t) := rfl

/-- Going through a table starts with its first key. -/
theorem takeIn_cons_ok {k : String} {v : Value} : takeIn set ((k, v) :: t) s = .ok s' ↔
    ∃ s₁, set s k v = .ok s₁ ∧ takeIn set t s₁ = .ok s' := by
  rw [takeIn_cons]
  cases set s k v with
  | error e => simp [Except.bind]
  | ok s₁ => simp [Except.bind]

/-- **What a table fails by** is what one of its keys fails by.  The property is asked of every key
in every state, so that it does not matter how far the reading got. -/
theorem takeIn_error {P : ε → Prop} (h : ∀ {s k v e}, set s k v = .error e → P e) {e : ε}
    (hall : takeIn set t s = .error e) : P e := by
  induction t generalizing s with
  | nil => cases hall
  | cons entry t ih =>
      obtain ⟨k, v⟩ := entry
      rw [takeIn_cons] at hall
      cases hset : set s k v with
      | error e' =>
          rw [hset] at hall
          cases hall
          exact h hset
      | ok s₁ =>
          rw [hset] at hall
          exact ih hall

/-- A key whose value is read and put into one part of what is being read, while no other key
changes that part.  The state may hold more than this part, and nothing is said of the rest of it.
-/
structure Field (set : σ → String → Value → Except ε σ) (key : String)
    (read : Value → Except ε α) (get : σ → α) : Prop where
  own : ∀ {s v s'}, set s key v = .ok s' → read v = .ok (get s')
  other : ∀ {s k v s'}, k ≠ key → set s k v = .ok s' → get s' = get s

/-- **What a part comes to after all keys**: it has the value of the table under its key, or what it
had before when the table does not have it.  The keys have to be all different: of a key that comes
twice the last value would be taken in, and the first one would be looked up. -/
theorem Field.of_takeIn {key : String} {read : Value → Except ε α} {get : σ → α}
    (h : Field set key read get) (apart : (t.map Prod.fst).Nodup) (hall : takeIn set t s = .ok s') :
    (t.lookup key).elim (get s' = get s) fun v => read v = .ok (get s') := by
  induction t generalizing s with
  | nil =>
      cases hall
      rfl
  | cons entry t ih =>
      obtain ⟨k, v⟩ := entry
      obtain ⟨s₁, hset, hall⟩ := takeIn_cons_ok.mp hall
      rw [List.map_cons, List.nodup_cons] at apart
      have hrest := ih apart.2 hall
      rw [List.lookup_cons]
      obtain rfl | hne := eq_or_ne key k
      · -- the key does not come again, so that nothing else is taken in for it
        have absent : t.lookup key = none := by
          refine List.lookup_eq_none_iff.mpr fun e he => ?_
          have hne : e.1 ≠ key := fun heq => apart.1 (heq ▸ List.mem_map.mpr ⟨e, he, rfl⟩)
          simpa using hne.symm
        rw [absent] at hrest
        have hown := h.own hset
        rw [beq_self_eq_true]
        exact hown.trans (congrArg _ hrest.symm)
      · rw [beq_false_of_ne hne, ← h.other hne.symm hset]
        exact hrest

/-- A part with a value of its own for each of what it may hold has the value of the table, or keeps
its default. -/
theorem Field.getD_of_takeIn {key : String} {read : Value → Except ε α} {get : σ → α}
    (h : Field set key read get) {c : α → Value} (hread : ∀ {v a}, read v = .ok a → v = c a)
    (apart : (t.map Prod.fst).Nodup) (hall : takeIn set t s = .ok s') :
    (t.lookup key).getD (c (get s)) = c (get s') := by
  have hpart := h.of_takeIn apart hall
  cases hlookup : t.lookup key with
  | none =>
      rw [hlookup] at hpart
      exact congrArg c hpart.symm
  | some v =>
      rw [hlookup] at hpart
      exact hread hpart

/-- A part that is empty by default and may be filled has the value of the table, if there is one.
-/
theorem Field.map_of_takeIn {key : String} {read : Value → Except ε α} {get : σ → Option α}
    (h : Field set key (fun v => (read v).map some) get) {c : α → Value}
    (hread : ∀ {v a}, read v = .ok a → v = c a) (apart : (t.map Prod.fst).Nodup)
    (hall : takeIn set t s = .ok s') (empty : get s = none) :
    t.lookup key = (get s').map c := by
  have hpart := h.of_takeIn apart hall
  cases hlookup : t.lookup key with
  | none =>
      rw [hlookup] at hpart
      have hnone : get s' = none := Eq.trans hpart empty
      rw [hnone]
      rfl
  | some v =>
      rw [hlookup] at hpart
      obtain ⟨a, ha, hsome⟩ := map_eq_ok_iff.mp hpart
      rw [← hsome, hread ha]
      rfl

/-- What is taken in under each key that means something, and what is not there is passed over. -/
def Takes (set : σ → String → Value → Except ε σ) (keys : List (String × (Value → Prop))) : Prop :=
  ∀ s key v, (∃ s', set s key v = .ok s') ↔ ∀ k ∈ keys, key = k.1 → k.2 v

/-- **When all keys can be taken in**: each that means something has a value that is taken in.
Where the reading starts makes no difference to whether it comes to an end, only to what it comes
to. -/
theorem Takes.takeIn {keys : List (String × (Value → Prop))} (h : Takes set keys)
    (apart : (t.map Prod.fst).Nodup) (s : σ) : (∃ s', takeIn set t s = .ok s') ↔
      ∀ k ∈ keys, ∀ v, t.lookup k.1 = some v → k.2 v := by
  have hall (t : Table) (s : σ) : (∃ s', Toml.takeIn set t s = .ok s') ↔
      ∀ e ∈ t, ∀ k ∈ keys, e.1 = k.1 → k.2 e.2 := by
    induction t generalizing s with
    | nil => exact iff_of_true ⟨s, rfl⟩ (by simp)
    | cons entry t ih =>
        obtain ⟨key, v⟩ := entry
        rw [List.forall_mem_cons, ← h s]
        constructor
        · rintro ⟨s', hall⟩
          obtain ⟨s₁, hset, hall⟩ := takeIn_cons_ok.mp hall
          exact ⟨⟨s₁, hset⟩, (ih s₁).mp ⟨s', hall⟩⟩
        · rintro ⟨⟨s₁, hset⟩, hrest⟩
          obtain ⟨s', hall⟩ := (ih s₁).mpr hrest
          exact ⟨s', takeIn_cons_ok.mpr ⟨s₁, hset, hall⟩⟩
  rw [hall]
  constructor
  · exact fun h k hk => (Table.forall_mem_iff apart).mp fun e he => h e he k hk
  · exact fun h e he k hk => (Table.forall_mem_iff apart).mpr (h k hk) e he

/-! ## Keys that mean something -/

/-- A key that means something: its value is read and put into its place.  Other keys are left to
what follows. -/
def onKey (name : String) (read : Value → Except ε α) (put : σ → α → σ)
    (rest : σ → String → Value → Except ε σ) (s : σ) (key : String) (v : Value) : Except ε σ :=
  if key = name then (read v).map (put s) else rest s key v

/-- All other keys are passed over. -/
def passOver (s : σ) (_ : String) (_ : Value) : Except ε σ := .ok s

/-- No key changes a part of what is being read. -/
def Keeps (set : σ → String → Value → Except ε σ) (get : σ → α) : Prop :=
  ∀ s k v s', set s k v = .ok s' → get s' = get s

variable {β : Type} {name key : String} {read : Value → Except ε α} {put : σ → α → σ}
  {rest : σ → String → Value → Except ε σ} {v : Value} {get : σ → β}

/-- What taking in a key does. -/
theorem onKey_eq_ok : onKey name read put rest s key v = .ok s' ↔
    (key = name ∧ ∃ a, read v = .ok a ∧ put s a = s') ∨ key ≠ name ∧ rest s key v = .ok s' := by
  unfold onKey
  split
  · next heq => simp [heq, map_eq_ok_iff]
  · next hne => simp [hne]

theorem onKey_error {P : ε → Prop} (hread : ∀ {v e}, read v = .error e → P e)
    (hrest : ∀ {s k v e}, rest s k v = .error e → P e) {e : ε}
    (h : onKey name read put rest s key v = .error e) : P e := by
  unfold onKey at h
  split at h
  · exact hread (map_eq_error_iff.mp h)
  · exact hrest h

theorem keeps_passOver : Keeps (@passOver σ ε) get := by
  intro s k v s' hset
  cases hset
  rfl

theorem Keeps.onKey (h : Keeps rest get) (aside : ∀ s a, get (put s a) = get s) :
    Keeps (onKey name read put rest) get := by
  intro s k v s' hset
  obtain ⟨-, a, -, rfl⟩ | ⟨-, hrest⟩ := onKey_eq_ok.mp hset
  · exact aside s a
  · exact h s k v s' hrest

/-- The first key that means something has its part when no other changes it. -/
theorem field_onKey {get : σ → α} (place : ∀ s a, get (put s a) = a) (h : Keeps rest get) :
    Field (onKey name read put rest) name read get where
  own hset := by
    obtain ⟨-, a, hread, rfl⟩ | ⟨hne, -⟩ := onKey_eq_ok.mp hset
    · rw [hread, place]
    · exact absurd rfl hne
  other hne hset := by
    obtain ⟨heq, -⟩ | ⟨-, hrest⟩ := onKey_eq_ok.mp hset
    · exact absurd heq hne
    · exact h _ _ _ _ hrest

/-- A key has its part behind one that means something else. -/
theorem Field.onKey {read' : Value → Except ε β} (h : Field rest key read' get) (hne : key ≠ name)
    (aside : ∀ s a, get (put s a) = get s) : Field (onKey name read put rest) key read' get where
  own hset := by
    obtain ⟨heq, -⟩ | ⟨-, hrest⟩ := onKey_eq_ok.mp hset
    · exact absurd heq hne
    · exact h.own hrest
  other hk hset := by
    obtain ⟨-, a, -, rfl⟩ | ⟨-, hrest⟩ := onKey_eq_ok.mp hset
    · exact aside _ a
    · exact h.other hk hrest

theorem takes_passOver : Takes (@passOver σ ε) [] :=
  fun s _ _ => iff_of_true ⟨s, rfl⟩ (by simp)

/-- One key more means something. -/
theorem Takes.onKey {keys : List (String × (Value → Prop))} (h : Takes rest keys)
    (new : name ∉ keys.map Prod.fst) :
    Takes (onKey name read put rest) ((name, fun v => ∃ a, read v = .ok a) :: keys) := by
  intro s key v
  rw [List.forall_mem_cons]
  constructor
  · rintro ⟨s', hset⟩
    obtain ⟨rfl, a, hread, -⟩ | ⟨hne, hrest⟩ := onKey_eq_ok.mp hset
    · exact ⟨fun _ => ⟨a, hread⟩,
        fun k hk heq => absurd (List.mem_map.mpr ⟨k, hk, heq.symm⟩) new⟩
    · exact ⟨fun heq => absurd heq hne, (h s key v).mp ⟨s', hrest⟩⟩
  · rintro ⟨hown, hothers⟩
    obtain rfl | hne := eq_or_ne key name
    · obtain ⟨a, hread⟩ := hown rfl
      exact ⟨put s a, onKey_eq_ok.mpr (.inl ⟨rfl, a, hread, rfl⟩)⟩
    · obtain ⟨s', hrest⟩ := (h s key v).mpr hothers
      exact ⟨s', onKey_eq_ok.mpr (.inr ⟨hne, hrest⟩)⟩

end ShaderSketch.Toml
