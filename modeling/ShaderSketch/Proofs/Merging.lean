import Mathlib.Data.List.Perm.Basic
import ShaderSketch.Proofs.Keys
import ShaderSketch.Proofs.Saved
import ShaderSketch.Proofs.Tables
import ShaderSketch.Settings

/-!
# Settings and their defaults

A settings file may have some keys and not others.  Of each key on its own it can be said what it
comes to: it has the value of the file, or its default when the file does not have it.  A key of the
window leaves the other keys of the window as they are.

## Main definitions

* `Settings.WellTyped`, `Settings.Window.WellTyped` — tables whose known keys have the right values
* `Settings.Merged`, `Settings.Window.Merged` — settings that have the values of a table
* `Toml.Table.Reordered` — tables that differ in the order of their keys alone
* `Settings.Merging` — what comes of a settings file

## Main results

* `Settings.ofTable_ok_iff` : when a table is one of settings
* `Settings.merged_of_ofTable` : the settings of a table
* `Settings.Alike.ofTable` : the order of the keys makes no difference
* `Settings.settings_merge` : the settings of a file

## Design notes

That keys are all different is what makes each key count on its own, and every document sees to it.
An integer in a document fits into 64 bits with a sign, so the only limit of a timeout is zero.

Which of several errors is reported does depend on the order, and nothing is said about it here but
that it is one of a value.
-/

namespace ShaderSketch

open Toml

namespace Settings

/-! ## Values -/

theorem readText_eq_ok {v : Value} {text : String} : readText v = .ok text ↔ v = .string text := by
  cases v <;> simp [readText]

theorem readNatural_eq_ok {limit : Nat} {expected : String} {v : Value} {n : Nat} :
    readNatural limit expected v = .ok n ↔ n ≤ limit ∧ v = .integer n := by
  cases v with
  | integer k =>
      simp only [readNatural, Value.integer.injEq]
      split
      · rw [Except.ok.injEq]
        omega
      · refine iff_of_false (by simp) ?_
        omega
  | _ => simp [readNatural]

theorem eq_integer_of_toOption {limit : Nat} {expected : String} {v : Value} {n : Nat}
    (h : (readNatural limit expected v).toOption = some n) : v = .integer n := by
  cases hread : readNatural limit expected v with
  | error p => simp [hread, Except.toOption] at h
  | ok m =>
      obtain rfl : m = n := by simpa [hread, Except.toOption] using h
      exact (readNatural_eq_ok.mp hread).2

theorem readLength_eq_ok {v : Value} {n : UInt32} :
    readLength v = .ok n ↔ v = .integer n.toNat := by
  rw [readLength, map_eq_ok_iff]
  constructor
  · rintro ⟨k, hk, rfl⟩
    obtain ⟨hle, rfl⟩ := readNatural_eq_ok.mp hk
    rw [UInt32.toNat_ofNat_of_lt' (Nat.lt_succ_of_le hle)]
  · rintro rfl
    exact ⟨n.toNat, readNatural_eq_ok.mpr ⟨Nat.le_of_lt_succ n.toNat_lt, rfl⟩, UInt32.ofNat_toNat⟩

/-- A length is an integer of 32 bits without a sign. -/
theorem readLength_ok_iff {v : Value} :
    (∃ n, readLength v = .ok n) ↔ ∃ n : Int, 0 ≤ n ∧ n ≤ 0xffffffff ∧ v = .integer n := by
  constructor
  · rintro ⟨n, hn⟩
    have hlt := n.toNat_lt
    exact ⟨n.toNat, Int.natCast_nonneg _, by omega, readLength_eq_ok.mp hn⟩
  · rintro ⟨n, hpos, hle, rfl⟩
    obtain ⟨k, rfl⟩ := Int.eq_ofNat_of_zero_le hpos
    refine ⟨UInt32.ofNat k, readLength_eq_ok.mpr ?_⟩
    rw [UInt32.toNat_ofNat_of_lt' (by rw [UInt32.size]; omega)]

/-- A timeout in a document is any integer that is not negative. -/
theorem readNatural_ok_iff {v : Value} (sound : v.Sound) :
    (∃ n, readNatural Natural.limit64 "u64" v = .ok n) ↔ ∃ n : Int, 0 ≤ n ∧ v = .integer n := by
  constructor
  · rintro ⟨n, hn⟩
    exact ⟨n, Int.natCast_nonneg _, (readNatural_eq_ok.mp hn).2⟩
  · rintro ⟨n, hpos, rfl⟩
    obtain ⟨k, rfl⟩ := Int.eq_ofNat_of_zero_le hpos
    cases sound with
    | integer fits => exact ⟨k, readNatural_eq_ok.mpr ⟨by rw [Natural.limit64]; omega, rfl⟩⟩

/-- Whether a problem is one of a value, which has the wrong type or is too large. -/
def Problem.IsData (p : Problem) : Prop := ∃ text, p = .data text

theorem isData_of_readText {v : Value} {p : Problem} (h : readText v = .error p) : p.IsData := by
  cases v <;> cases h <;> exact ⟨_, rfl⟩

theorem isData_of_readNatural {limit : Nat} {expected : String} {v : Value} {p : Problem}
    (h : readNatural limit expected v = .error p) : p.IsData := by
  cases v with
  | integer k =>
      simp only [readNatural] at h
      split at h <;> cases h
      exact ⟨_, rfl⟩
  | _ =>
      cases h
      exact ⟨_, rfl⟩

theorem isData_of_readLength {v : Value} {p : Problem} (h : readLength v = .error p) : p.IsData :=
  isData_of_readNatural (map_eq_error_iff.mp h)

/-! ## Windows -/

namespace Window

variable {t : Table} {w : Window}

/-- Three keys mean something for a window. -/
theorem set_eq : set =
    onKey "title" readText (fun w title => { w with title })
      (onKey "width" readLength (fun w width => { w with width })
        (onKey "height" readLength (fun w height => { w with height }) passOver)) := rfl

theorem field_title : Field set "title" readText title := by
  rw [set_eq]
  refine field_onKey (fun _ _ => rfl) ?_
  refine Keeps.onKey ?_ fun _ _ => rfl
  exact keeps_passOver.onKey fun _ _ => rfl

theorem field_width : Field set "width" readLength width := by
  rw [set_eq]
  refine Field.onKey ?_ (by decide) fun _ _ => rfl
  refine field_onKey (fun _ _ => rfl) ?_
  exact keeps_passOver.onKey fun _ _ => rfl

theorem field_height : Field set "height" readLength height := by
  rw [set_eq]
  refine Field.onKey ?_ (by decide) fun _ _ => rfl
  refine Field.onKey ?_ (by decide) fun _ _ => rfl
  exact field_onKey (fun _ _ => rfl) keeps_passOver

theorem takes_set : Takes set
    [("title", fun v => ∃ text, readText v = .ok text),
      ("width", fun v => ∃ n, readLength v = .ok n),
      ("height", fun v => ∃ n, readLength v = .ok n)] :=
  ((takes_passOver.onKey (by simp)).onKey (by decide)).onKey (by decide)

theorem isData_of_set {key : String} {v : Value} {p : Problem} (h : w.set key v = .error p) :
    p.IsData := by
  rw [set_eq] at h
  refine onKey_error isData_of_readText (fun h => ?_) h
  refine onKey_error isData_of_readLength (fun h => ?_) h
  refine onKey_error isData_of_readLength (fun h => ?_) h
  cases h

/-- A table with values of the right types and sizes under the keys that mean something for a
window, and any values under others. -/
structure WellTyped (t : Table) : Prop where
  title : ∀ v, t.lookup "title" = some v → ∃ text, v = .string text
  width : ∀ v, t.lookup "width" = some v → ∃ n : Int, 0 ≤ n ∧ n ≤ 0xffffffff ∧ v = .integer n
  height : ∀ v, t.lookup "height" = some v → ∃ n : Int, 0 ≤ n ∧ n ≤ 0xffffffff ∧ v = .integer n

/-- A window with the values of a table, and the defaults of what the table does not have. -/
structure Merged (t : Table) (w : Window) : Prop where
  title : (t.lookup "title").getD (.string "text2shader") = .string w.title
  width : (t.lookup "width").getD (.integer 800) = .integer w.width.toNat
  height : (t.lookup "height").getD (.integer 600) = .integer w.height.toNat

/-- **When a table is one of a window.** -/
theorem ofTable_ok_iff (apart : (t.map Prod.fst).Nodup) :
    (∃ w, ofTable t = .ok w) ↔ WellTyped t := by
  refine (takes_set.takeIn apart {}).trans ?_
  simp only [List.forall_mem_cons, List.not_mem_nil, false_imp_iff, implies_true, and_true,
    readText_eq_ok, readLength_ok_iff]
  exact ⟨fun ⟨title, width, height⟩ => ⟨title, width, height⟩,
    fun ⟨title, width, height⟩ => ⟨title, width, height⟩⟩

/-- **The window of a table** has its values, and defaults else. -/
theorem merged_of_ofTable (apart : (t.map Prod.fst).Nodup) (h : ofTable t = .ok w) :
    Merged t w where
  title := field_title.getD_of_takeIn readText_eq_ok.mp apart h
  width := field_width.getD_of_takeIn readLength_eq_ok.mp apart h
  height := field_height.getD_of_takeIn readLength_eq_ok.mp apart h

/-- A window that cannot be read fails by one of its values. -/
theorem isData_of_takeIn {p : Problem} (h : takeIn set t w = .error p) : p.IsData :=
  takeIn_error isData_of_set h

theorem isData_of_ofValue {v : Value} {p : Problem} (h : ofValue v = .error p) : p.IsData := by
  cases v with
  | table t =>
      have hall : takeIn set t {} = .error p := h
      exact isData_of_takeIn hall
  | array elements =>
      have hall : takeIn set (["title", "width", "height"].zip elements) {} = .error p := h
      exact isData_of_takeIn hall
  | _ =>
      cases h
      try exact ⟨_, rfl⟩

end Window

/-! ## Settings -/

variable {t : Table} {s : Settings}

/-- Three keys mean something for settings. -/
theorem set_eq : set =
    onKey "endpoint" (fun v => (readText v).map some) (fun s endpoint => { s with endpoint })
      (onKey "timeout_secs" (fun v => (readNatural Natural.limit64 "u64" v).map some)
        (fun s timeout => { s with timeout })
        (onKey "window" Window.ofValue (fun s window => { s with window }) passOver)) := by
  have hmap {α β γ : Type} (x : Except Problem α) (f : α → β) (g : β → γ) :
      (x.map f).map g = x.map (g ∘ f) := by
    cases x <;> rfl
  funext s key v
  simp only [onKey, hmap]
  rfl

theorem field_endpoint : Field set "endpoint" (fun v => (readText v).map some) endpoint := by
  rw [set_eq]
  refine field_onKey (fun _ _ => rfl) ?_
  refine Keeps.onKey ?_ fun _ _ => rfl
  exact keeps_passOver.onKey fun _ _ => rfl

theorem field_timeout :
    Field set "timeout_secs" (fun v => (readNatural Natural.limit64 "u64" v).map some) timeout := by
  rw [set_eq]
  refine Field.onKey ?_ (by decide) fun _ _ => rfl
  refine field_onKey (fun _ _ => rfl) ?_
  exact keeps_passOver.onKey fun _ _ => rfl

theorem field_window : Field set "window" Window.ofValue window := by
  rw [set_eq]
  refine Field.onKey ?_ (by decide) fun _ _ => rfl
  refine Field.onKey ?_ (by decide) fun _ _ => rfl
  exact field_onKey (fun _ _ => rfl) keeps_passOver

theorem isData_of_set {key : String} {v : Value} {p : Problem} (h : s.set key v = .error p) :
    p.IsData := by
  rw [set_eq] at h
  refine onKey_error (fun h => isData_of_readText (map_eq_error_iff.mp h)) (fun h => ?_) h
  refine onKey_error (fun h => isData_of_readNatural (map_eq_error_iff.mp h)) (fun h => ?_) h
  refine onKey_error Window.isData_of_ofValue (fun h => ?_) h
  cases h

/-- The table of a window, or an empty one where there is none. -/
def windowOf (t : Table) : Table :=
  match t.lookup "window" with
  | some (.table w) => w
  | _ => []

/-- A table with values of the right types and sizes under the keys that mean something, and any
values under others. -/
structure WellTyped (t : Table) : Prop where
  endpoint : ∀ v, t.lookup "endpoint" = some v → ∃ text, v = .string text
  timeout : ∀ v, t.lookup "timeout_secs" = some v → ∃ n : Int, 0 ≤ n ∧ v = .integer n
  window : Window.WellTyped (windowOf t)

/-- Settings with the values of a table, and the defaults of what the table does not have. -/
structure Merged (t : Table) (s : Settings) : Prop where
  endpoint : t.lookup "endpoint" = s.endpoint.map .string
  timeout : t.lookup "timeout_secs" = s.timeout.map fun n => .integer n
  window : Window.Merged (windowOf t) s.window

/-- A table whose window, if it has one, is a table too.  Of another value there would be nothing to
merge key by key, and such a file is not looked at here. -/
def Windowed (t : Table) : Prop := ∀ v, t.lookup "window" = some v → ∃ w, v = .table w

theorem takes_set : Takes set
    [("endpoint", fun v => ∃ text, (readText v).map some = .ok text),
      ("timeout_secs", fun v => ∃ n, (readNatural Natural.limit64 "u64" v).map some = .ok n),
      ("window", fun v => ∃ w, Window.ofValue v = .ok w)] := by
  rw [set_eq]
  exact ((takes_passOver.onKey (by simp)).onKey (by decide)).onKey (by decide)

/-- The window of a sound table has keys that are all different. -/
theorem apart_windowOf (sound : Table.Sound t) : ((windowOf t).map Prod.fst).Nodup := by
  unfold windowOf
  split
  · next w hw =>
      cases sound.each _ ((Table.lookup_eq_some_iff sound.apart).mp hw) with
      | table apart => exact apart
  · exact List.nodup_nil

theorem windowOf_cases (windowed : Windowed t) :
    (t.lookup "window" = none ∧ windowOf t = []) ∨
      ∃ w, t.lookup "window" = some (.table w) ∧ windowOf t = w := by
  cases hlookup : t.lookup "window" with
  | none => exact .inl ⟨rfl, by simp [windowOf, hlookup]⟩
  | some v =>
      obtain ⟨w, rfl⟩ := windowed v hlookup
      exact .inr ⟨w, rfl, by simp [windowOf, hlookup]⟩

/-- A table without keys is one of a window. -/
theorem Window.wellTyped_nil : Window.WellTyped [] :=
  ⟨by simp, by simp, by simp⟩

theorem window_ok_iff (sound : Table.Sound t) (windowed : Windowed t) :
    (∀ v, t.lookup "window" = some v → ∃ w, Window.ofValue v = .ok w) ↔
      Window.WellTyped (windowOf t) := by
  have apart := apart_windowOf sound
  obtain ⟨hlookup, hwindow⟩ | ⟨w, hlookup, hwindow⟩ := windowOf_cases windowed
  · rw [hlookup, hwindow]
    exact iff_of_true (by simp) Window.wellTyped_nil
  · rw [hwindow] at apart ⊢
    rw [hlookup, ← Window.ofTable_ok_iff apart]
    exact ⟨fun h => h _ rfl, fun h v hv => Option.some.inj hv ▸ h⟩

/-- **When a table is one of settings.** -/
theorem ofTable_ok_iff (sound : Table.Sound t) (windowed : Windowed t) :
    (∃ s, ofTable t = .ok s) ↔ WellTyped t := by
  refine (takes_set.takeIn sound.apart {}).trans ?_
  have htimeout (v : Value) (hv : t.lookup "timeout_secs" = some v) :
      (∃ n, readNatural Natural.limit64 "u64" v = .ok n) ↔ ∃ n : Int, 0 ≤ n ∧ v = .integer n :=
    readNatural_ok_iff (sound.each _ ((Table.lookup_eq_some_iff sound.apart).mp hv))
  simp only [List.forall_mem_cons, List.not_mem_nil, false_imp_iff, implies_true, and_true,
    map_ok_iff, readText_eq_ok, window_ok_iff sound windowed]
  constructor
  · rintro ⟨endpoint, timeout, window⟩
    exact ⟨endpoint, fun v hv => (htimeout v hv).mp (timeout v hv), window⟩
  · rintro ⟨endpoint, timeout, window⟩
    exact ⟨endpoint, fun v hv => (htimeout v hv).mpr (timeout v hv), window⟩

/-- **The settings of a table** have its values, and defaults else.  Soundness gives keys that are
all different, here and in the window, so that one value stands under each key and there is no
question which of two prevails. -/
theorem merged_of_ofTable (sound : Table.Sound t) (windowed : Windowed t) (h : ofTable t = .ok s) :
    Merged t s where
  endpoint := field_endpoint.map_of_takeIn readText_eq_ok.mp sound.apart h rfl
  timeout :=
    field_timeout.map_of_takeIn (fun hread => (readNatural_eq_ok.mp hread).2) sound.apart h rfl
  window := by
    have hpart := field_window.of_takeIn sound.apart h
    have apart := apart_windowOf sound
    obtain ⟨hlookup, hwindow⟩ | ⟨w, hlookup, hwindow⟩ := windowOf_cases windowed
    · rw [hlookup] at hpart
      rw [hwindow, show s.window = {} from hpart]
      exact ⟨rfl, rfl, rfl⟩
    · rw [hlookup] at hpart
      rw [hwindow] at apart ⊢
      exact Window.merged_of_ofTable apart hpart

end Settings

/-! ## The order of keys -/

namespace Toml

/-- Two values that differ at most in the order of the keys, if they are tables. -/
inductive Value.Reordered : Value → Value → Prop
  | refl (v : Value) : Reordered v v
  | table {t t' : Table} (h : t.Perm t') : Reordered (.table t) (.table t')

theorem Value.Reordered.symm {v v' : Value} (h : v.Reordered v') : v'.Reordered v := by
  cases h with
  | refl => exact .refl _
  | table h => exact .table h.symm

/-- What no table is, a value is in any order. -/
theorem Value.Reordered.of_plain {v v' : Value} (h : v.Reordered v') {P : Value → Prop}
    (plain : ∀ w, ¬ P (.table w)) (hv : P v) : P v' := by
  cases h with
  | refl => exact hv
  | table => exact absurd hv (plain _)

/-- Two tables that differ in the order of their keys, and of the keys of the tables in them. -/
def Table.Reordered (t t' : Table) : Prop :=
  ∃ f : String → Value → Value, (∀ key v, Value.Reordered v (f key v)) ∧
    t'.Perm (t.map fun e => (e.1, f e.1 e.2))

end Toml

namespace Settings

variable {t t' : Table} {s s' : Settings}

/-- Two tables that have the same keys, with values that differ at most in the order of their keys.
It is two-sided: a key that only one of them had would be a default in the other. -/
structure Alike (t t' : Table) : Prop where
  forth : ∀ {key v}, t.lookup key = some v → ∃ v', t'.lookup key = some v' ∧ v.Reordered v'
  back : ∀ {key v'}, t'.lookup key = some v' → ∃ v, t.lookup key = some v ∧ v.Reordered v'
  window : ∀ key, (windowOf t').lookup key = (windowOf t).lookup key

/-- A table whose keys stand in another order reads alike. -/
theorem alike_of_reordered (sound : Table.Sound t) (h : Table.Reordered t t') : Alike t t' := by
  obtain ⟨f, hf, hperm⟩ := h
  have hlookup (key : String) : t'.lookup key = (t.lookup key).map (f key) := by
    have apart : ((t.map fun e => (e.1, f e.1 e.2)).map Prod.fst).Nodup := by
      rw [List.map_map]
      exact sound.apart
    rw [Table.lookup_perm apart hperm.symm, Table.lookup_map]
  refine ⟨fun {key v} hv => ?_, fun {key v'} hv' => ?_, fun key => ?_⟩
  · exact ⟨f key v, by rw [hlookup, hv]; rfl, hf key v⟩
  · rw [hlookup] at hv'
    obtain ⟨v, hv, rfl⟩ := Option.map_eq_some_iff.mp hv'
    exact ⟨v, hv, hf key v⟩
  · have apart := apart_windowOf sound
    unfold windowOf at apart ⊢
    rw [hlookup]
    cases hwindow : t.lookup "window" with
    | none => rfl
    | some v =>
        rw [hwindow] at apart
        have hv := hf "window" v
        rw [Option.map_some]
        generalize f "window" v = v' at hv ⊢
        cases hv with
        | refl => rfl
        | table h => exact Table.lookup_perm apart h key

theorem Alike.symm (h : Alike t t') : Alike t' t where
  forth hv' := by
    obtain ⟨v, hv, hreordered⟩ := h.back hv'
    exact ⟨v, hv, hreordered.symm⟩
  back hv := by
    obtain ⟨v', hv', hreordered⟩ := h.forth hv
    exact ⟨v', hv', hreordered.symm⟩
  window key := (h.window key).symm

theorem Alike.windowed (h : Alike t t') (windowed : Windowed t) : Windowed t' := by
  intro v' hv'
  obtain ⟨v, hv, hreordered⟩ := h.back hv'
  obtain ⟨w, rfl⟩ := windowed v hv
  cases hreordered with
  | refl => exact ⟨w, rfl⟩
  | table => exact ⟨_, rfl⟩

/-- Of tables that read alike one is well typed when the other is. -/
theorem Alike.wellTyped (h : Alike t t') (typed : WellTyped t) : WellTyped t' where
  endpoint v' hv' := by
    obtain ⟨v, hv, hreordered⟩ := h.back hv'
    exact hreordered.of_plain (P := fun v => ∃ text, v = .string text) (by simp)
      (typed.endpoint v hv)
  timeout v' hv' := by
    obtain ⟨v, hv, hreordered⟩ := h.back hv'
    exact hreordered.of_plain (P := fun v => ∃ n : Int, 0 ≤ n ∧ v = .integer n) (by simp)
      (typed.timeout v hv)
  window :=
    { title := h.window "title" ▸ typed.window.title
      width := h.window "width" ▸ typed.window.width
      height := h.window "height" ▸ typed.window.height }

/-- A part that holds no tables is the same for tables that read alike. -/
theorem Alike.part_eq (h : Alike t t') {α : Type} {c : α → Value} (inj : c.Injective)
    (plain : ∀ a w, c a ≠ .table w) {key : String} {x x' : Option α}
    (hx : t.lookup key = x.map c) (hx' : t'.lookup key = x'.map c) : x' = x := by
  have hplain (a : α) : ∀ w, ¬ .table w = c a := fun w h => plain a w h.symm
  have same (a : α) : t'.lookup key = some (c a) ↔ t.lookup key = some (c a) := by
    constructor
    · intro h'
      obtain ⟨v, hv, hreordered⟩ := h.back h'
      rw [hv, hreordered.symm.of_plain (P := (· = c a)) (hplain a) rfl]
    · intro h'
      obtain ⟨v', hv', hreordered⟩ := h.forth h'
      rw [hv', hreordered.of_plain (P := (· = c a)) (hplain a) rfl]
  have hinj := Option.map_injective inj
  ext a
  have hiff := same a
  rwa [hx, hx', ← Option.map_some, hinj.eq_iff, hinj.eq_iff] at hiff

/-- A window is known by the values of a table. -/
theorem Window.Merged.eq {t : Table} {w w' : Window} (h : Merged t w) (h' : Merged t w') :
    w' = w := by
  obtain ⟨title, width, height⟩ := w
  obtain ⟨title', width', height'⟩ := w'
  obtain rfl : title' = title := Value.string.inj (h'.title.symm.trans h.title)
  have hwidth := Value.integer.inj (h'.width.symm.trans h.width)
  have hheight := Value.integer.inj (h'.height.symm.trans h.height)
  obtain rfl : width' = width := UInt32.toNat_inj.mp (by exact_mod_cast hwidth)
  obtain rfl : height' = height := UInt32.toNat_inj.mp (by exact_mod_cast hheight)
  rfl

/-- Settings of tables that read alike are the same. -/
theorem Alike.eq (h : Alike t t') (merged : Merged t s) (merged' : Merged t' s') : s' = s := by
  have hendpoint := h.part_eq (fun _ _ => Value.string.inj) (by simp) merged.endpoint
    merged'.endpoint
  have htimeout := h.part_eq (fun _ _ heq => Int.ofNat.inj (Value.integer.inj heq)) (by simp)
    merged.timeout merged'.timeout
  have hwindow : s'.window = s.window := by
    refine merged.window.eq ?_
    obtain ⟨title, width, height⟩ := merged'.window
    rw [h.window] at title width height
    exact ⟨title, width, height⟩
  obtain ⟨endpoint, timeout, window⟩ := s
  obtain ⟨endpoint', timeout', window'⟩ := s'
  exact congr (congrArg₂ Settings.mk hendpoint htimeout) hwindow

/-- **Tables that read alike come to the same settings.** -/
theorem Alike.ofTable (h : Alike t t') (sound : Table.Sound t) (sound' : Table.Sound t')
    (windowed : Windowed t) (hs : ofTable t = .ok s) : Settings.ofTable t' = .ok s := by
  have windowed' := h.windowed windowed
  have typed' := h.wellTyped ((ofTable_ok_iff sound windowed).mp ⟨s, hs⟩)
  obtain ⟨s', hs'⟩ := (ofTable_ok_iff sound' windowed').mpr typed'
  rw [hs', h.eq (merged_of_ofTable sound windowed hs) (merged_of_ofTable sound' windowed' hs')]

/-! ## Settings files -/

/-- The settings of a document. -/
theorem load_of_parse {files : Tree} {path : Path} {text : String} {t : Table}
    (hread : files.readText path = .ok text) (hparse : Toml.parse text.toList = some t) :
    load files path = (ofTable t).mapError (.malformed path) := by
  simp only [load, Tree.isThere_of_readText hread, hread, ofText, hparse, if_true]

/-- What comes of a file with a document.  There are settings when, and only when, the keys that
mean something have values of the right types and sizes; then they have these values, and defaults
else; and otherwise there is an error, which is one of a value.  Another file with the same keys in
another order comes to the same.  The first three say what a document comes to; the last compares
two documents, which need not be at one path nor have the same text. -/
structure Documented (files : Tree) (path : Path) (t : Table) : Prop where
  loads : (∃ s, load files path = .ok s) ↔ WellTyped t
  merged : ∀ s, load files path = .ok s → Merged t s
  fails : ¬ WellTyped t → ∃ text, load files path = .error (.malformed path (.data text))
  reordered : ∀ (files' : Tree) path' text t', files'.readText path' = .ok text →
    Toml.parse text.toList = some t' → Table.Reordered t t' →
      ∀ s, load files' path' = .ok s ↔ load files path = .ok s

/-- What comes of a settings file: all defaults when it is missing, and what it documents when it
holds a document whose window, if there is one, is a table. -/
structure Merging (files : Tree) (path : Path) : Prop where
  missing : files.isThere path = false → load files path =
    .ok { endpoint := none, timeout := none,
          window := { title := "text2shader", width := 800, height := 600 } }
  documented : ∀ text t, files.readText path = .ok text → Toml.parse text.toList = some t →
    Windowed t → Documented files path t

theorem isData_of_ofTable {p : Problem} (h : ofTable t = .error p) : p.IsData := by
  have hall : takeIn set t {} = .error p := h
  exact takeIn_error isData_of_set hall

/-- The settings of a file are those of its table. -/
theorem load_eq_ok_iff {files : Tree} {path : Path} {text : String}
    (hread : files.readText path = .ok text) (hparse : Toml.parse text.toList = some t) :
    load files path = .ok s ↔ ofTable t = .ok s := by
  rw [load_of_parse hread hparse, mapError_eq_ok_iff]

/-- The document of a file is sound, since it was parsed, and so is that of any other. -/
theorem documented_of_parse {files : Tree} {path : Path} {text : String}
    (hread : files.readText path = .ok text) (hparse : Toml.parse text.toList = some t)
    (windowed : Windowed t) : Documented files path t := by
  have sound := sound_of_parse hparse
  refine ⟨?_, fun s hs => ?_, fun hill => ?_, fun files' path' text' t' hread' hparse' hr s => ?_⟩
  · simp only [load_eq_ok_iff hread hparse]
    exact ofTable_ok_iff sound windowed
  · exact merged_of_ofTable sound windowed ((load_eq_ok_iff hread hparse).mp hs)
  · rw [load_of_parse hread hparse]
    cases htable : ofTable t with
    | ok s => exact absurd ((ofTable_ok_iff sound windowed).mp ⟨s, htable⟩) hill
    | error problem =>
        obtain ⟨text, rfl⟩ := isData_of_ofTable htable
        exact ⟨text, rfl⟩
  · have sound' := sound_of_parse hparse'
    have halike := alike_of_reordered sound hr
    rw [load_eq_ok_iff hread hparse, load_eq_ok_iff hread' hparse']
    exact ⟨halike.symm.ofTable sound' sound (halike.windowed windowed),
      halike.ofTable sound sound' windowed⟩

/-- **Settings files merge with the defaults key by key**, whatever else stands in them and in
whatever order.  Nothing is asked of the files, since the parser only makes tables with keys that
are all different (`Toml.sound_of_parse`). -/
theorem settings_merge (files : Tree) (path : Path) : Merging files path where
  missing absent := by simp [load, absent]
  documented _ _ := documented_of_parse

/-- A file with a key that means nothing, and one key of the window. -/
theorem settings_merge_partial :
    ∃ files t, files = (Tree.workingAt []).putFile (Path.ofText "config.toml")
        (Utf8.encode "colour = 7\n[window]\nwidth = 1024\n".toList) ∧
      t = [("colour", .integer 7), ("window", .table [("width", .integer 1024)])] ∧
      Documented files (Path.ofText "config.toml") t ∧
        load files (Path.ofText "config.toml") = .ok { window := { width := 1024 } } := by
  have hparse : Toml.parse "colour = 7\n[window]\nwidth = 1024\n".toList =
      some [("colour", .integer 7), ("window", .table [("width", .integer 1024)])] := by
    -- equality of values is not decided, but equality of the numbers in a table is
    let numbers (t : Table) : List (String × Option Nat) :=
      t.map fun e => (e.1, (readNatural Natural.limit64 "u64" e.2).toOption)
    have hnumbers : (Toml.parse "colour = 7\n[window]\nwidth = 1024\n".toList).map
        (fun t => (numbers t, numbers (windowOf t))) =
          some ([("colour", some 7), ("window", none)], [("width", some 1024)]) := by
      decide +kernel
    obtain ⟨t, hparse, ht⟩ := Option.map_eq_some_iff.mp hnumbers
    simp only [numbers, Prod.mk.injEq, List.map_eq_cons_iff, List.map_eq_nil_iff] at ht
    obtain ⟨⟨⟨_, v⟩, _, rfl, ⟨rfl, hv⟩, ⟨_, u⟩, _, rfl, ⟨rfl, -⟩, rfl⟩, hwindow⟩ := ht
    obtain rfl : v = .integer 7 := eq_integer_of_toOption hv
    rw [hparse]
    cases u with
    | table w =>
        obtain ⟨⟨_, z⟩, _, rfl, ⟨rfl, hz⟩, rfl⟩ := hwindow
        obtain rfl : z = .integer 1024 := eq_integer_of_toOption hz
        rfl
    | _ =>
        obtain ⟨_, _, hnil, -⟩ := hwindow
        exact absurd hnil (List.cons_ne_nil _ _).symm
  refine ⟨_, _, rfl, rfl, ?_, by decide +kernel⟩
  exact (settings_merge _ _).documented "colour = 7\n[window]\nwidth = 1024\n" _ (by decide +kernel)
    hparse fun _ hv => ⟨_, (Option.some.inj hv).symm⟩

end Settings

end ShaderSketch
