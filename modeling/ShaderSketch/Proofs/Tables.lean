import Mathlib.Data.List.Basic
import ShaderSketch.Toml.Document

/-!
# What documents hold

Whatever is read from a document is sound: the keys of a table are all different, at every level,
and integers fit into 64 bits.  So it makes no difference in which order a table is gone through,
and an upper limit that is as large as that is none.

## Main definitions

* `Toml.Value.Sound`, `Toml.Table.Sound` — sound values and tables
* `Toml.Node.Sound`, `Toml.Nodes.Sound` — sound parts of a table that is being filled
* `Toml.Gives` — readers of sound values

## Main results

* `Toml.Nodes.Sound.reach` : a change at a path leaves the other tables as they are
* `Toml.Nodes.Sound.defineIn` : adding a value to the table that is open
* `Toml.gives_value` : values are sound
* `Toml.sound_of_parse` : documents are sound

## Design notes

A table that is being filled keeps its parts in a list, where one is added only after it was looked
for and not found.  Everything else is that this is so wherever a part is added.
-/

namespace ShaderSketch.Toml

/-! ## Sound values -/

/-- A value whose tables have keys that are all different, and whose integers fit into 64 bits.  A
table that is put into an array is one of these as well, so that soundness reaches all the way down.
-/
inductive Value.Sound : Value → Prop
  | string (s : String) : Sound (.string s)
  | integer {n : Int} (fits : -0x8000000000000000 ≤ n ∧ n < 0x8000000000000000) :
      Sound (.integer n)
  | float (x : Binary) : Sound (.float x)
  | boolean (b : Bool) : Sound (.boolean b)
  | datetime : Sound .datetime
  | array {elements : List Value} (each : ∀ v ∈ elements, Sound v) : Sound (.array elements)
  | table {entries : Table} (apart : (entries.map Prod.fst).Nodup)
      (each : ∀ e ∈ entries, Sound e.2) : Sound (.table entries)

/-- A table with keys that are all different and with sound values. -/
structure Table.Sound (t : Table) : Prop where
  apart : (t.map Prod.fst).Nodup
  each : ∀ e ∈ t, e.2.Sound

/-- A part of a table that becomes a sound value.  A part that is still being filled has to keep
what the table that it becomes is asked for. -/
inductive Node.Sound : Node → Prop
  | value {v : Value} (sound : v.Sound) : Sound (.value v)
  | table {passing dotted : Bool} {entries : List (String × Node)}
      (apart : (entries.map Prod.fst).Nodup) (each : ∀ e ∈ entries, Sound e.2) :
      Sound (.table passing dotted entries)
  | tables {closed : List (List (String × Node))} {last : List (String × Node)}
      (closedApart : ∀ nodes ∈ closed, (nodes.map Prod.fst).Nodup)
      (closedEach : ∀ nodes ∈ closed, ∀ e ∈ nodes, Sound e.2)
      (apart : (last.map Prod.fst).Nodup) (each : ∀ e ∈ last, Sound e.2) :
      Sound (.tables closed last)

/-- Parts with keys that are all different and that become sound values. -/
structure Nodes.Sound (nodes : Nodes) : Prop where
  apart : (nodes.map Prod.fst).Nodup
  each : ∀ e ∈ nodes, e.2.Sound

/-! ## Tables that are being filled -/

namespace Nodes

variable {nodes nodes' : Nodes} {name : String} {n : Node}

theorem sound_nil : Sound [] := ⟨List.nodup_nil, by simp⟩

/-- A part that is found is sound. -/
theorem Sound.of_lookup (h : nodes.Sound) (hn : nodes.lookup name = some n) : n.Sound := by
  obtain ⟨front, back, rfl, -⟩ := List.lookup_eq_some_iff.mp hn
  exact h.each (name, n) (by simp)

/-- A part may be added that was looked for and not found. -/
theorem Sound.concat (h : nodes.Sound) (absent : nodes.lookup name = none) (hn : n.Sound) :
    Sound (nodes ++ [(name, n)]) := by
  rw [List.lookup_eq_none_iff] at absent
  refine ⟨?_, fun e he => ?_⟩
  · rw [List.map_append, List.nodup_append]
    refine ⟨h.apart, by simp, ?_⟩
    rintro k hk _ hname rfl
    obtain ⟨e, he, rfl⟩ := List.mem_map.mp hk
    have heq : e.1 = name := by simpa using hname
    simpa [heq] using absent e he
  · obtain he | he := List.mem_append.mp he
    · exact h.each e he
    · rw [List.mem_singleton.mp he]
      exact hn

/-- Any part may be replaced. -/
theorem Sound.replace (h : nodes.Sound) (name : String) (hn : n.Sound) :
    Sound (Node.replace nodes name n) := by
  have hkeys : (Node.replace nodes name n).map Prod.fst = nodes.map Prod.fst := by
    rw [Node.replace, List.map_map]
    refine List.map_congr_left fun e _ => ?_
    simp only [Function.comp_apply]
    split <;> rfl
  refine ⟨hkeys ▸ h.apart, fun e he => ?_⟩
  obtain ⟨⟨k, old⟩, hold, rfl⟩ := List.mem_map.mp he
  dsimp only
  split
  · exact hn
  · exact h.each (k, old) hold

theorem Sound.table {passing dotted : Bool} {entries : Nodes} (h : Sound entries) :
    Node.Sound (.table passing dotted entries) :=
  .table h.apart h.each

/-- The parts of a table that is found are sound. -/
theorem Sound.of_lookup_table {passing dotted : Bool} {entries : Nodes} (h : nodes.Sound)
    (found : nodes.lookup name = some (.table passing dotted entries)) : Sound entries := by
  cases h.of_lookup found with
  | table apart each => exact ⟨apart, each⟩

/-- The parts of the last of several tables that are found are sound. -/
theorem Sound.of_lookup_tables {closed : List Nodes} {last : Nodes} (h : nodes.Sound)
    (found : nodes.lookup name = some (.tables closed last)) : Sound last := by
  cases h.of_lookup found with
  | tables closedApart closedEach apart each => exact ⟨apart, each⟩

/-- The last of several tables may be replaced. -/
theorem Sound.replace_last {closed : List Nodes} {last last' : Nodes} (h : nodes.Sound)
    (found : nodes.lookup name = some (.tables closed last)) (hlast : Sound last') :
    Sound (Node.replace nodes name (.tables closed last')) := by
  cases h.of_lookup found with
  | tables closedApart closedEach =>
      exact h.replace name (.tables closedApart closedEach hlast.apart hlast.each)

/-- Any parts may be left out. -/
theorem Sound.filter (h : nodes.Sound) (keep : String × Node → Bool) :
    Sound (nodes.filter keep) :=
  ⟨h.apart.sublist (List.filter_sublist.map _), fun e he => h.each e (List.mem_filter.mp he).1⟩

/-- **A change at a path leaves the other tables as they are**, and makes tables on the way only
where there is nothing.  What is done at the end of the path may be anything that keeps soundness,
so that the path is gone along in one proof for every kind of change. -/
theorem Sound.reach {dotted : Bool} {change : Bool → Nodes → Option Nodes}
    (sound : ∀ isDotted below below', Sound below → change isDotted below = some below' →
      Sound below') {path : List String} {isDotted : Bool} (h : nodes.Sound)
    (hreach : Node.reach dotted change isDotted nodes path = some nodes') : nodes'.Sound := by
  induction path generalizing nodes nodes' isDotted with
  | nil => exact sound isDotted nodes nodes' h hreach
  | cons name path ih =>
      rw [Node.reach] at hreach
      split at hreach
      · next absent =>
          obtain ⟨below, hbelow, hnodes⟩ := Option.bind_eq_some_iff.mp hreach
          obtain rfl := Option.some.inj hnodes
          exact h.concat absent (ih sound_nil hbelow).table
      · cases hreach
      · next closed last found =>
          obtain ⟨below, hbelow, hnodes⟩ := Option.bind_eq_some_iff.mp hreach
          obtain rfl := Option.some.inj hnodes
          exact h.replace_last found (ih (h.of_lookup_tables found) hbelow)
      · next passing wasDotted entries found =>
          split at hreach
          · cases hreach
          · obtain ⟨below, hbelow, hnodes⟩ := Option.bind_eq_some_iff.mp hreach
            obtain rfl := Option.some.inj hnodes
            exact h.replace name (ih (h.of_lookup_table found) hbelow).table

/-- A value is added under a key that is not there. -/
theorem Sound.define {key : List String} {v : Value} (h : nodes.Sound) (hv : v.Sound)
    (hdefine : Node.define nodes key v = some nodes') : nodes'.Sound := by
  unfold Node.define at hdefine
  split at hdefine
  · cases hdefine
  · refine h.reach (fun isDotted below below' hbelow hchange => ?_) hdefine
    split at hchange
    · cases hchange
    · split at hchange
      · cases hchange
      · next absent =>
          obtain rfl := Option.some.inj hchange
          exact hbelow.concat (Option.not_isSome_iff_eq_none.mp absent) (.value hv)

/-- A table is opened that is not there, or that only a path led through. -/
theorem Sound.openTable {key : List String} (h : nodes.Sound)
    (hopen : Node.openTable nodes key = some nodes') : nodes'.Sound := by
  unfold Node.openTable at hopen
  split at hopen
  · cases hopen
  · next name _ =>
      refine h.reach (fun isDotted below below' hbelow hchange => ?_) hopen
      split at hchange
      · next absent =>
          obtain rfl := Option.some.inj hchange
          exact hbelow.concat absent sound_nil.table
      · next entries found =>
          obtain rfl := Option.some.inj hchange
          refine (hbelow.filter _).concat ?_ ?_
          · refine List.lookup_eq_none_iff.mpr fun e he => ?_
            have hne : e.1 ≠ name := by simpa using (List.mem_filter.mp he).2
            simpa using hne.symm
          · exact (hbelow.of_lookup_table found).table
      · cases hchange

/-- A table is added to an array of tables. -/
theorem Sound.openElement {key : List String} (h : nodes.Sound)
    (hopen : Node.openElement nodes key = some nodes') : nodes'.Sound := by
  unfold Node.openElement at hopen
  split at hopen
  · cases hopen
  · refine h.reach (fun isDotted below below' hbelow hchange => ?_) hopen
    split at hchange
    · next absent =>
        obtain rfl := Option.some.inj hchange
        exact hbelow.concat absent (.tables (by simp) (by simp) List.nodup_nil (by simp))
    · next closed last found =>
        obtain rfl := Option.some.inj hchange
        cases hbelow.of_lookup found with
        | tables closedApart closedEach apart each =>
            refine hbelow.replace _ (.tables ?_ ?_ List.nodup_nil (by simp))
            · simpa [or_imp, forall_and] using ⟨closedApart, apart⟩
            · intro nodes hnodes
              obtain hnodes | hnodes := List.mem_append.mp hnodes
              · exact closedEach nodes hnodes
              · rw [List.mem_singleton.mp hnodes]
                exact each
    · cases hchange

/-- **A value is added to the table that is open.**  A key that is there already is refused, and not
replaced, which is what keeps keys apart. -/
theorem Sound.defineIn {key path : List String} {v : Value} (h : nodes.Sound) (hv : v.Sound)
    (hdefine : Node.defineIn nodes key v path = some nodes') : nodes'.Sound := by
  induction path generalizing nodes nodes' with
  | nil => exact h.define hv hdefine
  | cons name path ih =>
      rw [Node.defineIn] at hdefine
      split at hdefine
      · next passing dotted entries found =>
          obtain ⟨below, hbelow, hnodes⟩ := Option.bind_eq_some_iff.mp hdefine
          obtain rfl := Option.some.inj hnodes
          exact h.replace name (ih (h.of_lookup_table found) hbelow).table
      · next closed last found =>
          obtain ⟨below, hbelow, hnodes⟩ := Option.bind_eq_some_iff.mp hdefine
          obtain rfl := Option.some.inj hnodes
          exact h.replace_last found (ih (h.of_lookup_tables found) hbelow)
      · cases hdefine

end Nodes

/-! ## What parts become -/

theorem keys_toTable (nodes : Nodes) :
    (Node.toTable nodes).map Prod.fst = nodes.map Prod.fst := by
  induction nodes with
  | nil => simp [Node.toTable]
  | cons e nodes ih => simp [Node.toTable, ih]

mutual

/-- A sound part becomes a sound value. -/
theorem sound_toValue {n : Node} (h : n.Sound) : (Node.toValue n).Sound := by
  cases h with
  | value sound =>
      rw [Node.toValue]
      exact sound
  | table apart each =>
      rw [Node.toValue]
      exact .table (keys_toTable _ ▸ apart) (each_toTable each)
  | tables closedApart closedEach apart each =>
      rw [Node.toValue]
      refine .array fun v hv => ?_
      obtain hv | hv := List.mem_append.mp hv
      · exact each_toTables closedApart closedEach v hv
      · rw [List.mem_singleton.mp hv]
        exact .table (keys_toTable _ ▸ apart) (each_toTable each)

theorem each_toTable {nodes : List (String × Node)} (each : ∀ e ∈ nodes, e.2.Sound) :
    ∀ e ∈ Node.toTable nodes, e.2.Sound := by
  cases nodes with
  | nil => simp [Node.toTable]
  | cons entry nodes =>
      obtain ⟨k, n⟩ := entry
      rw [Node.toTable]
      intro e he
      obtain rfl | he := List.mem_cons.mp he
      · exact sound_toValue (each (k, n) List.mem_cons_self)
      · exact each_toTable (fun e he => each e (List.mem_cons_of_mem _ he)) e he

/-- An array of tables has the same to keep as each of them. -/
theorem each_toTables {tables : List (List (String × Node))}
    (apart : ∀ nodes ∈ tables, (nodes.map Prod.fst).Nodup)
    (each : ∀ nodes ∈ tables, ∀ e ∈ nodes, e.2.Sound) : ∀ v ∈ Node.toTables tables, v.Sound := by
  cases tables with
  | nil => simp [Node.toTables]
  | cons nodes tables =>
      rw [Node.toTables]
      intro v hv
      obtain rfl | hv := List.mem_cons.mp hv
      · exact .table (keys_toTable _ ▸ apart nodes List.mem_cons_self)
          (each_toTable (each nodes List.mem_cons_self))
      · exact each_toTables (fun nodes hnodes => apart nodes (List.mem_cons_of_mem _ hnodes))
          (fun nodes hnodes => each nodes (List.mem_cons_of_mem _ hnodes)) v hv

end

/-- **Sound parts become a sound table.** -/
theorem Nodes.Sound.toTable {nodes : Nodes} (h : nodes.Sound) : Table.Sound (Node.toTable nodes) :=
  ⟨keys_toTable nodes ▸ h.apart, each_toTable h.each⟩

/-! ## Readers of values -/

/-- A reader of sound values. -/
def Gives (element : Reader Value) : Prop := ∀ s v s', element s = some (v, s') → v.Sound

theorem Gives.orElse {r r' : Reader Value} (h : Gives r) (h' : Gives r') :
    Gives fun s => r s <|> r' s := by
  intro s v s' hread
  dsimp only at hread
  cases hfirst : r s with
  | none =>
      rw [hfirst] at hread
      exact h' s v s' hread
  | some result =>
      rw [hfirst] at hread
      exact h s v s' (hfirst.trans hread)

theorem sound_fitting {n : Int} {v : Value} (h : fitting n = some v) : v.Sound := by
  obtain ⟨hfits, hv⟩ := Option.ite_none_right_eq_some.mp h
  exact Option.some.inj hv ▸ .integer hfits

theorem gives_basedInteger (base : Nat) : Gives (basedInteger base) := by
  intro s v s' hread
  obtain ⟨⟨ds, rest⟩, -, hread⟩ := Option.bind_eq_some_iff.mp hread
  obtain ⟨w, hfitting, hread⟩ := Option.bind_eq_some_iff.mp hread
  obtain ⟨rfl, -⟩ := Prod.mk.inj (Option.some.inj hread)
  exact sound_fitting hfitting

theorem gives_integer : Gives integer := by
  intro s v s' hread
  unfold integer at hread
  split at hread
  · exact gives_basedInteger 16 _ v s' hread
  · exact gives_basedInteger 8 _ v s' hread
  · exact gives_basedInteger 2 _ v s' hread
  · obtain ⟨⟨ds, rest⟩, -, hread⟩ := Option.bind_eq_some_iff.mp hread
    obtain ⟨w, hfitting, hread⟩ := Option.bind_eq_some_iff.mp hread
    obtain ⟨rfl, -⟩ := Prod.mk.inj (Option.some.inj hread)
    exact sound_fitting hfitting

theorem gives_decimalFloat : Gives decimalFloat := by
  intro s v s' hread
  obtain ⟨⟨whole, rest⟩, -, hread⟩ := Option.bind_eq_some_iff.mp hread
  obtain ⟨⟨places, rest'⟩, -, hread⟩ := Option.bind_eq_some_iff.mp hread
  obtain ⟨⟨power, rest''⟩, -, hread⟩ := Option.bind_eq_some_iff.mp hread
  obtain ⟨-, -, hread⟩ := Option.bind_eq_some_iff.mp hread
  obtain ⟨-, -, hread⟩ := Option.bind_eq_some_iff.mp hread
  obtain ⟨rfl, -⟩ := Prod.mk.inj (Option.some.inj hread)
  exact .float _

theorem gives_float : Gives float := by
  intro s v s' hread
  unfold float at hread
  dsimp only at hread
  split at hread
  · obtain ⟨rfl, -⟩ := Prod.mk.inj (Option.some.inj hread)
    exact .float _
  · obtain ⟨rfl, -⟩ := Prod.mk.inj (Option.some.inj hread)
    exact .float _
  · exact gives_decimalFloat s v s' hread

theorem gives_boolean : Gives boolean := by
  intro s v s' hread
  unfold boolean at hread
  split at hread
  · obtain ⟨rfl, -⟩ := Prod.mk.inj (Option.some.inj hread)
    exact .boolean _
  · obtain ⟨rfl, -⟩ := Prod.mk.inj (Option.some.inj hread)
    exact .boolean _
  · cases hread

theorem gives_datetime : Gives datetime := by
  intro s v s' hread
  suffices hv : v = .datetime from hv ▸ .datetime
  unfold datetime at hread
  repeat' split at hread
  all_goals simp_all

/-- Dates and times, numbers and booleans are sound. -/
theorem gives_scalar : Gives scalar :=
  gives_datetime.orElse (gives_float.orElse (gives_integer.orElse gives_boolean))

/-- The elements of an array are sound. -/
theorem Gives.elements {element : Reader Value} (h : Gives element) {n : Nat}
    {s s' : List Char} {vs : List Value} (hread : elements element n s = some (vs, s')) :
    ∀ v ∈ vs, v.Sound := by
  induction n generalizing s s' vs with
  | zero => cases hread
  | succ n ih =>
      rw [Toml.elements] at hread
      split at hread
      · obtain ⟨rfl, -⟩ := Prod.mk.inj (Option.some.inj hread)
        simp
      · obtain ⟨⟨v, rest⟩, hv, hread⟩ := Option.bind_eq_some_iff.mp hread
        have hfirst : v.Sound := h _ _ _ hv
        dsimp only at hread
        split at hread
        · obtain ⟨⟨vs, rest'⟩, hvs, hread⟩ := Option.bind_eq_some_iff.mp hread
          obtain ⟨rfl, -⟩ := Prod.mk.inj (Option.some.inj hread)
          exact List.forall_mem_cons.mpr ⟨hfirst, ih hvs⟩
        · obtain ⟨rfl, -⟩ := Prod.mk.inj (Option.some.inj hread)
          exact List.forall_mem_singleton.mpr hfirst
        · cases hread

theorem Gives.pair {element : Reader Value} (h : Gives element) {s s' : List Char}
    {p : List String × Value} (hread : pair element s = some (p, s')) : p.2.Sound := by
  obtain ⟨⟨k, afterKey⟩, -, hread⟩ := Option.bind_eq_some_iff.mp hread
  obtain ⟨⟨_, afterSign⟩, -, hread⟩ := Option.bind_eq_some_iff.mp hread
  obtain ⟨⟨v, rest⟩, hv, hread⟩ := Option.bind_eq_some_iff.mp hread
  obtain ⟨rfl, -⟩ := Prod.mk.inj (Option.some.inj hread)
  exact h _ _ _ hv

/-- The values of an inline table are sound. -/
theorem Gives.pairs {element : Reader Value} (h : Gives element) {n : Nat}
    {s s' : List Char} {ps : List (List String × Value)}
    (hread : pairs element n s = some (ps, s')) : ∀ p ∈ ps, p.2.Sound := by
  induction n generalizing s s' ps with
  | zero => cases hread
  | succ n ih =>
      rw [Toml.pairs] at hread
      obtain ⟨⟨p, rest⟩, hp, hread⟩ := Option.bind_eq_some_iff.mp hread
      have hfirst := h.pair hp
      dsimp only at hread
      split at hread
      · obtain ⟨⟨ps, rest'⟩, hps, hread⟩ := Option.bind_eq_some_iff.mp hread
        obtain ⟨rfl, -⟩ := Prod.mk.inj (Option.some.inj hread)
        exact List.forall_mem_cons.mpr ⟨hfirst, ih hps⟩
      · obtain ⟨rfl, -⟩ := Prod.mk.inj (Option.some.inj hread)
        exact List.forall_mem_singleton.mpr hfirst
      · cases hread

/-- A table that is filled with sound values is sound. -/
theorem Nodes.Sound.foldlM_define {nodes nodes' : Nodes} {ps : List (List String × Value)}
    (h : nodes.Sound) (each : ∀ p ∈ ps, p.2.Sound)
    (hfold : ps.foldlM (fun nodes (k, v) => Node.define nodes k v) nodes = some nodes') :
    nodes'.Sound := by
  induction ps generalizing nodes with
  | nil =>
      obtain rfl := Option.some.inj hfold
      exact h
  | cons p ps ih =>
      obtain ⟨hp, hps⟩ := List.forall_mem_cons.mp each
      rw [List.foldlM_cons] at hfold
      obtain ⟨nodes₁, hdefine, hfold⟩ := Option.bind_eq_some_iff.mp hfold
      exact ih (h.define hp hdefine) hps hfold

theorem Gives.inlineTable {element : Reader Value} (h : Gives element) :
    Gives (inlineTable element) := by
  intro s v s' hread
  unfold Toml.inlineTable at hread
  split at hread
  · obtain ⟨rfl, -⟩ := Prod.mk.inj (Option.some.inj hread)
    exact .table List.nodup_nil (by simp)
  · obtain ⟨⟨ps, rest⟩, hps, hread⟩ := Option.bind_eq_some_iff.mp hread
    obtain ⟨nodes, hnodes, hread⟩ := Option.bind_eq_some_iff.mp hread
    obtain ⟨rfl, -⟩ := Prod.mk.inj (Option.some.inj hread)
    have hsound := (Nodes.sound_nil.foldlM_define (h.pairs hps) hnodes).toTable
    exact .table hsound.apart hsound.each

/-- A value is sound when those are that nest one level less. -/
theorem gives_value_of {levels : Nat} (below : ∀ n, levels = n + 1 → Gives (value n)) :
    Gives (value levels) := by
  intro s v s' hread
  unfold value at hread
  split at hread
  · obtain ⟨⟨t, rest⟩, -, hread⟩ := Option.map_eq_some_iff.mp hread
    obtain ⟨rfl, -⟩ := Prod.mk.inj hread
    exact .string _
  · obtain ⟨⟨t, rest⟩, -, hread⟩ := Option.map_eq_some_iff.mp hread
    obtain ⟨rfl, -⟩ := Prod.mk.inj hread
    exact .string _
  · obtain ⟨⟨vs, rest⟩, hvs, hread⟩ := Option.map_eq_some_iff.mp hread
    obtain ⟨rfl, -⟩ := Prod.mk.inj hread
    exact .array ((below _ rfl).elements hvs)
  · exact (below _ rfl).inlineTable _ v s' hread
  · exact gives_scalar _ v s' hread

/-- **Values are sound**, however deep they nest.  The levels bound how deep the parser goes;
soundness does not depend on them. -/
theorem gives_value (levels : Nat) : Gives (value levels) := by
  induction levels with
  | zero => exact gives_value_of fun n hn => absurd hn (Nat.succ_ne_zero n).symm
  | succ levels ih => exact gives_value_of fun n hn => Nat.succ.inj hn ▸ ih

/-! ## Documents -/

namespace Draft

variable {d d' : Draft} {s s' : List Char}

/-- A header opens a table, or adds one to an array, and puts no value anywhere. -/
theorem sound_header (h : d.nodes.Sound) (hread : d.header s = some (d', s')) : d'.nodes.Sound := by
  unfold header at hread
  split at hread
  · obtain ⟨⟨k, afterKey⟩, -, hread⟩ := Option.bind_eq_some_iff.mp hread
    obtain ⟨⟨_, afterBracket⟩, -, hread⟩ := Option.bind_eq_some_iff.mp hread
    obtain ⟨⟨_, rest⟩, -, hread⟩ := Option.bind_eq_some_iff.mp hread
    obtain ⟨nodes, hnodes, hread⟩ := Option.bind_eq_some_iff.mp hread
    obtain ⟨_, -, hread⟩ := Option.bind_eq_some_iff.mp hread
    obtain ⟨rfl, -⟩ := Prod.mk.inj (Option.some.inj hread)
    exact h.openElement hnodes
  · obtain ⟨⟨k, afterKey⟩, -, hread⟩ := Option.bind_eq_some_iff.mp hread
    obtain ⟨⟨_, rest⟩, -, hread⟩ := Option.bind_eq_some_iff.mp hread
    obtain ⟨nodes, hnodes, hread⟩ := Option.bind_eq_some_iff.mp hread
    obtain ⟨_, -, hread⟩ := Option.bind_eq_some_iff.mp hread
    obtain ⟨rfl, -⟩ := Prod.mk.inj (Option.some.inj hread)
    exact h.openTable hnodes

theorem sound_line (h : d.nodes.Sound) (hread : d.line s = some (d', s')) : d'.nodes.Sound := by
  unfold line at hread
  split at hread
  · exact sound_header h hread
  · obtain ⟨⟨⟨k, v⟩, rest⟩, hpair, hread⟩ := Option.bind_eq_some_iff.mp hread
    obtain ⟨nodes, hnodes, hread⟩ := Option.bind_eq_some_iff.mp hread
    obtain ⟨_, -, hread⟩ := Option.bind_eq_some_iff.mp hread
    obtain ⟨rfl, -⟩ := Prod.mk.inj (Option.some.inj hread)
    exact h.defineIn ((gives_value _).pair hpair) hnodes

/-- All lines keep a table sound that is being filled. -/
theorem sound_lines {n : Nat} (h : d.nodes.Sound) (hread : d.lines n s = some d') :
    d'.nodes.Sound := by
  induction n generalizing d s with
  | zero => cases hread
  | succ n ih =>
      rw [lines] at hread
      split at hread
      · exact Option.some.inj hread ▸ h
      · split at hread
        · next hline => exact ih (sound_line h hline) hread
        · cases hread

end Draft

/-- **What is read from a document is sound.**  It is what lets a table be read key by key without
asking which of two values prevails. -/
theorem sound_of_parse {text : List Char} {t : Table} (h : parse text = some t) : t.Sound := by
  obtain ⟨d, hlines, rfl⟩ := Option.map_eq_some_iff.mp h
  exact (Draft.sound_lines Nodes.sound_nil hlines).toTable

end ShaderSketch.Toml
