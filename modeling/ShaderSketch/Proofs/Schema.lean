import Mathlib.Data.List.Forall2
import ShaderSketch.Proofs.Readers
import ShaderSketch.Proofs.Written
import ShaderSketch.Service.Body

/-!
# The schema of a response

Which values are responses, said without the readers: a field occurs exactly once among the members
of an object, or its value is the one element of a list.

## Main definitions

* `Json.Value.Clean` — values without a lone half of a surrogate pair
* `Json.Once`, `Json.Holds`, `Json.Elements` — fields, records and lists
* `Service.Body.Block`, `Service.Body.WellFormed` — blocks of shader code, and responses

## Main results

* `Json.describes_text`, `Json.Describes.elements`, `Json.Describes.record` : the shapes that the
  readers follow say the same
* `Service.Body.source_schema` : what every text comes to as a response
-/

namespace ShaderSketch.Json

variable {α : Type} {item : Value → Option α} {spec : Value → α → Prop} {field : String}

/-! ## Values that have a shape -/

/-- A value in which no string and no key lacks its content.  A half of a surrogate pair that stands
alone has no content to compare with a text, so that a schema can say nothing of it. -/
inductive Value.Clean : Value → Prop
  | null : Value.Clean .null
  | boolean (b : Bool) : Value.Clean (.boolean b)
  | number : Value.Clean .number
  | string (cs : List Char) : Value.Clean (.string (some cs))
  | list {vs : List Value} (elements : ∀ v ∈ vs, Value.Clean v) : Value.Clean (.list vs)
  | object {ms : List (Option (List Char) × Value)} (keys : ∀ m ∈ ms, m.1 ≠ none)
      (values : ∀ m ∈ ms, Value.Clean m.2) : Value.Clean (.object ms)

/-- A key occurs exactly once, with a value; other keys do not matter. -/
def Once (key : String) (ms : List (Option (List Char) × Value)) (v : Value) : Prop :=
  ms.filter (·.1 = some key.toList) = [(some key.toList, v)]

/-- A string. -/
inductive IsText : Value → String → Prop
  | mk (cs : List Char) : IsText (.string (some cs)) (String.ofList cs)

/-- A list of values of one kind. -/
inductive Elements (spec : Value → α → Prop) : Value → List α → Prop
  | mk {vs : List Value} {as : List α} (each : List.Forall₂ spec vs as) :
      Elements spec (.list vs) as

/-- An object whose one field is needed, or a list of that field alone.  It is a relation and not a
function, so that it can be read without knowing how a text is gone through. -/
inductive Holds (field : String) (spec : Value → α → Prop) : Value → α → Prop
  | object {ms : List (Option (List Char) × Value)} {v : Value} {a : α} (once : Once field ms v)
      (inner : spec v a) : Holds field spec (.object ms) a
  | list {v : Value} {a : α} (inner : spec v a) : Holds field spec (.list [v]) a

/-! ## Shapes and what they mean -/

/-- A shape makes of a value what is said of it. -/
def Describes (item : Value → Option α) (spec : Value → α → Prop) : Prop :=
  ∀ v : Value, v.Clean → ∀ a, item v = some a ↔ spec v a

/-- A clean string has its content, so that it is the text that it spells. -/
theorem describes_text : Describes Value.text? IsText := by
  intro v clean t
  constructor
  · intro h
    cases clean with
    | string cs =>
        obtain rfl := Option.some.inj h
        exact .mk cs
    | null => cases h
    | boolean _ => cases h
    | number => cases h
    | list _ => cases h
    | object _ _ => cases h
  · rintro ⟨cs⟩
    rfl

/-- A list has a shape if each element has, and then it is described element by element. -/
theorem mapM_eq_some_iff (h : Describes item spec) {vs : List Value} (clean : ∀ v ∈ vs, v.Clean)
    (as : List α) : vs.mapM item = some as ↔ List.Forall₂ spec vs as := by
  induction vs generalizing as with
  | nil =>
      rw [List.mapM_nil, List.forall₂_nil_left_iff]
      exact ⟨fun h => (Option.some.inj h).symm, fun h => congrArg some h.symm⟩
  | cons v vs ih =>
      obtain ⟨hv, hvs⟩ := List.forall_mem_cons.mp clean
      rw [mapM_cons_eq, List.forall₂_cons_left_iff, Option.bind_eq_some_iff]
      constructor
      · rintro ⟨a, ha, hmap⟩
        obtain ⟨as', has', rfl⟩ := Option.map_eq_some_iff.mp hmap
        exact ⟨a, as', (h v hv a).mp ha, (ih hvs as').mp has', rfl⟩
      · rintro ⟨a, as', ha, has', rfl⟩
        exact ⟨a, (h v hv a).mpr ha, Option.map_eq_some_iff.mpr ⟨as', (ih hvs as').mpr has', rfl⟩⟩

/-- So lists are described if their elements are. -/
theorem Describes.elements (h : Describes item spec) :
    Describes (Value.elements? item) (Elements spec) := by
  intro v clean as
  constructor
  · intro has
    cases clean with
    | list elements => exact .mk ((mapM_eq_some_iff h elements as).mp has)
    | null => cases has
    | boolean _ => cases has
    | number => cases has
    | string _ => cases has
    | object _ _ => cases has
  · rintro ⟨each⟩
    cases clean with
    | list elements => exact (mapM_eq_some_iff h elements as).mpr each

/-! ### Fields -/

theorem once_cons_self {v w : Value} {ms : List (Option (List Char) × Value)} :
    Once field ((some field.toList, v) :: ms) w ↔
      w = v ∧ ∀ m ∈ ms, m.1 ≠ some field.toList := by
  rw [Once, List.filter_cons_of_pos (by simp), List.cons.injEq, List.filter_eq_nil_iff]
  simp only [Prod.mk.injEq, true_and, decide_eq_true_eq]
  rw [eq_comm]

theorem once_cons_of_ne {key : Option (List Char)} {v w : Value}
    {ms : List (Option (List Char) × Value)} (h : key ≠ some field.toList) :
    Once field ((key, v) :: ms) w ↔ Once field ms w := by
  rw [Once, List.filter_cons_of_neg (by simpa using h), Once]

/-- A field that was found must not come again. -/
theorem collect_found {a : α} {b : Option α} {ms : List (Option (List Char) × Value)}
    (keys : ∀ m ∈ ms, m.1 ≠ none) :
    collect field item (some a) ms = some b ↔
      b = some a ∧ ∀ m ∈ ms, m.1 ≠ some field.toList := by
  induction ms with
  | nil => simp [collect, eq_comm]
  | cons m ms ih =>
      obtain ⟨key, v⟩ := m
      obtain ⟨hkey, hkeys⟩ := List.forall_mem_cons.mp keys
      obtain ⟨key, rfl⟩ := Option.ne_none_iff_exists'.mp hkey
      rw [collect, List.forall_mem_cons]
      by_cases hfield : key = field.toList
      · rw [if_pos hfield, Option.isSome_some, if_pos rfl]
        constructor
        · intro h
          cases h
        · rintro ⟨-, hne, -⟩
          exact absurd (congrArg some hfield) hne
      · rw [if_neg hfield, ih hkeys]
        have hne : some key ≠ some field.toList := fun h => hfield (Option.some.inj h)
        simp only [hne, ne_eq, not_false_eq_true, true_and]

/-- **A field is found when it comes exactly once.**  A field that comes twice is refused, even
where both have one value. -/
theorem collect_unfound {a : α} {ms : List (Option (List Char) × Value)}
    (keys : ∀ m ∈ ms, m.1 ≠ none) :
    collect field item none ms = some (some a) ↔ ∃ v, Once field ms v ∧ item v = some a := by
  induction ms with
  | nil =>
      constructor
      · intro h
        cases h
      · rintro ⟨v, honce, -⟩
        cases honce
  | cons m ms ih =>
      obtain ⟨key, v⟩ := m
      obtain ⟨hkey, hkeys⟩ := List.forall_mem_cons.mp keys
      obtain ⟨key, rfl⟩ := Option.ne_none_iff_exists'.mp hkey
      rw [collect]
      by_cases hfield : key = field.toList
      · subst hfield
        rw [if_pos rfl, Option.isSome_none, if_neg Bool.false_ne_true, Option.bind_eq_some_iff]
        simp only [collect_found hkeys, once_cons_self]
        constructor
        · rintro ⟨b, hb, hba, hms⟩
          obtain rfl := Option.some.inj hba
          exact ⟨v, ⟨rfl, hms⟩, hb⟩
        · rintro ⟨w, ⟨rfl, hms⟩, ha⟩
          exact ⟨a, ha, rfl, hms⟩
      · have hne : some key ≠ some field.toList := fun h => hfield (Option.some.inj h)
        rw [if_neg hfield, ih hkeys]
        simp only [once_cons_of_ne hne]

theorem Once.mem {key : String} {ms : List (Option (List Char) × Value)} {v : Value}
    (h : Once key ms v) : (some key.toList, v) ∈ ms := by
  have hmem : (some key.toList, v) ∈ ms.filter (·.1 = some key.toList) := by
    rw [h]
    exact List.mem_singleton_self _
  exact (List.mem_filter.mp hmem).1

/-- Of the two shapes of a record, the object is the one where other fields may stand besides. -/
theorem Describes.record (h : Describes item spec) (field : String) :
    Describes (Value.record? field item) (Holds field spec) := by
  intro v clean a
  constructor
  · intro ha
    cases clean with
    | list elements =>
        rename_i vs
        obtain _ | ⟨v, _ | ⟨w, vs⟩⟩ := vs
        · cases ha
        · exact .list ((h v (elements v List.mem_cons_self) a).mp ha)
        · cases ha
    | object keys values =>
        obtain ⟨w, honce, hw⟩ := (collect_unfound keys).mp (Option.join_eq_some_iff.mp ha)
        exact .object honce ((h w (values _ honce.mem) a).mp hw)
    | null => cases ha
    | boolean _ => cases ha
    | number => cases ha
    | string _ => cases ha
  · intro ha
    cases ha with
    | list inner =>
        cases clean with
        | list elements => exact (h _ (elements _ List.mem_cons_self) a).mpr inner
    | object once inner =>
        cases clean with
        | object keys values =>
            exact Option.join_eq_some_iff.mpr ((collect_unfound keys).mpr
              ⟨_, once, (h _ (values _ once.mem) a).mpr inner⟩)

end ShaderSketch.Json

namespace ShaderSketch.Service.Body

open Json

/-- A block of shader code with its text. -/
def Block : Value → String → Prop := Holds "text" IsText

/-- A response with the texts of its blocks. -/
def WellFormed : Value → List String → Prop := Holds "shader_code" (Elements Block)

/-- The shape of a response. -/
def shape : Value → Option (List String) :=
  Value.record? "shader_code" (Value.elements? (Value.record? "text" Value.text?))

theorem takes_response : Takes response shape :=
  takes_record _ _ (takes_elements (takes_record _ _ takes_text))

theorem describes_shape : Describes shape WellFormed :=
  ((describes_text.record "text").elements).record "shader_code"

/-- The first block is used if it is not blank. -/
theorem source_of_visible {body t : String} {ts : List String} (h : blocks body = .ok (t :: ts))
    (visible : ¬ Text.blank t) : source body = .ok t := by
  have hfirst : firstSource? (t :: ts) = if !Text.blank t then some t else none := rfl
  rw [Bool.not_eq_true] at visible
  rw [source, h]
  dsimp only
  rw [hfirst, visible]
  rfl

/-- Without a first block, or with a blank one, there is no source. -/
theorem source_of_blank {body : String} {ts : List String} (h : blocks body = .ok ts)
    (blank : ∀ t ∈ ts.head?, Text.blank t) : source body = .error .noSource := by
  rw [source, h]
  cases ts with
  | nil => rfl
  | cons t ts =>
      have hfirst : firstSource? (t :: ts) = if !Text.blank t then some t else none := rfl
      dsimp only
      rw [hfirst, blank t rfl]
      rfl

/-- What a response comes to, by its first block. -/
theorem source_of_response {body : String} {ts : List String} (h : blocks body = .ok ts) :
    (∀ t, source body = .ok t ↔ ts.head? = some t ∧ ¬ Text.blank t) ∧
      (source body = .error .noSource ↔ ∀ t ∈ ts.head?, Text.blank t) ∧
      ∀ detail, source body ≠ .error (.unreadable detail) := by
  by_cases hfirst : ∀ t ∈ ts.head?, Text.blank t
  · rw [source_of_blank h hfirst]
    refine ⟨fun t => iff_of_false nofun ?_, iff_of_true rfl hfirst, nofun⟩
    rintro ⟨ht, visible⟩
    exact visible (hfirst t ht)
  · obtain ⟨t, ht, visible⟩ : ∃ t, ts.head? = some t ∧ ¬ Text.blank t := by
      simpa only [not_forall, exists_prop, Option.mem_def] using hfirst
    obtain ⟨ts, rfl⟩ := List.head?_eq_some_iff.mp ht
    rw [source_of_visible h visible]
    refine ⟨fun u => ⟨?_, ?_⟩, iff_of_false nofun fun hall => visible (hall t ht), nofun⟩
    · rintro ⟨⟩
      exact ⟨ht, visible⟩
    · rintro ⟨hu, -⟩
      exact congrArg Except.ok (Option.some.inj hu)

theorem source_of_fails {body : String} (h : Fails (blocks body)) :
    ∃ detail, source body = .error (.unreadable detail) := by
  obtain ⟨f, hf⟩ := h
  rw [source, hf]
  exact ⟨_, rfl⟩

/-- **What every text comes to as a response.**  A text that holds one value is decoded by the
schema of the value: the first block is the source, unless it is blank, and there is none without a
block.  Every other text cannot be read.  Clean values are the ones of which the schema speaks; of
texts that are no documents nothing is asked. -/
theorem source_schema (body : String) :
    (∀ v : Value, v.Clean → Document v body.toList →
      (∀ t, source body = .ok t ↔ ∃ ts, WellFormed v (t :: ts) ∧ ¬ Text.blank t) ∧
      (source body = .error .noSource ↔ ∃ ts, WellFormed v ts ∧ ∀ t ∈ ts.head?, Text.blank t) ∧
      ((∃ detail, source body = .error (.unreadable detail)) ↔ ¬ ∃ ts, WellFormed v ts)) ∧
    ((¬ ∃ v, Document v body.toList) →
      ∃ detail, source body = .error (.unreadable detail)) := by
  refine ⟨?_, ?_⟩
  · intro v clean document
    have hwell (ts : List String) : WellFormed v ts ↔ shape v = some ts :=
      (describes_shape v clean ts).symm
    simp only [hwell]
    cases hshape : shape v with
    | none =>
        obtain ⟨detail, hsource⟩ :=
          source_of_fails (fails_decode_of_document takes_response document hshape)
        rw [hsource]
        simp
    | some ts =>
        have hblocks : blocks body = .ok ts := decode_of_document takes_response document hshape
        obtain ⟨hok, hnone, hread⟩ := source_of_response hblocks
        refine ⟨fun t => (hok t).trans ⟨?_, ?_⟩, hnone.trans ⟨?_, ?_⟩, iff_of_false ?_ ?_⟩
        · rintro ⟨ht, visible⟩
          obtain ⟨ts, rfl⟩ := List.head?_eq_some_iff.mp ht
          exact ⟨ts, rfl, visible⟩
        · rintro ⟨ts, hts, visible⟩
          obtain rfl := Option.some.inj hts
          exact ⟨rfl, visible⟩
        · intro blank
          exact ⟨ts, rfl, blank⟩
        · rintro ⟨ts, hts, blank⟩
          obtain rfl := Option.some.inj hts
          exact blank
        · rintro ⟨detail, hdetail⟩
          exact hread detail hdetail
        · intro h
          exact h ⟨ts, rfl⟩
  · intro hnone
    refine source_of_fails ?_
    cases hblocks : blocks body with
    | error f => exact ⟨f, rfl⟩
    | ok ts => exact absurd (document_of_decode takes_response hblocks) hnone

/-- The shortest response with a source, and the empty text. -/
theorem source_shortest :
    source "[[[\"x\"]]]" = .ok "x" ∧ ∃ detail, source "" = .error (.unreadable detail) := by
  constructor
  · have hdocument : Document (.list [.list [.list [.string (some ['x'])]]])
        "[[[\"x\"]]]".toList :=
      (writes_quote ['x']).singleton.singleton.singleton.document
    have hone {v : Value} (h : v.Clean) : (Value.list [v]).Clean :=
      .list fun w hw => by rwa [List.mem_singleton.mp hw]
    have hblock : Block (.list [.string (some ['x'])]) "x" := .list (.mk ['x'])
    exact ((source_schema _).1 _ (hone (hone (hone (.string ['x'])))) hdocument).1 "x" |>.mpr
      ⟨[], .list (.mk (.cons hblock .nil)), by decide⟩
  · refine (source_schema "").2 ?_
    rintro ⟨v, ⟨w, -, hw⟩, value, -⟩
    obtain ⟨c, s, rfl, -⟩ := value.head
    exact absurd (congrArg List.length hw) (by simp)

end ShaderSketch.Service.Body
