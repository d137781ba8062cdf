import Mathlib.Data.List.TakeWhile
import ShaderSketch.Files.ExportPath
import ShaderSketch.Proofs.Lines

/-!
# What the path of a picture ends in

The last component of a path decides which format a picture has.  Slashes at the end of a path do
not count, and neither do components that are a dot; a component that is two dots names no file.
What follows the last dot of the component is its extension, unless the component starts with it.

## Main definitions

* `ExportPath.Trailing` — what does not count at the end of a path
* `ExportPath.LastComponent` — the last component of a path that counts
* `ExportPath.HasExtension` — a path has an extension

## Main results

* `ExportPath.components_append_trailing` : what does not count is no component
* `ExportPath.trailing_or_lastComponent` : a path has a last component, or nothing of it counts
* `ExportPath.fileName?_eq_some` : a path leads to the file that its last component names
* `ExportPath.extension?_eq_some` : what follows the last dot of a name
* `ExportPath.pictures_named` : the paths of pictures are those with the extension `png`
-/

namespace ShaderSketch

namespace ExportPath

/-! ## Components -/

/-- What does not count at the end of a path: slashes, and components that are a dot. -/
inductive Trailing : List Char → Prop
  | nil : Trailing []
  | slash {t : List Char} : Trailing t → Trailing ('/' :: t)
  | dot {t : List Char} : Trailing t → Trailing ('/' :: '.' :: t)

/-- The last component of a path that counts: it is not empty and no dot, it goes back to a slash or
to the start of the path, and nothing behind it counts.  Two dots count here, and are sorted out
later, since they are a component and name no file. -/
structure LastComponent (path name : List Char) : Prop where
  stands : ∃ front tail, path = front ++ name ++ tail ∧
    (∀ c ∈ front.getLast?, c = '/') ∧ Trailing tail
  whole : '/' ∉ name
  counts : name ≠ [] ∧ name ≠ ['.']

/-- The components of a path that count. -/
def components (path : List Char) : List (List Char) :=
  (Text.splitOn '/' path).filter fun s => s ≠ [] ∧ s ≠ ['.']

variable {path name s t : List Char}

theorem components_append_slash (s t : List Char) :
    components (s ++ '/' :: t) = components s ++ components t := by
  rw [components, Text.splitOn_append_separator, List.filter_append]
  rfl

theorem components_of_counts (hwhole : '/' ∉ name) (hcounts : name ≠ [] ∧ name ≠ ['.']) :
    components name = [name] := by
  rw [components, Text.splitOn_of_not_mem hwhole, List.filter_singleton, decide_eq_true hcounts]
  rfl

/-- **What does not count is no component**, whatever it stands behind.  This is why the end of a
path can be left out of account in everything that follows. -/
theorem components_append_trailing (ht : Trailing t) (s : List Char) :
    components (s ++ t) = components s := by
  induction ht generalizing s with
  | nil => rw [List.append_nil]
  | @slash t _ ih =>
      have hrest : components t = [] := ih []
      rw [components_append_slash, hrest, List.append_nil]
  | @dot t _ ih =>
      have hrest : components ('.' :: t) = [] := ih ['.']
      rw [components_append_slash, hrest, List.append_nil]

/-- The last component that counts is the last one of them. -/
theorem LastComponent.getLast?_components (h : LastComponent path name) :
    (components path).getLast? = some name := by
  obtain ⟨⟨front, tail, rfl, hfront, htail⟩, hwhole, hcounts⟩ := h
  have hname := components_of_counts hwhole hcounts
  rw [components_append_trailing htail]
  rcases List.eq_nil_or_concat front with rfl | ⟨f, c, rfl⟩
  · rw [List.nil_append, hname, List.getLast?_singleton]
  · obtain rfl : c = '/' := hfront c (by simp)
    rw [List.concat_eq_append, List.append_assoc, List.singleton_append, components_append_slash,
      hname, List.getLast?_concat]

theorem components_eq_nil (h : Trailing ('/' :: path)) : components path = [] := by
  have hnone : components ([] ++ '/' :: path) = components [] := components_append_trailing h []
  rwa [components_append_slash, components, Text.splitOn_of_not_mem List.not_mem_nil] at hnone

/-- **A path has a last component, or nothing of it counts.**  A slash is put in front, so that an
empty path is one of which nothing counts. -/
theorem trailing_or_lastComponent (path : List Char) :
    Trailing ('/' :: path) ∨ ∃ name, LastComponent path name := by
  have hslashed {s : List Char} (hs : s = [] ∨ s = ['.']) {t : List Char} (ht : Trailing t) :
      Trailing ('/' :: (s ++ t)) := by
    rcases hs with rfl | rfl
    · exact .slash ht
    · exact .dot ht
  induction path using Text.splitOn_induction '/' with
  | last name hwhole =>
      by_cases hcounts : name ≠ [] ∧ name ≠ ['.']
      · exact .inr ⟨name, ⟨[], [], (List.append_nil name).symm, by simp, .nil⟩, hwhole, hcounts⟩
      · rw [not_and_or, not_ne_iff, not_ne_iff] at hcounts
        have ht := hslashed hcounts .nil
        rw [List.append_nil] at ht
        exact .inl ht
  | piece name s hwhole ih =>
      rcases ih with ht | ⟨last, ⟨front, tail, rfl, hfront, htail⟩, hlast, hcounts⟩
      · by_cases hcounts : name ≠ [] ∧ name ≠ ['.']
        · exact .inr ⟨name, ⟨[], '/' :: s, rfl, by simp, ht⟩, hwhole, hcounts⟩
        · rw [not_and_or, not_ne_iff, not_ne_iff] at hcounts
          exact .inl (hslashed hcounts ht)
      · refine .inr ⟨last, ⟨name ++ '/' :: front, tail, by simp, ?_, htail⟩, hlast, hcounts⟩
        intro c hc
        cases front with
        | nil => simpa [eq_comm] using hc
        | cons d front =>
            apply hfront
            rwa [List.getLast?_append_cons, List.getLast?_cons_cons] at hc

/-- **The last component of a path is the last one that counts.** -/
theorem getLast?_components_eq_some :
    (components path).getLast? = some name ↔ LastComponent path name := by
  constructor
  · intro h
    rcases trailing_or_lastComponent path with ht | ⟨last, hlast⟩
    · rw [components_eq_nil ht] at h
      cases h
    · rw [hlast.getLast?_components] at h
      cases h
      exact hlast
  · exact LastComponent.getLast?_components

/-- **A path leads to the file that its last component names**, unless it names the directory
above. -/
theorem fileName?_eq_some :
    fileName? path = some name ↔ LastComponent path name ∧ name ≠ ['.', '.'] := by
  have hfile : fileName? path = (components path).getLast?.filter (· ≠ ['.', '.']) := by
    unfold fileName?
    rw [← components]
    cases (components path).getLast? with
    | none => rfl
    | some last => by_cases habove : last = ['.', '.'] <;> simp [Option.filter_some, habove]
  rw [hfile, Option.filter_eq_some_iff, getLast?_components_eq_some, decide_eq_true_iff]

/-! ## Extensions -/

theorem extension?_of_not_mem (h : '.' ∉ name) : extension? name = none := by
  have htail : name.reverse.takeWhile (· ≠ '.') = name.reverse := by
    rw [List.takeWhile_eq_self_iff]
    intro c hc
    rw [decide_eq_true_iff]
    rintro rfl
    exact h (List.mem_reverse.mp hc)
  rw [extension?, htail, List.reverse_reverse]
  exact if_pos (Nat.le_succ _)

/-- The last dot is found from the end, as no dot follows it. -/
theorem extension?_append {stem ext : List Char} (h : '.' ∉ ext) :
    extension? (stem ++ '.' :: ext) = if stem = [] then none else some ext := by
  have hext : ∀ c ∈ ext.reverse, decide (c ≠ '.') = true := by
    intro c hc
    rw [decide_eq_true_iff]
    rintro rfl
    exact h (List.mem_reverse.mp hc)
  have htail : (stem ++ '.' :: ext).reverse.takeWhile (· ≠ '.') = ext.reverse := by
    rw [List.reverse_append, List.reverse_cons, List.append_assoc,
      List.takeWhile_append_of_pos hext, List.singleton_append,
      List.takeWhile_cons_of_neg (by simp), List.append_nil]
  have hlength : (stem ++ '.' :: ext).length ≤ ext.length + 1 ↔ stem = [] := by
    rw [List.length_append, List.length_cons, ← List.length_eq_zero_iff]
    omega
  rw [extension?, htail, List.reverse_reverse]
  simp only [hlength]

/-- **What follows the last dot of a name**, unless the name starts with it, is its extension.  A
name that starts with its last dot has no extension, as `stem` must not be empty. -/
theorem extension?_eq_some {ext : List Char} :
    extension? name = some ext ↔ ∃ stem, name = stem ++ '.' :: ext ∧ stem ≠ [] ∧ '.' ∉ ext := by
  constructor
  · intro h
    by_cases hdot : '.' ∈ name
    · obtain ⟨after, before, hreverse, hafter⟩ :=
        List.eq_append_cons_of_mem (List.mem_reverse.mpr hdot)
      have hname : name = before.reverse ++ '.' :: after.reverse := by
        rw [← List.reverse_reverse name, hreverse]
        simp
      have hlast : '.' ∉ after.reverse := fun hmem => hafter (List.mem_reverse.mp hmem)
      rw [hname, extension?_append hlast] at h
      split at h
      · cases h
      · next hstem =>
          cases h
          exact ⟨before.reverse, hname, hstem, hlast⟩
    · rw [extension?_of_not_mem hdot] at h
      cases h
  · rintro ⟨stem, rfl, hstem, hext⟩
    rw [extension?_append hext, if_neg hstem]

/-- A path has an extension: its last component is not two dots, and the extension follows the last
dot of the component, which is not its first character.  It is told by the text of the path alone,
without taking it apart first. -/
def HasExtension (path ext : List Char) : Prop :=
  ∃ name stem, LastComponent path name ∧ name ≠ ['.', '.'] ∧
    name = stem ++ '.' :: ext ∧ stem ≠ [] ∧ '.' ∉ ext

theorem bind_extension?_eq_some {ext : List Char} :
    (fileName? path).bind extension? = some ext ↔ HasExtension path ext := by
  rw [Option.bind_eq_some_iff]
  constructor
  · rintro ⟨name, hname, hext⟩
    obtain ⟨hlast, hne⟩ := fileName?_eq_some.mp hname
    obtain ⟨stem, hparts⟩ := extension?_eq_some.mp hext
    exact ⟨name, stem, hlast, hne, hparts⟩
  · rintro ⟨name, stem, hlast, hne, hparts⟩
    exact ⟨name, fileName?_eq_some.mpr ⟨hlast, hne⟩, extension?_eq_some.mpr ⟨stem, hparts⟩⟩

/-! ## Pictures -/

/-- A path with an extension is read by it. -/
theorem read_of_hasExtension {text : String} {ext : List Char} (h : HasExtension text.toList ext) :
    read text = if ext.map Char.toLower = "png".toList then .ok (.ofText text)
      else .error (.otherFormat (ext.map Char.toLower)) := by
  rw [read, bind_extension?_eq_some.mpr h]

theorem read_of_no_extension {text : String} (h : ¬∃ ext, HasExtension text.toList ext) :
    read text = .error .noExtension := by
  have hnone : (fileName? text.toList).bind extension? = none :=
    Option.eq_none_iff_forall_ne_some.mpr fun ext hext => h ⟨ext, bind_extension?_eq_some.mp hext⟩
  rw [read, hnone]

/-- A picture is written to a path that has the extension `png`. -/
theorem read_eq_ok {text : String} {path : Path} : read text = .ok path ↔
    path = .ofText text ∧
      ∃ ext, HasExtension text.toList ext ∧ ext.map Char.toLower = "png".toList := by
  constructor
  · intro h
    by_cases hhas : ∃ ext, HasExtension text.toList ext
    · obtain ⟨ext, hext⟩ := hhas
      rw [read_of_hasExtension hext] at h
      split at h
      · next hpng =>
          cases h
          exact ⟨rfl, ext, hext, hpng⟩
      · cases h
    · rw [read_of_no_extension hhas] at h
      cases h
  · rintro ⟨rfl, ext, hext, hpng⟩
    rw [read_of_hasExtension hext, if_pos hpng]

/-- **The paths of pictures are those with the extension `png`**, in any mix of cases, and they are
read as they are spelled.  A path without an extension is refused as such, and so is one that leads
to the directory above; one with another extension is refused by its extension, with the letters of
ASCII in lower case. -/
theorem pictures_named (text : String) :
    (∀ path, read text = .ok path ↔ path = .ofText text ∧
      ∃ ext, HasExtension text.toList ext ∧ ext.map Char.toLower = "png".toList) ∧
    (read text = .error .noExtension ↔ ¬∃ ext, HasExtension text.toList ext) ∧
    (∀ format, read text = .error (.otherFormat format) ↔
      ∃ ext, HasExtension text.toList ext ∧ ext.map Char.toLower = format ∧
        format ≠ "png".toList) ∧
    Error.noExtension.message = "export path has no extension; expected .png" ∧
    ∀ format, (Error.otherFormat format).message =
      "unsupported export format '." ++ String.ofList format ++ "'; expected .png" := by
  refine ⟨fun path => read_eq_ok, ?_, ?_, rfl, fun format => rfl⟩
  · constructor
    · rintro h ⟨ext, hext⟩
      rw [read_of_hasExtension hext] at h
      split at h <;> cases h
    · exact read_of_no_extension
  · intro format
    constructor
    · intro h
      by_cases hhas : ∃ ext, HasExtension text.toList ext
      · obtain ⟨ext, hext⟩ := hhas
        rw [read_of_hasExtension hext] at h
        split at h
        · cases h
        · next hpng =>
            cases h
            exact ⟨ext, hext, rfl, hpng⟩
      · rw [read_of_no_extension hhas] at h
        cases h
    · rintro ⟨ext, hext, rfl, hpng⟩
      rw [read_of_hasExtension hext, if_neg hpng]

example : read "sketches/..PNG/./" = .ok (.ofText "sketches/..PNG/./") := by decide

example : read "sketches/.png" = .error .noExtension := by decide

end ExportPath

end ShaderSketch
