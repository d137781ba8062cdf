import Mathlib.Data.List.Basic
import ShaderSketch.Canvas.Saving
import ShaderSketch.Proofs.Results

/-!
# Saved pictures

A picture that was written to a path is found at that path, and what can be read is there.

## Main results

* `Tree.picture?_of_savePicture` : what is written is what is read
* `Tree.isThere_of_readText` : a text that can be read is there
* `Canvas.saveAs_eq_ok` : what it takes to save the picture of a source

## Design notes

Writing and reading find the place of a path in two ways.  They agree on paths that can be written,
since what is on the way to a file is a directory, and the file itself is not.
-/

namespace ShaderSketch

namespace Tree

variable {t t' : Tree} {p : Path} {place here there : Place} {e : Entry} {picture : Picture}

/-! ## Putting and finding -/

theorem lookup_put_self (h : place ≠ []) : Tree.entry? (t.put place e) place = some e := by
  unfold entry? put
  simp [h]

/-- Looking a place up does not mind what was removed for other places. -/
theorem lookup_filter_ne (entries : List (Place × Entry)) (h : here ≠ place) :
    (entries.filter (·.1 ≠ place)).lookup here = entries.lookup here := by
  induction entries with
  | nil => rfl
  | cons entry entries ih =>
      by_cases hentry : entry.1 = place
      · have hne : here ≠ entry.1 := fun heq => h (heq.trans hentry)
        rw [List.filter_cons_of_neg (by simp [hentry]), ih, List.lookup_cons, beq_false_of_ne hne]
      · rw [List.filter_cons_of_pos (by simp [hentry]), List.lookup_cons, List.lookup_cons, ih]

theorem lookup_put_of_ne (h : here ≠ place) : Tree.entry? (t.put place e) here = t.entry? here := by
  unfold entry? put
  split
  · rfl
  · rw [List.lookup_cons, beq_false_of_ne h]
    exact lookup_filter_ne t.entries h

/-- An entry that takes the place of no directory is in nobody's way. -/
theorem follow_put (hplace : t.entry? place ≠ some .directory) {segments : List (List UInt8)}
    (h : t.follow here segments = .ok there) :
    (t.put place e).follow here segments = .ok there := by
  induction segments generalizing here with
  | nil => exact h
  | cons s rest ih =>
      unfold follow at h ⊢
      cases hentry : t.entry? here with
      | none => simp [hentry] at h
      | some entry =>
          cases entry with
          | file content => simp [hentry] at h
          | directory =>
              -- the path goes through a directory here, and the new entry takes the place of none
              have hne : here ≠ place := fun heq => hplace (heq ▸ hentry)
              rw [lookup_put_of_ne hne, hentry]
              rw [hentry] at h
              dsimp only at h ⊢
              by_cases hstay : s = [] ∨ s = [0x2e]
              · rw [if_pos hstay] at h ⊢
                exact ih h
              rw [if_neg hstay] at h ⊢
              by_cases hup : s = [0x2e, 0x2e]
              · rw [if_pos hup] at h ⊢
                exact ih h
              rw [if_neg hup] at h ⊢
              by_cases hlong : longestName < s.length
              · rw [if_pos hlong] at h
                cases h
              · rw [if_neg hlong] at h ⊢
                exact ih h

/-! ## Writing and reading -/

/-- Dropping empty segments from the end leaves a path as it is, or it ended in one. -/
theorem dropLastEmpty_cases (segments : List (List UInt8)) :
    (segments.reverse.dropWhile (· = [])).reverse = segments ∨
      (segments.reverse.dropWhile (· = [])).reverse.length < segments.length ∧
        segments.getLast? = some [] := by
  rw [← List.head?_reverse]
  rcases hreverse : segments.reverse with _ | ⟨last, rest⟩
  · exact .inl (List.reverse_eq_nil_iff.mp hreverse).symm
  · have hlength : segments.length = rest.length + 1 := by
      rw [← List.length_reverse, hreverse, List.length_cons]
    by_cases hlast : last = []
    · right
      have hdrop : (rest.dropWhile (· = [])).length ≤ rest.length :=
        (List.dropWhile_suffix _).length_le
      rw [List.dropWhile_cons_of_pos (by simpa using hlast), List.length_reverse, hlength,
        List.head?_cons, hlast]
      exact ⟨Nat.lt_succ_of_le hdrop, rfl⟩
    · left
      rw [List.dropWhile_cons_of_neg (by simpa using hlast), ← hreverse, List.reverse_reverse]

/-- Where a new file goes is where the path leads, since a path that ends in a slash is refused. -/
theorem follow_of_newPlace (h : t.newPlace p = .ok place) :
    checkPath p = .ok () ∧ t.follow (t.start p) p.segments = .ok place := by
  unfold newPlace at h
  cases hcheck : checkPath p with
  | error e => simp [hcheck, bind, Except.bind] at h
  | ok _ =>
      refine ⟨rfl, ?_⟩
      simp only [hcheck, bind, Except.bind] at h
      generalize hnamed : (p.segments.reverse.dropWhile (· = [])).reverse = named at h
      cases hlast : named.getLast? with
      | none => simp [hlast] at h
      | some last =>
          simp only [hlast] at h
          by_cases hdots : last = [0x2e] ∨ last = [0x2e, 0x2e]
          · rw [if_pos hdots] at h
            split at h <;> cases h
          · rw [if_neg hdots] at h
            cases hfollow : t.follow (t.start p) named with
            | error e => simp [hfollow] at h
            | ok found =>
                simp only [hfollow] at h
                -- the last segments are what they were, or the path ended in a slash
                obtain heq | hslash := dropLastEmpty_cases p.segments
                · rw [hnamed] at heq
                  rw [heq] at hfollow h
                  simpa [hfollow] using h
                · rw [hnamed] at hslash
                  simp [hslash] at h

/-- **A picture that was written is there.**  A path may go down into directories and up again.
Reading takes the way that writing took, and comes to the file that was put there, be it a new one
or one that stood there before. -/
theorem picture?_of_savePicture (h : t.savePicture p picture = .ok t') :
    t'.picture? p = some picture := by
  obtain ⟨place, hplace, h⟩ := bind_eq_ok_iff.mp h
  obtain ⟨hcheck, hfollow⟩ := follow_of_newPlace hplace
  have hfree : t.entry? place ≠ some .directory := by
    intro hdirectory
    rw [hdirectory] at h
    cases h
  have hput : t' = t.put place (.file (.picture picture)) := by
    split at h
    · cases h
    · exact (Except.ok.inj h).symm
  -- the root is a directory and cannot be written over
  have hroot : place ≠ [] := by
    rintro rfl
    exact hfree rfl
  have hlocate : t'.locate p = .ok place := by
    rw [locate, hcheck, hput]
    exact follow_put hfree hfollow
  rw [picture?, read, hlocate, hput]
  simp [bind, Except.bind, lookup_put_self hroot]

/-! ## Texts -/

/-- A file whose text can be read is there. -/
theorem isThere_of_readText {text : String} (h : t.readText p = .ok text) : t.isThere p := by
  obtain ⟨content, hread, -⟩ := bind_eq_ok_iff.mp h
  obtain ⟨place, hlocate, hcontent⟩ := bind_eq_ok_iff.mp hread
  rw [isThere, hlocate]
  cases hentry : t.entry? place with
  | none =>
      rw [hentry] at hcontent
      cases hcontent
  | some entry => exact congrArg Option.isSome hentry

end Tree

/-- A picture of a source that was saved is there. -/
theorem Canvas.saveAs_eq_ok {σ ℓ : Type} {s : Surface σ ℓ} {source : String} {path : Path}
    {c : Canvas σ} {files : Tree} (h : (c.saveAs s source path files).1 = .ok ()) :
    ∃ picture, (c.picture s source).1 = .ok picture ∧
      (c.saveAs s source path files).2.2.picture? path = some picture := by
  unfold saveAs at h ⊢
  rcases hpicture : c.picture s source with ⟨_ | picture, c'⟩
  · rw [hpicture] at h
    cases h
  · rw [hpicture] at h
    dsimp only at h ⊢
    cases hsave : files.savePicture path picture with
    | error e =>
        rw [hsave] at h
        cases h
    | ok files' => exact ⟨picture, rfl, Tree.picture?_of_savePicture hsave⟩

end ShaderSketch
