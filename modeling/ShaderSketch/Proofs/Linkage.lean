import ShaderSketch.Proofs.Register
import ShaderSketch.Proofs.Verdict

/-!
# Linked programs

When a program is linked it gets a verdict and the names that it exposes.  Both depend on the
shaders that are attached at that moment, and on nothing afterwards: shaders may be detached,
deleted or given other sources, and the program stays as it is until it is linked again or deleted.

## Main definitions

* `Gl.Memory.attachments` — the shaders that are attached to a program, read off what was done
* `Gl.Memory.LastUsable` — the shader that a link takes for a stage
* `Gl.Memory.Program.exposed` — what a link decides
* `Gl.Memory.Linkage` — a link and what lasts of it

## Main results

* `Gl.Memory.get?_act` : what any act does to a program
* `Gl.Memory.attached_after` : a program has attached what was attached and not detached since
* `Gl.Memory.exposed_after` : what a link decided lasts until the next one
* `Gl.Memory.passed_link_iff` : when a link succeeds
* `Gl.Memory.link_lasts` : all of this for everything that is done

## Design notes

A shader that is deleted stays among those that are attached, and so does its handle when it is
attached twice.  Detaching takes all of these away at once.
-/

namespace ShaderSketch.Gl

open Surface

theorem Table.get?_erase_of_ne {α : Type} (t : Table α) {h k : Handle} (hne : k ≠ h) :
    (t.erase h).get? k = t.get? k := by
  obtain ⟨entries⟩ := t
  unfold get? erase
  induction entries with
  | nil => rfl
  | cons entry entries ih =>
      obtain ⟨key, a⟩ := entry
      by_cases hkey : key = h <;> grind

namespace Memory

variable {m : Memory} {p : Handle} {a : Act} {acts : List Act}

/-! ## What acts do to a program -/

/-- What an act does to a program that it does not delete. -/
def changed (m : Memory) (p : Handle) : Act → Program → Program
  | .call (.attachShader p' s), program =>
    if p' = p ∧ m.Has ⟨.shader, s⟩ then { program with attached := program.attached ++ [s] }
    else program
  | .call (.detachShader p' s), program =>
    if p' = p then { program with attached := program.attached.filter (· ≠ s) } else program
  | .call (.linkProgram p'), program => if p' = p then m.link program else program
  | _, program => program

/-- A program that is changed under a handle. -/
theorem get?_modify_eq {t : Table Program} {p' : Handle} {f g : Program → Program}
    (h : ∀ program, t.get? p = some program →
      (if p' = p then f program else program) = g program) :
    (t.modify p' f).get? p = (t.get? p).map g := by
  rw [Table.get?_modify]
  obtain rfl | hne := eq_or_ne p p'
  · rw [if_pos rfl]
    exact Option.map_congr fun program hget => by simpa using h program hget
  · rw [if_neg hne, ← Option.map_congr h]
    simp [hne.symm]

/-- A program that is not changed under a handle. -/
theorem get?_of_programs_eq {m' : Memory} {f : Program → Program}
    (hprograms : m'.programs = m.programs)
    (hid : ∀ program, m.programs.get? p = some program → f program = program) :
    m'.programs.get? p = (m.programs.get? p).map f := by
  rw [hprograms, Option.map_congr hid, Option.map_id']

/-- Attaching is refused, and changes nothing, unless both are there. -/
theorem get?_attachShader (p' s : Handle) :
    (m.attachShader p' s).programs.get? p =
      (m.programs.get? p).map (m.changed p (.call (.attachShader p' s))) := by
  unfold attachShader
  split
  · next hlive =>
      rw [Bool.and_eq_true] at hlive
      refine get?_modify_eq fun program _ => ?_
      simp only [changed, has_shader, hlive.1, and_true]
  · next hrefused =>
      refine get?_of_programs_eq rfl fun program hget => if_neg ?_
      rintro ⟨rfl, hs⟩
      rw [Bool.and_eq_true] at hrefused
      exact hrefused ⟨has_shader.mp hs, by simp [Table.contains, hget]⟩

theorem get?_detachShader (p' s : Handle) :
    (m.detachShader p' s).programs.get? p =
      (m.programs.get? p).map (m.changed p (.call (.detachShader p' s))) := by
  unfold detachShader
  split
  · exact get?_modify_eq fun _ _ => rfl
  · next hrefused =>
      refine get?_of_programs_eq rfl fun program hget => if_neg ?_
      rintro rfl
      exact hrefused (by simp [Table.contains, hget])

/-- Linking changes the program that it names and no other. -/
theorem get?_linkProgram (p' : Handle) :
    (m.linkProgram p').programs.get? p =
      (m.programs.get? p).map (m.changed p (.call (.linkProgram p'))) := by
  unfold linkProgram
  cases hlinked : m.programs.get? p' with
  | none =>
      refine get?_of_programs_eq rfl fun program hget => if_neg ?_
      rintro rfl
      cases hlinked.symm.trans hget
  | some program =>
      refine get?_modify_eq fun program' hget => ?_
      simp only [changed]
      split
      · next heq => rw [Option.some.inj (hlinked.symm.trans (heq ▸ hget))]
      · rfl

/-- **What an act does to a program**: it is changed, or it is new and has nothing attached.  New
handles are one more than the last, so that the second case is the only way for a program to appear;
a deletion is left out, and only where it would take the program away. -/
theorem get?_act (kept : a = .call (.deleteProgram p) → ¬ m.Has ⟨.program, p⟩) :
    (m.act a).programs.get? p = (m.programs.get? p).map (m.changed p a) ∨
      p = m.issued + 1 ∧ (m.act a).programs.get? p = some {} := by
  cases a with
  | barShaders | barPrograms | barBuffers => exact .inl (get?_of_programs_eq rfl fun _ _ => rfl)
  | call c =>
      cases c with
      | createProgram =>
          simp only [act, answer, createProgram]
          split
          · exact .inl (get?_of_programs_eq rfl fun _ _ => rfl)
          · obtain rfl | hne := eq_or_ne p (m.issued + 1)
            · exact .inr ⟨rfl, Table.get?_insert_self _ _ _⟩
            · rw [Table.get?_insert_of_ne _ _ hne]
              exact .inl (get?_of_programs_eq rfl fun _ _ => rfl)
      | attachShader p' s => exact .inl (get?_attachShader p' s)
      | detachShader p' s => exact .inl (get?_detachShader p' s)
      | linkProgram p' => exact .inl (get?_linkProgram p')
      | deleteProgram p' =>
          simp only [act, answer, deleteProgram]
          split
          · next hlive =>
              have hne : p ≠ p' := fun heq => kept (heq ▸ rfl) (has_program.mpr (heq ▸ hlive))
              rw [Table.get?_erase_of_ne _ hne]
              exact .inl (get?_of_programs_eq rfl fun _ _ => rfl)
          · exact .inl (get?_of_programs_eq rfl fun _ _ => rfl)
      | _ =>
          refine .inl (get?_of_programs_eq ?_ fun _ _ => rfl)
          simp only [act, answer, createShader, createBuffer, compileShader, deleteShader,
            useProgram, uploadArrayBuffer, bindArrayBuffer, deleteBuffer]
          all_goals
            (repeat' split) <;> rfl

/-! ## Attached shaders -/

/-- The shaders that a program has attached; none if it is not there. -/
def attachedTo (m : Memory) (p : Handle) : List Handle :=
  ((m.programs.get? p).map Program.attached).getD []

/-- The shader that an act attaches to a program, if both are there. -/
def attaches (m : Memory) (p : Handle) : Act → List Handle
  | .call (.attachShader p' s) =>
    if p' = p ∧ m.Has ⟨.program, p⟩ ∧ m.Has ⟨.shader, s⟩ then [s] else []
  | _ => []

/-- The shaders that are attached to a program in the course of many acts and not detached again, in
the order in which they were attached. -/
def attachments (p : Handle) : Memory → List Act → List Handle
  | _, [] => []
  | m, a :: acts =>
    ((m.attaches p a).filter fun s => .call (.detachShader p s) ∉ acts) ++
      attachments p (m.act a) acts

theorem get?_eq_none_iff : m.programs.get? p = none ↔ ¬ m.Has ⟨.program, p⟩ := by
  rw [has_program, Table.contains, Option.not_isSome_iff_eq_none]

/-- A program that is changed has attached what it had attached before and was not detached, and
what is attached to it. -/
theorem attached_changed (live : m.Has ⟨.program, p⟩) (program : Program) :
    (m.changed p a program).attached =
      (program.attached.filter fun s => a ≠ .call (.detachShader p s)) ++ m.attaches p a := by
  have kept (h : ∀ s, a ≠ .call (.detachShader p s)) :
      (program.attached.filter fun s => a ≠ .call (.detachShader p s)) = program.attached :=
    List.filter_eq_self.mpr fun s _ => decide_eq_true (h s)
  cases a with
  | barShaders | barPrograms | barBuffers => rw [kept (by simp)]; exact (List.append_nil _).symm
  | call c =>
      cases c with
      | attachShader p' s =>
          rw [kept (by simp)]
          simp only [changed, attaches, live, true_and]
          split <;> simp
      | detachShader p' s =>
          simp only [changed, attaches, List.append_nil]
          obtain rfl | hne := eq_or_ne p' p
          · rw [if_pos rfl]
            exact List.filter_congr fun s' _ => by simp [eq_comm]
          · rw [if_neg hne, kept (by simp [hne])]
      | linkProgram p' =>
          rw [kept (by simp)]
          simp only [changed, attaches, List.append_nil]
          split
          · exact attached_link _ _
          · rfl
      | _ => rw [kept (by simp)]; exact (List.append_nil _).symm

/-- What an act does to the shaders that a program has attached. -/
theorem attachedTo_act (numbered : m.Numbered)
    (kept : a = .call (.deleteProgram p) → ¬ m.Has ⟨.program, p⟩) :
    (m.act a).attachedTo p =
      ((m.attachedTo p).filter fun s => a ≠ .call (.detachShader p s)) ++ m.attaches p a := by
  have nothing (absent : ¬ m.Has ⟨.program, p⟩) : m.attachedTo p = [] ∧ m.attaches p a = [] := by
    refine ⟨by rw [attachedTo, get?_eq_none_iff.mpr absent]; rfl, ?_⟩
    unfold attaches
    split
    · exact if_neg fun h => absent h.2.1
    · rfl
  obtain hsame | ⟨hnew, hempty⟩ := get?_act kept
  · cases hget : m.programs.get? p with
    | none =>
        obtain ⟨hattached, hattaches⟩ := nothing (get?_eq_none_iff.mp hget)
        rw [attachedTo, hsame, hget, hattached, hattaches]
        rfl
    | some program =>
        have hlive : m.Has ⟨.program, p⟩ := by
          by_contra absent
          cases hget.symm.trans (get?_eq_none_iff.mpr absent)
        rw [attachedTo, hsame, attachedTo, hget]
        exact attached_changed hlive program
  · -- a new program has a number that nothing had before
    have absent : ¬ m.Has ⟨.program, p⟩ := fun h => by
      have hle := numbered.live _ h
      rw [hnew] at hle
      exact Nat.not_succ_le_self _ hle
    obtain ⟨hattached, hattaches⟩ := nothing absent
    rw [attachedTo, hempty, hattached, hattaches]
    rfl

/-- **A program has attached what was attached and not detached since**, in the order in which it
was attached.  The program has to be there in the end, since handles do not come again: then it was
there from where it was made, and nothing was attached to it in vain. -/
theorem attached_after (numbered : m.Numbered) (live : (m.after acts).Has ⟨.program, p⟩) :
    (m.after acts).attachedTo p =
      ((m.attachedTo p).filter fun s => .call (.detachShader p s) ∉ acts) ++
        attachments p m acts := by
  induction acts generalizing m with
  | nil => simp [after, attachments]
  | cons a acts ih =>
      rw [after_cons] at live ⊢
      have kept : a = .call (.deleteProgram p) → ¬ m.Has ⟨.program, p⟩ := by
        rintro rfl hp
        refine not_has_after (Nat.le_trans (numbered.live _ hp) (issued_le_act _ _)) (fun h => ?_)
          acts live
        obtain hmade | ⟨-, hkept⟩ := has_answer_iff.mp h
        · cases hmade
        · exact hkept rfl
      rw [ih (numbered.act a) live, attachedTo_act numbered kept, List.filter_append,
        List.filter_filter, attachments, List.append_assoc]
      refine congrArg (· ++ _) (List.filter_congr fun s _ => ?_)
      grind

/-! ## What a link decides -/

/-- What a link decides: the verdict and the names. -/
def Program.exposed (program : Program) : Option (Except String Unit) × List String × List String :=
  (program.linked, program.attributes, program.uniforms)

/-- What an act does not do to a program that it neither links nor deletes. -/
theorem exposed_act (issued : p ≤ m.issued) (kept : a ≠ .call (.deleteProgram p))
    (unlinked : a ≠ .call (.linkProgram p)) :
    ((m.act a).programs.get? p).map Program.exposed =
      (m.programs.get? p).map Program.exposed := by
  obtain hsame | ⟨hnew, -⟩ := get?_act (m := m) fun h => absurd h kept
  · rw [hsame, Option.map_map]
    refine Option.map_congr fun program _ => ?_
    simp only [Function.comp_apply, changed]
    repeat' split
    all_goals first | rfl | simp_all
  · exact absurd (hnew ▸ issued) (Nat.not_succ_le_self _)

/-- **What a link decided lasts**, until the program is linked again or deleted.  The handle has to
be given out already: a program that is only made among the acts would get it, and then there would
be something where there was nothing before. -/
theorem exposed_after (issued : p ≤ m.issued)
    (kept : ∀ a ∈ acts, a ≠ .call (.deleteProgram p) ∧ a ≠ .call (.linkProgram p)) :
    ((m.after acts).programs.get? p).map Program.exposed =
      (m.programs.get? p).map Program.exposed := by
  induction acts generalizing m with
  | nil => rfl
  | cons a acts ih =>
      obtain ⟨hdeleted, hlinked⟩ := kept a List.mem_cons_self
      rw [after_cons, ih (Nat.le_trans issued (m.issued_le_act a))
        fun a ha => kept a (List.mem_cons_of_mem _ ha), exposed_act issued hdeleted hlinked]

/-! ## When a link succeeds -/

/-- Whether a shader can be linked for a stage: it is of that stage, and its last compilation was
good. -/
def Shader.Usable (stage : Stage) (shader : Shader) : Prop :=
  passed shader.compiled ∧ shader.stage = stage

/-- The last among attached shaders that is there and can be linked for a stage. -/
def LastUsable (m : Memory) (attached : List Handle) (stage : Stage) (shader : Shader) : Prop :=
  ∃ front s back, attached = front ++ s :: back ∧ m.shaders.get? s = some shader ∧
    shader.Usable stage ∧
      ∀ s' ∈ back, ∀ other, m.shaders.get? s' = some other → ¬ other.Usable stage

/-- A link takes the source that the last usable shader of a stage has. -/
theorem attachedSource?_eq_some_iff {program : Program} {stage : Stage} {source : String} :
    m.attachedSource? program stage = some source ↔
      ∃ shader, m.LastUsable program.attached stage shader ∧ shader.source = source := by
  unfold attachedSource?
  rw [List.getLast?_filterMap, List.findSome?_eq_some_iff]
  constructor
  · rintro ⟨back, s, front, hattached, hsource, hback⟩
    rw [List.reverse_eq_iff, List.reverse_append, List.reverse_cons, List.append_assoc] at hattached
    obtain ⟨shader, hget, hsource⟩ := Option.bind_eq_some_iff.mp hsource
    obtain ⟨husable, hsource⟩ := Option.ite_none_right_eq_some.mp hsource
    refine ⟨shader, ⟨front.reverse, s, back.reverse, hattached, hget, husable, ?_⟩,
      Option.some.inj hsource⟩
    intro s' hs' other hother hothers
    have hnone := hback s' (List.mem_reverse.mp hs')
    rw [hother] at hnone
    exact absurd hnone (by simpa [Shader.Usable] using hothers)
  · rintro ⟨shader, ⟨front, s, back, hattached, hget, husable, hback⟩, rfl⟩
    refine ⟨back.reverse, s, front.reverse, by simp [hattached], ?_, fun s' hs' => ?_⟩
    · rw [hget]
      exact if_pos husable
    · cases hother : m.shaders.get? s' with
      | none => rfl
      | some other => exact if_neg (hback s' (List.mem_reverse.mp hs') other hother)

/-- Two stages fit together when what the one reads the other writes. -/
theorem passed_checkStages_iff (vertex fragment : String) :
    passed (some (checkStages vertex.toList fragment.toList)) ↔
      ∀ name ∈ declaredNames "varying" fragment.toList,
        name ∈ declaredNames "varying" vertex.toList := by
  have hmissing : missingVaryings vertex.toList fragment.toList = [] ↔
      ∀ name ∈ declaredNames "varying" fragment.toList,
        name ∈ declaredNames "varying" vertex.toList := by
    simp [missingVaryings, List.filter_eq_nil_iff]
  rw [← hmissing, checkStages]
  cases missingVaryings vertex.toList fragment.toList <;> simp [passed]

/-- **When a link succeeds**: a shader of each stage is usable, and what the last fragment shader
reads the last vertex shader writes. -/
theorem passed_link_iff (program : Program) :
    passed (m.link program).linked ↔ ∃ vertex fragment,
      m.LastUsable program.attached .vertex vertex ∧
        m.LastUsable program.attached .fragment fragment ∧
          ∀ name ∈ declaredNames "varying" fragment.source.toList,
            name ∈ declaredNames "varying" vertex.source.toList := by
  unfold link
  split
  · next vertexSource fragmentSource hvertex hfragment =>
      rw [passed_checkStages_iff]
      constructor
      · intro hnames
        obtain ⟨vertex, hlast, rfl⟩ := attachedSource?_eq_some_iff.mp hvertex
        obtain ⟨fragment, hlast', rfl⟩ := attachedSource?_eq_some_iff.mp hfragment
        exact ⟨vertex, fragment, hlast, hlast', hnames⟩
      · rintro ⟨vertex, fragment, hlast, hlast', hnames⟩
        have hsource := hvertex.symm.trans (attachedSource?_eq_some_iff.mpr ⟨vertex, hlast, rfl⟩)
        have hsource' :=
          hfragment.symm.trans (attachedSource?_eq_some_iff.mpr ⟨fragment, hlast', rfl⟩)
        rwa [Option.some.inj hsource, Option.some.inj hsource']
  · next hnone =>
      refine iff_of_false (by simp [passed]) ?_
      rintro ⟨vertex, fragment, hvertex, hfragment, -⟩
      exact hnone _ _ (attachedSource?_eq_some_iff.mpr ⟨vertex, hvertex, rfl⟩)
        (attachedSource?_eq_some_iff.mpr ⟨fragment, hfragment, rfl⟩)

/-! ## A link and what lasts of it -/

/-- What a program tells of its last link: its status, its log and its places.  These four are all
the calls that ask a program about its last link. -/
structure Tells (m m' : Memory) (p : Handle) : Prop where
  linkStatus : (answer (.linkStatus p) m').1 = (answer (.linkStatus p) m).1
  programLog : (answer (.programLog p) m').1 = (answer (.programLog p) m).1
  attribLocation : ∀ name,
    (answer (.attribLocation p name) m').1 = (answer (.attribLocation p name) m).1
  uniformLocation : ∀ name,
    (answer (.uniformLocation p name) m').1 = (answer (.uniformLocation p name) m).1

/-- What a program tells of its last link is what that decided. -/
theorem tells_of_exposed {m' : Memory}
    (h : (m'.programs.get? p).map Program.exposed = (m.programs.get? p).map Program.exposed) :
    m.Tells m' p := by
  have hread {β : Type} (f : Option (Except String Unit) × List String × List String → β) :
      (m'.programs.get? p).map (f ∘ Program.exposed) =
        (m.programs.get? p).map (f ∘ Program.exposed) := by
    rw [← Option.map_map, h, Option.map_map]
  refine ⟨congrArg (Option.getD · _) (hread fun e => passed e.1),
    congrArg (Option.getD · _) (hread fun e => log e.1), fun name => ?_, fun name => ?_⟩
  · have hnames := congrArg (Option.bind · (List.idxOf? name)) (hread fun e => e.2.1)
    rwa [Option.bind_map, Option.bind_map] at hnames
  · have hnames := congrArg (Option.bind · (List.find? (· = name))) (hread fun e => e.2.2)
    rwa [Option.bind_map, Option.bind_map] at hnames

/-- A program that is linked after some acts, and then others follow.  The link succeeds when the
last usable shaders that were attached and not detached fit together; and afterwards the program is
still there, and tells what it told when it was linked.  What follows may take its shaders away or
change their sources, even before the program was ever used; nothing of that can be asked of the
program. -/
structure Linkage (before : List Act) (p : Handle) (later : List Act) : Prop where
  status : (answer (.linkStatus p) (after {} (before ++ [.call (.linkProgram p)]))).1 ↔
    ∃ vertex fragment,
      (after {} before).LastUsable (attachments p {} before) .vertex vertex ∧
        (after {} before).LastUsable (attachments p {} before) .fragment fragment ∧
          ∀ name ∈ declaredNames "varying" fragment.source.toList,
            name ∈ declaredNames "varying" vertex.source.toList
  live : (after {} (before ++ [.call (.linkProgram p)] ++ later)).Has ⟨.program, p⟩
  lasts : Tells (after {} (before ++ [.call (.linkProgram p)]))
    (after {} (before ++ [.call (.linkProgram p)] ++ later)) p

/-- **A program that was linked no longer depends on its shaders**: whether the link succeeds is
decided by the shaders that are attached at that moment, and what it decided lasts whatever follows,
until the program is linked again or deleted.  Two things are asked: the program is there when it is
linked, and nothing that follows links it again or deletes it, which are the ways in which a
decision ends. -/
theorem link_lasts {before later : List Act} {p : Handle}
    (live : (after {} before).Has ⟨.program, p⟩)
    (kept : ∀ a ∈ later, a ≠ .call (.deleteProgram p) ∧ a ≠ .call (.linkProgram p)) :
    Linkage before p later := by
  have numbered := numbered_empty.after before
  obtain ⟨program, hget⟩ := Option.isSome_iff_exists.mp (has_program.mp live)
  have hattached : program.attached = attachments p {} before := by
    have hafter := attached_after numbered_empty live
    rw [attachedTo, hget] at hafter
    exact hafter
  have hlinked : (after {} (before ++ [.call (.linkProgram p)])).programs.get? p =
      some ((after {} before).link program) := by
    rw [after_append]
    exact linkProgram_of_get? hget
  have hissued : p ≤ (after {} (before ++ [.call (.linkProgram p)])).issued := by
    rw [after_append]
    exact Nat.le_trans (numbered.live _ live)
      (issued_le_act (after {} before) (.call (.linkProgram p)))
  have hlasts := exposed_after hissued kept
  rw [← after_append] at hlasts
  refine ⟨?_, ?_, tells_of_exposed hlasts⟩
  · rw [linkStatus_of_get? hlinked, ← hattached]
    exact passed_link_iff program
  · rw [has_program, Table.contains, ← Option.isSome_map, hlasts, hlinked]
    rfl

/-- A program is linked, and then its shaders are detached and deleted. -/
theorem link_lasts_of_deleted :
    let before : List Act := [.call (.createShader .vertex), .call (.createShader .fragment),
      .call .createProgram, .call (.shaderSource 1 "void main() {}"), .call (.compileShader 1),
      .call (.shaderSource 2 "void main() {}"), .call (.compileShader 2),
      .call (.attachShader 3 1), .call (.attachShader 3 2)]
    let later : List Act := [.call (.detachShader 3 1), .call (.detachShader 3 2),
      .call (.deleteShader 1), .call (.deleteShader 2)]
    (after {} before).Has ⟨.program, 3⟩ ∧
      (∀ a ∈ later, a ≠ .call (.deleteProgram 3) ∧ a ≠ .call (.linkProgram 3)) ∧
        Linkage before 3 later := by
  intro before later
  have live : (after {} before).Has ⟨.program, 3⟩ := by decide
  have kept : ∀ a ∈ later, a ≠ .call (.deleteProgram 3) ∧ a ≠ .call (.linkProgram 3) := by
    simp [later]
  exact ⟨live, kept, link_lasts live kept⟩

end Memory

end ShaderSketch.Gl
