import ShaderSketch.Proofs.Hosts
import ShaderSketch.Proofs.Sizes
import ShaderSketch.Proofs.Target

/-!
# Slashes at the end of an endpoint

What an endpoint ends in does not matter to where its requests go: neither slashes behind it nor
blanks around it, and its address names the endpoint as well as the text that it was read from.

## Main definitions

* `Url.slashes` — so many slashes

## Main results

* `Url.splitTail_slashes` : slashes behind an address go to the end of its last part
* `Url.rdropWhile_readPath` : slashes behind a path are lost with those that it ends in
* `Service.Endpoint.ofText_slashes` : slashes behind a text do not matter to where requests go
* `Service.Endpoint.ofText_render` : an endpoint is read from the text of its address
* `Service.Endpoint.same_target_of_text` : what does not matter at the ends of a text

## Design notes

Slashes come to the end of the last part that an address has: of its fragment, or else of its query,
or else of its path, where they may be the first that the path has.  What requests are sent to is
made from that part without its trailing slashes, so that it is enough to follow them there.
-/

namespace ShaderSketch

namespace Url

open Percent

/-! ## Slashes behind a text -/

/-- So many slashes. -/
def slashes (k : Nat) : List Char := List.replicate k '/'

theorem mem_slashes {k : Nat} {c : Char} (h : c ∈ slashes k) : c = '/' :=
  (List.mem_replicate.mp h).2

/-- Slashes are not taken with what is in front of them, if a slash is not taken. -/
theorem takeWhile_slashes {p : Char → Bool} (h : p '/' = false) (s : List Char) (k : Nat) :
    (s ++ slashes k).takeWhile p = s.takeWhile p := by
  have hnone : (slashes k).takeWhile p = [] := by
    cases k with
    | zero => rfl
    | succ k => exact List.takeWhile_cons_of_neg (by simp [h])
  rw [List.takeWhile_append]
  split
  · rename_i hall
    rw [hnone, List.append_nil]
    exact ((List.takeWhile_prefix p).eq_of_length hall).symm
  · rfl

/-- Slashes stay behind a text that loses something in front, if they are not lost. -/
theorem dropWhile_slashes {p : Char → Bool} (h : p '/' = false) (s : List Char) (k : Nat) :
    (s ++ slashes k).dropWhile p = s.dropWhile p ++ slashes k := by
  have hall : (slashes k).dropWhile p = slashes k := by
    cases k with
    | zero => rfl
    | succ k => exact List.dropWhile_cons_of_neg (by simp [h])
  rw [List.dropWhile_append]
  split
  · rename_i hempty
    rw [hall, List.isEmpty_iff.mp hempty, List.nil_append]
  · rfl

/-- A text that ends in nothing to lose loses nothing at its end, nor do slashes behind it. -/
theorem rdropWhile_slashes {p : Char → Bool} (h : p '/' = false) {s : List Char}
    (hs : ∀ c ∈ s.getLast?, p c = false) (k : Nat) :
    (s ++ slashes k).rdropWhile p = s ++ slashes k := by
  have hall : (slashes k).rdropWhile p = slashes k := by
    rw [List.rdropWhile_eq_self_iff]
    intro hne
    rw [mem_slashes (List.getLast_mem hne), h]
    exact Bool.false_ne_true
  rw [rdropWhile_append hs, hall]

/-! ## Authorities -/

theorem splitUserinfo_slashes (s : List Char) (k : Nat) :
    splitUserinfo true (s ++ slashes k) =
      (splitUserinfo true s).map fun (userinfo, after) => (userinfo, after ++ slashes k) := by
  unfold splitUserinfo
  rw [takeWhile_slashes rfl]
  dsimp only
  split
  · rfl
  · have hshort := (List.takeWhile_prefix (l := s) (!endsAuthority true ·)).length_le
    rw [List.take_append_of_le_length (by omega), List.drop_append_of_le_length (by omega)]
    rfl

/-- Slashes end a host, unless it has ended before. -/
theorem splitHost_slashes (bracketed : Bool) (s : List Char) (k : Nat) :
    splitHost true bracketed (s ++ slashes k) =
      ((splitHost true bracketed s).1, (splitHost true bracketed s).2 ++ slashes k) := by
  induction s generalizing bracketed with
  | nil =>
      cases k with
      | zero => rfl
      | succ k => simp [slashes, List.replicate_succ, splitHost, endsAuthority]
  | cons c s ih =>
      rw [List.cons_append, splitHost, splitHost]
      split
      · rfl
      · simp only [ih]

/-- Slashes behind an authority stay behind it, if it has a host. -/
theorem readAuthority_slashes {s : List Char} {a : Authority} (h : readAuthority true s = .ok a)
    (hhost : a.host ≠ []) (k : Nat) :
    readAuthority true (s ++ slashes k) = .ok { a with rest := a.rest ++ slashes k } := by
  unfold readAuthority at h ⊢
  rw [splitUserinfo_slashes]
  cases huser : splitUserinfo true s with
  | none =>
      rw [huser] at h
      obtain rfl := Except.ok.inj h
      simp only [Option.map_none, splitHost_slashes]
  | some parts =>
      obtain ⟨userinfo, after⟩ := parts
      rw [huser] at h
      dsimp only [Option.map_some] at h ⊢
      split at h
      · cases h
      · rename_i hvalid
        obtain rfl := Except.ok.inj h
        have hafter : after ≠ [] := by
          rintro rfl
          exact hhost rfl
        rw [List.head?_append_of_ne_nil _ hafter, if_neg hvalid, splitHost_slashes]

/-- Digits are read up to something else, and slashes are something else. -/
theorem readPort_slashes {default? port : Option Nat} {s tail : List Char}
    (h : readPort default? s = .ok (port, tail)) (k : Nat) :
    readPort default? (s ++ slashes k) = .ok (port, tail ++ slashes k) := by
  have hends {rest : List Char} (hrest : ((rest.head?.map (endsAuthority true)).getD true) = true) :
      (((rest ++ slashes k).head?.map (endsAuthority true)).getD true) = true := by
    cases rest with
    | nil => cases k <;> rfl
    | cons c rest => exact hrest
  unfold readPort at h ⊢
  rw [takeWhile_slashes rfl]
  dsimp only at h ⊢
  rw [List.drop_append_of_le_length (List.takeWhile_prefix _).length_le]
  split at h
  · cases h
  · rename_i hbound
    split at h
    · rename_i hrest
      cases h
      rw [if_neg hbound, if_pos (hends hrest)]
    · cases h

/-- So what follows a host takes the slashes to its path. -/
theorem portAndTail_slashes {scheme s tail : List Char} {port : Option Nat}
    (h : portAndTail scheme s = .ok (port, tail)) (k : Nat) :
    portAndTail scheme (s ++ slashes k) = .ok (port, tail ++ slashes k) := by
  obtain ⟨rest, rfl, hport⟩ | ⟨hcolon, hport⟩ := portAndTail_cases scheme s
  · rw [hport] at h
    exact readPort_slashes h k
  · rw [hport] at h
    cases h
    obtain ⟨rest, hrest, -⟩ | ⟨-, hport'⟩ := portAndTail_cases scheme (s ++ slashes k)
    · cases s with
      | nil => exact absurd (mem_slashes (hrest ▸ List.mem_cons_self)) (by decide)
      | cons c s => exact absurd rfl ((List.cons.inj hrest).1 ▸ hcolon s)
    · exact hport'

/-! ## Paths -/

theorem splitSlashes_ne_nil (s : List Char) : splitSlashes s ≠ [] := by
  cases s with
  | nil => exact List.cons_ne_nil _ _
  | cons c s =>
      rw [splitSlashes]
      split
      · exact List.cons_ne_nil _ _
      · split <;> exact List.cons_ne_nil _ _

/-- Each slash more is an empty piece more. -/
theorem splitSlashes_slashes (s : List Char) (k : Nat) :
    splitSlashes (s ++ slashes k) = splitSlashes s ++ List.replicate k [] := by
  induction s with
  | nil =>
      induction k with
      | zero => rfl
      | succ k ih =>
          rw [List.nil_append, slashes, List.replicate_succ]
          exact ((splitSlashes_append (s := []) nofun).2 _).trans (congrArg ([] :: ·) ih)
  | cons c s ih =>
      obtain ⟨l, ls, hpieces⟩ := List.exists_cons_of_ne_nil (splitSlashes_ne_nil s)
      rw [hpieces] at ih
      rw [List.cons_append, splitSlashes, splitSlashes, ih, hpieces]
      split <;> rfl

/-- Empty segments are only more empty segments. -/
theorem segments_resolve_replicate (before : List (List Char)) (k : Nat) :
    segments (resolve before (List.replicate (k + 1) [])) =
      before.reverse ++ List.replicate (k + 1) [] := by
  induction k generalizing before with
  | zero => rfl
  | succ k ih =>
      have hstep : resolve before (List.replicate (k + 1 + 1) []) =
          resolve ([] :: before) (List.replicate (k + 1) []) := rfl
      rw [hstep, ih, List.reverse_cons, List.append_assoc, List.replicate_succ (n := k + 1)]
      rfl

/-- **Empty segments at the end of a path change nothing else about it.**  Without any piece there
would be nothing for the empty ones to stand behind. -/
theorem rdropWhile_resolve (before pieces : List (List Char)) (hne : pieces ≠ []) (k : Nat) :
    (segments (resolve before (pieces ++ List.replicate k []))).rdropWhile (·.isEmpty) =
      (segments (resolve before pieces)).rdropWhile (·.isEmpty) := by
  cases k with
  | zero => rw [List.replicate_zero, List.append_nil]
  | succ k =>
      have hempty (before : List (List Char)) :
          (segments (resolve before (List.replicate (k + 1) []))).rdropWhile (·.isEmpty) =
            (segments (before.reverse, [])).rdropWhile (·.isEmpty) := by
        rw [segments_resolve_replicate, rdropWhile_append_replicate rfl]
        exact (rdropWhile_append_replicate rfl before.reverse 1).symm
      induction before, pieces using resolve.induct with
      | case1 before => exact absurd rfl hne
      | case2 before s hup =>
          have hstep : resolve before ([s] ++ List.replicate (k + 1) []) =
              resolve (shorten before) (List.replicate (k + 1) []) := by
            simp [List.replicate_succ, resolve, hup]
          rw [hstep, hempty, resolve, hup]
      | case3 before s hstay =>
          have hstep : resolve before ([s] ++ List.replicate (k + 1) []) =
              resolve before (List.replicate (k + 1) []) := by
            simp [List.replicate_succ, resolve, hstay]
          rw [hstep, hempty, resolve, hstay]
      | case4 before s t hname =>
          have hstep : resolve before ([s] ++ List.replicate (k + 1) []) =
              resolve (t :: before) (List.replicate (k + 1) []) := by
            simp [List.replicate_succ, resolve, hname]
          rw [hstep, segments_resolve_replicate, rdropWhile_append_replicate rfl, resolve, hname]
          simp [segments]
      | case5 before s t more hup ih => simpa [resolve, hup] using ih (List.cons_ne_nil _ _)
      | case6 before s t more hstay ih => simpa [resolve, hstay] using ih (List.cons_ne_nil _ _)
      | case7 before s t more name hname ih =>
          simpa [resolve, hname] using ih (List.cons_ne_nil _ _)

/-- **Slashes behind a path are lost with those that it ends in.**  They are compared with their
empty segments dropped, since that is done to a path before the route goes behind it. -/
theorem rdropWhile_readPath (s : List Char) (k : Nat) :
    (segments (readPath (s ++ slashes k))).rdropWhile (·.isEmpty) =
      (segments (readPath s)).rdropWhile (·.isEmpty) := by
  have hbehind (t : List Char) (k : Nat) :
      (segments (resolve [] ((splitSlashes (t ++ slashes k)).map (encode inPath)))).rdropWhile
          (·.isEmpty) =
        (segments (resolve [] ((splitSlashes t).map (encode inPath)))).rdropWhile (·.isEmpty) := by
    rw [splitSlashes_slashes, List.map_append, List.map_replicate]
    exact rdropWhile_resolve [] _ (by simpa using splitSlashes_ne_nil t) k
  cases s with
  | nil =>
      cases k with
      | zero => rfl
      | succ k => exact hbehind [] k
  | cons c s =>
      rw [List.cons_append]
      unfold readPath
      dsimp only
      split
      · exact hbehind s k
      · exact hbehind (c :: s) k

/-! ## Whole addresses -/

/-- Every end of an address is a path, with a query and a fragment behind it if it has them. -/
theorem exists_tail (s : List Char) :
    ∃ path query fragment, s = path ++ (queryText query ++ fragmentText fragment) ∧
      (∀ c ∈ path, c ≠ '?' ∧ c ≠ '#') ∧ ∀ q ∈ query, ∀ c ∈ q, c ≠ '#' := by
  have hfragment (t : List Char) :
      ∃ front fragment, t = front ++ fragmentText fragment ∧ ∀ c ∈ front, c ≠ '#' := by
    by_cases hmem : '#' ∈ t
    · obtain ⟨front, f, rfl, hfront⟩ := List.eq_append_cons_of_mem hmem
      exact ⟨front, some f, rfl, fun c hc heq => hfront (heq ▸ hc)⟩
    · exact ⟨t, none, (List.append_nil t).symm, fun c hc heq => hmem (heq ▸ hc)⟩
  obtain ⟨front, fragment, rfl, hfront⟩ := hfragment s
  by_cases hmem : '?' ∈ front
  · obtain ⟨path, q, rfl, hpath⟩ := List.eq_append_cons_of_mem hmem
    rw [List.forall_mem_append, List.forall_mem_cons] at hfront
    refine ⟨path, some q, fragment, by simp [queryText], fun c hc => ?_, ?_⟩
    · exact ⟨fun heq => hpath (heq ▸ hc), hfront.1 c hc⟩
    · rintro _ ⟨⟩
      exact hfront.2.2
  · refine ⟨front, none, fragment, rfl, fun c hc => ⟨fun heq => hmem (heq ▸ hc), hfront c hc⟩, ?_⟩
    intro q hq
    cases hq

/-- **Slashes behind an address go to the end of its last part.**  The three cases are the three
places where an address can end. -/
theorem splitTail_slashes (s : List Char) (k : Nat) :
    (∃ path, splitTail s = (path, none, none) ∧
      splitTail (s ++ slashes k) = (path ++ slashes k, none, none)) ∨
    (∃ path q, splitTail s = (path, some q, none) ∧
      splitTail (s ++ slashes k) = (path, some (q ++ slashes k), none)) ∨
    ∃ path query f, splitTail s = (path, query, some f) ∧
      splitTail (s ++ slashes k) = (path, query, some (f ++ slashes k)) := by
  obtain ⟨path, query, fragment, rfl, hpath, hquery⟩ := exists_tail s
  rw [splitTail_written hpath hquery]
  cases fragment with
  | some f =>
      refine .inr (.inr ⟨path, query, f, rfl, ?_⟩)
      have hmore : path ++ (queryText query ++ fragmentText (some f)) ++ slashes k =
          path ++ (queryText query ++ fragmentText (some (f ++ slashes k))) := by
        simp [fragmentText]
      rw [hmore, splitTail_written hpath hquery]
  | none =>
      cases query with
      | some q =>
          refine .inr (.inl ⟨path, q, rfl, ?_⟩)
          have hslashes : ∀ q' ∈ some (q ++ slashes k), ∀ c ∈ q', c ≠ '#' := by
            rintro _ ⟨⟩
            refine List.forall_mem_append.mpr ⟨hquery q rfl, fun c hc => ?_⟩
            rw [mem_slashes hc]
            decide
          have hmore : path ++ (queryText (some q) ++ fragmentText none) ++ slashes k =
              path ++ (queryText (some (q ++ slashes k)) ++ fragmentText none) := by
            simp [queryText, fragmentText]
          rw [hmore, splitTail_written hpath hslashes]
      | none =>
          refine .inl ⟨path, rfl, ?_⟩
          have hslashes : ∀ c ∈ path ++ slashes k, c ≠ '?' ∧ c ≠ '#' := by
            refine List.forall_mem_append.mpr ⟨hpath, fun c hc => ?_⟩
            rw [mem_slashes hc]
            decide
          have hmore : path ++ (queryText none ++ fragmentText none) ++ slashes k =
              path ++ slashes k ++ (queryText none ++ fragmentText none) := by
            simp [queryText, fragmentText]
          rw [hmore, splitTail_written hslashes hquery]

theorem encode_slashes {set : Char → Bool} (h : set '/' = false) (s : List Char) (k : Nat) :
    encode set (s ++ slashes k) = encode set s ++ slashes k := by
  have hslashes : encode set (slashes k) = slashes k :=
    encode_eq_self fun c hc => (mem_slashes hc).symm ▸ h
  rw [encode, List.flatMap_append]
  exact congrArg (encode set s ++ ·) hslashes

open Service.Endpoint (below) in
/-- Slashes behind an address that is read do not matter to what stands below it. -/
theorem readSpecial_slashes {scheme s : List Char} {u : Url} (h : readSpecial scheme s = .ok u)
    (k : Nat) :
    ∃ u', readSpecial scheme (s ++ slashes k) = .ok u' ∧ below u' = below u := by
  rw [readSpecial_eq] at h ⊢
  obtain ⟨a, ha, h⟩ := bind_eq_ok_iff.mp h
  split at h
  · cases h
  · rename_i hhost
    obtain ⟨host, hread, h⟩ := bind_eq_ok_iff.mp h
    obtain ⟨⟨port, tail⟩, htail, rfl⟩ := map_eq_ok_iff.mp h
    have hne : a.host ≠ [] := by simpa using hhost
    simp only [readAuthority_slashes ha hne k, Except.bind, if_neg hhost, hread,
      portAndTail_slashes htail k, Except.map]
    refine ⟨_, rfl, ?_⟩
    have hlost (text : List Char) :
        (text ++ slashes k).rdropWhile (· = '/') = text.rdropWhile (· = '/') :=
      rdropWhile_append_replicate rfl text k
    obtain ⟨path, hs, hs'⟩ | ⟨path, q, hs, hs'⟩ | ⟨path, query, f, hs, hs'⟩ :=
      splitTail_slashes tail k
    · rw [hs, hs']
      simp only [below, Option.map_none, rdropWhile_readPath]
    · rw [hs, hs']
      have hslash : inSpecialQuery '/' = false := rfl
      simp only [below, Option.map_none, Option.map_some, encode_slashes hslash, hlost]
    · rw [hs, hs']
      have hslash : inFragment '/' = false := rfl
      simp only [below, Option.map_some, encode_slashes hslash, hlost]

/-- A text without what it loses at its ends, when it ends in nothing to lose. -/
theorem strip_slashes {p : Char → Bool} (h : p '/' = false) {s : List Char}
    (hs : ∀ c ∈ s.getLast?, p c = false) (k : Nat) :
    ((s ++ slashes k).dropWhile p).rdropWhile p = (s.dropWhile p).rdropWhile p ++ slashes k := by
  have hlast : ∀ c ∈ (s.dropWhile p).getLast?, p c = false := fun c hc =>
    hs c (getLast?_dropWhile hc)
  rw [dropWhile_slashes h, rdropWhile_slashes h hlast, rdropWhile_dropWhile hs]

theorem clean_slashes {s : List Char} (hs : ∀ c ∈ s.getLast?, isMargin c = false) (k : Nat) :
    clean (s ++ slashes k) = clean s ++ slashes k := by
  have hkept : (slashes k).filter (!isDropped ·) = slashes k :=
    List.filter_eq_self.mpr fun c hc => by rw [mem_slashes hc]; rfl
  change (((s ++ slashes k).dropWhile isMargin).rdropWhile isMargin).filter (!isDropped ·) = _
  rw [strip_slashes rfl hs, List.filter_append, hkept]
  rfl

/-- A scheme ends at its colon, so that slashes do not come into it. -/
theorem splitScheme?_slashes {s scheme rest : List Char}
    (h : splitScheme? s = some (scheme, rest)) (k : Nat) :
    splitScheme? (s ++ slashes k) = some (scheme, rest ++ slashes k) := by
  unfold splitScheme? at h ⊢
  rw [takeWhile_slashes rfl, dropWhile_slashes rfl]
  dsimp only at h ⊢
  split at h
  · rename_i c front rest' hfront hrest
    split at h
    · rename_i hletter
      cases h
      rw [hfront, hrest]
      exact if_pos hletter
    · cases h
  · cases h

/-- An address is a scheme whose addresses have the common form, and the rest behind slashes. -/
theorem read_eq_address {text : List Char} {u : Url} :
    Url.read text = .ok (.address u) ↔ ∃ scheme rest,
      splitScheme? (clean text) = some (scheme, rest) ∧ (defaultPort? scheme).isSome ∧
      readSpecial scheme (rest.dropWhile fun c => c = '/' || c = '\\') = .ok u := by
  unfold Url.read
  cases hscheme : splitScheme? (clean text) with
  | none => simp
  | some parts =>
      obtain ⟨scheme, rest⟩ := parts
      dsimp only
      split
      · rename_i hspecial
        constructor
        · intro h
          obtain ⟨u', hu', heq⟩ := map_eq_ok_iff.mp h
          cases heq
          exact ⟨scheme, rest, rfl, hspecial, hu'⟩
        · rintro ⟨_, _, ⟨⟩, -, hread⟩
          rw [hread]
          rfl
      · rename_i hother
        refine iff_of_false (fun h => ?_) ?_
        · split at h
          · obtain ⟨-, -, heq⟩ := map_eq_ok_iff.mp h
            cases heq
          · obtain ⟨-, -, heq⟩ := map_eq_ok_iff.mp h
            cases heq
        · rintro ⟨_, _, ⟨⟩, hspecial, -⟩
          exact hother hspecial

open Service.Endpoint (below) in
/-- **Slashes behind an address do not matter to what stands below it.**  The last character is
asked for because the reader drops margins first: behind one, a slash would make part of the address
what was dropped before. -/
theorem read_slashes {text : List Char} {u : Url} (h : Url.read text = .ok (.address u))
    (hlast : ∀ c ∈ text.getLast?, isMargin c = false) (k : Nat) :
    ∃ u', Url.read (text ++ slashes k) = .ok (.address u') ∧ below u' = below u := by
  obtain ⟨scheme, rest, hscheme, hspecial, hread⟩ := read_eq_address.mp h
  obtain ⟨u', hread', hbelow⟩ := readSpecial_slashes hread k
  have hne : rest.dropWhile (fun c => c = '/' || c = '\\') ≠ [] := fun hnil => by
    rw [hnil] at hread
    cases hread
  refine ⟨u', read_eq_address.mpr ⟨scheme, rest ++ slashes k, ?_, hspecial, ?_⟩, hbelow⟩
  · rw [clean_slashes hlast, splitScheme?_slashes hscheme]
  · rw [List.dropWhile_append, if_neg (by simpa using hne)]
    exact hread'

/-- The host of an address is read from some text. -/
theorem exists_read_host {text : List Char} {u : Url} (h : Url.read text = .ok (.address u)) :
    ∃ s, Host.read s = .ok u.host := by
  obtain ⟨scheme, rest, -, -, hread⟩ := read_eq_address.mp h
  rw [readSpecial_eq] at hread
  obtain ⟨a, -, hread⟩ := bind_eq_ok_iff.mp hread
  split at hread
  · cases hread
  · obtain ⟨host, hhost, hread⟩ := bind_eq_ok_iff.mp hread
    obtain ⟨_, -, rfl⟩ := map_eq_ok_iff.mp hread
    exact ⟨a.host, hhost⟩

/-! ## The margins of an address -/

/-- Blanks are controls, stand beyond ASCII, or are the one that is in every set. -/
theorem isBlank_of_not_inAny {c : Char} (h : inAny c = false) (hblank : c ≠ ' ') :
    Text.isBlank c = false := by
  have hvisible := lt_toNat_of_not_inAny h hblank
  rw [inAny, Bool.or_eq_false_iff, decide_eq_false_iff_not, decide_eq_false_iff_not] at h
  simp only [Text.isBlank, Bool.or_eq_false_iff, Bool.and_eq_false_iff, beq_eq_false_iff_ne,
    decide_eq_false_iff_not]
  omega

theorem isBlank_of_not_inFragment {c : Char} (h : inFragment c = false) :
    Text.isBlank c = false :=
  isBlank_of_not_inAny (Bool.or_eq_false_iff.mp h).1 (ne_of_not_in h rfl)

theorem isBlank_of_not_inSpecialQuery {c : Char} (h : inSpecialQuery c = false) :
    Text.isBlank c = false :=
  isBlank_of_not_inAny (Bool.or_eq_false_iff.mp h).1 (ne_of_not_in h rfl)

/-- There are no blanks in the path of an address and behind it. -/
theorem isBlank_of_mem_end {u : Url} (h : u.Canonical) :
    ∀ c ∈ renderPath u.path ++ (queryText u.query ++ fragmentText u.fragment),
      Text.isBlank c = false := by
  refine List.forall_mem_append.mpr ⟨?_, List.forall_mem_append.mpr ⟨?_, ?_⟩⟩
  · rw [renderPath_eq]
    intro c hc
    obtain ⟨s, hs, hc⟩ := List.mem_flatMap.mp hc
    obtain rfl | hc := List.mem_cons.mp hc
    · rfl
    · have hplain := (Bool.or_eq_false_iff.mp (h.not_slash s hs c hc)).1
      exact isBlank_of_not_inFragment (not_inFragment_of_not_inPath hplain)
  · have hin := h.query
    cases hquery : u.query with
    | none => exact List.forall_mem_nil _
    | some q =>
        exact List.forall_mem_cons.mpr
          ⟨rfl, fun c hc => isBlank_of_not_inSpecialQuery (hin q hquery c hc)⟩
  · have hin := h.fragment
    cases hfragment : u.fragment with
    | none => exact List.forall_mem_nil _
    | some f =>
        exact List.forall_mem_cons.mpr
          ⟨rfl, fun c hc => isBlank_of_not_inFragment (hin f hfragment c hc)⟩

theorem render_ne_nil (u : Url) : u.render ≠ [] := by
  rw [render_eq_place, place]
  simp

/-- **The text of an address has no margins.**  It starts with its scheme, and at its end stands a
path, a query or a fragment, in which there are no blanks. -/
theorem trim_render {u : Url} (hscheme : Spoken u.scheme) (h : u.Canonical) :
    Text.trim u.render = u.render := by
  have hstart : u.render.dropWhile Text.isBlank = u.render := by
    rw [render_eq_place, place]
    obtain hhttp | hhttps := hscheme
    · rw [hhttp]
      rfl
    · rw [hhttps]
      rfl
  have hlast : ∀ c ∈ u.render.getLast?, Text.isBlank c = false := by
    intro c hc
    rw [render_eq_place, List.getLast?_append_of_ne_nil _ (by simp [renderPath])] at hc
    exact isBlank_of_mem_end h c (List.mem_of_getLast? hc)
  exact (rdropWhile_dropWhile hlast).trans hstart

end Url

/-! ## Endpoints -/

namespace Text

open Url (slashes)

theorem trim_slashes {s : List Char} (hs : ∀ c ∈ s.getLast?, isBlank c = false) (k : Nat) :
    trim (s ++ slashes k) = trim s ++ slashes k :=
  Url.strip_slashes rfl hs k

/-- A text that ends in no blank ends in the same without its margins. -/
theorem getLast?_trim {s : List Char} (hs : ∀ c ∈ s.getLast?, isBlank c = false) {c : Char}
    (hc : c ∈ (trim s).getLast?) : c ∈ s.getLast? := by
  have htrim : trim s = s.dropWhile isBlank := rdropWhile_dropWhile hs
  rw [htrim] at hc
  exact getLast?_dropWhile hc

end Text

namespace Service.Endpoint

open Url Percent

/-- Texts that are the same without their blank margins name the same endpoint. -/
theorem ofText_congr {text text' : String}
    (h : Text.trim text'.toList = Text.trim text.toList) : ofText text' = ofText text := by
  rw [ofText, ofText, h]

/-- Requests go to an address that is determined by what stands below the endpoint. -/
theorem appendRoute_congr {u u' : Url} (h : u.Canonical) (h' : u'.Canonical)
    (hbelow : below u' = below u) : appendRoute u' = appendRoute u := by
  rw [appendRoute_eq_render h', appendRoute_eq_render h, hbelow]

/-- **Slashes at the end of a text do not matter to where requests go.**  Both readers drop
something at the ends of a text, and what they drop is not the same, so that both are named. -/
theorem ofText_slashes {text : String} {e : Endpoint} (h : ofText text = .ok e)
    (hlast : ∀ c ∈ text.toList.getLast?, Text.isBlank c = false ∧ isMargin c = false) (k : Nat) :
    ∃ e', ofText (text ++ String.ofList (slashes k)) = .ok e' ∧ e'.target = e.target := by
  obtain ⟨hraw, hbase, htarget, -⟩ := ofText_eq_ok.mp h
  obtain ⟨hread, hspoken⟩ := readAddress_eq_ok.mp hbase
  have htrim : Text.trim (text ++ String.ofList (slashes k)).toList =
      Text.trim text.toList ++ slashes k := by
    rw [String.toList_append, String.toList_ofList]
    exact Text.trim_slashes (fun c hc => (hlast c hc).1) k
  have hend : ∀ c ∈ (Text.trim text.toList).getLast?, isMargin c = false := fun c hc =>
    (hlast c (Text.getLast?_trim (fun d hd => (hlast d hd).1) hc)).2
  obtain ⟨u', hread', hbelow⟩ := read_slashes hread hend k
  have hscheme : u'.scheme = e.base.scheme := by
    rw [← (same_below u').1, hbelow, (same_below e.base).1]
  refine ⟨⟨u', e.target, defaultTimeout⟩, ofText_eq_ok.mpr ⟨?_, ?_, ?_, rfl⟩, rfl⟩
  · rw [htrim]
    exact List.append_ne_nil_of_left_ne_nil hraw _
  · rw [htrim]
    exact readAddress_eq_ok.mpr ⟨hread', hscheme ▸ hspoken⟩
  · rw [appendRoute_congr (canonical_of_read hread) (canonical_of_read hread') hbelow]
    exact htarget

/-- The host of an endpoint is read from its text: it had to be read again for the target. -/
theorem read_host_of_ofText {text : String} {e : Endpoint} (h : ofText text = .ok e) :
    Host.read e.base.host.render = .ok e.base.host := by
  obtain ⟨-, hbase, htarget, -⟩ := ofText_eq_ok.mp h
  obtain ⟨hread, hspoken⟩ := readAddress_eq_ok.mp hbase
  obtain ⟨hreadTarget, -⟩ := readAddress_eq_ok.mp htarget
  have hcanonical := canonical_of_read hread
  obtain ⟨hsame, -, -, hsameHost, -⟩ := same_below e.base
  rw [appendRoute_eq_render hcanonical, read_render_eq (hsame ▸ hspoken)
    (canonical_below hcanonical), hsameHost] at hreadTarget
  obtain ⟨host, hagain, -⟩ := map_eq_ok_iff.mp hreadTarget
  obtain ⟨s, hhost⟩ := exists_read_host hread
  rw [hagain, Host.read_render hhost hagain]

/-- **An endpoint is read from the text of its address.**  A text that names an endpoint was read
twice, and the second reading tells that the host comes back from its own text. -/
theorem ofText_render {text : String} {e : Endpoint} (h : ofText text = .ok e) :
    ofText (String.ofList e.base.render) = .ok e := by
  obtain ⟨-, hbase, htarget, htimeout⟩ := ofText_eq_ok.mp h
  obtain ⟨hread, hspoken⟩ := readAddress_eq_ok.mp hbase
  have hcanonical := canonical_of_read hread
  have hagain : Url.read e.base.render = .ok (.address e.base) := by
    rw [read_render_eq hspoken hcanonical, read_host_of_ofText h]
    rfl
  have htrim : Text.trim (String.ofList e.base.render).toList = e.base.render := by
    rw [String.toList_ofList, trim_render hspoken hcanonical]
  refine ofText_eq_ok.mpr ⟨?_, ?_, htarget, htimeout⟩
  · rw [htrim]
    exact render_ne_nil e.base
  · rw [htrim]
    exact readAddress_eq_ok.mpr ⟨hagain, hspoken⟩

/-- **What does not matter at the ends of a text that names an endpoint.**  Behind a text that ends
in neither a blank nor a control, slashes change nothing about the target; blanks around a text
change nothing at all; and the text of an endpoint's address, whatever its timeout, names the
endpoint again. -/
theorem same_target_of_text (text : String) :
    (∀ e, ofText text = .ok e →
      (∀ c ∈ text.toList.getLast?, Text.isBlank c = false ∧ isMargin c = false) →
      ∀ k, ∃ e', ofText (text ++ String.ofList (slashes k)) = .ok e' ∧ e'.target = e.target) ∧
    (∀ front back : String, Text.blank front → Text.blank back →
      ofText (front ++ text ++ back) = ofText text) ∧
    ∀ e seconds, ofText text = .ok e →
      ofText (String.ofList (e.withTimeout seconds).base.render) = .ok e := by
  refine ⟨fun e h hlast k => ofText_slashes h hlast k, fun front back hfront hback => ?_,
    fun e seconds h => ofText_render h⟩
  refine ofText_congr ?_
  rw [String.toList_append, String.toList_append]
  exact Text.trim_append (List.all_eq_true.mp hfront) (List.all_eq_true.mp hback)

/-- Slashes may come to be segments of the address, and the target is still the same. -/
theorem same_target_of_text_dots :
    let text := "http://[::1]:4000/v2/../a"
    let target := here (some 4000) (["a".toList, "api".toList], "generate-shader".toList) none
    let e : Endpoint := ⟨here (some 4000) ([], "a".toList) none, target, defaultTimeout⟩
    (ofText text = .ok e ∧ ∀ c ∈ text.toList.getLast?, Text.isBlank c = false ∧
      isMargin c = false) ∧
    (Text.blank "\t" ∧ Text.blank " ") ∧
    (∃ e', ofText (text ++ String.ofList (slashes 2)) = .ok e' ∧ e'.target = target ∧
      e'.base = here (some 4000) (["a".toList, []], []) none) ∧
    ofText ("\t" ++ text ++ " ") = .ok e ∧ ofText (String.ofList e.base.render) = .ok e := by
  intro text target e
  have he : ofText text = .ok e := by decide +kernel
  have hend : text.toList.getLast? = some 'a' := by decide +kernel
  have hlast : ∀ c ∈ text.toList.getLast?, Text.isBlank c = false ∧ isMargin c = false := by
    rw [hend]
    rintro _ ⟨⟩
    exact ⟨rfl, rfl⟩
  have hblank : Text.blank "\t" ∧ Text.blank " " := by decide +kernel
  obtain ⟨hslashes, hmargins, hagain⟩ := same_target_of_text text
  obtain ⟨e', he', htarget⟩ := hslashes e he hlast 2
  have hlonger : ofText (text ++ String.ofList (slashes 2)) =
      .ok ⟨here (some 4000) (["a".toList, []], []) none, target, defaultTimeout⟩ := by
    decide +kernel
  obtain rfl := Except.ok.inj (hlonger.symm.trans he')
  exact ⟨⟨he, hlast⟩, hblank, ⟨_, he', htarget, rfl⟩,
    (hmargins "\t" " " hblank.1 hblank.2).trans he, hagain e 5 he⟩

end Service.Endpoint

end ShaderSketch
