import Mathlib.Data.Bool.AllAny
import Mathlib.Data.List.Basic
import ShaderSketch.Proofs.Lists
import ShaderSketch.Proofs.Results
import ShaderSketch.Url.Address

/-!
# Canonical addresses

What is read of an address is in canonical form: every part holds only characters that it may hold,
no dots are left in the path, and no port is written that goes without saying.

## Main definitions

* `Url.Percent.Stable` — a set that has none of the characters that encodings are written with
* `Url.Host.Canonical`, `Url.isPlain`, `Url.Canonical` — hosts, segments and addresses in canonical
  form

## Main results

* `Idna.not_forbidden_of_toAscii?` : no domain name holds a character that could end it
* `Url.plain_readPath` : no path holds dots or slashes in its segments
* `Url.canonical_of_read` : what is read is canonical
-/

namespace ShaderSketch

/-! ## Encoded texts -/

namespace Url.Percent

/-- A set that has none of the characters that encodings are written with. -/
def Stable (set : Char → Bool) : Prop := set '%' = false ∧ ∀ n < 16, set (hexDigit n) = false

instance (set : Char → Bool) : Decidable (Stable set) := inferInstanceAs (Decidable (_ ∧ _))

variable {set : Char → Bool} {s : List Char} {c : Char}

/-- What stands in an encoded text stands in the text, or writes a byte. -/
theorem mem_encode (h : c ∈ encode set s) :
    (c ∈ s ∧ set c = false) ∨ c = '%' ∨ ∃ n < 16, c = hexDigit n := by
  obtain ⟨d, hmem, hd⟩ := List.mem_flatMap.mp h
  cases hset : set d with
  | false =>
      simp only [hset, Bool.false_eq_true, if_false, List.mem_singleton] at hd
      exact .inl ⟨hd ▸ hmem, hd ▸ hset⟩
  | true =>
      simp only [hset, if_true, List.mem_flatMap, encodeByte, List.mem_cons, List.not_mem_nil,
        or_false] at hd
      obtain ⟨b, -, hc | hc | hc⟩ := hd
      · exact .inr (.inl hc)
      · exact .inr (.inr ⟨_, by have := b.toNat_lt; omega, hc⟩)
      · exact .inr (.inr ⟨_, Nat.mod_lt _ (by decide), hc⟩)

/-- No character of a set is left when a text is encoded. -/
theorem not_mem_encode (h : Stable set) : ∀ c ∈ encode set s, set c = false := by
  intro c hc
  obtain ⟨-, hset⟩ | rfl | ⟨n, hn, rfl⟩ := mem_encode hc
  · exact hset
  · exact h.1
  · exact h.2 n hn

/-- A text without such characters is left as it is. -/
theorem encode_eq_self (h : ∀ c ∈ s, set c = false) : encode set s = s := by
  induction s with
  | nil => rfl
  | cons c s ih =>
      rw [List.forall_mem_cons] at h
      have htail : encode set s = s := ih h.2
      unfold encode at htail ⊢
      rw [List.flatMap_cons, htail, h.1]
      rfl

/-- Controls and blanks are in every set. -/
theorem lt_toNat_of_not_inAny (h : inAny c = false) (hblank : c ≠ ' ') : 0x20 < c.toNat := by
  rw [inAny, Bool.or_eq_false_iff, decide_eq_false_iff_not] at h
  have hne : c.toNat ≠ ' '.toNat := fun heq => hblank (Char.toNat_inj.mp heq)
  have hvalue : ' '.toNat = 0x20 := rfl
  omega

theorem lt_toNat_of_not_inFragment (h : inFragment c = false) : 0x20 < c.toNat := by
  simp only [inFragment, Bool.or_eq_false_iff] at h
  refine lt_toNat_of_not_inAny h.1 ?_
  rintro rfl
  simp at h

theorem lt_toNat_of_not_inSpecialQuery (h : inSpecialQuery c = false) : 0x20 < c.toNat := by
  simp only [inSpecialQuery, Bool.or_eq_false_iff] at h
  refine lt_toNat_of_not_inAny h.1 ?_
  rintro rfl
  simp at h

theorem not_inFragment_of_not_inPath (h : inPath c = false) : inFragment c = false := by
  rw [inPath, Bool.or_eq_false_iff] at h
  exact h.1

theorem not_inPath_of_not_inUserinfo (h : inUserinfo c = false) : inPath c = false := by
  rw [inUserinfo, Bool.or_eq_false_iff] at h
  exact h.1

/-- The characters that a segment of a path does not hold. -/
def inSegment (c : Char) : Bool := inPath c || ['/', '\\'].contains c

end Url.Percent

/-! ## Domain names -/

namespace Idna

namespace Punycode

/-- What numbers are written with. -/
def IsDigit (c : Char) : Prop := ∃ n < 36, c = digit n

theorem threshold_bounds (k bias : Nat) : 1 ≤ threshold k bias ∧ threshold k bias ≤ 26 := by
  unfold threshold
  split <;> [skip; split] <;> omega

/-- Numbers are written in digits. -/
theorem isDigit_number {bias tries q k : Nat} (h : q ≤ tries) :
    ∀ c ∈ number bias tries q k, IsDigit c := by
  induction tries generalizing q k with
  | zero =>
      simp only [number, List.forall_mem_singleton]
      exact ⟨q, by omega, rfl⟩
  | succ tries ih =>
      obtain ⟨hlow, hhigh⟩ := threshold_bounds k bias
      unfold number
      dsimp only
      split
      · rw [List.forall_mem_singleton]
        exact ⟨q, by omega, rfl⟩
      · rw [List.forall_mem_cons]
        refine ⟨⟨_, ?_, rfl⟩, ih ?_⟩
        · have := Nat.mod_lt (q - threshold k bias) (show 0 < 36 - threshold k bias by omega)
          omega
        · -- what is left is less by the digit at least
          have := Nat.div_le_self (q - threshold k bias) (36 - threshold k bias)
          omega

theorem isDigit_pass {basic value : Nat} {e : Encoding} (h : ∀ c ∈ e.output, IsDigit c) (n : Nat) :
    ∀ c ∈ (e.pass basic value n).output, IsDigit c := by
  unfold Encoding.pass
  split
  · exact h
  · split
    · exact List.forall_mem_append.mpr ⟨h, isDigit_number (Nat.le_refl _)⟩
    · exact h

theorem isDigit_encodeTail {s : List Nat} {basic : Nat} {e : Encoding} {before : Nat}
    {more : List Nat} (h : ∀ c ∈ e.output, IsDigit c) :
    ∀ c ∈ encodeTail s basic e before more, IsDigit c := by
  induction more generalizing e before with
  | nil => exact h
  | cons value more ih =>
      refine ih ?_
      exact List.foldlRecOn (motive := fun e : Encoding => ∀ c ∈ e.output, IsDigit c) s _ h
        fun e he n _ => isDigit_pass he n

/-- The encoded form of a text holds ASCII characters of the text, hyphens and digits. -/
theorem mem_encode? {s t : List Char} (h : encode? s = some t) {c : Char} (hc : c ∈ t) :
    (c ∈ s ∧ c.toNat < 0x80) ∨ c = '-' ∨ IsDigit c := by
  cases h
  obtain hfront | htail := List.mem_append.mp hc
  · split at hfront
    · cases hfront
    · obtain hbasic | hmark := List.mem_append.mp hfront
      · exact .inl (by simpa using hbasic)
      · exact .inr (.inl (by simpa using hmark))
  · exact .inr (.inr (isDigit_encodeTail (List.forall_mem_nil _) c htail))

end Punycode

/-- A label of which the encoding was undone holds no forbidden character. -/
theorem not_forbidden_of_undo? {label plain : List Char} (h : undo? label = some plain) :
    ∀ c ∈ plain, forbidden c = false := by
  have hwell : wellFormed plain := by
    unfold undo? at h
    split at h
    · simp only [Option.bind_eq_bind, Option.bind_eq_some_iff] at h
      obtain ⟨text, -, h⟩ := h
      split at h
      · cases h
        simp_all
      · cases h
    · split at h
      · cases h
        assumption
      · cases h
  simp only [wellFormed, allowed, Bool.and_eq_true, List.all_eq_true] at hwell
  intro c hc
  simpa using (hwell.1.1.1 c hc).1.1

/-- Nor does it when it is encoded again. -/
theorem not_forbidden_of_fold? {label folded : List Char} (h : fold? label = some folded)
    (hlabel : ∀ c ∈ label, forbidden c = false) : ∀ c ∈ folded, forbidden c = false := by
  unfold fold? at h
  split at h
  · cases h
    exact hlabel
  · simp only [Option.map_eq_some_iff] at h
    obtain ⟨text, htext, rfl⟩ := h
    intro c hc
    obtain hmark | hc := List.mem_append.mp hc
    · exact List.all_iff_forall_prop.mp (by decide : encodedMark.all (forbidden · = false)) c hmark
    · obtain ⟨hmem, -⟩ | rfl | ⟨n, hn, rfl⟩ := Punycode.mem_encode? htext hc
      · exact hlabel c hmem
      · rfl
      · exact (by decide : ∀ n < 36, forbidden (Punycode.digit n) = false) n hn

/-- **No domain name holds a character that could end it.**  This is why the text of an address can
be taken apart again: a host that held a colon or a slash would end where the reader thinks its port
or its path begins. -/
theorem not_forbidden_of_toAscii? {name ascii : List Char} (h : toAscii? name = some ascii) :
    ∀ c ∈ ascii, forbidden c = false := by
  simp only [toAscii?, Option.bind_eq_bind, Option.bind_eq_some_iff] at h
  obtain ⟨mapped, -, plain, hplain, h⟩ := h
  split at h
  · cases h
  · simp only [Option.bind_eq_some_iff] at h
    obtain ⟨folded, hfolded, h⟩ := h
    cases h
    intro c hc
    obtain hdot | ⟨l, hl, hc⟩ := mem_flatten_intersperse hc
    · obtain rfl := List.mem_singleton.mp hdot
      rfl
    · obtain ⟨label, hlabel, hfold⟩ := exists_of_mem_mapM hfolded hl
      obtain ⟨source, -, hundo⟩ := exists_of_mem_mapM hplain hlabel
      exact not_forbidden_of_fold? hfold (not_forbidden_of_undo? hundo) c hc

end Idna

namespace Url

open Percent

/-! ## Hosts -/

/-- A host in canonical form: a domain name is not empty, and nothing in it could end it. -/
def Host.Canonical : Host → Prop
  | .domain name => name ≠ [] ∧ ∀ c ∈ name, Idna.forbidden c = false
  | .ipv4 _ | .ipv6 _ => True

/-- Each kind of host is canonical for a reason of its own: groups are words of 16 bits, an address
has four bytes, and a name was looked up. -/
theorem Host.canonical_of_read {s : List Char} {host : Host} (h : Host.read s = .ok host) :
    host.Canonical := by
  unfold Host.read at h
  split at h
  · unfold readBracketed at h
    split at h
    · obtain ⟨groups, -, rfl⟩ := map_eq_ok_iff.mp h
      trivial
    · cases h
  · split at h
    · cases h
    · cases h
    · rename_i name hne hname
      split at h
      · obtain ⟨address, -, rfl⟩ := map_eq_ok_iff.mp h
        trivial
      · cases h
        obtain ⟨text, -, hascii⟩ := Option.bind_eq_some_iff.mp hname
        exact ⟨fun hnil => hne (hnil ▸ rfl), Idna.not_forbidden_of_toAscii? hascii⟩

/-! ## Paths -/

/-- A segment in canonical form: it holds only what a segment may hold, and is no dots. -/
def isPlain (segment : List Char) : Prop :=
  (∀ c ∈ segment, inSegment c = false) ∧ Segment.of segment = .name segment

theorem isPlain_nil : isPlain [] := ⟨List.forall_mem_nil _, rfl⟩

/-- A segment that is kept is kept as it is. -/
theorem eq_of_segment_of {s t : List Char} (h : Segment.of s = .name t) : t = s := by
  unfold Segment.of at h
  split at h
  · cases h
  · split at h <;> cases h
    rfl

theorem plain_shorten {before : List (List Char)} (h : ∀ s ∈ before, isPlain s) :
    ∀ s ∈ shorten before, isPlain s := by
  unfold shorten
  split
  · exact h
  · split
    · exact h
    · exact fun s hs => h s (List.mem_cons_of_mem _ hs)

/-- Resolving dots leaves none. -/
theorem plain_resolve {before pieces : List (List Char)} (hbefore : ∀ s ∈ before, isPlain s)
    (hpieces : ∀ s ∈ pieces, ∀ c ∈ s, inSegment c = false) :
    (∀ s ∈ (resolve before pieces).1, isPlain s) ∧ isPlain (resolve before pieces).2 := by
  induction before, pieces using resolve.induct with
  | case1 before => exact ⟨by simpa [resolve] using hbefore, isPlain_nil⟩
  | case2 before s hup =>
      simp only [resolve, hup, List.mem_reverse]
      exact ⟨plain_shorten hbefore, isPlain_nil⟩
  | case3 before s hstay =>
      simp only [resolve, hstay, List.mem_reverse]
      exact ⟨hbefore, isPlain_nil⟩
  | case4 before s t hname =>
      obtain rfl := eq_of_segment_of hname
      simp only [resolve, hname, List.mem_reverse]
      exact ⟨hbefore, hpieces _ List.mem_cons_self, hname⟩
  | case5 before s t more hup ih =>
      simp only [resolve, hup]
      exact ih (plain_shorten hbefore) (List.forall_mem_cons.mp hpieces).2
  | case6 before s t more hstay ih =>
      simp only [resolve, hstay]
      exact ih hbefore (List.forall_mem_cons.mp hpieces).2
  | case7 before s t more name hname ih =>
      obtain rfl := eq_of_segment_of hname
      simp only [resolve, hname]
      refine ih ?_ (List.forall_mem_cons.mp hpieces).2
      exact List.forall_mem_cons.mpr ⟨⟨hpieces _ List.mem_cons_self, hname⟩, hbefore⟩

/-- The pieces of a text between slashes hold no slashes. -/
theorem not_slash_of_mem_splitSlashes {s : List Char} :
    ∀ piece ∈ splitSlashes s, ∀ c ∈ piece, c ≠ '/' ∧ c ≠ '\\' := by
  induction s with
  | nil => simp [splitSlashes]
  | cons c s ih =>
      unfold splitSlashes
      split
      · exact List.forall_mem_cons.mpr ⟨List.forall_mem_nil _, ih⟩
      · rename_i hslash
        split
        · simpa using hslash
        · rename_i l ls hsplit
          rw [hsplit, List.forall_mem_cons] at ih
          refine List.forall_mem_cons.mpr ⟨List.forall_mem_cons.mpr ⟨?_, ih.1⟩, ih.2⟩
          simpa using hslash

/-- **No path holds dots or slashes in its segments.**  A path that was resolved has nothing to
resolve, so that it comes back unchanged when it is read again. -/
theorem plain_readPath (s : List Char) :
    (∀ segment ∈ (readPath s).1, isPlain segment) ∧ isPlain (readPath s).2 := by
  unfold readPath
  dsimp only
  refine plain_resolve (List.forall_mem_nil _) ?_
  intro segment hsegment c hc
  obtain ⟨piece, hpiece, rfl⟩ := List.mem_map.mp hsegment
  rw [inSegment, Bool.or_eq_false_iff]
  refine ⟨not_mem_encode (by decide : Stable inPath) c hc, ?_⟩
  obtain ⟨hmem, -⟩ | rfl | ⟨n, hn, rfl⟩ := mem_encode hc
  · have hslash := not_slash_of_mem_splitSlashes piece hpiece c hmem
    simp [hslash]
  · rfl
  · exact (by decide : ∀ n < 16, ['/', '\\'].contains (hexDigit n) = false) n hn

/-! ## Addresses -/

/-- An address in canonical form.  Every character stands where it need not be encoded, and none of
them ends the part that it is in.  These are the conditions under which the text of an address is
read back part by part. -/
structure Canonical (u : Url) : Prop where
  username : ∀ c ∈ u.username, inUserinfo c = false
  password : ∀ c ∈ u.password, inUserinfo c = false
  host : u.host.Canonical
  port : ∀ n ∈ u.port, n ≤ 65535 ∧ some n ≠ defaultPort? u.scheme
  segments : ∀ segment ∈ u.path.1, isPlain segment
  last : isPlain u.path.2
  query : ∀ q ∈ u.query, ∀ c ∈ q, inSpecialQuery c = false
  fragment : ∀ f ∈ u.fragment, ∀ c ∈ f, inFragment c = false

theorem not_inUserinfo_of_readAuthority {special : Bool} {s : List Char} {a : Authority}
    (h : readAuthority special s = .ok a) :
    (∀ c ∈ a.username, inUserinfo c = false) ∧ ∀ c ∈ a.password, inUserinfo c = false := by
  unfold readAuthority at h
  split at h
  · cases h
    exact ⟨List.forall_mem_nil _, List.forall_mem_nil _⟩
  · split at h
    · cases h
    · cases h
      have hstable : Stable inUserinfo := by decide
      exact ⟨not_mem_encode hstable, not_mem_encode hstable⟩

/-- A port that is the default is left out, and one that does not fit into 16 bits is refused. -/
theorem port_of_readPort {default? port : Option Nat} {s rest : List Char}
    (h : readPort default? s = .ok (port, rest)) :
    ∀ n ∈ port, n ≤ 65535 ∧ some n ≠ default? := by
  unfold readPort at h
  dsimp only at h
  split at h
  · cases h
  · split at h
    · rename_i hbound _
      cases h
      intro n hn
      split at hn
      · cases hn
      · rename_i hwritten
        cases hn
        exact ⟨Nat.not_lt.mp hbound, fun heq => hwritten (.inr heq)⟩
    · cases h

/-- The port in front of what follows a host, if there is one, and what follows it. -/
def portAndTail (scheme : List Char) : List Char → Except Error (Option Nat × List Char)
  | ':' :: rest => readPort (defaultPort? scheme) rest
  | rest => .ok (none, rest)

/-- After the host there is a colon and a port, or there is no port. -/
theorem portAndTail_cases (scheme text : List Char) :
    (∃ rest, text = ':' :: rest ∧
      portAndTail scheme text = readPort (defaultPort? scheme) rest) ∨
    (∀ rest, text ≠ ':' :: rest) ∧ portAndTail scheme text = .ok (none, text) := by
  unfold portAndTail
  split
  · exact .inl ⟨_, rfl, rfl⟩
  · exact .inr ⟨‹_›, rfl⟩

/-- The texts of the path, the query and the fragment at the end of an address. -/
def splitTail (tail : List Char) : List Char × Option (List Char) × Option (List Char) :=
  let path := tail.takeWhile fun c => c ≠ '?' && c ≠ '#'
  let rest := tail.drop path.length
  (path,
    match rest with
    | '?' :: q => some (q.takeWhile (· ≠ '#'))
    | _ => none,
    match rest.dropWhile (· ≠ '#') with
    | _ :: f => some f
    | [] => none)

/-- An address after the slashes of its scheme is read part by part. -/
theorem readSpecial_eq (scheme s : List Char) :
    readSpecial scheme s =
      (readAuthority true s).bind fun a =>
        if a.host.isEmpty then .error .emptyHost
        else
          (Host.read a.host).bind fun host =>
            (portAndTail scheme a.rest).map fun (port, tail) =>
              { scheme
                username := a.username
                password := a.password
                host
                port
                path := readPath (splitTail tail).1
                query := (splitTail tail).2.1.map (encode inSpecialQuery)
                fragment := (splitTail tail).2.2.map (encode inFragment) } := by
  unfold readSpecial
  rcases readAuthority true s with e | a
  · rfl
  · change (if a.host.isEmpty then _ else _) = if a.host.isEmpty then _ else _
    split
    · rfl
    · rcases Host.read a.host with e | host
      · rfl
      · change _ = (portAndTail scheme a.rest).map _
        obtain ⟨rest, hrest, hport⟩ | ⟨hcolon, hport⟩ := portAndTail_cases scheme a.rest
        · rw [hport, hrest]
          change (readPort (defaultPort? scheme) rest).bind _ = _
          rcases readPort (defaultPort? scheme) rest with e | ⟨port, tail⟩ <;> rfl
        · rw [hport]
          split
          · rename_i rest hrest
            exact absurd hrest (hcolon rest)
          · rfl

/-- **What is read after the slashes of a scheme is canonical.**  Each part is canonical for a
reason of its own: user, path, query and fragment were encoded, the host was looked up, and the port
was compared with the default. -/
theorem canonical_of_readSpecial {scheme s : List Char} {u : Url}
    (h : readSpecial scheme s = .ok u) : u.scheme = scheme ∧ Canonical u := by
  rw [readSpecial_eq] at h
  obtain ⟨a, ha, h⟩ := bind_eq_ok_iff.mp h
  obtain ⟨husername, hpassword⟩ := not_inUserinfo_of_readAuthority ha
  split at h
  · cases h
  · obtain ⟨host, hhost, h⟩ := bind_eq_ok_iff.mp h
    obtain ⟨⟨port, tail⟩, hport, rfl⟩ := map_eq_ok_iff.mp h
    obtain ⟨hsegments, hlast⟩ := plain_readPath (splitTail tail).1
    refine ⟨rfl, husername, hpassword, Host.canonical_of_read hhost, ?_, hsegments, hlast, ?_, ?_⟩
    · unfold portAndTail at hport
      split at hport
      · exact port_of_readPort hport
      · cases hport
        exact nofun
    · intro q hq
      obtain ⟨text, -, rfl⟩ := Option.map_eq_some_iff.mp hq
      exact not_mem_encode (by decide)
    · intro f hf
      obtain ⟨text, -, rfl⟩ := Option.map_eq_some_iff.mp hf
      exact not_mem_encode (by decide)

/-- What a text turns out to be: an address of a scheme whose addresses have the common form, or a
URL of another scheme. -/
theorem read_cases {text : List Char} {r : Reading} (h : Url.read text = .ok r) :
    (∃ scheme s u, (defaultPort? scheme).isSome ∧ readSpecial scheme s = .ok u ∧ r = .address u) ∨
      ∃ scheme, (defaultPort? scheme).isSome = false ∧ r = .other scheme := by
  unfold Url.read at h
  split at h
  · cases h
  · rename_i scheme rest _
    split at h
    · rename_i hspecial
      obtain ⟨u, hu, rfl⟩ := map_eq_ok_iff.mp h
      exact .inl ⟨scheme, _, u, hspecial, hu, rfl⟩
    · rename_i hother
      have hscheme : (defaultPort? scheme).isSome = false := by simpa using hother
      split at h
      · obtain ⟨-, -, rfl⟩ := map_eq_ok_iff.mp h
        exact .inr ⟨scheme, hscheme, rfl⟩
      · obtain ⟨-, -, rfl⟩ := map_eq_ok_iff.mp h
        exact .inr ⟨scheme, hscheme, rfl⟩

/-- **What is read is canonical.**  Whatever is proved of canonical addresses is so proved of all
that are ever read. -/
theorem canonical_of_read {text : List Char} {u : Url} (h : Url.read text = .ok (.address u)) :
    Canonical u := by
  obtain ⟨scheme, s, u', -, hu, heq⟩ | ⟨scheme, -, heq⟩ := read_cases h
  · cases heq
    exact (canonical_of_readSpecial hu).2
  · cases heq

end Url

end ShaderSketch
