import Mathlib.Data.List.TakeWhile
import ShaderSketch.Proofs.Canonical

/-!
# Reading what was written

An address in canonical form is written so that it is read part by part again.  Nothing that follows
the authority can change how the authority is read, and the path, the query and the fragment are
read as they stand, whatever else comes of them.

## Main definitions

* `Url.written` — the text of an address with some text for its path

## Main results

* `Url.readAuthority_written` : user, host text and port come back as they were
* `Url.read_written` : an address is read from its text as far as its host is
-/

namespace ShaderSketch.Url

open Percent

/-! ## Characters -/

/-- A character that is not in a set is none that is. -/
theorem ne_of_not_in {set : Char → Bool} {c d : Char} (hc : set c = false) (hd : set d = true) :
    c ≠ d := by
  rintro rfl
  exact Bool.false_ne_true (hc.symm.trans hd)

/-- Whether a character may stand in an authority: it is visible, and does not end it. -/
def Within (c : Char) : Prop := 0x20 < c.toNat ∧ endsAuthority true c = false

/-- A character ends no authority if it is not in a set that has all those which do. -/
theorem endsAuthority_of_not_in {set : Char → Bool} {c : Char} (h : set c = false)
    (hset : ['/', '?', '#', '\\'].all set = true) : endsAuthority true c = false := by
  have hne (d : Char) (hd : d ∈ ['/', '?', '#', '\\']) : c ≠ d :=
    ne_of_not_in h (List.all_eq_true.mp hset d hd)
  simp [endsAuthority, hne '/' (by decide), hne '?' (by decide), hne '#' (by decide),
    hne '\\' (by decide)]

theorem within_of_not_inUserinfo {c : Char} (h : inUserinfo c = false) : Within c :=
  ⟨lt_toNat_of_not_inFragment (not_inFragment_of_not_inPath (not_inPath_of_not_inUserinfo h)),
    endsAuthority_of_not_in h rfl⟩

theorem within_of_not_forbidden {c : Char} (h : Idna.forbidden c = false) : Within c := by
  refine ⟨?_, endsAuthority_of_not_in h rfl⟩
  simp only [Idna.forbidden, Bool.or_eq_false_iff, decide_eq_false_iff_not] at h
  omega

/-- Numbers are written in digits of their base. -/
theorem exists_digitChar_of_mem_toDigits {b n : Nat} {c : Char} (hb : 1 < b)
    (h : c ∈ Nat.toDigits b n) : ∃ d < b, c = d.digitChar := by
  induction n using Nat.strongRecOn with
  | ind n ih =>
      by_cases hn : n < b
      · rw [Nat.toDigits_of_lt_base hn, List.mem_singleton] at h
        exact ⟨n, hn, h⟩
      · rw [Nat.toDigits_of_base_le hb (Nat.not_lt.mp hn), List.mem_append, List.mem_singleton] at h
        obtain hfront | hlast := h
        · exact ih _ (Nat.div_lt_self (by omega) hb) hfront
        · exact ⟨_, Nat.mod_lt _ (by omega), hlast⟩

/-! ## Hosts -/

namespace Host

/-- What stands between the brackets of a host, or in a host without them. -/
def Inner (c : Char) : Prop := Idna.forbidden c = false ∨ c = ':'

/-- The text of a host is a name, or an address in brackets. -/
theorem render_cases {host : Host} (h : host.Canonical) :
    (host.render ≠ [] ∧ ∀ c ∈ host.render, Idna.forbidden c = false) ∨
      ∃ inner, host.render = '[' :: (inner ++ [']']) ∧ ∀ c ∈ inner, Inner c := by
  have hdigit : ∀ d < 16, Idna.forbidden d.digitChar = false := by decide
  cases host with
  | domain name => exact .inl h
  | ipv4 address =>
      refine .inl ⟨by simp [render, Ipv4.render], fun c hc => ?_⟩
      have hpart (n : Nat) (hn : c ∈ Nat.toDigits 10 n) : Idna.forbidden c = false := by
        obtain ⟨d, hd, rfl⟩ := exists_digitChar_of_mem_toDigits (by decide) hn
        exact hdigit d (by omega)
      simp only [render, Ipv4.render, List.mem_append, List.mem_cons] at hc
      obtain ((h | rfl | h) | rfl | h) | rfl | h := hc
      all_goals first | exact hpart _ h | rfl
  | ipv6 groups =>
      refine .inr ⟨_, rfl, fun c hc => ?_⟩
      have hgroups (gs : List Nat) (hgs : c ∈ Ipv6.renderGroups gs) : Inner c := by
        obtain hcolon | ⟨g, hg, hmem⟩ := mem_flatten_intersperse hgs
        · exact .inr (List.mem_singleton.mp hcolon)
        · obtain ⟨n, -, rfl⟩ := List.mem_map.mp hg
          obtain ⟨d, hd, rfl⟩ := exists_digitChar_of_mem_toDigits (by decide) hmem
          exact .inl (hdigit d hd)
      unfold Ipv6.render at hc
      dsimp only at hc
      split at hc
      · exact hgroups _ hc
      · simp only [List.mem_append, List.mem_cons] at hc
        obtain h | rfl | rfl | h := hc
        · exact hgroups _ h
        · exact .inr rfl
        · exact .inr rfl
        · exact hgroups _ h

theorem within_of_inner {c : Char} (h : Inner c) : Within c := by
  obtain h | rfl := h
  · exact within_of_not_forbidden h
  · exact ⟨by decide, rfl⟩

/-- What stands in the text of a host. -/
theorem mem_render {host : Host} (h : host.Canonical) {c : Char} (hc : c ∈ host.render) :
    Inner c ∨ c = '[' ∨ c = ']' := by
  obtain ⟨-, hname⟩ | ⟨inner, hrender, hinner⟩ := render_cases h
  · exact .inl (.inl (hname c hc))
  · rw [hrender, List.mem_cons, List.mem_append, List.mem_singleton] at hc
    obtain rfl | hc | rfl := hc
    · exact .inr (.inl rfl)
    · exact .inl (hinner c hc)
    · exact .inr (.inr rfl)

theorem within_render {host : Host} (h : host.Canonical) : ∀ c ∈ host.render, Within c := by
  intro c hc
  obtain hinner | rfl | rfl := mem_render h hc
  · exact within_of_inner hinner
  · exact ⟨by decide, rfl⟩
  · exact ⟨by decide, rfl⟩

theorem ne_at_of_mem_render {host : Host} (h : host.Canonical) {c : Char} (hc : c ∈ host.render) :
    c ≠ '@' := by
  obtain (hname | rfl) | rfl | rfl := mem_render h hc
  · exact ne_of_not_in hname rfl
  all_goals decide

theorem render_ne_nil {host : Host} (h : host.Canonical) : host.render ≠ [] := by
  obtain ⟨hne, -⟩ | ⟨inner, hrender, -⟩ := render_cases h
  · exact hne
  · rw [hrender]
    exact List.cons_ne_nil _ _

end Host

/-- What can follow a host that was written: a port, or a path. -/
def AfterHost (s : List Char) : Prop := s.head? = some ':' ∨ s.head? = some '/'

theorem splitHost_afterHost {rest : List Char} (h : AfterHost rest) :
    splitHost true false rest = ([], rest) := by
  cases rest with
  | nil => exact absurd h (by simp [AfterHost])
  | cons c rest =>
      simp only [AfterHost, List.head?_cons, Option.some.injEq] at h
      obtain rfl | rfl := h <;> rfl

/-- A name is the host up to where it ends. -/
theorem splitHost_name {name rest : List Char} (hname : ∀ c ∈ name, Idna.forbidden c = false)
    (hrest : AfterHost rest) : splitHost true false (name ++ rest) = (name, rest) := by
  induction name with
  | nil => exact splitHost_afterHost hrest
  | cons c name ih =>
      rw [List.forall_mem_cons] at hname
      have hcolon : c ≠ ':' := ne_of_not_in hname.1 rfl
      have hopen : c ≠ '[' := ne_of_not_in hname.1 rfl
      have hclose : c ≠ ']' := ne_of_not_in hname.1 rfl
      have hends := (within_of_not_forbidden hname.1).2
      simp [splitHost, hcolon, hopen, hclose, hends, ih hname.2]

/-- Between brackets a colon belongs to the host. -/
theorem splitHost_inner {inner rest : List Char} (hinner : ∀ c ∈ inner, Host.Inner c)
    (hrest : AfterHost rest) :
    splitHost true true (inner ++ ']' :: rest) = (inner ++ [']'], rest) := by
  induction inner with
  | nil => simp [splitHost, endsAuthority, splitHost_afterHost hrest]
  | cons c inner ih =>
      rw [List.forall_mem_cons] at hinner
      have hends := (Host.within_of_inner hinner.1).2
      have hclose : c ≠ ']' := by
        obtain hc | rfl := hinner.1
        · exact ne_of_not_in hc rfl
        · decide
      simp [splitHost, hclose, hends, ih hinner.2]

/-- **The text of a host is split off as it was written.**  The host is canonical, so that nothing
in it looks like its end; what comes behind it has to. -/
theorem splitHost_render {host : Host} (h : host.Canonical) {rest : List Char}
    (hrest : AfterHost rest) :
    splitHost true false (host.render ++ rest) = (host.render, rest) := by
  obtain ⟨-, hname⟩ | ⟨inner, hrender, hinner⟩ := Host.render_cases h
  · exact splitHost_name hname hrest
  · rw [hrender, List.cons_append, List.append_assoc, List.singleton_append]
    simp [splitHost, endsAuthority, splitHost_inner hinner hrest]

/-! ## Ports -/

/-- A port as it is written behind a host. -/
def portText : Option Nat → List Char
  | some n => ':' :: Nat.toDigits 10 n
  | none => []

theorem within_portText (port : Option Nat) : ∀ c ∈ portText port, Within c ∧ c ≠ '@' := by
  have hdigit : ∀ d < 10, Idna.forbidden d.digitChar = false := by decide
  cases port with
  | none => exact List.forall_mem_nil _
  | some n =>
      refine List.forall_mem_cons.mpr ⟨⟨⟨by decide, rfl⟩, by decide⟩, fun c hc => ?_⟩
      obtain ⟨d, hd, rfl⟩ := exists_digitChar_of_mem_toDigits (by decide) hc
      exact ⟨within_of_not_forbidden (hdigit d hd), ne_of_not_in (hdigit d hd) rfl⟩

/-- A number is read from its digits, in any base that has digits. -/
theorem inBase?_toDigits {b : Nat} (hb : 1 < b) (hb' : b ≤ 16) (n : Nat) :
    Ipv4.inBase? b 0 (Nat.toDigits b n) = some n := by
  have hvalue (d : Nat) (hd : d < b) : Ipv4.digit? d.digitChar = some d :=
    (by decide : ∀ d < 16, Ipv4.digit? d.digitChar = some d) d (by omega)
  have happend (s : List Char) (d : Nat) (hd : d < b) : ∀ value,
      Ipv4.inBase? b value (s ++ [d.digitChar]) =
        (Ipv4.inBase? b value s).map fun m => m * b + d := by
    induction s with
    | nil => simp [Ipv4.inBase?, hvalue d hd, hd]
    | cons c s ih =>
        intro value
        simp only [List.cons_append, Ipv4.inBase?, ih]
        split
        · split <;> rfl
        · rfl
  induction n using Nat.strongRecOn with
  | ind n ih =>
      by_cases hn : n < b
      · rw [Nat.toDigits_of_lt_base hn]
        simp [Ipv4.inBase?, hvalue n hn, hn]
      · rw [Nat.toDigits_of_base_le hb (Nat.not_lt.mp hn), happend _ _ (Nat.mod_lt _ (by omega)),
          ih _ (Nat.div_lt_self (by omega) hb), Option.map_some, Nat.div_add_mod']

/-- **A port is read as it was written**, in front of a path.  The default port is not written, so
that a port which is one cannot be told from none; canonical addresses have no such port. -/
theorem portAndTail_written {scheme tail : List Char} {port : Option Nat}
    (h : ∀ n ∈ port, n ≤ 65535 ∧ some n ≠ defaultPort? scheme) (htail : tail.head? = some '/') :
    portAndTail scheme (portText port ++ tail) = .ok (port, tail) := by
  cases tail with
  | nil => cases htail
  | cons c tail =>
      obtain rfl := Option.some.inj htail
      cases port with
      | none => rfl
      | some n =>
          obtain ⟨hbound, hdefault⟩ := h n rfl
          have hdigit : ∀ d < 10, ('0' ≤ d.digitChar ∧ d.digitChar ≤ '9') := by decide
          have hdigits : ∀ c ∈ Nat.toDigits 10 n, (decide ('0' ≤ c) && decide (c ≤ '9')) := by
            intro c hc
            obtain ⟨d, hd, rfl⟩ := exists_digitChar_of_mem_toDigits (by decide) hc
            simpa using hdigit d hd
          have htake : (Nat.toDigits 10 n ++ '/' :: tail).takeWhile
              (fun c => decide ('0' ≤ c) && decide (c ≤ '9')) = Nat.toDigits 10 n := by
            rw [List.takeWhile_append_of_pos hdigits]
            simp
          change readPort (defaultPort? scheme) (Nat.toDigits 10 n ++ '/' :: tail) = _
          unfold readPort
          simp [htake, inBase?_toDigits, Nat.not_lt.mpr hbound, hdefault, Nat.toDigits_ne_nil,
            endsAuthority]

/-! ## Users -/

/-- User name and password as they are written in front of the at sign. -/
def userText (u : Url) : List Char :=
  u.username ++ if u.password.isEmpty then [] else ':' :: u.password

theorem renderUserinfo_eq (u : Url) :
    u.renderUserinfo = if u.userText.isEmpty then [] else u.userText ++ ['@'] := by
  unfold renderUserinfo userText
  cases u.username <;> cases u.password <;> simp

/-- Nobody is written who has neither name nor password. -/
theorem userText_isEmpty (u : Url) : u.userText.isEmpty ↔ u.username = [] ∧ u.password = [] := by
  unfold userText
  cases u.username <;> cases u.password <;> simp

/-- What stands in front of the at sign. -/
theorem within_userText {u : Url} (h : u.Canonical) : ∀ c ∈ u.userText, Within c := by
  refine List.forall_mem_append.mpr ⟨fun c hc => within_of_not_inUserinfo (h.username c hc), ?_⟩
  split
  · exact List.forall_mem_nil _
  · refine List.forall_mem_cons.mpr ⟨⟨by decide, rfl⟩, fun c hc => ?_⟩
    exact within_of_not_inUserinfo (h.password c hc)

/-- **User name and password are read as they were written.**  What could be taken for the colon in
between, or for the end, is encoded in both. -/
theorem readUserinfo_userText {u : Url} (h : u.Canonical) :
    readUserinfo u.userText = (u.username, u.password) := by
  have hname : ∀ c ∈ u.username, decide (c ≠ ':') := fun c hc =>
    decide_eq_true (ne_of_not_in (h.username c hc) rfl)
  unfold readUserinfo userText
  split
  · rename_i hempty
    rw [List.isEmpty_iff] at hempty
    have hrest : u.username.drop (u.username.length + 1) = [] :=
      List.drop_eq_nil_of_le (Nat.le_succ _)
    rw [List.append_nil, List.takeWhile_eq_self_iff.mpr hname]
    dsimp only
    rw [hrest, hempty, encode_eq_self h.username]
    rfl
  · rw [takeWhile_append_cons hname (by simp)]
    simp [encode_eq_self h.username, encode_eq_self h.password]

/-- Without an at sign there is nobody in front of the host. -/
theorem splitUserinfo_none {place tail : List Char} (hplace : ∀ c ∈ place, Within c ∧ c ≠ '@') :
    splitUserinfo true (place ++ '/' :: tail) = none := by
  have hfront : (place ++ '/' :: tail).takeWhile (!endsAuthority true ·) = place :=
    takeWhile_append_cons (fun c hc => by simp [(hplace c hc).1.2]) rfl
  have hafter : place.reverse.takeWhile (· ≠ '@') = place.reverse :=
    List.takeWhile_eq_self_iff.mpr fun c hc =>
      decide_eq_true (hplace c (List.mem_reverse.mp hc)).2
  unfold splitUserinfo
  simp only [hfront, hafter, List.reverse_reverse, if_true]

/-- The last at sign ends the user. -/
theorem splitUserinfo_some {user place tail : List Char} (huser : ∀ c ∈ user, Within c)
    (hplace : ∀ c ∈ place, Within c ∧ c ≠ '@') :
    splitUserinfo true (user ++ '@' :: (place ++ '/' :: tail)) =
      some (user, place ++ '/' :: tail) := by
  have hwithin : ∀ c ∈ user ++ '@' :: place, !endsAuthority true c := by
    refine List.forall_mem_append.mpr ⟨fun c hc => ?_, List.forall_mem_cons.mpr ⟨rfl, ?_⟩⟩
    · simp [(huser c hc).2]
    · exact fun c hc => by simp [(hplace c hc).1.2]
  have hfront : (user ++ '@' :: (place ++ '/' :: tail)).takeWhile (!endsAuthority true ·) =
      user ++ '@' :: place := by
    rw [← takeWhile_append_cons hwithin (show (!endsAuthority true '/') = false from rfl)
      (t := tail), List.append_assoc, List.cons_append]
  have hafter : (user ++ '@' :: place).reverse.takeWhile (· ≠ '@') = place.reverse := by
    rw [List.reverse_append, List.reverse_cons, List.append_assoc, List.singleton_append]
    exact takeWhile_append_cons (fun c hc =>
      decide_eq_true (hplace c (List.mem_reverse.mp hc)).2) (by simp)
  unfold splitUserinfo
  simp only [hfront, hafter, List.reverse_reverse, List.length_append, List.length_cons]
  rw [if_neg (by omega)]
  have hbefore : user.length + (place.length + 1) - place.length = user.length + 1 := by omega
  simp [hbefore, List.drop_append]

/-- **An authority is read as it was written**, in front of a path. -/
theorem readAuthority_written {u : Url} (h : u.Canonical) {tail : List Char}
    (htail : tail.head? = some '/') :
    readAuthority true (u.renderUserinfo ++ (u.host.render ++ (portText u.port ++ tail))) =
      .ok ⟨u.username, u.password, u.host.render, portText u.port ++ tail⟩ := by
  cases tail with
  | nil => cases htail
  | cons c tail =>
      obtain rfl := Option.some.inj htail
      have hafter : AfterHost (portText u.port ++ '/' :: tail) := by
        cases u.port
        · exact .inr rfl
        · exact .inl rfl
      have hplace : ∀ c ∈ u.host.render ++ portText u.port, Within c ∧ c ≠ '@' := by
        refine List.forall_mem_append.mpr ⟨fun c hc => ?_, within_portText u.port⟩
        exact ⟨Host.within_render h.host c hc, Host.ne_at_of_mem_render h.host hc⟩
      have hhost := splitHost_render h.host hafter
      rw [renderUserinfo_eq]
      unfold readAuthority
      by_cases hempty : u.userText.isEmpty
      · obtain ⟨husername, hpassword⟩ := (userText_isEmpty u).mp hempty
        rw [if_pos hempty, List.nil_append, ← List.append_assoc, splitUserinfo_none hplace,
          List.append_assoc]
        simp only [hhost, husername, hpassword]
      · rw [if_neg hempty, List.append_assoc, List.singleton_append,
          ← List.append_assoc (Host.render _), splitUserinfo_some (within_userText h) hplace,
          List.append_assoc]
        simp only [readUserinfo_userText h, hhost]
        rw [if_neg (fun hnobody => hempty hnobody.1)]

/-! ## Paths, queries and fragments -/

/-- A query as it is written behind a path. -/
def queryText : Option (List Char) → List Char
  | some q => '?' :: q
  | none => []

/-- A fragment as it is written at the end. -/
def fragmentText : Option (List Char) → List Char
  | some f => '#' :: f
  | none => []

/-- A text that is read as a path: it starts with a slash, and nothing in it ends it.  A path with
the route at its end is such a text as well as the path of an address, which is why the reading is
not told of `renderPath` alone. -/
structure PathText (path : List Char) : Prop where
  head : path.head? = some '/'
  visible : ∀ c ∈ path, 0x20 < c.toNat
  inside : ∀ c ∈ path, c ≠ '?' ∧ c ≠ '#'

/-- **The end of an address is read as it was written.**  The first hash ends the query wherever it
stands, and the fragment takes all that is behind it. -/
theorem splitTail_written {path : List Char} {query fragment : Option (List Char)}
    (hpath : ∀ c ∈ path, c ≠ '?' ∧ c ≠ '#')
    (hquery : ∀ q ∈ query, ∀ c ∈ q, c ≠ '#') :
    splitTail (path ++ (queryText query ++ fragmentText fragment)) = (path, query, fragment) := by
  have hinside : ∀ c ∈ path, (decide (c ≠ '?') && decide (c ≠ '#')) = true := fun c hc => by
    simp [hpath c hc]
  have htake : (path ++ (queryText query ++ fragmentText fragment)).takeWhile
      (fun c => decide (c ≠ '?') && decide (c ≠ '#')) = path := by
    rw [List.takeWhile_append_of_pos hinside]
    cases query <;> cases fragment <;> simp [queryText, fragmentText]
  have hmark : ∀ q ∈ query, ∀ c ∈ q, decide (c ≠ '#') = true := fun q hq c hc =>
    decide_eq_true (hquery q hq c hc)
  unfold splitTail
  simp only [htake, List.drop_left]
  cases query with
  | none => cases fragment <;> rfl
  | some q =>
      have hq := hmark q rfl
      have htakeq : (q ++ fragmentText fragment).takeWhile (fun c => decide (c ≠ '#')) = q := by
        rw [List.takeWhile_append_of_pos hq]
        cases fragment <;> simp [fragmentText]
      have hdropq : ('?' :: (q ++ fragmentText fragment)).dropWhile (fun c => decide (c ≠ '#')) =
          fragmentText fragment := by
        rw [List.dropWhile_cons_of_pos (by decide), List.dropWhile_append_of_pos hq]
        cases fragment <;> simp [fragmentText]
      simp only [queryText, List.cons_append, htakeq, hdropq]
      cases fragment <;> rfl

/-- A segment that is no dots stays, behind those that stayed before. -/
theorem resolve_plain {before front : List (List Char)} {last : List Char}
    (hfront : ∀ s ∈ front, isPlain s) (hlast : isPlain last) :
    resolve before (front ++ [last]) = (before.reverse ++ front, last) := by
  induction front generalizing before with
  | nil => simp [resolve, hlast.2]
  | cons s front ih =>
      rw [List.forall_mem_cons] at hfront
      have hmore : ∃ t more, front ++ [last] = t :: more := by
        cases front <;> exact ⟨_, _, rfl⟩
      obtain ⟨t, more, hpieces⟩ := hmore
      rw [List.cons_append, hpieces]
      simp only [resolve, hfront.1.2]
      rw [← hpieces, ih hfront.2]
      simp

/-- A text without slashes is one piece, up to the next slash. -/
theorem splitSlashes_append {s : List Char} (hs : ∀ c ∈ s, inSegment c = false) :
    splitSlashes s = [s] ∧
      ∀ rest, splitSlashes (s ++ '/' :: rest) = s :: splitSlashes rest := by
  induction s with
  | nil => exact ⟨rfl, fun rest => by simp [splitSlashes]⟩
  | cons c s ih =>
      rw [List.forall_mem_cons] at hs
      have hslash : ¬(c = '/' ∨ c = '\\') := by
        rintro (rfl | rfl)
        · exact absurd hs.1 (by decide)
        · exact absurd hs.1 (by decide)
      obtain ⟨halone, hfollowed⟩ := ih hs.2
      exact ⟨by rw [splitSlashes, if_neg hslash, halone],
        fun rest => by rw [List.cons_append, splitSlashes, if_neg hslash, hfollowed rest]⟩

/-- Segments between slashes are the pieces of their text. -/
theorem splitSlashes_segments {front : List (List Char)} {last : List Char}
    (hfront : ∀ s ∈ front, isPlain s) (hlast : isPlain last) :
    splitSlashes (front.flatMap (· ++ ['/']) ++ last) = front ++ [last] := by
  induction front with
  | nil => exact (splitSlashes_append hlast.1).1
  | cons s front ih =>
      rw [List.forall_mem_cons] at hfront
      simp only [List.flatMap_cons, List.append_assoc, List.cons_append, List.nil_append]
      rw [(splitSlashes_append hfront.1.1).2, ih hfront.2]

/-- **A path is read as it was written.**  Plain segments are not resolved and not encoded once
more, which are the two things that reading does to a path. -/
theorem readPath_renderPath {front : List (List Char)} {last : List Char}
    (hfront : ∀ s ∈ front, isPlain s) (hlast : isPlain last) :
    readPath (renderPath (front, last)) = (front, last) := by
  have hencode : (front ++ [last]).map (encode inPath) = front ++ [last] := by
    refine (List.map_congr_left fun s hs => ?_).trans (List.map_id _)
    refine encode_eq_self fun c hc => ?_
    have hplain : isPlain s := by
      obtain hs | hs := List.mem_append.mp hs
      · exact hfront s hs
      · exact List.mem_singleton.mp hs ▸ hlast
    exact (Bool.or_eq_false_iff.mp (hplain.1 c hc)).1
  unfold readPath renderPath
  simp only [if_true, true_or]
  rw [splitSlashes_segments hfront hlast, hencode, resolve_plain hfront hlast]
  rfl

/-- A path that was read is written as a text that is read as a path. -/
theorem pathText_renderPath {front : List (List Char)} {last : List Char}
    (hfront : ∀ s ∈ front, isPlain s) (hlast : isPlain last) :
    PathText (renderPath (front, last)) := by
  have hchars : ∀ c ∈ renderPath (front, last), c = '/' ∨ inSegment c = false := by
    refine List.forall_mem_cons.mpr ⟨.inl rfl, List.forall_mem_append.mpr ⟨fun c hc => ?_, ?_⟩⟩
    · obtain ⟨s, hs, hc⟩ := List.mem_flatMap.mp hc
      obtain hc | hc := List.mem_append.mp hc
      · exact .inr ((hfront s hs).1 c hc)
      · exact .inl (List.mem_singleton.mp hc)
    · exact fun c hc => .inr (hlast.1 c hc)
  refine ⟨rfl, fun c hc => ?_, fun c hc => ?_⟩
  · obtain rfl | hc := hchars c hc
    · decide
    · exact lt_toNat_of_not_inFragment
        (not_inFragment_of_not_inPath (Bool.or_eq_false_iff.mp hc).1)
  · obtain rfl | hc := hchars c hc
    · decide
    · exact ⟨ne_of_not_in hc rfl, ne_of_not_in hc rfl⟩

/-! ## Whole addresses -/

/-- The text of an address with some text for its path. -/
def written (u : Url) (path : List Char) : List Char :=
  u.scheme ++ ':' :: '/' :: '/' :: (u.renderUserinfo ++ (u.host.render ++ (portText u.port ++
    (path ++ (queryText u.query ++ fragmentText u.fragment)))))

theorem render_eq_written (u : Url) : u.render = u.written (renderPath u.path) := by
  unfold render written
  cases u.port <;> cases u.query <;> cases u.fragment <;>
    simp [portText, queryText, fragmentText]

/-- A text without controls and blanks is clean. -/
theorem clean_eq_self {s : List Char} (h : ∀ c ∈ s, 0x20 < c.toNat) : clean s = s := by
  have hdrop (t : List Char) (ht : ∀ c ∈ t, 0x20 < c.toNat) : t.dropWhile isMargin = t := by
    cases t with
    | nil => rfl
    | cons c t =>
        refine List.dropWhile_cons_of_neg ?_
        have := ht c List.mem_cons_self
        simp [isMargin]
        omega
  unfold clean
  rw [hdrop s h, hdrop s.reverse (fun c hc => h c (List.mem_reverse.mp hc)), List.reverse_reverse]
  refine List.filter_eq_self.mpr fun c hc => ?_
  have hvisible := h c hc
  have hne (d : Char) (hd : d.toNat ≤ 0x20) : c ≠ d := by
    rintro rfl
    omega
  simp [isDropped, hne '\t' (by decide), hne '\n' (by decide), hne '\r' (by decide)]

theorem map_encode_eq_self {set : Char → Bool} {t : Option (List Char)}
    (h : ∀ s ∈ t, ∀ c ∈ s, set c = false) : t.map (encode set) = t := by
  cases t with
  | none => rfl
  | some s => exact congrArg some (encode_eq_self (h s rfl))

/-- The schemes that the texts here are written with. -/
def Spoken (scheme : List Char) : Prop := scheme = "http".toList ∨ scheme = "https".toList

theorem splitScheme?_spoken {scheme rest : List Char} (h : Spoken scheme) :
    splitScheme? (scheme ++ ':' :: rest) = some (scheme, rest) := by
  obtain rfl | rfl := h <;> rfl

theorem isSome_defaultPort? {scheme : List Char} (h : Spoken scheme) :
    (defaultPort? scheme).isSome := by
  obtain rfl | rfl := h <;> rfl

/-- All of an address can be seen. -/
theorem visible_written {u : Url} (hscheme : Spoken u.scheme) (h : u.Canonical)
    {path : List Char} (hpath : PathText path) : ∀ c ∈ u.written path, 0x20 < c.toNat := by
  have hspoken : ∀ c ∈ u.scheme, 0x20 < c.toNat := by
    obtain hs | hs := hscheme <;> rw [hs] <;> exact List.all_iff_forall_prop.mp (by decide)
  have huser : ∀ c ∈ u.renderUserinfo, 0x20 < c.toNat := by
    rw [renderUserinfo_eq]
    split
    · exact List.forall_mem_nil _
    · exact List.forall_mem_append.mpr ⟨fun c hc => (within_userText h c hc).1,
        List.forall_mem_singleton.mpr (by decide)⟩
  have hquery : ∀ c ∈ queryText u.query, 0x20 < c.toNat := by
    have hin := h.query
    cases hq : u.query with
    | none => exact List.forall_mem_nil _
    | some q =>
        refine List.forall_mem_cons.mpr ⟨by decide, fun c hc => ?_⟩
        exact lt_toNat_of_not_inSpecialQuery (hin q hq c hc)
  have hfragment : ∀ c ∈ fragmentText u.fragment, 0x20 < c.toNat := by
    have hin := h.fragment
    cases hf : u.fragment with
    | none => exact List.forall_mem_nil _
    | some f =>
        refine List.forall_mem_cons.mpr ⟨by decide, fun c hc => ?_⟩
        exact lt_toNat_of_not_inFragment (hin f hf c hc)
  simp only [written, List.forall_mem_append, List.forall_mem_cons]
  exact ⟨hspoken, by decide, by decide, by decide, huser,
    fun c hc => (Host.within_render h.host c hc).1, fun c hc => (within_portText _ c hc).1.1,
    hpath.visible, hquery, hfragment⟩

/-- What follows the slashes of a scheme starts with no slash. -/
theorem dropWhile_slashes_authority {u : Url} (h : u.Canonical) (rest : List Char) :
    ('/' :: '/' :: (u.renderUserinfo ++ (u.host.render ++ rest))).dropWhile
      (fun c => c = '/' || c = '\\') = u.renderUserinfo ++ (u.host.render ++ rest) := by
  have hwithin : ∀ c ∈ u.renderUserinfo ++ u.host.render, Within c := by
    refine List.forall_mem_append.mpr ⟨?_, Host.within_render h.host⟩
    rw [renderUserinfo_eq]
    split
    · exact List.forall_mem_nil _
    · exact List.forall_mem_append.mpr
        ⟨within_userText h, List.forall_mem_singleton.mpr ⟨by decide, rfl⟩⟩
  rw [List.dropWhile_cons_of_pos (by decide), List.dropWhile_cons_of_pos (by decide),
    ← List.append_assoc]
  -- the host at least is there, and its text starts with no slash
  cases hplace : u.renderUserinfo ++ u.host.render with
  | nil => exact absurd (List.append_eq_nil_iff.mp hplace).2 (Host.render_ne_nil h.host)
  | cons c place =>
      have hc := (hwithin c (by simp [hplace])).2
      refine List.dropWhile_cons_of_neg ?_
      simp only [endsAuthority, Bool.or_eq_false_iff, Bool.true_and] at hc
      simp [hc]

/-- **An address is read from its text as far as its host is**, with the path that its text names.
The path need not be that of the address, so that the text with the route at its end is read by this
as well. -/
theorem read_written {u : Url} (hscheme : Spoken u.scheme) (h : u.Canonical) {path : List Char}
    (hpath : PathText path) :
    Url.read (u.written path) =
      (Host.read u.host.render).map fun host =>
        .address { u with host, path := readPath path } := by
  have hhead : (path ++ (queryText u.query ++ fragmentText u.fragment)).head? = some '/' := by
    rw [List.head?_append, hpath.head]
    rfl
  have hspecial : readSpecial u.scheme (u.renderUserinfo ++ (u.host.render ++ (portText u.port ++
      (path ++ (queryText u.query ++ fragmentText u.fragment))))) =
      (Host.read u.host.render).map fun host => { u with host, path := readPath path } := by
    have hhost : u.host.render.isEmpty = false := by
      simpa using Host.render_ne_nil h.host
    rw [readSpecial_eq, readAuthority_written h hhead]
    simp only [Except.bind, hhost, Bool.false_eq_true, if_false, portAndTail_written h.port hhead]
    cases Host.read u.host.render with
    | error e => rfl
    | ok host =>
        have hquery : ∀ q ∈ u.query, ∀ c ∈ q, c ≠ '#' := fun q hq c hc =>
          ne_of_not_in (h.query q hq c hc) rfl
        simp [Except.map, splitTail_written hpath.inside hquery, map_encode_eq_self h.query,
          map_encode_eq_self h.fragment]
  unfold Url.read
  rw [clean_eq_self (visible_written hscheme h hpath), written, splitScheme?_spoken hscheme]
  dsimp only
  rw [if_pos (isSome_defaultPort? hscheme), dropWhile_slashes_authority h, hspecial]
  cases Host.read u.host.render <;> rfl

end ShaderSketch.Url
