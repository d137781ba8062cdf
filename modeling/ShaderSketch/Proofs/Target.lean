import Mathlib.Data.List.DropRight
import ShaderSketch.Proofs.Reread
import ShaderSketch.Service.Endpoint

/-!
# Where requests go

Requests go to the text of the endpoint with the route behind it, read again.  The route comes to be
the end of the path where the endpoint has neither query nor fragment; it is the end of the last of
these where it has any, and the path is then that of the endpoint.

## Main definitions

* `Url.segments` — a path as its segments, the last one included
* `Service.Endpoint.below` — the address with the route at its end
* `Service.Endpoint.Directed` — what an endpoint has to do with the target of its requests

## Main results

* `Service.Endpoint.appendRoute_eq_render` : the text that is read again is that of such an address
* `Service.Endpoint.target_of_text` : the texts that name an endpoint, and where requests go then

## Design notes

That an address is read from its own text as it is, is supposed of the one address at hand: it comes
down to the host, since nothing else in a canonical address can change (`Url.read_written`).
-/

namespace ShaderSketch

namespace Url

open Percent

/-- The segments of a path, the last one included. -/
def segments (path : List (List Char) × List Char) : List (List Char) := path.1 ++ [path.2]

theorem Canonical.not_slash {u : Url} (h : u.Canonical) :
    ∀ s ∈ Url.segments u.path, ∀ c ∈ s, inSegment c = false :=
  List.forall_mem_append.mpr
    ⟨fun s hs => (h.segments s hs).1, List.forall_mem_singleton.mpr h.last.1⟩

/-- A path is written as its segments with a slash in front of each. -/
theorem renderPath_eq (path : List (List Char) × List Char) :
    renderPath path = (segments path).flatMap ('/' :: ·) := by
  obtain ⟨front, last⟩ := path
  unfold renderPath segments
  induction front with
  | nil => simp
  | cons s front ih => simpa using ih

/-- A path loses its trailing slashes with the empty segments at its end. -/
theorem rdropWhile_segments {ss : List (List Char)} (h : ∀ s ∈ ss, ∀ c ∈ s, inSegment c = false) :
    (ss.flatMap ('/' :: ·)).rdropWhile (· = '/') =
      (ss.rdropWhile (·.isEmpty)).flatMap ('/' :: ·) := by
  induction ss using List.reverseRecOn with
  | nil => rfl
  | append_singleton ss s ih =>
      rw [List.forall_mem_append, List.forall_mem_singleton] at h
      cases s with
      | nil =>
          rw [List.rdropWhile_concat_pos _ _ _ rfl, List.flatMap_append]
          simpa using ih h.1
      | cons c s =>
          -- the last character stands in a segment, so that it is no slash
          rw [List.rdropWhile_concat_neg _ _ _ (by simp), List.rdropWhile_eq_self_iff]
          intro hne
          have hlast : (List.flatMap ('/' :: ·) (ss ++ [c :: s])).getLast hne ∈ c :: s := by
            simp
          have hslash := ne_of_not_in (h.2 _ hlast) (show inSegment '/' = true from rfl)
          simpa using hslash

/-- An address up to its path. -/
def place (u : Url) : List Char :=
  u.scheme ++ ':' :: '/' :: '/' :: (u.renderUserinfo ++ (u.host.render ++ portText u.port))

theorem render_eq_place (u : Url) :
    u.render =
      u.place ++ (renderPath u.path ++ (queryText u.query ++ fragmentText u.fragment)) := by
  rw [render_eq_written]
  simp [written, place]

/-- No address has a slash in front of its path. -/
theorem getLast?_place {u : Url} (h : u.Canonical) :
    ∀ c ∈ u.place.getLast?, decide (c = '/') = false := by
  intro c hc
  have hplace : u.place = (u.scheme ++ ':' :: '/' :: '/' :: u.renderUserinfo) ++
      (u.host.render ++ portText u.port) := by
    simp [place]
  have hne : u.host.render ++ portText u.port ≠ [] := fun hnil =>
    Host.render_ne_nil h.host (List.append_eq_nil_iff.mp hnil).1
  rw [hplace, List.getLast?_append_of_ne_nil _ hne] at hc
  have hwithin : Within c := by
    obtain hmem | hmem := List.mem_append.mp (List.mem_of_getLast? hc)
    · exact Host.within_render h.host c hmem
    · exact (within_portText u.port c hmem).1
  refine decide_eq_false ?_
  rintro rfl
  exact absurd hwithin.2 (by decide)

/-- The scheme of what a text turns out to be. -/
def Reading.scheme : Reading → List Char
  | .address url => url.scheme
  | .other scheme => scheme

/-- A text with a scheme that is spoken here is an address. -/
theorem exists_address_of_spoken {text : List Char} {r : Reading} (h : Url.read text = .ok r)
    (hspoken : Spoken r.scheme) : ∃ u, r = .address u := by
  obtain ⟨-, -, u, -, -, rfl⟩ | ⟨scheme, hother, rfl⟩ := read_cases h
  · exact ⟨u, rfl⟩
  · have hsome : (defaultPort? scheme).isSome := isSome_defaultPort? hspoken
    rw [hother] at hsome
    cases hsome

end Url

namespace Service.Endpoint

open Url Percent

/-- The route with the slash in front of it. -/
def ending : List Char := '/' :: route.toList

/-- The address with the route at its end: at the end of the fragment or else of the query, if there
is one, and below the path if there is neither. -/
def below (u : Url) : Url :=
  match u.fragment, u.query with
  | some f, _ => { u with fragment := some (f.rdropWhile (· = '/') ++ ending) }
  | none, some q => { u with query := some (q.rdropWhile (· = '/') ++ ending) }
  | none, none =>
    { u with
      path := ((segments u.path).rdropWhile (·.isEmpty) ++ ["api".toList],
        "generate-shader".toList) }

/-- Below a path, the route stands behind what is left of its text without trailing slashes. -/
theorem renderPath_route {path : List (List Char) × List Char}
    (h : ∀ s ∈ segments path, ∀ c ∈ s, inSegment c = false) :
    renderPath ((segments path).rdropWhile (·.isEmpty) ++ ["api".toList],
        "generate-shader".toList) =
      (renderPath path).rdropWhile (· = '/') ++ ending := by
  rw [renderPath_eq, renderPath_eq path, rdropWhile_segments h]
  simp only [segments, List.flatMap_append, List.append_assoc]
  rfl

/-- No text has the route behind what is left of it without trailing slashes. -/
theorem ne_rdropWhile_append_ending (s : List Char) : s ≠ s.rdropWhile (· = '/') ++ ending := by
  intro heq
  have hself : s.rdropWhile (· = '/') = s := by
    rw [heq, List.rdropWhile_eq_self_iff]
    intro hne
    rw [List.getLast_append_of_ne_nil _ (by decide)]
    decide
  rw [hself] at heq
  have hlength := congrArg List.length heq
  rw [List.length_append] at hlength
  have hending : ending.length = 20 := by decide
  omega

/-- The route stands behind everything but the path and what follows it. -/
theorem same_below (u : Url) :
    (below u).scheme = u.scheme ∧ (below u).username = u.username ∧
      (below u).password = u.password ∧ (below u).host = u.host ∧ (below u).port = u.port := by
  unfold below
  split <;> exact ⟨rfl, rfl, rfl, rfl, rfl⟩

/-- What stands behind a mark loses its trailing slashes by itself. -/
theorem rdropWhile_append_mark {s t : List Char} {mark : Char} (hmark : mark ≠ '/') :
    (s ++ mark :: t).rdropWhile (· = '/') = s ++ mark :: t.rdropWhile (· = '/') := by
  have hlast : ∀ c ∈ (s ++ [mark]).getLast?, decide (c = '/') = false := by simp [hmark]
  simpa using rdropWhile_append (t := t) hlast

/-- **The text that is read again is that of an address** with the route at its end.  It is by this
that the route, which goes behind a text, can be said to go behind a path, a query or a fragment. -/
theorem appendRoute_eq_render {u : Url} (h : u.Canonical) : appendRoute u = (below u).render := by
  change u.render.rdropWhile (· = '/') ++ ending = _
  have hsame := same_below u
  have hplace : (below u).place = u.place := by
    obtain ⟨hscheme, husername, hpassword, hhost, hport⟩ := hsame
    simp only [place, renderUserinfo, hscheme, husername, hpassword, hhost, hport]
  rw [render_eq_place, render_eq_place (below u), hplace, rdropWhile_append (getLast?_place h),
    List.append_assoc]
  refine congrArg (u.place ++ ·) ?_
  cases hfragment : u.fragment with
  | some f =>
      simp only [below, hfragment, fragmentText]
      rw [← List.append_assoc, rdropWhile_append_mark (by decide)]
      simp
  | none =>
      cases hquery : u.query with
      | some q =>
          simp only [below, hfragment, hquery, fragmentText, queryText, List.append_nil]
          rw [rdropWhile_append_mark (by decide)]
          simp
      | none =>
          simp only [below, hfragment, hquery, fragmentText, queryText, List.append_nil]
          exact (renderPath_route h.not_slash).symm

/-- The address with the route at its end is canonical. -/
theorem canonical_below {u : Url} (h : u.Canonical) : (below u).Canonical := by
  have hkept {s : List Char} {p : Char → Bool} (hs : ∀ c ∈ s, p c = false) :
      ∀ c ∈ s.rdropWhile (· = '/'), p c = false := fun c hc =>
    hs c ((List.rdropWhile_prefix _ s).subset hc)
  obtain ⟨scheme, username, password, host, port, path, query, fragment⟩ := u
  cases fragment with
  | some f =>
      refine ⟨h.username, h.password, h.host, h.port, h.segments, h.last, h.query, ?_⟩
      rintro f' ⟨⟩
      exact List.forall_mem_append.mpr
        ⟨hkept (h.fragment f rfl), List.all_iff_forall_prop.mp (by decide)⟩
  | none =>
      cases query with
      | some q =>
          refine ⟨h.username, h.password, h.host, h.port, h.segments, h.last, ?_, h.fragment⟩
          rintro q' ⟨⟩
          exact List.forall_mem_append.mpr
            ⟨hkept (h.query q rfl), List.all_iff_forall_prop.mp (by decide)⟩
      | none =>
          have hfirst : isPlain "api".toList :=
            ⟨List.all_iff_forall_prop.mp (by decide), rfl⟩
          have hsecond : isPlain "generate-shader".toList :=
            ⟨List.all_iff_forall_prop.mp (by decide), rfl⟩
          refine ⟨h.username, h.password, h.host, h.port, ?_, hsecond, h.query, h.fragment⟩
          refine List.forall_mem_append.mpr ⟨fun s hs => ?_, List.forall_mem_singleton.mpr hfirst⟩
          have hmem := (List.rdropWhile_prefix _ _).subset hs
          obtain hfront | hlast := List.mem_append.mp hmem
          · exact h.segments s hfront
          · exact List.mem_singleton.mp hlast ▸ h.last

/-- An address is read from its text as it is, but for the host that is read from its own. -/
theorem read_render_eq {u : Url} (hscheme : Spoken u.scheme) (h : u.Canonical) :
    Url.read u.render = (Host.read u.host.render).map fun host => .address { u with host } := by
  rw [render_eq_written, read_written hscheme h (pathText_renderPath h.segments h.last),
    readPath_renderPath h.segments h.last]

/-- **The second reading never fails**, and finds the address with the route at its end.  The host
is asked for separately, since a name that was looked up need not be found when it is looked up
again; everything else in an address comes back. -/
theorem read_appendRoute {u : Url} (hscheme : Spoken u.scheme) (h : u.Canonical)
    (hhost : Host.read u.host.render = .ok u.host) :
    Url.read (appendRoute u) = .ok (.address (below u)) := by
  obtain ⟨hsame, -, -, hsameHost, -⟩ := same_below u
  rw [appendRoute_eq_render h, read_render_eq (hsame ▸ hscheme) (canonical_below h), hsameHost,
    hhost, ← hsameHost]
  rfl

/-- An address that is read from its own text has a host that is read from its own. -/
theorem read_render_host {u : Url} (hscheme : Spoken u.scheme) (h : u.Canonical)
    (stable : Url.read u.render = .ok (.address u)) : Host.read u.host.render = .ok u.host := by
  rw [read_render_eq hscheme h] at stable
  obtain ⟨host, hhost, hu⟩ := map_eq_ok_iff.mp stable
  obtain rfl : host = u.host := congrArg Url.host (Reading.address.inj hu)
  exact hhost

/-! ## Endpoints -/

/-- What an endpoint has to do with the target of its requests.  Scheme, user, host and port are the
same.  Exactly where the endpoint has neither query nor fragment, the path is that of the endpoint
without its trailing slashes and with the route behind it; otherwise the route is at the end of the
fragment, or else of the query, and everything else is that of the endpoint.  The equivalence says
both that a bare endpoint gets its path as it should and that no other does. -/
structure Directed (e : Endpoint) : Prop where
  scheme : e.target.scheme = e.base.scheme
  username : e.target.username = e.base.username
  password : e.target.password = e.base.password
  host : e.target.host = e.base.host
  port : e.target.port = e.base.port
  path : renderPath e.target.path = (renderPath e.base.path).rdropWhile (· = '/') ++ ending ↔
    e.base.query = none ∧ e.base.fragment = none
  bare : e.base.query = none → e.base.fragment = none →
    e.target.query = none ∧ e.target.fragment = none
  query : ∀ q, e.base.query = some q → e.base.fragment = none →
    e.target = { e.base with query := some (q.rdropWhile (· = '/') ++ ending) }
  fragment : ∀ f, e.base.fragment = some f →
    e.target = { e.base with fragment := some (f.rdropWhile (· = '/') ++ ending) }

/-- Requests that go to the address with the route at its end are directed. -/
theorem directed_below {u : Url} (h : u.Canonical) (timeout : Nat) :
    Directed ⟨u, below u, timeout⟩ := by
  obtain ⟨hscheme, husername, hpassword, hhost, hport⟩ := same_below u
  have hslash := h.not_slash
  obtain ⟨scheme, username, password, host, port, path, query, fragment⟩ := u
  -- a path that stays as it is does not get the route
  have hstays := ne_rdropWhile_append_ending (renderPath path)
  cases fragment with
  | some f =>
      refine ⟨hscheme, husername, hpassword, hhost, hport, ⟨fun heq => absurd heq hstays, nofun⟩,
        nofun, nofun, ?_⟩
      rintro f' ⟨⟩
      rfl
  | none =>
      cases query with
      | some q =>
          refine ⟨hscheme, husername, hpassword, hhost, hport,
            ⟨fun heq => absurd heq hstays, nofun⟩, nofun, ?_, nofun⟩
          rintro q' ⟨⟩ -
          rfl
      | none =>
          exact ⟨hscheme, husername, hpassword, hhost, hport,
            ⟨fun _ => ⟨rfl, rfl⟩, fun _ => renderPath_route hslash⟩, fun _ _ => ⟨rfl, rfl⟩,
            nofun, nofun⟩

/-- An endpoint is read where an address is read whose scheme is spoken. -/
theorem readAddress_eq_ok {text : List Char} {u : Url} :
    readAddress text = .ok u ↔ Url.read text = .ok (.address u) ∧ Spoken u.scheme := by
  unfold readAddress
  cases hread : Url.read text with
  | error e => simp
  | ok reading =>
      cases reading with
      | other scheme => simp
      | address url =>
          dsimp only
          split
          · rename_i hspoken
            constructor
            · rintro ⟨⟩
              exact ⟨rfl, hspoken⟩
            · rintro ⟨⟨⟩, -⟩
              rfl
          · rename_i hspoken
            refine ⟨nofun, ?_⟩
            rintro ⟨⟨⟩, hscheme⟩
            exact absurd hscheme hspoken

/-- An endpoint comes of a text that is not blank and of two readings. -/
theorem ofText_eq_ok {text : String} {e : Endpoint} :
    ofText text = .ok e ↔ Text.trim text.toList ≠ [] ∧
      readAddress (Text.trim text.toList) = .ok e.base ∧
      readAddress (appendRoute e.base) = .ok e.target ∧ e.timeout = defaultTimeout := by
  unfold ofText
  dsimp only
  split
  · rename_i hempty
    rw [List.isEmpty_iff] at hempty
    simp [hempty]
  · rename_i hraw
    have hne : Text.trim text.toList ≠ [] := by simpa using hraw
    cases hbase : readAddress (Text.trim text.toList) with
    | error reason => simp
    | ok base =>
        dsimp only
        cases htarget : readAddress (appendRoute base) with
        | error reason =>
            refine ⟨nofun, ?_⟩
            rintro ⟨-, ⟨⟩, hok, -⟩
            rw [htarget] at hok
            cases hok
        | ok target =>
            constructor
            · rintro ⟨⟩
              exact ⟨hne, rfl, htarget, rfl⟩
            · obtain ⟨base', target', timeout⟩ := e
              rintro ⟨-, ⟨⟩, hok, rfl⟩
              rw [htarget] at hok
              cases hok
              rfl

/-- **Which texts name an endpoint, and where its requests go.**  Suppose that the address that a
text spells is read from its own text as it is.  The text names an endpoint exactly if it is not
blank and spells a URL whose scheme is spoken: the second reading never fails.  The endpoint is then
what the text spells, and its requests are directed. -/
theorem target_of_text (text : String)
    (stable : ∀ u, Url.read (Text.trim text.toList) = .ok (.address u) →
      Url.read u.render = .ok (.address u)) :
    ((∃ e, ofText text = .ok e) ↔ Text.trim text.toList ≠ [] ∧
      ∃ r, Url.read (Text.trim text.toList) = .ok r ∧ Spoken r.scheme) ∧
    ∀ e, ofText text = .ok e →
      Url.read (Text.trim text.toList) = .ok (.address e.base) ∧ Directed e := by
  have hsecond (u : Url) (hread : Url.read (Text.trim text.toList) = .ok (.address u))
      (hspoken : Spoken u.scheme) : readAddress (appendRoute u) = .ok (below u) := by
    have hcanonical := canonical_of_read hread
    refine readAddress_eq_ok.mpr ⟨?_, (same_below u).1 ▸ hspoken⟩
    exact read_appendRoute hspoken hcanonical
      (read_render_host hspoken hcanonical (stable u hread))
  refine ⟨⟨?_, ?_⟩, ?_⟩
  · rintro ⟨e, he⟩
    obtain ⟨hne, hbase, -⟩ := ofText_eq_ok.mp he
    obtain ⟨hread, hspoken⟩ := readAddress_eq_ok.mp hbase
    exact ⟨hne, _, hread, hspoken⟩
  · rintro ⟨hne, r, hread, hspoken⟩
    obtain ⟨u, rfl⟩ := exists_address_of_spoken hread hspoken
    exact ⟨⟨u, below u, defaultTimeout⟩, ofText_eq_ok.mpr
      ⟨hne, readAddress_eq_ok.mpr ⟨hread, hspoken⟩, hsecond u hread hspoken, rfl⟩⟩
  · intro e he
    obtain ⟨-, hbase, htarget, -⟩ := ofText_eq_ok.mp he
    obtain ⟨hread, hspoken⟩ := readAddress_eq_ok.mp hbase
    refine ⟨hread, ?_⟩
    obtain ⟨base, target, timeout⟩ := e
    obtain rfl : below base = target :=
      Except.ok.inj ((hsecond base hread hspoken).symm.trans htarget)
    exact directed_below (canonical_of_read hread) timeout

/-- An address on this machine. -/
def here (port : Option Nat) (path : List (List Char) × List Char)
    (query : Option (List Char)) : Url where
  scheme := "http".toList
  username := []
  password := []
  host := .ipv6 [0, 0, 0, 0, 0, 0, 0, 1]
  port := port
  path := path
  query := query
  fragment := none

theorem target_of_text_here :
    let text := "http://[::1]:4000/v2/"
    let base := here (some 4000) (["v2".toList], []) none
    (∀ u, Url.read (Text.trim text.toList) = .ok (.address u) →
      Url.read u.render = .ok (.address u)) ∧
    ∃ e, ofText text = .ok e ∧ e.base = base ∧
      renderPath e.target.path = "/v2/api/generate-shader".toList := by
  intro text base
  have hread : Url.read (Text.trim text.toList) = .ok (.address base) := by decide +kernel
  have hagain : Url.read base.render = .ok (.address base) := by decide +kernel
  have stable : ∀ u, Url.read (Text.trim text.toList) = .ok (.address u) →
      Url.read u.render = .ok (.address u) := by
    intro u hu
    obtain rfl : base = u := Reading.address.inj (Except.ok.inj (hread.symm.trans hu))
    exact hagain
  obtain ⟨hiff, hdirected⟩ := target_of_text text stable
  obtain ⟨e, he⟩ := hiff.mpr ⟨by decide +kernel, _, hread, .inl rfl⟩
  obtain ⟨hbase, hdirected⟩ := hdirected e he
  have hsame : e.base = base := Reading.address.inj (Except.ok.inj (hbase.symm.trans hread))
  have hpath := hdirected.path
  rw [hsame] at hpath
  refine ⟨stable, e, he, hsame, ?_⟩
  rw [hpath.mpr ⟨rfl, rfl⟩]
  decide +kernel

/-- With a query, the path of the requests does not have the route at its end. -/
theorem route_in_query :
    let base := here none ([], []) (some "style=flat".toList)
    Url.read base.render = .ok (.address base) ∧
    ∃ e, ofText "http://[::1]/?style=flat" = .ok e ∧ e.base = base ∧
      renderPath e.target.path ≠ (renderPath e.base.path).rdropWhile (· = '/') ++ ending := by
  intro base
  refine ⟨by decide +kernel, ⟨base,
    here none ([], []) (some "style=flat/api/generate-shader".toList), defaultTimeout⟩, ?_, rfl, ?_⟩
  · decide +kernel
  · decide +kernel

end Service.Endpoint

end ShaderSketch
