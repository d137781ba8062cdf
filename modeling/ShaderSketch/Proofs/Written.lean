import ShaderSketch.Json.Writer
import ShaderSketch.Proofs.Grammar

/-!
# Written documents

What the writer writes spells the value that it was given, whatever stands behind it.

## Main definitions

* `Json.pieceOf` — the piece that is written for a character
* `Json.Writes` — a text that spells a value

## Main results

* `Json.writes_quote` : a text is written as a string with that content, character by character
* `Json.Writes.object`, `Json.Writes.singleton` : objects and lists are written around their parts
* `Json.Writes.document` : what is written is a document
-/

namespace ShaderSketch.Json

/-! ## Strings -/

/-- The piece that is written for a character: characters that have neither a letter nor a form of
their own are written as units. -/
def pieceOf (c : Char) : Piece :=
  if c.toNat < 0x20 ∧ c ∉ ['\x08', '\x0c', '\n', '\r', '\t'] then .unit c.toNat else .char c

theorem hex_hexDigit {n : Nat} (h : n < 16) : Hex (hexDigit n) n := by
  have hdigits : ∀ n ∈ List.range 16, "0123456789abcdef".toList[n]? = some (hexDigit n) := by
    decide
  exact .inl (hdigits n (List.mem_range.mpr h))

/-- The four digits of a control character. -/
theorem quad_control {n : Nat} (h : n < 0x20) (s : List Char) :
    Quad n ('0' :: '0' :: hexDigit (n / 16) :: hexDigit (n % 16) :: s) s := by
  have hzero : Hex '0' 0 := hex_hexDigit (by decide)
  have hquad := Quad.mk (r := s) hzero hzero (hex_hexDigit (show n / 16 < 16 by omega))
    (hex_hexDigit (show n % 16 < 16 by omega))
  rwa [show ((0 * 16 + 0) * 16 + n / 16) * 16 + n % 16 = n by omega] at hquad

/-- The characters that are written with a letter. -/
theorem short_of_named  {c : Char} (h : c ∈ ['"', '\\', '\x08', '\x0c', '\n', '\r', '\t']) :
    ∃ letter, quoteChar c = ['\\', letter] ∧ Short letter c ∧ pieceOf c = .char c := by
  simp only [List.mem_cons, List.not_mem_nil, or_false] at h
  rcases h with rfl | rfl | rfl | rfl | rfl | rfl | rfl
  · exact ⟨'"', rfl, by decide, rfl⟩
  · exact ⟨'\\', rfl, by decide, rfl⟩
  · exact ⟨'b', rfl, by decide, rfl⟩
  · exact ⟨'f', rfl, by decide, rfl⟩
  · exact ⟨'n', rfl, by decide, rfl⟩
  · exact ⟨'r', rfl, by decide, rfl⟩
  · exact ⟨'t', rfl, by decide, rfl⟩

/-- **A character is written as its piece**, in front of any other pieces.  What follows is not
looked at, so that a text is written character by character. -/
theorem pieces_quoteChar {ps : List Piece} {s r : List Char} (c : Char) (rest : Pieces ps s r) :
    Pieces (pieceOf c :: ps) (quoteChar c ++ s) r := by
  by_cases hnamed : c ∈ ['"', '\\', '\x08', '\x0c', '\n', '\r', '\t']
  · obtain ⟨letter, hquote, escape, hchar⟩ := short_of_named hnamed
    rw [hquote, hchar]
    exact .short escape rest
  simp only [List.mem_cons, List.not_mem_nil, or_false, not_or] at hnamed
  obtain ⟨unquoted, unescaped, hback, hform, hfeed, hreturn, htab⟩ := hnamed
  rw [quoteChar, if_neg unquoted, if_neg unescaped, if_neg hback, if_neg hform, if_neg hfeed,
    if_neg hreturn, if_neg htab]
  split
  · rename_i hcontrol
    have hunnamed : c ∉ ['\x08', '\x0c', '\n', '\r', '\t'] := by
      simp only [List.mem_cons, List.not_mem_nil, or_false, not_or]
      exact ⟨hback, hform, hfeed, hreturn, htab⟩
    rw [pieceOf, if_pos ⟨hcontrol, hunnamed⟩]
    exact .unit (quad_control hcontrol s) rest
  · rename_i hvisible
    rw [pieceOf, if_neg fun h => hvisible h.1]
    exact .plain (Nat.not_lt.mp hvisible) unquoted unescaped rest

/-- A unit that is no half of a pair stands for its own character, whatever is behind it. -/
theorem content?_unit {n : Nat} (lead : ¬ Lead n) (trail : ¬ Trail n) (ps : List Piece) :
    content? (.unit n :: ps) = (content? ps).map (Char.ofNat n :: ·) := by
  have hwhole : ¬ (Lead n ∨ Trail n) := not_or.mpr ⟨lead, trail⟩
  cases ps with
  | nil =>
      show (if Lead n ∨ Trail n then none else _) = _
      rw [if_neg hwhole]
  | cons p ps =>
      cases p with
      | char c =>
          show (if Lead n ∨ Trail n then none else _) = _
          rw [if_neg hwhole]
      | unit m => rw [content?, if_neg fun h => lead h.1, if_neg hwhole]

/-- A piece that is written stands for its character, and is never half of a pair. -/
theorem content?_pieceOf (c : Char) (ps : List Piece) :
    content? (pieceOf c :: ps) = (content? ps).map (c :: ·) := by
  rw [pieceOf]
  split
  · rename_i hcontrol
    have hlead : ¬ Lead c.toNat := by
      intro h
      exact absurd h.1 (by omega)
    have htrail : ¬ Trail c.toNat := by
      intro h
      exact absurd h.1 (by omega)
    rw [content?_unit hlead htrail, Char.ofNat_toNat]
  · rw [content?]

/-- The pieces of a written text, and their content. -/
theorem pieces_quote (s r : List Char) :
    Pieces (s.map pieceOf) (s.flatMap quoteChar ++ '"' :: r) ('"' :: r) ∧
      content? (s.map pieceOf) = some s := by
  induction s with
  | nil => exact ⟨.nil _, by rw [List.map_nil, content?]⟩
  | cons c s ih =>
      obtain ⟨hpieces, hcontent⟩ := ih
      constructor
      · rw [List.map_cons, List.flatMap_cons, List.append_assoc]
        exact pieces_quoteChar c hpieces
      · rw [List.map_cons, content?_pieceOf, hcontent]
        rfl

/-- **A text is written as a string with that content.**  The quotes are the only ones that are not
escaped, so that the string cannot end early. -/
theorem quoted_quote (s r : List Char) : Quoted (some s) (quote s ++ r) r := by
  obtain ⟨hpieces, hcontent⟩ := pieces_quote s r
  have hquote : quote s ++ r = '"' :: (s.flatMap quoteChar ++ '"' :: r) := by
    rw [quote, List.cons_append, List.append_assoc]
    rfl
  rw [hquote, ← hcontent]
  exact .mk hpieces

/-! ## Values -/

/-- A text that spells a value, whatever stands behind it. -/
def Writes (text : List Char) (v : Value) : Prop := ∀ r, Spells v (text ++ r) r

theorem writes_quote (s : List Char) : Writes (quote s) (.string (some s)) := by
  intro r
  exact .string (quoted_quote s r)

/-- An object is written around its key and its value. -/
theorem Writes.object {text : List Char} {v : Value} (h : Writes text v) (key : List Char) :
    Writes (Json.object key text) (.object [(some key, v)]) := by
  intro r
  have htext : Json.object key text ++ r =
      '\x7b' :: (quote key ++ ':' :: (text ++ '\x7d' :: r)) := by
    simp only [Json.object, List.cons_append, List.append_assoc, List.nil_append]
  rw [htext]
  exact .object (.last (.mk (.mk (blanks_refl _) (quoted_quote key _) (blanks_refl _))
    (.mk (blanks_refl _) (h _) (blanks_refl _))))

/-- A list is written around its element. -/
theorem Writes.singleton {text : List Char} {v : Value} (h : Writes text v) :
    Writes (Json.singleton text) (.list [v]) := by
  intro r
  have htext : Json.singleton text ++ r = '[' :: (text ++ ']' :: r) := by
    simp only [Json.singleton, List.cons_append, List.append_assoc, List.nil_append]
  rw [htext]
  exact .list (.last (.mk (blanks_refl _) (h _) (blanks_refl _)))

/-- **What is written is a document.**  A text that is written is thereby decoded by every reader of
its shape, and nothing has to be shown of the readers. -/
theorem Writes.document {text : List Char} {v : Value} (h : Writes text v) : Document v text := by
  have hspells := h []
  rw [List.append_nil] at hspells
  exact .mk (blanks_refl _) hspells (blanks_refl _)

end ShaderSketch.Json
