import ShaderSketch.Proofs.Encoding
import ShaderSketch.Proofs.Lines
import ShaderSketch.Viewer.Prompts

/-!
# What a stream sends

A stream of bytes arrives in pieces that have nothing to do with its lines.  The prompts that are
handed out are its lines all the same, up to the first that is no text.

## Main definitions

* `Prompts.Ends`, `Prompts.Sends` — the ends that a line can have, and the prompts that a stream of
  bytes comes to
* `Prompts.handed` — what a new reader hands out of a stream that arrives in pieces
* `Prompts.admitted` — prompts up to the last that is taken

## Main results

* `Prompts.Reader.feed_append` : it does not matter where a stream is cut
* `Prompts.readAll_of_sends` : what is handed out is what the stream sends
* `Prompts.handed_of_stream` : the prompts of every stream, however it is cut, and how many are
  taken

## Design notes

A stream is described by what it is written from: a line is a text, its bytes and its end.  Nothing
in that description splits or decodes bytes.
-/

namespace ShaderSketch

namespace Prompts

open Reader

/-- A text has a line feed where its bytes have one. -/
theorem lineFeed_mem_encode {s : List Char} : lineFeed ∈ Utf8.encode s ↔ '\n' ∈ s :=
  Utf8.mem_encode (c := '\n') (by decide)

/-! ## What a stream sends -/

/-- The byte that belongs to the line end in front of a line feed. -/
def carriageReturn : UInt8 := 0x0d

/-- The ends that a line with a text can have.  A carriage return in front of the line feed belongs
to the end.  A carriage return is dropped once, so that of several only the last belongs to the end.
-/
inductive Ends (text : String) : List UInt8 → Prop
  | feed (h : text.toList.getLast? ≠ some '\r') : Ends text [lineFeed]
  | returnFeed : Ends text [carriageReturn, lineFeed]

/-- The prompts of a line with a text. -/
def kept (text : String) : List String := if Text.blank text then [] else [text]

/-- **The prompts that a stream of bytes comes to.**  A line that is ended is a text and an end; it
is a prompt, unless it is blank, and then comes the rest.  A last line that is not ended is a text.
At the first line that is no text it is over.  The cases exclude each other, so that a stream sends
one list of prompts; they say nothing of pieces or of a reader. -/
inductive Sends : List UInt8 → List String → Prop
  | nothing : Sends [] []
  | broken {line rest : List UInt8} (open_ : lineFeed ∉ line)
      (behind : ∀ b ∈ rest.head?, b = lineFeed) (broken : ∀ text, Utf8.encode text ≠ line) :
      Sends (line ++ rest) []
  | line {text : String} {ending rest : List UInt8} {prompts : List String}
      (open_ : '\n' ∉ text.toList) (ends : Ends text ending) (more : Sends rest prompts) :
      Sends (Utf8.encode text.toList ++ ending ++ rest) (kept text ++ prompts)
  | last {text : String} (open_ : '\n' ∉ text.toList) (some : text ≠ "") :
      Sends (Utf8.encode text.toList) (kept text)

/-- A text in front of a line feed is the text of a line with what there is of the end. -/
theorem exists_ends (s : List Char) :
    ∃ text ending, Ends text ending ∧ (∀ c ∈ text.toList, c ∈ s) ∧
      Utf8.encode s ++ [lineFeed] = Utf8.encode text.toList ++ ending := by
  by_cases hreturn : s.getLast? = some '\r'
  · obtain ⟨t, rfl⟩ := List.getLast?_eq_some_iff.mp hreturn
    refine ⟨String.ofList t, _, .returnFeed, by simp +contextual, ?_⟩
    rw [Utf8.encode_append, List.append_assoc, String.toList_ofList]
    rfl
  · exact ⟨String.ofList s, _, .feed (by rwa [String.toList_ofList]), by simp, by simp⟩

/-- **Every stream comes to prompts.** -/
theorem exists_sends (bytes : List UInt8) : ∃ prompts, Sends bytes prompts := by
  induction bytes using Text.splitOn_induction lineFeed with
  | last line hline =>
      by_cases htext : ∃ text, Utf8.encode text = line
      · obtain ⟨text, rfl⟩ := htext
        rw [lineFeed_mem_encode] at hline
        by_cases hempty : text = []
        · exact ⟨[], hempty ▸ .nothing⟩
        · obtain ⟨text, rfl⟩ : ∃ t : String, t.toList = text := ⟨_, String.toList_ofList⟩
          exact ⟨_, .last hline (by rintro rfl; exact hempty rfl)⟩
      · have hbroken : Sends (line ++ []) [] :=
          .broken hline nofun fun text h => htext ⟨text, h⟩
        rw [List.append_nil] at hbroken
        exact ⟨_, hbroken⟩
  | piece line rest hline ih =>
      obtain ⟨prompts, hprompts⟩ := ih
      by_cases htext : ∃ text, Utf8.encode text = line
      · obtain ⟨s, rfl⟩ := htext
        rw [lineFeed_mem_encode] at hline
        obtain ⟨text, ending, hends, hwithin, hbytes⟩ := exists_ends s
        have hsends := Sends.line (fun hmem => hline (hwithin _ hmem)) hends hprompts
        rw [← hbytes, List.append_assoc, List.singleton_append] at hsends
        exact ⟨_, hsends⟩
      · exact ⟨[], .broken hline (by simp) fun text h => htext ⟨text, h⟩⟩

/-! ## Reading -/

namespace Reader

variable {r : Reader}

theorem line_of_not_reading (h : r.reading = false) (text : Option (List Char)) :
    r.line text = ([], r) := by
  simp [line, h]

theorem lines_of_not_reading (h : r.reading = false) (lines : List (List UInt8)) :
    r.lines lines = ([], r) := by
  induction lines with
  | nil => rfl
  | cons bytes rest ih => simp [Reader.lines, line_of_not_reading h, ih]

theorem lines_append (r : Reader) (first more : List (List UInt8)) :
    r.lines (first ++ more) =
      ((r.lines first).1 ++ ((r.lines first).2.lines more).1,
        ((r.lines first).2.lines more).2) := by
  induction first generalizing r with
  | nil => rfl
  | cons bytes rest ih => simp [Reader.lines, ih]

theorem feed_of_not_reading (h : r.reading = false) (bytes : List UInt8) :
    r.feed bytes = ([], r) := by
  simp [feed, lines_of_not_reading h, h]

/-- A reader with something else in the middle of its line, as long as it reads. -/
def holding (held : List UInt8) (r : Reader) : Reader := if r.reading then { r with held } else r

/-- What is held does not matter to a line that is read. -/
theorem line_holding (h : r.reading = true) (held : List UInt8) (text : Option (List Char)) :
    (r.holding held).line text = ((r.line text).1, (r.line text).2.holding held) := by
  obtain ⟨held', reading, room⟩ := r
  obtain rfl := h
  cases text with
  | none => rfl
  | some text =>
      simp only [holding, line, if_true]
      split
      · rfl
      · rcases room with _ | _ | n <;> rfl

/-- Nor does it to many. -/
theorem lines_holding (held : List UInt8) (lines : List (List UInt8)) (r : Reader) :
    (r.holding held).lines lines = ((r.lines lines).1, (r.lines lines).2.holding held) := by
  induction lines generalizing r with
  | nil => rfl
  | cons bytes rest ih =>
      cases h : r.reading with
      | true => simp [Reader.lines, line_holding h, ih]
      | false =>
          have hsame : r.holding held = r := by simp [holding, h]
          rw [hsame, lines_of_not_reading h, hsame]

theorem holding_holding (held held' : List UInt8) (r : Reader) :
    (r.holding held).holding held' = r.holding held' := by
  unfold holding
  split <;> simp_all

/-- Feeding reads the lines that are ended, and holds the beginning of another. -/
theorem feed_eq (r : Reader) (bytes : List UInt8) :
    r.feed bytes =
      ((r.lines (Text.splitOn lineFeed (r.held ++ bytes)).dropLast).1,
        (r.lines (Text.splitOn lineFeed (r.held ++ bytes)).dropLast).2.holding
          ((Text.splitOn lineFeed (r.held ++ bytes)).getLast?.getD [])) := rfl

/-- **It does not matter where a stream is cut.**  It holds in the middle of a character too, since
bytes are kept until their line is over. -/
theorem feed_append (r : Reader) (first more : List UInt8) :
    r.feed (first ++ more) =
      ((r.feed first).1 ++ ((r.feed first).2.feed more).1, ((r.feed first).2.feed more).2) := by
  obtain ⟨pieces, hpieces⟩ : ∃ pieces, pieces = Text.splitOn lineFeed (r.held ++ first) := ⟨_, rfl⟩
  obtain ⟨q, rest, hrest⟩ := List.exists_cons_of_ne_nil
    (Text.splitOn_ne_nil lineFeed (pieces.getLast?.getD [] ++ more))
  have hall : r.feed (first ++ more) =
      ((r.lines (pieces.dropLast ++ (q :: rest).dropLast)).1,
        (r.lines (pieces.dropLast ++ (q :: rest).dropLast)).2.holding
          ((q :: rest).getLast?.getD [])) := by
    rw [feed_eq, ← List.append_assoc, Text.splitOn_append, ← hpieces, hrest,
      List.dropLast_append_of_ne_nil (List.cons_ne_nil _ _),
      List.getLast?_append_of_ne_nil _ (List.cons_ne_nil _ _)]
  have hfirst : r.feed first = ((r.lines pieces.dropLast).1,
      (r.lines pieces.dropLast).2.holding (pieces.getLast?.getD [])) := by
    rw [feed_eq, ← hpieces]
  rw [hall, hfirst, lines_append]
  obtain ⟨r', hr'⟩ : ∃ r', r' = (r.lines pieces.dropLast).2 := ⟨_, rfl⟩
  rw [← hr']
  cases h : r'.reading with
  | true =>
      have hheld : (r'.holding (pieces.getLast?.getD [])).held = pieces.getLast?.getD [] := by
        simp [holding, h]
      rw [feed_eq, hheld, hrest, lines_holding, holding_holding]
  | false =>
      have hsame (held : List UInt8) : r'.holding held = r' := by simp [holding, h]
      rw [hsame, feed_of_not_reading h, lines_of_not_reading h, hsame]

/-- Reads bytes that come in pieces. -/
def feedAll (r : Reader) : List (List UInt8) → List String × Reader
  | [] => ([], r)
  | bytes :: rest =>
    let (prompts, r) := r.feed bytes
    let (more, r) := r.feedAll rest
    (prompts ++ more, r)

/-- **Pieces are read as what they are pieces of.** -/
theorem feedAll_cons (r : Reader) (first : List UInt8) (more : List (List UInt8)) :
    r.feedAll (first :: more) = r.feed (first ++ more.flatten) := by
  induction more generalizing r first with
  | nil => simp [feedAll]
  | cons second more ih =>
      have hcons : r.feedAll (first :: second :: more) =
          ((r.feed first).1 ++ ((r.feed first).2.feedAll (second :: more)).1,
            ((r.feed first).2.feedAll (second :: more)).2) := rfl
      rw [hcons, ih, List.flatten_cons, feed_append r first]

/-- The prompts that a reader hands out of the rest of a stream. -/
def readAll (r : Reader) (bytes : List UInt8) : List String :=
  (r.feed bytes).1 ++ (r.feed bytes).2.finish.1

/-- A reader between two lines, which takes so many more prompts. -/
abbrev between (room : Option Nat) : Reader := { room }

theorem readAll_of_not_reading (h : r.reading = false) (hheld : r.held = [])
    (bytes : List UInt8) : r.readAll bytes = [] := by
  rw [readAll, feed_of_not_reading h]
  simp [finish, hheld]

/-- Handing a line on changes nothing about what is held. -/
theorem held_line (h : r.held = []) (text : Option (List Char)) : (r.line text).2.held = [] := by
  unfold line hand
  split
  · split
    · rfl
    · dsimp only
      split
      · exact h
      · split
        · exact h
        · rfl
        · exact h
  · exact h

/-- A line that is ended is read before the rest. -/
theorem readAll_line {line : List UInt8} (hline : lineFeed ∉ line) (h : r.held = [])
    (rest : List UInt8) :
    r.readAll (line ++ lineFeed :: rest) =
      (r.line (endedLine line)).1 ++ (r.line (endedLine line)).2.readAll rest := by
  obtain ⟨piece, pieces, hpieces⟩ :=
    List.exists_cons_of_ne_nil (Text.splitOn_ne_nil lineFeed rest)
  have hfeed : r.feed (line ++ lineFeed :: rest) =
      ((r.line (endedLine line)).1 ++ ((r.line (endedLine line)).2.feed rest).1,
        ((r.line (endedLine line)).2.feed rest).2) := by
    rw [feed_eq, feed_eq, held_line h, h, List.nil_append, List.nil_append,
      Text.splitOn_append_cons hline, hpieces, List.dropLast_cons_cons, List.getLast?_cons_cons]
    rfl
  rw [readAll, hfeed, readAll, List.append_assoc]

/-- A last line that is not ended is read at the end. -/
theorem readAll_last {line : List UInt8} (hline : lineFeed ∉ line) (hne : line ≠ [])
    (hreading : r.reading = true) (h : r.held = []) :
    r.readAll line = (r.line (Utf8.decode? line)).1 := by
  have hfeed : r.feed line = ([], r.holding line) := by
    rw [feed_eq, h, List.nil_append, Text.splitOn_of_not_mem hline]
    rfl
  have hheld : (r.holding line).held = line := by simp [holding, hreading]
  rw [readAll, hfeed, finish, hheld, if_neg hne, line_holding hreading]
  rfl

end Reader

/-! ## What is handed out -/

open Reader

/-- What a new reader that takes so many prompts hands out of a stream that comes in pieces. -/
def handed (room : Option Nat) (pieces : List (List UInt8)) : List String :=
  ((between room).feedAll pieces).1 ++ ((between room).feedAll pieces).2.finish.1

/-- Prompts up to the last that is taken. -/
def admitted : Option Nat → List String → List String
  | none, prompts => prompts
  | some n, prompts => prompts.take n

theorem handed_eq (room : Option Nat) (pieces : List (List UInt8)) :
    handed room pieces = (between room).readAll pieces.flatten := by
  unfold handed
  cases pieces with
  | nil => rfl
  | cons first more =>
      rw [feedAll_cons]
      rfl

@[simp] theorem admitted_nil (room : Option Nat) : admitted room [] = [] := by
  cases room <;> simp [admitted]

/-- A line with a text is handed out unless it is blank, as long as prompts are taken. -/
theorem line_cases (room : Option Nat) (text : String) :
    (kept text = [] ∧ (between room).line (some text.toList) = ([], between room)) ∨
    (kept text = [text] ∧ (between room).line (some text.toList) =
      match room with
      | none => ([text], between none)
      | some 0 => ([], (between (some 0)).stop)
      | some (n + 1) => ([text], between (some n))) := by
  cases hblank : Text.blank text with
  | true => exact .inl (by simp [kept, line, hblank])
  | false =>
      refine .inr ⟨by simp [kept, hblank], ?_⟩
      rcases room with _ | _ | n <;> simp [line, hand, hblank, stop]

/-- What is handed out of a line and the rest of a stream. -/
theorem admitted_line {room : Option Nat} {rest : List UInt8} {prompts : List String}
    (more : ∀ room, (between room).readAll rest = admitted room prompts) (text : String) :
    ((between room).line (some text.toList)).1 ++
        ((between room).line (some text.toList)).2.readAll rest =
      admitted room (kept text ++ prompts) := by
  obtain ⟨hkept, hline⟩ | ⟨hkept, hline⟩ := line_cases room text
  · rw [hkept, hline]
    exact more room
  · rw [hkept, hline]
    rcases room with _ | _ | n
    · exact congrArg (text :: ·) (more none)
    · exact readAll_of_not_reading rfl rfl rest
    · exact congrArg (text :: ·) (more (some n))

/-- A line with its end is bytes without a line feed, and a line feed. -/
theorem Ends.exists_line {text : String} {ending : List UInt8} (h : Ends text ending)
    (hopen : '\n' ∉ text.toList) :
    ∃ line, lineFeed ∉ line ∧ Utf8.encode text.toList ++ ending = line ++ [lineFeed] ∧
      endedLine line = some text.toList := by
  cases h with
  | feed hlast =>
      refine ⟨_, fun hmem => hopen (lineFeed_mem_encode.mp hmem), rfl, ?_⟩
      rw [endedLine, Utf8.decode?_encode, Option.map_some, Text.dropReturn, if_neg hlast]
  | returnFeed =>
      refine ⟨Utf8.encode (text.toList ++ ['\r']), fun hmem => ?_, ?_, ?_⟩
      · simpa [hopen] using lineFeed_mem_encode.mp hmem
      · rw [Utf8.encode_append, List.append_assoc]
        rfl
      · rw [endedLine, Utf8.decode?_encode]
        simp [Text.dropReturn]

/-- **What is handed out is what the stream sends.**  The room is how many prompts are still taken.
-/
theorem readAll_of_sends {bytes : List UInt8} {prompts : List String} (h : Sends bytes prompts)
    (room : Option Nat) : (between room).readAll bytes = admitted room prompts := by
  induction h generalizing room with
  | nothing =>
      rw [admitted_nil]
      rfl
  | @broken line rest hline behind broken =>
      have hnone : Utf8.decode? line = none := Option.eq_none_iff_forall_ne_some.mpr
        fun text htext => broken text (Utf8.decode?_eq_some_iff.mp htext)
      rw [admitted_nil]
      cases rest with
      | nil =>
          have hne : line ≠ [] := fun hnil => broken [] hnil.symm
          rw [List.append_nil, readAll_last hline hne rfl rfl, hnone]
          rfl
      | cons b rest =>
          obtain rfl := behind b rfl
          rw [readAll_line hline rfl, endedLine, hnone]
          exact readAll_of_not_reading rfl rfl rest
  | @line text ending rest prompts hopen ends _ more =>
      obtain ⟨line, hline, hbytes, htext⟩ := ends.exists_line hopen
      rw [hbytes, List.append_assoc, List.singleton_append, readAll_line hline rfl, htext]
      exact admitted_line more text
  | @last text hopen hsome =>
      have hline : lineFeed ∉ Utf8.encode text.toList := fun hmem =>
        hopen (lineFeed_mem_encode.mp hmem)
      have hne : Utf8.encode text.toList ≠ [] := by
        intro hnil
        have hread : Utf8.decode? [] = some text.toList := hnil ▸ Utf8.decode?_encode text.toList
        have hsame := Option.some.inj (hread.symm.trans (Utf8.decode?_encode []))
        exact hsome (String.ext hsame)
      rw [readAll_last hline hne rfl rfl, Utf8.decode?_encode]
      obtain ⟨hkept, hhanded⟩ | ⟨hkept, hhanded⟩ := line_cases room text
      · rw [hkept, hhanded, admitted_nil]
      · rw [hkept, hhanded]
        rcases room with _ | _ | n
        · rfl
        · rfl
        · rw [admitted, List.take_succ_cons, List.take_nil]

/-- **The prompts of a stream.**  However a stream is cut into pieces, what is handed out is exactly
what it sends, if all of it is taken, and else as much of that as is taken.  The first part
determines what is handed out, since it is an equivalence; the second says that a receiver which
goes away changes nothing about what came before. -/
theorem handed_of_stream (pieces : List (List UInt8)) :
    (∀ prompts, handed none pieces = prompts ↔ Sends pieces.flatten prompts) ∧
      ∀ n, handed (some n) pieces = (handed none pieces).take n := by
  obtain ⟨sent, hsent⟩ := exists_sends pieces.flatten
  have hhanded : handed none pieces = sent := (handed_eq none pieces).trans
    (readAll_of_sends hsent none)
  refine ⟨fun prompts => ⟨?_, fun h => ?_⟩, fun n => ?_⟩
  · rintro rfl
    exact hhanded ▸ hsent
  · exact (handed_eq none pieces).trans (readAll_of_sends h none)
  · rw [hhanded, handed_eq]
    exact readAll_of_sends hsent (some n)

/-- A carriage return is dropped with the line feed behind it, and not at the end. -/
example : handed none ["a\r".toUTF8.toList, "\n \nb\r".toUTF8.toList] = ["a", "b\r"] := by
  decide +kernel

end Prompts

end ShaderSketch
