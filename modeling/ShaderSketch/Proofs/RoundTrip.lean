import ShaderSketch.Proofs.Polling
import ShaderSketch.Proofs.Schema

/-!
# Bodies that are written and read

The two ends of a connection agree: the service reads the prompt that a call sends, and the call
reads the source that the service sends, whatever characters they are made of.

## Main results

* `Service.Body.prompt_ofPrompt`, `Service.Body.ofPrompt_injective` : requests
* `Service.Body.source_ofSource` : responses
* `Service.Client.ask_ofSource` : calls to a service that answers with a source
* `Service.Client.round_trip` : both ends together
-/

namespace ShaderSketch.Service

open Json

namespace Body

/-! ## Requests -/

theorem takes_request : Takes request (Value.record? "prompt" Value.text?) :=
  takes_record _ _ takes_text

theorem writes_ofPrompt (prompt : String) :
    Writes (ofPrompt prompt).toList
      (.object [(some "prompt".toList, .string (some prompt.toList))]) := by
  rw [ofPrompt, String.toList_ofList]
  exact (writes_quote prompt.toList).object "prompt".toList

/-- **A prompt is read from the body that is written for it.** -/
theorem prompt_ofPrompt (p : String) : prompt (ofPrompt p) = .ok p := by
  have hshape : Value.record? "prompt" Value.text?
      (.object [(some "prompt".toList, .string (some p.toList))]) = some p := by
    show some (String.ofList p.toList) = some p
    rw [String.ofList_toList]
  rw [prompt, decode_of_document takes_request (writes_ofPrompt p).document hshape]
  rfl

/-- Different prompts have different bodies. -/
theorem ofPrompt_injective {p q : String} (h : ofPrompt p = ofPrompt q) : p = q := by
  have hprompt := prompt_ofPrompt p
  rw [h, prompt_ofPrompt q] at hprompt
  exact (Except.ok.inj hprompt).symm

/-! ## Responses -/

theorem writes_ofSource (source : String) :
    Writes (ofSource source).toList
      (.object [(some "shader_code".toList,
        .list [.object [(some "text".toList, .string (some source.toList))]])]) := by
  rw [ofSource, String.toList_ofList]
  exact (((writes_quote source.toList).object "text".toList).singleton).object "shader_code".toList

theorem blocks_ofSource (t : String) : blocks (ofSource t) = .ok [t] := by
  have hshape : shape (.object [(some "shader_code".toList,
      .list [.object [(some "text".toList, .string (some t.toList))]])]) = some [t] := by
    show some [String.ofList t.toList] = some [t]
    rw [String.ofList_toList]
  exact decode_of_document takes_response (writes_ofSource t).document hshape

/-- **A source is read from the body that is written for it**, unless it is blank.  The service may
answer with what is blank, and that is told as no source at all. -/
theorem source_ofSource (t : String) :
    source (ofSource t) = if Text.blank t then .error .noSource else .ok t := by
  by_cases hblank : Text.blank t
  · rw [if_pos hblank]
    refine source_of_blank (blocks_ofSource t) ?_
    rintro _ ⟨⟩
    exact hblank
  · rw [if_neg hblank]
    exact source_of_visible (blocks_ofSource t) hblank

end Body

namespace Client

/-! ## Calls -/

/-- **A call comes back with the source** that the service answers with, if it starts.  It starts
unless its prompt is blank or it was stopped before; a cancellation while it waits comes too late
for an answer that is there. -/
theorem ask_ofSource {c : Client} {prompt t : String} {interruption : Interruption}
    (answers : c.fate = .ofSource t) (visible : ¬ Text.blank prompt)
    (starts : ¬ c.Stopped interruption) :
    (c.ask prompt interruption).1 = some (if Text.blank t then .error .noSource else .ok t) := by
  have hconducted := conducted_ask c prompt interruption
  rw [hconducted.answered visible starts 200 (Body.ofSource t) answers (by decide),
    Body.source_ofSource]

/-- **Both ends agree.**  What is written for a prompt or a source is read back as it was, and a
call to a service that answers with a source that is not blank comes back with that source.  That
two prompts have two bodies is what makes the body stand for its prompt: the service cannot be asked
for one and take it for another. -/
theorem round_trip :
    ((∀ p, Body.prompt (Body.ofPrompt p) = .ok p) ∧
      ∀ p q, p ≠ q → Body.ofPrompt p ≠ Body.ofPrompt q) ∧
    ((∀ t, ¬ Text.blank t → Body.source (Body.ofSource t) = .ok t) ∧
      ∀ t, Text.blank t → Body.source (Body.ofSource t) = .error .noSource) ∧
    ∀ t, ¬ Text.blank t → ∀ (c : Client) (prompt : String) (interruption : Interruption),
      c.fate = .ofSource t → ¬ Text.blank prompt → ¬ c.Stopped interruption →
        (c.ask prompt interruption).1 = some (.ok t) := by
  refine ⟨⟨Body.prompt_ofPrompt, ?_⟩, ⟨?_, ?_⟩, ?_⟩
  · intro p q hne heq
    exact hne (Body.ofPrompt_injective heq)
  · intro t visible
    rw [Body.source_ofSource, if_neg visible]
  · intro t blank
    rw [Body.source_ofSource, if_pos blank]
  · intro t visible c prompt interruption answers hprompt starts
    rw [ask_ofSource answers hprompt starts, if_neg visible]

/-- A prompt and a source with quotes, a backslash, a control character and other scripts. -/
theorem round_trip_escaped :
    Body.prompt (Body.ofPrompt "\"é\\\x01\"") = .ok "\"é\\\x01\"" ∧
      Body.source (Body.ofSource "\"\u2028\x7f") = .ok "\"\u2028\x7f" ∧
      Body.source (Body.ofSource "\t\u2028") = .error .noSource ∧
      let url : Url := ⟨"http".toList, [], [], .domain "here".toList, none, ([], []), none, none⟩
      let c : Client := { endpoint := ⟨url, url, 60⟩, fate := .ofSource "\"\u2028\x7f" }
      (c.ask "\"é\\\x01\"" .during).1 = some (.ok "\"\u2028\x7f") := by
  obtain ⟨hrequests, ⟨hvisible, hblank⟩, hcalls⟩ := round_trip
  refine ⟨hrequests.1 _, hvisible _ (by decide), hblank _ (by decide), ?_⟩
  refine hcalls _ (by decide) _ _ _ rfl (by decide) ?_
  rintro (h | h) <;> cases h

end Client

end ShaderSketch.Service
