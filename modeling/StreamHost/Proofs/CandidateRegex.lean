import StreamHost.ConfigProbe
import StreamHost.Lib.Regex

/-! The language of the emitted backend expressions: exactly the candidates, whatever
characters they are made of. -/

namespace StreamHost.Proofs.CandidateRegex

private theorem regexEscape_toList (value : String) : (regexEscape value).toList = Regex.quote value.toList := by
  have fold : ∀ (characters : List Char) (escaped : String),
      (characters.foldl (fun escaped character =>
        (if character ∈ Regex.metacharacters then escaped.push '\\' else escaped).push character) escaped).toList =
        escaped.toList ++ Regex.quote characters := by
    intro characters
    induction characters with
    | nil =>
      intro escaped
      exact (List.append_nil _).symm
    | cons character rest ih =>
      intro escaped
      have step : ((if character ∈ Regex.metacharacters then escaped.push '\\' else escaped).push character).toList =
          escaped.toList ++ Regex.escape character := by
        unfold Regex.escape
        split
        · rw [String.toList_push, String.toList_push, List.append_assoc]
          rfl
        · rw [String.toList_push]
      rw [List.foldl_cons, ih, step, List.append_assoc]
      rfl
  exact (fold value.toList "").trans (List.nil_append _)

private theorem candidateRegex_toList {values : List String} (some_value : values ≠ []) :
    (candidateRegex values).toList = Regex.alternatives (values.map String.toList) := by
  have notEmpty : ¬ values.isEmpty = true := fun empty => some_value (List.isEmpty_iff.mp empty)
  have pieces : (values.map regexEscape).map String.toList = (values.map String.toList).map Regex.quote := by
    rw [List.map_map, List.map_map]
    exact List.map_congr_left fun value _ => regexEscape_toList value
  rw [candidateRegex, if_neg notEmpty, String.toList_append, String.toList_append, String.toList_intercalate, pieces]
  rfl

private theorem candidateRegex_finds (values : List String) : ∃ regex,
    Regex.parse (candidateRegex values).toList = some regex ∧ ∀ text : String, regex.Finds text.toList ↔ text ∈ values := by
  by_cases none : values = []
  · subst none
    obtain ⟨regex, parsed, finds⟩ := Regex.parse_never
    refine ⟨regex, parsed, fun text => ?_⟩
    simp [finds]
  · rw [candidateRegex_toList none]
    have words : values.map String.toList ≠ [] := fun empty => none (List.map_eq_nil_iff.mp empty)
    obtain ⟨regex, parsed, finds⟩ := Regex.parse_alternatives words
    refine ⟨regex, parsed, fun text => ?_⟩
    rw [finds]
    exact List.mem_map_of_injective fun _ _ same => String.toList_injective same

/-- A table's candidate list and an expression whose language is that list. -/
def Lists (table : Expr) (candidates regex : String) : Prop :=
  ∃ entries names text expression, table = .map entries ∧ (key candidates, stringList names) ∈ entries ∧
    (key regex, .string text) ∈ entries ∧ Regex.parse text.toList = some expression ∧
    ∀ name : String, expression.Finds name.toList ↔ name ∈ names

private theorem table_lists (audio midi : List String) :
    Lists (streamHostTable audio midi) "audio_backend_candidates" "audio_backend_regex" ∧
      Lists (streamHostTable audio midi) "midi_backend_candidates" "midi_backend_regex" := by
  obtain ⟨audioRegex, audioParsed, audioFinds⟩ := candidateRegex_finds audio
  obtain ⟨midiRegex, midiParsed, midiFinds⟩ := candidateRegex_finds midi
  constructor
  · exact ⟨_, audio, _, audioRegex, rfl, by simp, by simp, audioParsed, audioFinds⟩
  · exact ⟨_, midi, _, midiRegex, rfl, by simp, by simp, midiParsed, midiFinds⟩

/-- Whatever the probe's catalog answers, an emitted layer describes its own candidates. -/
theorem layer_lists {ω : Type} (display : Error → String) (probe : HostStreamConfigProbe ω)
    (request : ConfigProbeRequest) (world : ω) (layer : ConfigLayer)
    (emitted : (probe.run display request world).1.1 = some layer) :
    Lists layer.table "audio_backend_candidates" "audio_backend_regex" ∧
      Lists layer.table "midi_backend_candidates" "midi_backend_regex" := by
  unfold HostStreamConfigProbe.run at emitted
  split at emitted
  · cases emitted
  · split at emitted
    · cases emitted
    · split at emitted
      · cases emitted
      · cases emitted
        apply table_lists

/-- The expression of a list of candidates reads, and a text matches it exactly if it is one
of them. So do both expressions of a table. -/
theorem candidate_regex_language (values audio midi : List String) :
    (∃ regex, Regex.parse (candidateRegex values).toList = some regex ∧
      ∀ text : String, regex.Finds text.toList ↔ text ∈ values) ∧
    Lists (streamHostTable audio midi) "audio_backend_candidates" "audio_backend_regex" ∧
    Lists (streamHostTable audio midi) "midi_backend_candidates" "midi_backend_regex" :=
  ⟨candidateRegex_finds values, table_lists audio midi⟩

example : regexEscape "hw:0|(a\\b)" = "hw:0\\|\\(a\\\\b\\)" := by decide

end StreamHost.Proofs.CandidateRegex
