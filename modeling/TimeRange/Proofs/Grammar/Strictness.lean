import TimeRange.Proofs.Grammar.DurationShape
import TimeRange.Proofs.Grammar.Misfit

/-!
# The older notations and the grammar

No text is both in an older notation and one of the grammar, so that it makes no
difference to the grammar that the older notations are tried first. Strict
reading of the older notations gives an error in place of no result, and nothing
else changes. Of the errors of the older notations, reading in any notation only
shows those of texts that have the shape of a duration.

The main statement is `parse_keeps_notations_apart`.
-/

namespace TimeRange

namespace Period

variable {text name : String}

theorem ofText?_eq_some_iff : ofText? text = some name ↔ text = "rill-" ++ name := by
  constructor
  · exact eq_append_of_ofText?
  · rintro rfl
    have letters : ("rill-" ++ name).toList = marker ++ name.toList := by
      rw [String.toList_append]
      rfl
    unfold ofText?
    rw [letters, if_pos (List.isPrefixOf_iff_prefix.mpr (List.prefix_append _ _)), List.drop_left,
      String.ofList_toList]

theorem components?_of_ofText? (asked : ofText? text = some name) :
    Duration.components? text.toList = none := by
  rw [ofText?_eq_some_iff.mp asked, String.toList_append]
  rfl

end Period

namespace Reading

/-! ## Strict reading -/

/-- How a text is read in the older notations, first not strictly and then strictly. -/
inductive OlderRoute (text : String) :
    Except ReadError (Option Reading) → Except ReadError (Option Reading) → Prop where
  /-- In one of the notations, with the same result, which may be an error. -/
  | older (result : Except ReadError Reading) : OlderRoute text (some <$> result) (some <$> result)
  | unknownPeriod {name : String} (asked : text = "rill-" ++ name) :
      OlderRoute text (.ok none) (.error (.unknownPeriod name))
  | unknown (other : ∀ name, text ≠ "rill-" ++ name) :
      OlderRoute text (.ok none) (.error (.invalidDuration text text))

theorem olderRoute (text : String) :
    OlderRoute text (ofOlder? text false) (ofOlder? text true) := by
  cases every : isEverything text with
  | true =>
      have result (strict : Bool) : ofOlder? text strict = some <$> .ok .everything := by
        rw [ofOlder?, every, if_pos rfl]
        rfl
      rw [result, result]
      exact .older _
  | false =>
      cases asked : Period.ofText? text with
      | none =>
          have unasked (name : String) : text ≠ "rill-" ++ name := by
            intro asks
            rw [Period.ofText?_eq_some_iff.mpr asks] at asked
            cases asked
          have result (strict : Bool) : ofOlder? text strict = ofDuration? text strict := by
            rw [ofOlder?, every, if_neg Bool.false_ne_true, asked]
          rw [result, result]
          unfold ofDuration?
          cases Duration.components? text.toList with
          | none => exact .unknown unasked
          | some components => exact .older _
      | some name =>
          cases known : Period.expansion? name with
          | none =>
              have lenient : ofOlder? text false = .ok none := by
                rw [ofOlder?, every, if_neg Bool.false_ne_true, asked]
                simp only [known, ofDuration?, Period.components?_of_ofText? asked]
                rfl
              have strict : ofOlder? text true = .error (.unknownPeriod name) := by
                rw [ofOlder?, every, if_neg Bool.false_ne_true, asked]
                simp only [known]
                rfl
              rw [lenient, strict]
              exact .unknownPeriod (Period.ofText?_eq_some_iff.mp asked)
          | some expansion =>
              have result (strict : Bool) : ofOlder? text strict = some <$> ofPeriod name expansion := by
                rw [ofOlder?, every, if_neg Bool.false_ne_true, asked]
                simp only [known]
              rw [result, result]
              exact .older _

end Reading

namespace Expression

variable {text : String}

theorem parseOlder?_eq_ok_none_iff {strict : Bool} :
    parseOlder? text strict = .ok none ↔ Reading.ofOlder? text strict = .ok none := by
  unfold parseOlder?
  rw [map_eq_ok_iff]
  constructor
  · rintro ⟨reading?, found, absent⟩
    rw [found, Option.map_eq_none_iff.mp absent]
  · intro found
    exact ⟨none, found, rfl⟩

/-- In strict reading a result stays as it is. -/
theorem parseOlder?_strict_of_found (found : parseOlder? text false ≠ .ok none) :
    parseOlder? text true = parseOlder? text false := by
  have route := Reading.olderRoute text
  rw [Ne, parseOlder?_eq_ok_none_iff] at found
  unfold parseOlder?
  generalize Reading.ofOlder? text false = lenient at route found
  generalize Reading.ofOlder? text true = strict at route
  cases route with
  | older result => rfl
  | unknownPeriod asked => exact absurd rfl found
  | unknown other => exact absurd rfl found

/-- In strict reading an error stands in place of no result. -/
theorem parseOlder?_strict_of_none (absent : parseOlder? text false = .ok none) :
    (∀ rest, text = "rill-" ++ rest → parseOlder? text true = .error (.unknownPeriod rest)) ∧
      ((∀ rest, text ≠ "rill-" ++ rest) →
        parseOlder? text true = .error (.invalidDuration text text)) := by
  have route := Reading.olderRoute text
  rw [parseOlder?_eq_ok_none_iff] at absent
  unfold parseOlder?
  generalize Reading.ofOlder? text false = lenient at route absent
  generalize Reading.ofOlder? text true = strict at route
  cases route with
  | older result =>
      obtain ⟨_, _, impossible⟩ := map_eq_ok_iff.mp absent
      cases impossible
  | @unknownPeriod name asked =>
      refine ⟨fun rest asks => ?_, fun other => absurd asked (other name)⟩
      have same : name = rest := (String.append_right_inj "rill-").mp (asked.symm.trans asks)
      rw [same]
      rfl
  | unknown other => exact ⟨fun rest asks => absurd asks (other rest), fun _ => rfl⟩

/-! ## Reading in any notation -/

/-- What is found in an older notation does not fit the grammar. -/
theorem ofGrammar_of_parseOlder? (found : parseOlder? text false ≠ .ok none) :
    ∃ misfit, ofGrammar text = .error (.unexpected misfit) := by
  have unread {tokens : List Token} (lexes : Lexes text tokens) : False :=
    found (parseOlder?_eq_ok_none_iff.mpr (Reading.ofOlder?_of_lexes lexes))
  cases read : ofGrammar text with
  | ok expression =>
      obtain ⟨_, lexes, _⟩ := exists_sentence_of_ofGrammar_eq_ok read
      exact (unread lexes).elim
  | error error =>
      rcases of_ofGrammar_eq_error read with ⟨misfit, rfl, _⟩ | ⟨_, _, _, lexes, _⟩
      · exact ⟨misfit, rfl⟩
      · exact (unread lexes).elim

/-- A text is misread as one of the grammar, or as a duration if it has the shape of one. -/
theorem cases_of_parse_eq_error {error : ReadError} (failed : parse text = .error error) :
    (∃ misfit, error = .unexpected misfit) ∨ (∃ name, error = .unknownZone name) ∨
      ∃ component components, error = .invalidDuration text component ∧
        Duration.IsDuration text.toList components := by
  have route := Reading.route text
  rw [map_eq_error_iff.mp failed] at route
  generalize same : Except.error error = result at route
  cases route with
  | everything => cases same
  | period asked listed =>
      obtain ⟨_, reserved⟩ := Reading.of_ofPeriod_eq_error listed same.symm
      exact .inl ⟨_, reserved⟩
  | duration found =>
      obtain ⟨component, invalid⟩ := Reading.of_ofComponents_eq_error same.symm
      exact .inr (.inr ⟨component, _, invalid, Duration.components?_eq_some_iff.mp found⟩)
  | grammar =>
      rcases of_ofGrammar_eq_error (map_eq_error_iff.mp same.symm) with
        ⟨misfit, unexpected, _⟩ | ⟨name, _, unknown, _⟩
      · exact .inl ⟨misfit, unexpected⟩
      · exact .inr (.inl ⟨name, unknown⟩)

/--
A text with a result in an older notation does not fit the grammar, whether the
result is an expression or an error, and strict reading gives the same result.
A text without one is an unknown period or an invalid duration in strict
reading. Reading in any notation never meets an unknown period, and an invalid
duration only in a text that has the shape of a duration.
-/
theorem parse_keeps_notations_apart (text : String) :
    (parseOlder? text false ≠ .ok none →
        (∃ misfit, ofGrammar text = .error (.unexpected misfit)) ∧
          parseOlder? text true = parseOlder? text false) ∧
      (parseOlder? text false = .ok none →
        (∀ rest, text = "rill-" ++ rest → parseOlder? text true = .error (.unknownPeriod rest)) ∧
          ((∀ rest, text ≠ "rill-" ++ rest) →
            parseOlder? text true = .error (.invalidDuration text text))) ∧
      (∀ name, parse text ≠ .error (.unknownPeriod name)) ∧
      ∀ subject component, parse text = .error (.invalidDuration subject component) →
        subject = text ∧ ∃ components, Duration.IsDuration text.toList components := by
  refine ⟨fun found => ⟨ofGrammar_of_parseOlder? found, parseOlder?_strict_of_found found⟩,
    parseOlder?_strict_of_none, ?_, ?_⟩
  · intro name failed
    rcases cases_of_parse_eq_error failed with ⟨_, same⟩ | ⟨_, same⟩ | ⟨_, _, same, _⟩ <;>
      cases same
  · intro subject component failed
    rcases cases_of_parse_eq_error failed with
      ⟨_, same⟩ | ⟨_, same⟩ | ⟨_, components, same, shaped⟩
    · cases same
    · cases same
    · cases same
      exact ⟨rfl, components, shaped⟩

/-- A reserved period is an error in any reading, and an unknown one only in strict reading. -/
theorem parse_keeps_periods_apart :
    parseOlder? "rill-PP" true = .error (.unexpected ⟨"PP", 5, 7⟩) ∧
      parseOlder? "rill-ABC" true = .error (.unknownPeriod "ABC") := by
  have reserved : parseOlder? "rill-PP" false = .error (.unexpected ⟨"PP", 5, 7⟩) := rfl
  have absent : parseOlder? "rill-ABC" false = .ok none := rfl
  constructor
  · rw [← reserved]
    exact ((parse_keeps_notations_apart "rill-PP").1 (by rw [reserved]; nofun)).2
  · exact ((parse_keeps_notations_apart "rill-ABC").2.1 absent).1 "ABC" rfl

end Expression

end TimeRange
