import TimeRange.Expression.Reading
import TimeRange.Proofs.Grammar.Acceptance

/-!
# Notations of a text

A text is read in one of four notations, and `Reading.route` says in which. A
text that has the tokens of the grammar is in none of the older three, since no
token begins with the letter that one of them begins with; this is
`Expression.parse_of_lexes`. The expressions that periods stand for are such texts,
by `Expression.parse_expansion`.
-/

namespace TimeRange

/-! ## In which notation a text is read -/

namespace Period

theorem mem_of_expansion? {name expansion : String} (known : expansion? name = some expansion) :
    (name, expansion) ∈ names := by
  obtain ⟨before, after, parts, _⟩ := List.lookup_eq_some_iff.mp known
  rw [parts]
  exact List.mem_append_right _ List.mem_cons_self

theorem eq_append_of_ofText? {text name : String} (asked : ofText? text = some name) :
    text = "rill-" ++ name := by
  unfold ofText? at asked
  split at asked
  · rename_i marked
    obtain ⟨rest, parts⟩ := List.isPrefixOf_iff_prefix.mp marked
    cases asked
    have whole := String.ofList_toList (s := text)
    rw [← parts, String.ofList_append] at whole
    rw [← parts, List.drop_left]
    exact whole.symm
  · cases asked

/-- Every expansion of a named period is an expression of the grammar. -/
theorem ofGrammar_expansion {entry : String × String} (listed : entry ∈ names)
    (proper : entry.2.isEmpty = false) : ∃ expression, Expression.ofGrammar entry.2 = .ok expression := by
  have each : ∀ entry ∈ names,
      entry.2.isEmpty = false → (Expression.ofGrammar entry.2).toOption.isSome = true := by
    decide +kernel
  have found := each entry listed proper
  cases read : Expression.ofGrammar entry.2 with
  | error failure =>
      rw [read] at found
      cases found
  | ok expression => exact ⟨expression, rfl⟩

end Period

/-- The notations that a text can be in, each with what is read in it. -/
inductive Reading.Route (text : String) : Except ReadError Reading → Prop where
  | everything : Route text (.ok .everything)
  | period {name expansion : String} (asked : text = "rill-" ++ name)
      (listed : (name, expansion) ∈ Period.names) : Route text (ofPeriod name expansion)
  | duration {components : List Duration.Component}
      (found : Duration.components? text.toList = some components) :
      Route text (ofComponents text components)
  | grammar : Route text (.sentence <$> Expression.ofGrammar text)

namespace Reading

variable {text : String}

theorem ofText_of_older {result : Except ReadError Reading}
    (older : ofOlder? text false = some <$> result) : ofText text = result := by
  unfold ofText
  rw [older]
  cases result <;> rfl

theorem ofText_of_no_older (older : ofOlder? text false = .ok none) :
    ofText text = .sentence <$> Expression.ofGrammar text := by
  unfold ofText
  rw [older]

/-- A text that is left to the durations is read as one, or by the grammar. -/
theorem route_of_ofDuration? (older : ofOlder? text false = ofDuration? text false) :
    Route text (ofText text) := by
  unfold ofDuration? at older
  cases found : Duration.components? text.toList with
  | none =>
      rw [found] at older
      rw [ofText_of_no_older older]
      exact .grammar
  | some components =>
      rw [found] at older
      rw [ofText_of_older older]
      exact .duration found

theorem route (text : String) : Route text (ofText text) := by
  cases every : isEverything text with
  | true =>
      have older : ofOlder? text false = some <$> .ok .everything := by
        rw [ofOlder?, every, if_pos rfl]
        rfl
      rw [ofText_of_older older]
      exact .everything
  | false =>
      cases asked : Period.ofText? text with
      | none =>
          refine route_of_ofDuration? ?_
          rw [ofOlder?, every, if_neg Bool.false_ne_true, asked]
      | some name =>
          cases known : Period.expansion? name with
          | none =>
              refine route_of_ofDuration? ?_
              rw [ofOlder?, every, if_neg Bool.false_ne_true, asked]
              simp only [known]
              rfl
          | some expansion =>
              have older : ofOlder? text false = some <$> ofPeriod name expansion := by
                rw [ofOlder?, every, if_neg Bool.false_ne_true, asked]
                simp only [known]
              rw [ofText_of_older older]
              exact .period (Period.eq_append_of_ofText? asked) (Period.mem_of_expansion? known)

end Reading

/-! ## Texts of the grammar -/

theorem eq_of_toLower_eq {character : Char} (lower : character.toLower = 'i') :
    character = 'i' ∨ character = 'I' := by
  unfold Char.toLower at lower
  split at lower
  · rename_i capital
    have code : character.val + ('a'.val - 'A'.val) = 'i'.val := congrArg Char.val lower
    have shifted : character.val = 'I'.val := by
      have difference : 'i'.val - ('a'.val - 'A'.val) = 'I'.val := by decide
      rw [← difference, ← code, UInt32.add_sub_cancel]
    exact .inr (Char.ext shifted)
  · exact .inl lower

/-- No token begins with the first letter of one of the older notations. -/
theorem Lexes.head?_ne {text : String} {tokens : List Token} (lexes : Lexes text tokens) :
    ∀ first ∈ text.toList.head?, first ≠ 'i' ∧ first ≠ 'I' ∧ first ≠ 'r' ∧ first ≠ 'P' := by
  intro first starts
  obtain ⟨rest, whole⟩ := List.head?_eq_some_iff.mp starts
  have absent {rest : List Char} {letter : Char} (stands : isSeparator letter = false)
      (unknown : (Match.next (letter :: rest)).token? = none) (same : text.toList = letter :: rest) :
      False := by
    rw [Lexes, same, tokensOf_piece stands, unknown] at lexes
    cases tokens <;> cases lexes
  refine ⟨?_, ?_, ?_, ?_⟩ <;> rintro rfl <;> exact absent rfl rfl whole

namespace Reading

/-- A text that has the tokens of the grammar is in none of the older notations. -/
theorem ofOlder?_of_lexes {text : String} {tokens : List Token} (lexes : Lexes text tokens) :
    ofOlder? text false = .ok none := by
  have starts := lexes.head?_ne
  have notEverything : isEverything text = false := by
    cases spelled : isEverything text with
    | false => rfl
    | true =>
        unfold isEverything at spelled
        obtain ⟨first, rest, whole, lower, _⟩ := List.map_eq_cons_iff.mp (eq_of_beq spelled)
        have other := starts first (by rw [whole]; rfl)
        rcases eq_of_toLower_eq lower with rfl | rfl
        · exact absurd rfl other.1
        · exact absurd rfl other.2.1
  have notPeriod : Period.ofText? text = none := by
    unfold Period.ofText?
    rw [if_neg]
    intro marked
    obtain ⟨rest, whole⟩ := List.isPrefixOf_iff_prefix.mp marked
    exact (starts 'r' (by rw [← whole]; rfl)).2.2.1 rfl
  have notDuration : Duration.components? text.toList = none := by
    unfold Duration.components?
    split
    · rename_i rest whole
      exact absurd rfl (starts 'P' (by rw [whole]; rfl)).2.2.2
    · rfl
  unfold ofOlder? ofDuration?
  rw [notEverything, notPeriod, notDuration]
  rfl

end Reading

namespace Expression

/-- A text that has the tokens of the grammar is read by the grammar. -/
theorem parse_of_lexes {text : String} {tokens : List Token} (lexes : Lexes text tokens) :
    parse text = marked <$> ofGrammar text := by
  unfold parse Reading.ofText
  rw [Reading.ofOlder?_of_lexes lexes]
  cases ofGrammar text <;> rfl

/-- It is read through the draft of its tokens. -/
theorem parse_of_draft {text : String} {tokens : List Token} {draft : Draft}
    (lexes : Lexes text tokens) (drafted : Grammar.draft (tokens.map some) = .ok (draft, [])) :
    parse text = marked <$> draft.expression := by
  rw [← lexes, tokensOf] at drafted
  rw [parse_of_lexes lexes]
  unfold ofGrammar
  simp only [drafted]

/--
No expansion of a period is in an older notation. So it would be read alike in any
notation, though a period asks the grammar for it at once.
-/
theorem parse_expansion {name expansion : String} (listed : (name, expansion) ∈ Period.names)
    (proper : expansion.isEmpty = false) :
    parse expansion = Reading.expression <$> Reading.ofPeriod name expansion := by
  obtain ⟨expression, read⟩ := Period.ofGrammar_expansion listed proper
  obtain ⟨sentence, lexes, _⟩ := exists_sentence_of_ofGrammar_eq_ok read
  rw [parse_of_lexes lexes, Reading.ofPeriod, proper, read]
  rfl

end Expression

end TimeRange
