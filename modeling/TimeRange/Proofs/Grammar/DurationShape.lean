import TimeRange.Expression.Duration
import TimeRange.Proofs.Grammar.Lexeme

/-!
# Which texts are durations

The shape of a duration is given by the texts that have it: components in the
order of the designators, of which any may be missing. Components are read by
going through the designators once. That finds all of them, since a run of
digits tells by the letter after it which designator it belongs to.

The main statement is `components?_eq_some_iff`.
-/

namespace TimeRange.Duration

/-! ## Components in order -/

/-- The components that a text spells, each with a designator of its own, in the order of the designators. -/
inductive Spelled : List (Char × TimeUnit) → List Component → List Char → Prop where
  | nil : Spelled [] [] []
  /-- A designator that is not used. -/
  | skip {designators : List (Char × TimeUnit)} {components : List Component} {text : List Char}
      (entry : Char × TimeUnit) (later : Spelled designators components text) :
      Spelled (entry :: designators) components text
  | take {designators : List (Char × TimeUnit)} {components : List Component} {digits text : List Char}
      (entry : Char × TimeUnit) (proper : digits ≠ [])
      (numeral : ∀ digit ∈ digits, digit.isDigit = true)
      (later : Spelled designators components text) :
      Spelled (entry :: designators) (⟨digits, entry.2⟩ :: components) (digits ++ entry.1 :: text)

/-- The components of a text that has the shape of a duration. -/
inductive IsDuration : List Char → List Component → Prop where
  | date {components : List Component} {text : List Char}
      (spelled : Spelled dateDesignators components text) : IsDuration ('P' :: text) components
  | dateTime {date time : List Component} {dateText timeText : List Char}
      (dateSpelled : Spelled dateDesignators date dateText)
      (timeSpelled : Spelled timeDesignators time timeText) :
      IsDuration ('P' :: (dateText ++ 'T' :: timeText)) (date ++ time)

variable {designators : List (Char × TimeUnit)} {components : List Component}
  {digits text rest : List Char}

/-! ## Going through the designators -/

/-- A run of digits before the next designator is a component. -/
theorem readComponents_take (entry : Char × TimeUnit) (letter : entry.1.isDigit = false)
    (proper : digits ≠ []) (numeral : ∀ digit ∈ digits, digit.isDigit = true) :
    readComponents (entry :: designators) (digits ++ entry.1 :: rest)
      = (⟨digits, entry.2⟩ :: (readComponents designators rest).1,
          (readComponents designators rest).2) := by
  have ends : ∀ character ∈ (entry.1 :: rest).head?, character.isDigit = false := by
    intro character member
    cases member
    exact letter
  obtain ⟨first, others, rfl⟩ := List.exists_cons_of_ne_nil proper
  simp only [readComponents, Text.Decimal.takeWhile_isDigit numeral ends,
    Text.Decimal.dropWhile_isDigit numeral ends, if_true]

/-- A designator is passed over if it does not stand after the digits, or there are no digits. -/
theorem readComponents_skip (entry : Char × TimeUnit)
    (absent : text.takeWhile Char.isDigit = [] ∨ (text.dropWhile Char.isDigit).head? ≠ some entry.1) :
    readComponents (entry :: designators) text = readComponents designators text := by
  rw [readComponents]
  dsimp only
  split
  · rename_i first others letter rest taken dropped
    rw [taken, dropped] at absent
    rw [if_neg]
    rintro rfl
    rcases absent with none_ | other
    · cases none_
    · exact other rfl
  · rfl

/-- A text begins with digits and a designator, or the designator is passed over. -/
theorem begins_or_passes (entry : Char × TimeUnit) (text : List Char) :
    (∃ digits rest, text = digits ++ entry.1 :: rest ∧ entry.1.isDigit = false ∧ digits ≠ [] ∧
        ∀ digit ∈ digits, digit.isDigit = true) ∨
      (text.takeWhile Char.isDigit = [] ∨ (text.dropWhile Char.isDigit).head? ≠ some entry.1) := by
  by_cases none_ : text.takeWhile Char.isDigit = []
  · exact .inr (.inl none_)
  by_cases other : (text.dropWhile Char.isDigit).head? = some entry.1
  · obtain ⟨rest, dropped⟩ := List.head?_eq_some_iff.mp other
    have rejoined := List.takeWhile_append_dropWhile (p := Char.isDigit) (l := text)
    have stops := List.head?_dropWhile_not Char.isDigit text
    rw [other] at stops
    rw [dropped] at rejoined
    refine .inl ⟨_, rest, rejoined.symm, by simpa using stops, none_, ?_⟩
    exact fun digit member => List.all_eq_true.mp List.all_takeWhile digit member
  · exact .inr (.inr other)

theorem spelled_readComponents (designators : List (Char × TimeUnit)) (text : List Char) :
    ∃ used, text = used ++ (readComponents designators text).2 ∧
      Spelled designators (readComponents designators text).1 used := by
  induction designators generalizing text with
  | nil => exact ⟨[], rfl, .nil⟩
  | cons entry later ih =>
      rcases begins_or_passes entry text with ⟨digits, rest, rfl, letter, proper, numeral⟩ | absent
      · obtain ⟨used, parts, spelled⟩ := ih rest
        rw [readComponents_take entry letter proper numeral]
        refine ⟨digits ++ entry.1 :: used, ?_, .take entry proper numeral spelled⟩
        rw [List.append_assoc, List.cons_append, ← parts]
      · obtain ⟨used, parts, spelled⟩ := ih text
        rw [readComponents_skip entry absent]
        exact ⟨used, parts, .skip entry spelled⟩

theorem Spelled.begins (spelled : Spelled designators components text) :
    text = [] ∨ ∃ digits entry rest, entry ∈ designators ∧ text = digits ++ entry.1 :: rest ∧
      ∀ digit ∈ digits, digit.isDigit = true := by
  induction spelled with
  | nil => exact .inl rfl
  | skip entry later ih =>
      rcases ih with empty | ⟨digits, other, rest, listed, begins⟩
      · exact .inl empty
      · exact .inr ⟨digits, other, rest, List.mem_cons_of_mem _ listed, begins⟩
  | take entry proper numeral later ih =>
      exact .inr ⟨_, entry, _, List.mem_cons_self, rfl, numeral⟩

/-- All that a text spells is read off it, if no digit follows. -/
theorem Spelled.readComponents_append (spelled : Spelled designators components text)
    (distinct : (designators.map Prod.fst).Nodup)
    (letters : ∀ entry ∈ designators, entry.1.isDigit = false)
    (ends : ∀ character ∈ rest.head?, character.isDigit = false) :
    readComponents designators (text ++ rest) = (components, rest) := by
  induction spelled with
  | nil => rfl
  | @skip designators components text entry later ih =>
      rw [List.map_cons, List.nodup_cons] at distinct
      rw [readComponents_skip entry]
      · exact ih distinct.2 fun other listed => letters other (List.mem_cons_of_mem _ listed)
      rcases later.begins with rfl | ⟨digits, other, behind, listed, rfl, numeral⟩
      · exact .inl (@Text.Decimal.takeWhile_isDigit [] rest (by simp) ends)
      · refine .inr ?_
        have letter : ∀ character ∈ (other.1 :: (behind ++ rest)).head?, character.isDigit = false := by
          intro character member
          cases member
          exact letters other (List.mem_cons_of_mem _ listed)
        rw [List.append_assoc, List.cons_append, Text.Decimal.dropWhile_isDigit numeral letter]
        intro same
        have equal : other.1 = entry.1 := Option.some.inj same
        exact distinct.1 (equal ▸ List.mem_map_of_mem listed)
  | @take designators components digits text entry proper numeral later ih =>
      rw [List.map_cons, List.nodup_cons] at distinct
      have found := ih distinct.2 fun other listed => letters other (List.mem_cons_of_mem _ listed)
      rw [List.append_assoc, List.cons_append,
        readComponents_take entry (letters entry List.mem_cons_self) proper numeral, found]

/-! ## Durations -/

/-- A text is read as a duration exactly if it has the shape of one. -/
theorem components?_eq_some_iff :
    components? text = some components ↔ IsDuration text components := by
  constructor
  · intro found
    unfold components? at found
    split at found
    · rename_i text
      obtain ⟨dateText, parts, dateSpelled⟩ := spelled_readComponents dateDesignators text
      generalize readComponents dateDesignators text = read at found parts dateSpelled
      rcases read with ⟨date, rest⟩
      dsimp only at found parts dateSpelled
      subst parts
      split at found
      · cases found
        rw [List.append_nil]
        exact .date dateSpelled
      · rename_i rest
        obtain ⟨timeText, parts, timeSpelled⟩ := spelled_readComponents timeDesignators rest
        generalize readComponents timeDesignators rest = read at found parts timeSpelled
        rcases read with ⟨time, behind⟩
        dsimp only at found parts timeSpelled
        subst parts
        split at found
        · rename_i finished
          cases found
          rw [List.isEmpty_iff.mp finished, List.append_nil]
          exact .dateTime dateSpelled timeSpelled
        · cases found
      · cases found
    · cases found
  · intro shaped
    cases shaped with
    | date spelled =>
        have found := @Spelled.readComponents_append _ _ _ [] spelled (by decide) (by decide) nofun
        rw [List.append_nil] at found
        simp only [components?, found]
    | @dateTime date time dateText timeText dateSpelled timeSpelled =>
        have dateFound := @Spelled.readComponents_append _ _ _ ('T' :: timeText) dateSpelled
          (by decide) (by decide) (by simp)
        have timeFound := @Spelled.readComponents_append _ _ _ [] timeSpelled
          (by decide) (by decide) nofun
        rw [List.append_nil] at timeFound
        simp only [components?, dateFound, timeFound]
        rfl

end TimeRange.Duration
