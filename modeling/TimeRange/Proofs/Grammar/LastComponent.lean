import TimeRange.Proofs.Grammar.Canonical
import TimeRange.Proofs.Grammar.Strictness

/-!
# What is kept of a duration

A text that has the shape of a duration is read as one, and no other text is. Its
components are gone through from the left, and the first number that no grain can
have is an error, even if a later component is the one to be kept. Otherwise the
last component is kept, as the grammar reads its number and its unit.

The main statement is `parseOlder?_keeps_last_component`.
-/

namespace TimeRange

open Text

namespace Duration

/-! ## Components and grains -/

namespace Component

variable {component : Component}

def number (component : Component) : Nat :=
  Decimal.value component.digits

def Fits (component : Component) : Prop :=
  (component.number : Int) ≤ greatestCount

instance (component : Component) : Decidable component.Fits :=
  inferInstanceAs (Decidable (_ ≤ _))

def grain (component : Component) : Grain :=
  ⟨some component.number, component.unit⟩

def text (component : Component) : String :=
  String.ofList (Decimal.natural component.number ++ [component.unit.letter])

theorem grain?_of_fits (fits : component.Fits) : component.grain? = some component.grain :=
  congrArg (Option.map _) (if_pos fits)

theorem grain?_of_not_fits (large : ¬ component.Fits) : component.grain? = none :=
  congrArg (Option.map _) (if_neg large)

end Component

variable {components before after : List Component} {component excessive : Component}

theorem grains_of_fits (fits : ∀ component ∈ components, component.Fits) :
    grains components = .ok (components.map Component.grain) := by
  induction components with
  | nil => rfl
  | cons component later ih =>
      rw [List.forall_mem_cons] at fits
      rw [grains, Component.grain?_of_fits fits.1, ih fits.2]
      rfl

/-- The first component that is too large is an error, whatever comes after it. -/
theorem grains_of_not_fits (fits : ∀ component ∈ before, component.Fits) (large : ¬ excessive.Fits) :
    grains (before ++ excessive :: after) = .error excessive := by
  induction before with
  | nil => rw [List.nil_append, grains, Component.grain?_of_not_fits large]
  | cons component later ih =>
      rw [List.forall_mem_cons] at fits
      rw [List.cons_append, grains, Component.grain?_of_fits fits.1, ih fits.2]
      rfl

namespace Component

theorem grain_text (component : Component) :
    component.grain.text = Decimal.natural component.number ++ [component.unit.letter] := by
  have positive : ¬ (component.number : Int) < 0 := Int.not_lt.mpr (Int.natCast_nonneg _)
  simp only [grain, Grain.text, Decimal.integer, if_neg positive, Int.natAbs_natCast]

theorem lexes_text (fits : component.Fits) :
    Lexes component.text (Sentence.tokens ⟨⟨.grain component.grain, none, none⟩, none, none, none⟩) := by
  have read : grains [component] = .ok [component.grain] :=
    grains_of_fits (List.forall_mem_singleton.mpr fits)
  have writable := writable_of_grains read component.grain List.mem_cons_self
  have found := (Grain.text_spells writable).finds [] nofun
  rw [List.append_nil, tokensOf_nil, List.append_nil, grain_text] at found
  rw [Lexes, text, String.toList_ofList, found]
  simp [Sentence.tokens, Token.leading, WrittenAnchor.tokens, WrittenBase.tokens]

/-- The grammar reads the number and the unit of a component as an anchor, with the present as the end. -/
theorem ofGrammar_text (fits : component.Fits) :
    Expression.ofGrammar component.text
      = .ok ⟨.ofBase (.grain component.grain), .now, none, none, false⟩ :=
  (Expression.ofGrammar_eq_ok_iff_denotes (lexes_text fits)).mpr
    ⟨⟨.grain component.grain, rfl, rfl⟩, ⟨.word .now, rfl, rfl⟩, rfl, .none, rfl⟩

end Component

/-! ## Texts that are durations -/

theorem IsDuration.exists_eq_cons {text : List Char} {components : List Component}
    (shaped : IsDuration text components) : ∃ rest, text = 'P' :: rest := by
  cases shaped with
  | date spelled => exact ⟨_, rfl⟩
  | dateTime dateSpelled timeSpelled => exact ⟨_, rfl⟩

end Duration

namespace Reading

variable {text : String} {components before after : List Duration.Component}
  {excessive last : Duration.Component}

/-- Whether a result in the older notations is one of a duration, be it an expression or an error. -/
def OfDuration (result : Except ReadError (Option Reading)) : Prop :=
  (∃ kept compound, result = .ok (some (.duration kept compound))) ∨
    ∃ subject component, result = .error (.invalidDuration subject component)

theorem ofOlder?_of_isDuration (shaped : Duration.IsDuration text.toList components) :
    ofOlder? text false = some <$> ofComponents text components := by
  have found := Duration.components?_eq_some_iff.mpr shaped
  have limited : isEverything text = false := by
    obtain ⟨rest, whole⟩ := shaped.exists_eq_cons
    rw [isEverything, whole]
    rfl
  have unasked : Period.ofText? text = none := by
    cases asked : Period.ofText? text with
    | none => rfl
    | some name =>
        rw [Period.components?_of_ofText? asked] at found
        cases found
  simp only [ofOlder?, ofDuration?, limited, unasked, found]
  rfl

theorem ofPeriod_ne_duration {name expansion : String} {kept : Grain} {compound : Bool} :
    ofPeriod name expansion ≠ .ok (.duration kept compound) := by
  intro read
  unfold ofPeriod at read
  split at read
  · cases read
  · obtain ⟨_, _, wrong⟩ := map_eq_ok_iff.mp read
    cases wrong

theorem exists_isDuration_of_ofDuration (older : OfDuration (ofOlder? text false)) :
    ∃ components, Duration.IsDuration text.toList components := by
  rcases older with ⟨kept, compound, read⟩ | ⟨subject, component, failed⟩
  · have route := route text
    rw [@ofText_of_older text (.ok (.duration kept compound)) read] at route
    generalize same : Except.ok (Reading.duration kept compound) = result at route
    cases route with
    | everything => cases same
    | period asked listed => exact absurd same.symm ofPeriod_ne_duration
    | duration found => exact ⟨_, Duration.components?_eq_some_iff.mp found⟩
    | grammar =>
        obtain ⟨_, _, wrong⟩ := map_eq_ok_iff.mp same.symm
        cases wrong
  · have unread : Expression.parse text = .error (.invalidDuration subject component) :=
      map_eq_error_iff.mpr
        (@ofText_of_older text (.error (.invalidDuration subject component)) failed)
    rcases Expression.cases_of_parse_eq_error unread with
      ⟨_, wrong⟩ | ⟨_, wrong⟩ | ⟨_, components, _, shaped⟩
    · cases wrong
    · cases wrong
    · exact ⟨components, shaped⟩

theorem ofDuration_map_ofComponents : OfDuration (some <$> ofComponents text components) := by
  unfold ofComponents
  cases Duration.grains components with
  | error component => exact .inr ⟨_, _, rfl⟩
  | ok grains =>
      dsimp only
      cases grains.getLast? with
      | none => exact .inr ⟨_, _, rfl⟩
      | some kept => exact .inl ⟨_, _, rfl⟩

theorem ofComponents_of_not_fits (fits : ∀ component ∈ before, component.Fits)
    (large : ¬ excessive.Fits) :
    ofComponents text (before ++ excessive :: after)
      = .error (.invalidDuration text (String.ofList excessive.digits)) := by
  rw [ofComponents, Duration.grains_of_not_fits fits large]

theorem ofComponents_of_fits (fits : ∀ component ∈ before ++ [last], component.Fits) :
    ofComponents text (before ++ [last])
      = .ok (.duration last.grain (1 < (before ++ [last]).length)) := by
  rw [ofComponents, Duration.grains_of_fits fits]
  simp

end Reading

namespace Expression

/--
A text is read as a duration exactly if it has the shape of one. Without a component
it is an invalid duration, and so it is with a component that is too large for a
grain, of which the first is blamed, even if it is not the last one. Otherwise the
last component is kept, and the expression is the one that the grammar reads from
its number and its unit, save that it is not marked as one of the grammar.
-/
theorem parseOlder?_keeps_last_component (text : String) :
    (Reading.OfDuration (Reading.ofOlder? text false) ↔
        ∃ components, Duration.IsDuration text.toList components) ∧
      (Duration.IsDuration text.toList [] →
        parseOlder? text false = .error (.invalidDuration text "")) ∧
      (∀ before excessive after, Duration.IsDuration text.toList (before ++ excessive :: after) →
        (∀ component ∈ before, component.Fits) → ¬ excessive.Fits →
          parseOlder? text false
            = .error (.invalidDuration text (String.ofList excessive.digits))) ∧
      ∀ before last, Duration.IsDuration text.toList (before ++ [last]) →
        (∀ component ∈ before ++ [last], component.Fits) →
          ∃ expression, ofGrammar last.text = .ok expression ∧
            parse last.text = .ok { expression with grammatical := true } ∧
            parseOlder? text false = .ok (some { expression with grammatical := false }) := by
  refine ⟨⟨Reading.exists_isDuration_of_ofDuration, ?_⟩, ?_, ?_, ?_⟩
  · rintro ⟨components, shaped⟩
    rw [Reading.ofOlder?_of_isDuration shaped]
    exact Reading.ofDuration_map_ofComponents
  · intro shaped
    rw [parseOlder?, Reading.ofOlder?_of_isDuration shaped]
    rfl
  · intro before excessive after shaped fits large
    rw [parseOlder?, Reading.ofOlder?_of_isDuration shaped,
      Reading.ofComponents_of_not_fits fits large]
    rfl
  · intro before last shaped fits
    have lastFits := fits last (by simp)
    have read := Duration.Component.ofGrammar_text lastFits
    refine ⟨_, read, ?_, ?_⟩
    · rw [parse_of_lexes (Duration.Component.lexes_text lastFits), read]
      rfl
    · rw [parseOlder?, Reading.ofOlder?_of_isDuration shaped, Reading.ofComponents_of_fits fits]
      rfl

/--
Of a day and six hours the hours are kept, without the zeros in front. Too many months
are an error, although the days are the last component.
-/
theorem parseOlder?_keeps_last_component_of_hours :
    (∃ expression, ofGrammar "6h" = .ok expression ∧
        parse "6h" = .ok { expression with grammatical := true } ∧
        parseOlder? "P1DT006H" false = .ok (some { expression with grammatical := false })) ∧
      parseOlder? "P1Y2147483648M2D" false
        = .error (.invalidDuration "P1Y2147483648M2D" "2147483648") := by
  constructor
  · exact (parseOlder?_keeps_last_component "P1DT006H").2.2.2 [⟨['1'], .day⟩] ⟨['0', '0', '6'], .hour⟩
      (Duration.components?_eq_some_iff.mp (by decide +kernel)) (by decide +kernel)
  · exact (parseOlder?_keeps_last_component "P1Y2147483648M2D").2.2.1 [⟨['1'], .year⟩]
      ⟨"2147483648".toList, .month⟩ [⟨['2'], .day⟩]
      (Duration.components?_eq_some_iff.mp (by decide +kernel)) (by decide +kernel)
      (by decide +kernel)

end Expression

end TimeRange
