import TimeRange.Proofs.Grammar.Lexeme
import TimeRange.Proofs.Grammar.Progress

/-!
# What the grammar accepts

The parser reads the tokens of every sentence whose dates exist. Together with
`Grammar.draft_follows`, that it reads nothing else, this determines which
texts are expressions of the grammar and what they stand for.
-/

namespace TimeRange

open Calendar Text

/-! ## Every sentence is read -/

namespace Grammar

variable {α : Type}

theorem rel_refl (part? : Option α) : Option.Rel Eq part? part? := by
  cases part? with
  | none => exact .none
  | some part => exact .some rfl

theorem optional_of_starts {starts : List (Option Token) → Bool} {part : Grammar α}
    {tokens rest : List (Option Token)} {value : α} (found : starts tokens = true)
    (read : part tokens = .ok (value, rest)) :
    optional starts part tokens = .ok (some value, rest) := by
  unfold optional
  rw [branch_apply, found, if_pos rfl]
  exact map_of_ok read some

theorem optional_of_not_starts {starts : List (Option Token) → Bool} {part : Grammar α}
    {tokens : List (Option Token)} (absent : starts tokens = false) :
    optional starts part tokens = .ok (none, tokens) := by
  unfold optional
  rw [branch_apply, absent, if_neg Bool.false_ne_true]
  rfl

theorem mark_reads (token : Token) (rest : List (Option Token)) :
    mark token (some token :: rest) = .ok ((), rest) := by
  unfold mark
  rw [token.startsWith_mark, if_pos rfl]
  rfl

/-- A part that may be missing is read if its presence shows in its first token. -/
theorem optional_reads {Written : Type} {tokens : Written → List Token}
    {relates : Written → α → Prop} {written? : Option Written} {value? : Option α}
    {starts : List (Option Token) → Bool} {part : Grammar α} {rest : List (Option Token)}
    (related : Option.Rel relates written? value?)
    (begins : ∀ written more, starts ((tokens written).map some ++ more) = true)
    (reads : ∀ written value, relates written value →
      part ((tokens written).map some ++ rest) = .ok (value, rest))
    (ends : starts rest = false) :
    optional starts part ((written?.elim [] tokens).map some ++ rest) = .ok (value?, rest) := by
  cases related with
  | none => exact optional_of_not_starts ends
  | some holds => exact optional_of_starts (begins _ _) (reads _ _ holds)

theorem after_reads {Written : Type} {tokens : Written → List Token}
    {relates : Written → α → Prop} {written? : Option Written} {value? : Option α}
    {part : Grammar α} {rest : List (Option Token)} (token : Token)
    (related : Option.Rel relates written? value?)
    (reads : ∀ written value, relates written value →
      part ((tokens written).map some ++ rest) = .ok (value, rest))
    (ends : startsWith token rest = false) :
    after token part ((token.leading tokens written?).map some ++ rest) = .ok (value?, rest) := by
  refine optional_reads related (fun _ _ => token.startsWith_mark _) ?_ ends
  intro written value holds
  exact (bind_of_ok (mark_reads token _) _).trans (reads written value holds)

theorem grain_reads (step : Grain) (rest : List (Option Token)) :
    grain (step.tokens.map some ++ rest) = .ok (step, rest) := by
  rcases step with ⟨count?, unit⟩
  cases count? <;> rfl

theorem base_reads {written : WrittenBase} {value : Base} (denotes : written.Denotes value)
    (rest : List (Option Token)) : base (written.tokens.map some ++ rest) = .ok (value, rest) := by
  unfold base
  rw [branch_apply]
  cases denotes with
  | grain step =>
      rw [show (WrittenBase.grain step).tokens = step.tokens from rfl, step.startsGrain_tokens,
        if_pos rfl]
      exact map_of_ok (grain_reads step rest) Base.grain
  | @word single _ found =>
      rw [show (WrittenBase.word single).tokens.map some ++ rest = some single.token :: rest from rfl,
        single.startsGrain_token, if_neg Bool.false_ne_true]
      simp only [tokenBase, baseOfToken?_token_iff.mpr found]

theorem anchor_reads {written : WrittenAnchor} {value : Anchor} (denotes : written.Denotes value)
    {rest : List (Option Token)} (ends : EndsAnchor rest) :
    anchor (written.tokens.map some ++ rest) = .ok (value, rest) := by
  rcases value with ⟨base, move?, truncation?⟩
  obtain ⟨baseDenotes, rfl, rfl⟩ := denotes
  have noGrain : startsGrain
      ((Token.slash.leading (fun unit => [.unit unit]) written.truncation?).map some ++ rest)
        = false := by
    cases written.truncation? with
    | none => exact ends.1
    | some unit => rfl
  have moved := optional_reads (rel_refl written.move?) Grain.startsGrain_tokens
    (by rintro step _ rfl; exact grain_reads step _) noGrain
  have truncated : after .slash unit
      ((Token.slash.leading (fun unit => [.unit unit]) written.truncation?).map some ++ rest)
        = .ok (written.truncation?, rest) :=
    after_reads .slash (rel_refl _) (by rintro unit _ rfl; rfl) ends.2
  rw [WrittenAnchor.tokens, List.append_assoc, List.map_append, List.map_append, List.append_assoc,
    List.append_assoc]
  refine (bind_of_ok (base_reads baseDenotes _) _).trans ?_
  refine (bind_of_ok moved _).trans ?_
  exact bind_of_ok truncated _

theorem rounding_reads (value : Rounding) (rest : List (Option Token)) :
    rounding (value.tokens.map some ++ rest) = .ok (value, rest) := by
  unfold rounding
  rw [branch_apply]
  cases value with
  | running step =>
      have noPipe : startsWith .pipe (step.tokens.map some ++ rest) = false := by
        rcases step with ⟨count?, unit⟩
        cases count? <;> rfl
      rw [show (Rounding.running step).tokens = step.tokens from rfl, noPipe,
        if_neg Bool.false_ne_true]
      exact bind_of_ok (grain_reads step rest) _
  | complete step =>
      have tokens : (Rounding.complete step).tokens.map some ++ rest
          = some .pipe :: (step.tokens.map some ++ some .pipe :: rest) := by
        simp [Rounding.tokens]
      rw [tokens, Token.pipe.startsWith_mark, if_pos rfl]
      refine (bind_of_ok (mark_reads .pipe _) _).trans ?_
      refine (bind_of_ok (grain_reads step _) _).trans ?_
      exact bind_of_ok (mark_reads .pipe rest) _

theorem viewpoint_reads {written : WrittenViewpoint} {value : Option Anchor × Option String}
    (drafts : written.Drafts value) :
    viewpoint (written.tokens.map some) = .ok (value, []) := by
  rcases value with ⟨asOf?, name?⟩
  obtain ⟨denotes, rfl⟩ := drafts
  have ends : EndsAnchor ((written.zone?.elim [] fun name => [.zone name]).map some)
      ∧ startsAnchor ((written.zone?.elim [] fun name => [.zone name]).map some) = false := by
    cases written.zone? <;> exact ⟨⟨rfl, rfl⟩, rfl⟩
  have anchored := optional_reads denotes WrittenAnchor.startsAnchor_tokens
    (fun _ _ found => anchor_reads found ends.1) ends.2
  rw [WrittenViewpoint.tokens, List.map_append]
  refine (bind_of_ok anchored _).trans ?_
  cases written.zone? <;> rfl

/-- The parser of whole expressions reads every sentence whose dates exist. -/
theorem draft_reads {sentence : Sentence} {value : Draft} (drafts : sentence.Drafts value) :
    draft (sentence.tokens.map some) = .ok (value, []) := by
  rcases value with ⟨start, stop?, rounding?, viewpoint?⟩
  obtain ⟨startDenotes, stopDenotes, rfl, viewpointDrafts⟩ := drafts
  have stops := after_reads .comma stopDenotes
    (fun _ _ found => anchor_reads found (Sentence.endsAnchor_afterStop _ _))
    (Sentence.startsWith_comma_afterStop sentence.rounding? sentence.viewpoint?)
  have rounds := after_reads .colon (rel_refl sentence.rounding?)
    (by rintro rounding _ rfl; exact rounding_reads rounding _)
    (Sentence.startsWith_colon_viewpoint sentence.viewpoint?)
  have viewpoints : after .atSign viewpoint
      ((Token.atSign.leading WrittenViewpoint.tokens sentence.viewpoint?).map some ++ [])
        = .ok (viewpoint?, []) :=
    after_reads .atSign viewpointDrafts
      (fun _ _ found => by rw [List.append_nil]; exact viewpoint_reads found) rfl
  rw [List.append_nil] at viewpoints
  rw [Sentence.tokens_eq, List.map_append]
  refine (bind_of_ok (anchor_reads startDenotes (Sentence.endsAnchor_afterStart _ _ _)) _).trans ?_
  rw [Sentence.tokensAfterStart, List.map_append]
  refine (bind_of_ok stops _).trans ?_
  rw [Sentence.tokensAfterStop, List.map_append]
  refine (bind_of_ok rounds _).trans ?_
  refine (bind_of_ok viewpoints _).trans ?_
  rfl

theorem bind_eq_ok_iff {β : Type} {parser : Grammar α} {next : α → Grammar β}
    {tokens rest : List (Option Token)} {result : β} :
    (parser >>= next) tokens = .ok (result, rest) ↔
      ∃ value middle, parser tokens = .ok (value, middle) ∧ next value middle = .ok (result, rest) := by
  rw [bind_apply]
  constructor
  · intro read
    split at read
    · rename_i value middle first
      exact ⟨value, middle, first, read⟩
    · cases read
  · rintro ⟨value, middle, first, second⟩
    rw [first]
    exact second

theorem rest_of_draft {tokens rest : List (Option Token)} {value : Draft}
    (read : draft tokens = .ok (value, rest)) : rest = [] := by
  obtain ⟨_, _, _, read⟩ := bind_eq_ok_iff.mp read
  obtain ⟨_, _, _, read⟩ := bind_eq_ok_iff.mp read
  obtain ⟨_, _, _, read⟩ := bind_eq_ok_iff.mp read
  obtain ⟨_, _, _, read⟩ := bind_eq_ok_iff.mp read
  obtain ⟨_, remaining, finished, read⟩ := bind_eq_ok_iff.mp read
  cases read
  unfold finish at finished
  split at finished
  · cases finished
    rfl
  · cases finished

end Grammar

/-! ## From a draft to an expression -/

namespace Sentence

theorem exists_drafts_iff (sentence : Sentence) :
    (∃ draft, sentence.Drafts draft) ↔ ∀ token ∈ sentence.tokens, token.Exists := by
  rw [forall_exists_iff]
  constructor
  · rintro ⟨draft, start, stop, _, viewpoint⟩
    have stops := exists_rel_iff.mp ⟨_, stop⟩
    have viewpoints := exists_rel_iff.mp ⟨_, viewpoint⟩
    refine ⟨sentence.start.exists_denotes_iff.mp ⟨_, start⟩, ?_, ?_⟩
    · exact fun written found => written.exists_denotes_iff.mp (stops written found)
    · intro written found
      obtain ⟨_, asOf, _⟩ := viewpoints written found
      refine written.forall_exists_iff.mpr fun anchor named => ?_
      exact anchor.exists_denotes_iff.mp (exists_rel_iff.mp ⟨_, asOf⟩ anchor named)
  · rintro ⟨starts, stops, viewpoints⟩
    obtain ⟨start, startDenotes⟩ := sentence.start.exists_denotes_iff.mpr starts
    obtain ⟨stop?, stopDenotes⟩ := exists_rel_iff.mpr fun (written : WrittenAnchor) found =>
      written.exists_denotes_iff.mpr (stops written found)
    obtain ⟨viewpoint?, viewpointDrafts⟩ :
        ∃ viewpoint?, Option.Rel WrittenViewpoint.Drafts sentence.viewpoint? viewpoint? := by
      refine exists_rel_iff.mpr fun written found => ?_
      obtain ⟨asOf?, asOf⟩ := exists_rel_iff.mpr fun (anchor : WrittenAnchor) named =>
        anchor.exists_denotes_iff.mpr
          (written.forall_exists_iff.mp (viewpoints written found) anchor named)
      exact ⟨(asOf?, written.zone?), asOf, rfl⟩
    exact ⟨⟨start, stop?, sentence.rounding?, viewpoint?⟩, startDenotes, stopDenotes, rfl,
      viewpointDrafts⟩

end Sentence

theorem Viewpoint.ofNamed_eq_ok_iff {asOf? : Option Anchor} {name? : Option String}
    {viewpoint : Viewpoint} :
    Viewpoint.ofNamed asOf? name? = .ok viewpoint ↔
      viewpoint.asOf? = asOf? ∧
        Option.Rel (fun name zone => zone ∈ NamedZone.catalogue ∧ zone.name = name)
          name? viewpoint.zone? := by
  rcases viewpoint with ⟨foundAsOf?, zone?⟩
  cases name? with
  | none =>
      constructor
      · intro found
        cases found
        exact ⟨rfl, .none⟩
      · rintro ⟨rfl, zones⟩
        cases zones
        rfl
  | some name =>
      constructor
      · intro found
        unfold ofNamed at found
        dsimp only at found
        split at found
        · rename_i zone known
          cases found
          exact ⟨rfl, .some (NamedZone.ofName?_eq_some_iff.mp known)⟩
        · cases found
      · rintro ⟨rfl, zones⟩
        cases zones with
        | some known =>
            simp only [ofNamed, NamedZone.ofName?_eq_some_iff.mpr known]

theorem Viewpoint.of_ofNamed_eq_error {asOf? : Option Anchor} {name? : Option String}
    {error : ReadError} (failed : Viewpoint.ofNamed asOf? name? = .error error) :
    ∃ name ∈ name?, error = .unknownZone name := by
  cases name? with
  | none => cases failed
  | some name =>
      unfold ofNamed at failed
      dsimp only at failed
      split at failed
      · cases failed
      · cases failed
        exact ⟨name, rfl, rfl⟩

theorem map_eq_ok_iff {ε α β : Type} {image : α → β} {result : Except ε α} {value : β} :
    image <$> result = .ok value ↔ ∃ source, result = .ok source ∧ image source = value := by
  cases result with
  | error failure =>
      constructor
      · intro found
        cases found
      · rintro ⟨_, found, _⟩
        cases found
  | ok source =>
      constructor
      · intro found
        cases found
        exact ⟨source, rfl, rfl⟩
      · rintro ⟨_, found, rfl⟩
        cases found
        rfl

theorem map_eq_error_iff {ε α β : Type} {image : α → β} {result : Except ε α} {failure : ε} :
    image <$> result = .error failure ↔ result = .error failure := by
  cases result with
  | error other =>
      constructor
      · intro found
        cases found
        rfl
      · intro found
        cases found
        rfl
  | ok source =>
      constructor
      · intro found
        cases found
      · intro found
        cases found

namespace Sentence.Drafts

variable {sentence : Sentence} {draft : Draft}

theorem stop_denotes (drafts : sentence.Drafts draft) :
    (sentence.stop?.getD .now).Denotes (draft.stop?.getD .now) := by
  rcases sentence with ⟨writtenStart, writtenStop?, writtenRounding?, writtenViewpoint?⟩
  rcases draft with ⟨start, stop?, rounding?, viewpoint?⟩
  cases drafts.stop with
  | none => exact ⟨.word .now, rfl, rfl⟩
  | some denotes => exact denotes

/-- A draft stands for what its sentence denotes. -/
theorem expression_eq_ok_iff (drafts : sentence.Drafts draft) {expression : Expression} :
    draft.expression = .ok expression ↔ sentence.Denotes expression := by
  have seenFrom {viewpoint? : Option Viewpoint}
      (viewpoint : Option.Rel WrittenViewpoint.Denotes sentence.viewpoint? viewpoint?) :
      sentence.Denotes ⟨draft.start, draft.stop?.getD .now, draft.rounding?, viewpoint?, false⟩ :=
    ⟨drafts.start, drafts.stop_denotes, drafts.rounding, viewpoint, rfl⟩
  have viewpoint := drafts.viewpoint
  rcases sentence with ⟨writtenStart, writtenStop?, writtenRounding?, writtenViewpoint?⟩
  rcases draft with ⟨start, stop?, rounding?, viewpoint?⟩
  cases viewpoint with
  | none =>
      constructor
      · intro found
        cases found
        exact seenFrom .none
      · intro denotes
        rw [denotes.unique (seenFrom .none)]
        rfl
  | @some written pair inner =>
      have known {found : Viewpoint} :
          Viewpoint.ofNamed pair.1 pair.2 = .ok found ↔ written.Denotes found := by
        rw [Viewpoint.ofNamed_eq_ok_iff, inner.zone]
        constructor
        · rintro ⟨same, zones⟩
          exact ⟨same ▸ inner.asOf, zones⟩
        · rintro ⟨asOf, zones⟩
          exact ⟨rel_unique WrittenAnchor.Denotes (fun _ _ _ => WrittenAnchor.Denotes.unique)
            asOf inner.asOf, zones⟩
      constructor
      · intro found
        obtain ⟨viewpoint, named, rfl⟩ := map_eq_ok_iff.mp found
        exact seenFrom (.some (known.mp named))
      · intro denotes
        rcases expression with ⟨foundStart, foundStop, foundRounding?, foundViewpoint?, flag⟩
        cases denotes.viewpoint with
        | some found =>
            rw [denotes.unique (seenFrom (.some found))]
            exact map_eq_ok_iff.mpr ⟨_, known.mpr found, rfl⟩

/-- A draft fails only for its zone. -/
theorem of_expression_eq_error (drafts : sentence.Drafts draft) {error : ReadError}
    (failed : draft.expression = .error error) :
    ∃ name ∈ sentence.zoneName?, error = .unknownZone name := by
  rcases sentence with ⟨writtenStart, writtenStop?, writtenRounding?, writtenViewpoint?⟩
  rcases draft with ⟨start, stop?, rounding?, viewpoint?⟩
  cases drafts.viewpoint with
  | none => cases failed
  | @some written pair inner =>
      have unnamed := Viewpoint.of_ofNamed_eq_error (map_eq_error_iff.mp failed)
      rw [inner.zone] at unnamed
      exact unnamed

end Sentence.Drafts

/-! ## Texts of the grammar -/

namespace Expression

/-- A text that is read has the tokens of a sentence. -/
theorem exists_sentence_of_ofGrammar_eq_ok {text : String} {expression : Expression}
    (read : ofGrammar text = .ok expression) :
    ∃ sentence : Sentence, Lexes text sentence.tokens ∧ sentence.Denotes expression := by
  unfold ofGrammar at read
  dsimp only at read
  split at read
  · rename_i draft rest drafted
    obtain rfl := Grammar.rest_of_draft drafted
    obtain ⟨used, split, ⟨sentence, rfl, drafts⟩, _⟩ := Grammar.draft_follows.read drafted
    rw [List.append_nil] at split
    exact ⟨sentence, split, drafts.expression_eq_ok_iff.mp read⟩
  · cases read

/-- A text whose tokens are those of a sentence is read as what the sentence denotes. -/
theorem ofGrammar_eq_ok_iff_denotes {text : String} {sentence : Sentence} {expression : Expression}
    (lexes : Lexes text sentence.tokens) :
    ofGrammar text = .ok expression ↔ sentence.Denotes expression := by
  constructor
  · intro read
    obtain ⟨other, otherLexes, denotes⟩ := exists_sentence_of_ofGrammar_eq_ok read
    rw [Sentence.tokens_injective (lexes.unique otherLexes)]
    exact denotes
  · intro denotes
    have real := (sentence.exists_denotes_iff.mp ⟨_, denotes⟩).1
    obtain ⟨draft, drafts⟩ := sentence.exists_drafts_iff.mpr real
    have drafted := Grammar.draft_reads drafts
    rw [← lexes, tokensOf] at drafted
    unfold ofGrammar
    simp only [drafted]
    exact drafts.expression_eq_ok_iff.mpr denotes

end Expression

/-- What the other parts of a sentence settle: the rounding of running ends and the zone. -/
theorem Sentence.Denotes.settles {sentence : Sentence} {expression : Expression}
    (denotes : sentence.Denotes expression) :
    expression.roundingUnit? = sentence.rounding?.map Rounding.unit ∧
      expression.isComplete = sentence.rounding?.any Rounding.isComplete ∧
      expression.zone.name = sentence.zoneName?.getD "UTC" := by
  rcases sentence with ⟨writtenStart, writtenStop?, writtenRounding?, writtenViewpoint?⟩
  rcases expression with ⟨start, stop, rounding?, viewpoint?, grammatical⟩
  obtain ⟨_, _, rfl, viewpoints, _⟩ := denotes
  refine ⟨rfl, rfl, ?_⟩
  cases viewpoints with
  | none => rfl
  | @some written viewpoint seen =>
      rcases written with ⟨writtenAsOf?, writtenZone?⟩
      rcases viewpoint with ⟨asOf?, zone?⟩
      cases seen.zone with
      | none => rfl
      | some known => exact known.2

/-! ## Exactly the grammar -/

namespace Expression

/--
A text is an expression of the grammar exactly when its tokens are those of a
sentence whose dates exist and whose zone is in the catalogue. It is read as
what that sentence denotes, and there is only one such sentence. The name of a
zone is its lexeme without braces and the white space around it.
-/
theorem ofGrammar_accepts_sentences (text : String) :
    ((∃ expression, ofGrammar text = .ok expression) ↔
      ∃ sentence : Sentence, Lexes text sentence.tokens
        ∧ (∀ token ∈ sentence.tokens, token.Exists)
        ∧ ∀ name ∈ sentence.zoneName?, ∃ zone ∈ NamedZone.catalogue, zone.name = name)
    ∧ (∀ expression, ofGrammar text = .ok expression ↔
        ∃ sentence : Sentence, Lexes text sentence.tokens ∧ sentence.Denotes expression
          ∧ expression.roundingUnit? = sentence.rounding?.map Rounding.unit
          ∧ expression.isComplete = sentence.rounding?.any Rounding.isComplete
          ∧ expression.zone.name = sentence.zoneName?.getD "UTC")
    ∧ (∀ (left right : Sentence) (first second : Expression), left.tokens = right.tokens →
        left.Denotes first → right.Denotes second → left = right ∧ first = second)
    ∧ ∀ item ∈ items text.toList, ∀ name, item.token? = some (.zone name) →
        name = String.ofList (trim (withoutBraces item.lexeme)) := by
  have reads {expression : Expression} : ofGrammar text = .ok expression ↔
      ∃ sentence : Sentence, Lexes text sentence.tokens ∧ sentence.Denotes expression := by
    constructor
    · exact exists_sentence_of_ofGrammar_eq_ok
    · rintro ⟨sentence, lexes, denotes⟩
      exact (ofGrammar_eq_ok_iff_denotes lexes).mpr denotes
  refine ⟨?_, ?_, ?_, fun item listed name given => name_of_zone_item listed given⟩
  · constructor
    · rintro ⟨expression, read⟩
      obtain ⟨sentence, lexes, denotes⟩ := reads.mp read
      exact ⟨sentence, lexes, sentence.exists_denotes_iff.mp ⟨expression, denotes⟩⟩
    · rintro ⟨sentence, lexes, real⟩
      obtain ⟨expression, denotes⟩ := sentence.exists_denotes_iff.mpr real
      exact ⟨expression, reads.mpr ⟨sentence, lexes, denotes⟩⟩
  · intro expression
    rw [reads]
    constructor
    · rintro ⟨sentence, lexes, denotes⟩
      exact ⟨sentence, lexes, denotes, denotes.settles⟩
    · rintro ⟨sentence, lexes, denotes, _⟩
      exact ⟨sentence, lexes, denotes⟩
  · intro left right first second same leftDenotes rightDenotes
    obtain rfl := Sentence.tokens_injective same
    exact ⟨rfl, leftDenotes.unique rightDenotes⟩

/-- A leap day up to now, in complete days and on the clocks of a zone named between blanks. -/
theorem ofGrammar_accepts_leap_day :
    ∃ expression, ofGrammar "2024-02-29, now:|d| @{ Europe/Paris }" = .ok expression := by
  refine (ofGrammar_accepts_sentences _).1.mpr ⟨⟨⟨.word (.date 2024 2 29), none, none⟩, some .now,
    some (.complete ⟨none, .day⟩), some ⟨none, some "Europe/Paris"⟩⟩, ?_, ?_, ?_⟩
  · unfold Lexes
    decide +kernel
  · decide
  · intro name named
    cases named
    exact ⟨.europeParis, .tail _ (.tail _ (.tail _ (.tail _ (.head _)))), rfl⟩

end Expression

end TimeRange
