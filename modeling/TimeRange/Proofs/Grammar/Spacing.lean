import TimeRange.Proofs.Grammar.Route
import TimeRange.Proofs.Grammar.Spelling

/-!
# White space between tokens

Where white space is put between two tokens, or taken out, the text may be cut
into other tokens: two numbers become one, and a date before a number becomes a
clock time if a single space and a colon stand around it. Neither can happen in
a sentence, because a number stands only before a unit. What follows a number is
then white space or a letter, which ends the number and is no colon.

The main statement is `parse_of_spaced`.
-/

namespace TimeRange

/-! ## Numbers before units -/

/-- Tokens among which every number stands before a unit. -/
inductive Counted : List Token → Prop where
  | nil : Counted []
  | counted (count : Int) (unit : TimeUnit) {tokens : List Token} (later : Counted tokens) :
      Counted (.number count :: .unit unit :: tokens)
  | other {token : Token} {tokens : List Token} (plain : token.number? = none)
      (later : Counted tokens) : Counted (token :: tokens)

namespace Counted

variable {token : Token} {tokens left right : List Token}

theorem single (plain : token.number? = none) : Counted [token] :=
  .other plain .nil

theorem append (first : Counted left) (second : Counted right) : Counted (left ++ right) := by
  induction first with
  | nil => exact second
  | counted count unit later ih => exact .counted count unit ih
  | other plain later ih => exact .other plain ih

theorem tail (counted : Counted (token :: tokens)) : Counted tokens := by
  cases counted with
  | counted count unit later => exact .other rfl later
  | other plain later => exact later

theorem exists_unit {count : Int} (counted : Counted (.number count :: tokens)) :
    ∃ unit later, tokens = .unit unit :: later := by
  cases counted with
  | counted count unit later => exact ⟨unit, _, rfl⟩
  | other plain later => cases plain

theorem optional {Part : Type} {ofPart : Part → List Token} (each : ∀ part, Counted (ofPart part))
    (part? : Option Part) : Counted (part?.elim [] ofPart) := by
  cases part? with
  | none => exact .nil
  | some part => exact each part

theorem leading {Part : Type} {ofPart : Part → List Token} {mark : Token}
    (plain : mark.number? = none) (each : ∀ part, Counted (ofPart part)) (part? : Option Part) :
    Counted (mark.leading ofPart part?) :=
  optional (fun part => .other plain (each part)) part?

end Counted

theorem Grain.counted_tokens (grain : Grain) : Counted grain.tokens := by
  rcases grain with ⟨count?, unit⟩
  cases count? with
  | none => exact .single rfl
  | some count => exact .counted count unit .nil

theorem WrittenBase.counted_tokens (written : WrittenBase) : Counted written.tokens := by
  cases written with
  | grain step => exact step.counted_tokens
  | word single => cases single <;> exact .single rfl

theorem WrittenAnchor.counted_tokens (written : WrittenAnchor) : Counted written.tokens := by
  have moves := Counted.optional Grain.counted_tokens written.move?
  have truncations := @Counted.leading TimeUnit (fun unit => [.unit unit]) .slash rfl
    (fun _ => .single rfl) written.truncation?
  exact (written.base.counted_tokens.append moves).append truncations

theorem Rounding.counted_tokens (rounding : Rounding) : Counted rounding.tokens := by
  cases rounding with
  | running step => exact step.counted_tokens
  | complete step =>
      have bar : Counted [.pipe] := .single rfl
      exact (bar.append step.counted_tokens).append bar

theorem WrittenViewpoint.counted_tokens (written : WrittenViewpoint) : Counted written.tokens := by
  have anchors := Counted.optional WrittenAnchor.counted_tokens written.asOf?
  have zones := @Counted.optional String (fun name => [.zone name]) (fun _ => .single rfl)
    written.zone?
  exact anchors.append zones

theorem Sentence.counted_tokens (sentence : Sentence) : Counted sentence.tokens := by
  have stops := @Counted.leading _ _ .comma rfl WrittenAnchor.counted_tokens sentence.stop?
  have roundings := @Counted.leading _ _ .colon rfl Rounding.counted_tokens sentence.rounding?
  have viewpoints := @Counted.leading _ _ .atSign rfl WrittenViewpoint.counted_tokens
    sentence.viewpoint?
  exact ((sentence.start.counted_tokens.append stops).append roundings).append viewpoints

/-! ## What stands at the start of a spelling -/

/-- White space and letters of units end numbers, and are no colons. -/
theorem ends_number {character : Char}
    (stands : isSeparator character = true ∨ ∃ unit, TimeUnit.ofLetter? character = some unit) :
    character.isDigit = false ∧ character ≠ '-' ∧ character ≠ ':' := by
  rcases stands with separates | ⟨unit, names⟩
  · simp only [isSeparator, Bool.or_eq_true, beq_iff_eq] at separates
    rcases separates with (((rfl | rfl) | rfl) | rfl) | rfl <;> decide
  · rcases TimeUnit.letter_cases names with rfl | rfl | rfl | rfl | rfl | rfl | rfl | rfl | rfl <;>
      decide

namespace Spelling

variable {lexeme rest : List Char} {token : Token} {token? : Option Token}

theorem stands (spelling : Spelling lexeme token?) (given : token? = some token) :
    ∃ first behind, lexeme = first :: behind ∧ isSeparator first = false := by
  have cut := spelling.next_append given token.endsBefore_nil
  rw [List.append_nil] at cut
  cases lexeme with
  | nil => cases congrArg Match.token? cut
  | cons first behind =>
      refine ⟨first, behind, rfl, ?_⟩
      cases separates : isSeparator first with
      | false => rfl
      | true =>
          have absent := token?_next_of_isSeparator separates behind
          rw [cut] at absent
          cases absent

theorem exists_letter {unit : TimeUnit} (spelling : Spelling lexeme token?)
    (given : token? = some (.unit unit)) :
    ∃ letter, lexeme = [letter] ∧ TimeUnit.ofLetter? letter = some unit := by
  cases spelling with
  | @fixed entry listed =>
      have others : ∀ entry ∈ Token.fixedSpellings, entry.2.unit? = none := by decide
      have absent := others entry listed
      rw [Option.some.inj given] at absent
      cases absent
  | unit names =>
      cases given
      exact ⟨_, rfl, names⟩
  | zone proper open_ => cases given
  | date formed size => cases given
  | dateTime formed size => cases given
  | number signed proper numeral => split at given <;> cases given

/-- No spelling looks like a clock time, even with what follows if that does not begin with a colon. -/
theorem hasShape_clock (spelling : Spelling lexeme token?) (given : token? = some token)
    (ends : ∀ count, token = .number count →
      ∀ character ∈ rest.head?, character.isDigit = false ∧ character ≠ ':') :
    Match.hasShape ['0', '0', ':', '0', '0'] (lexeme ++ rest) = false := by
  have date {lexeme : List Char} (formed : Match.hasShape Match.dateShape lexeme = true) :
      Match.hasShape ['0', '0', ':', '0', '0'] (lexeme ++ rest) = false := by
    obtain ⟨digits, behind, rfl, _, numeral⟩ := Match.exists_hyphen_of_hasShape formed
    rw [List.append_assoc]
    exact Match.hasShape_numeral (by decide) 2 ['0', '0'] numeral (by simp)
  cases spelling with
  | fixed listed =>
      rcases Token.fixed_cases listed with rfl | rfl | rfl | rfl | rfl | rfl | rfl | rfl <;> rfl
  | unit names =>
      rcases TimeUnit.letter_cases names with rfl | rfl | rfl | rfl | rfl | rfl | rfl | rfl | rfl <;>
        rfl
  | zone proper open_ => rfl
  | date formed size => exact date formed
  | dateTime formed size => exact date (Match.hasShape_of_append formed)
  | number signed proper numeral =>
      rcases sign_cases signed with ⟨rfl, rfl⟩ | ⟨rfl, rfl⟩ | ⟨rfl, rfl⟩
      · split at given
        · cases given
          exact Match.hasShape_numeral (by decide) 2 ['0', '0'] numeral (ends _ rfl)
        · cases given
      · rfl
      · rfl

end Spelling

/-! ## Spaced items -/

/-- A text of the lexemes of some items in their order, with white space around and between them or not. -/
inductive Spaced : List Item → List Char → Prop where
  | nil {gap : List Char} (blank : ∀ character ∈ gap, isSeparator character = true) : Spaced [] gap
  | cons {gap : List Char} (blank : ∀ character ∈ gap, isSeparator character = true) (item : Item)
      {later : List Item} {text : List Char} (spaced : Spaced later text) :
      Spaced (item :: later) (gap ++ (item.lexeme ++ text))

theorem tokensOf_gap {gap : List Char} (blank : ∀ character ∈ gap, isSeparator character = true)
    (text : List Char) : tokensOf (gap ++ text) = tokensOf text := by
  induction gap with
  | nil => rfl
  | cons first gap ih =>
      obtain ⟨separates, others⟩ := List.forall_mem_cons.mp blank
      rw [List.cons_append, tokensOf, items, itemsFrom_separator separates, map_token?_itemsFrom,
        ih others]

namespace Spaced

variable {found : List Item} {text : List Char} {tokens : List Token}
  (spelled : ∀ item ∈ found, Spelling item.lexeme item.token?)

include spelled

/-- Before a unit stands white space, or its letter. -/
theorem stands_of_unit (spaced : Spaced found text) {unit : TimeUnit}
    (given : found.map Item.token? = (Token.unit unit :: tokens).map some) :
    ∀ character ∈ text.head?,
      isSeparator character = true ∨ ∃ unit, TimeUnit.ofLetter? character = some unit := by
  intro character member
  cases spaced with
  | nil blank => cases given
  | @cons gap blank item later text spaced =>
      cases gap with
      | cons first gap =>
          cases member
          exact .inl (blank character List.mem_cons_self)
      | nil =>
          obtain ⟨letter, lexed, names⟩ :=
            (spelled item List.mem_cons_self).exists_letter (List.cons.inj given).1
          rw [lexed] at member
          cases member
          exact .inr ⟨unit, names⟩

/-- What comes after a number ends it. -/
theorem ends_of_counted (spaced : Spaced found text) (given : found.map Item.token? = tokens.map some)
    {count : Int} (counted : Counted (.number count :: tokens)) :
    ∀ character ∈ text.head?, character.isDigit = false ∧ character ≠ '-' ∧ character ≠ ':' := by
  obtain ⟨unit, later, rfl⟩ := counted.exists_unit
  intro character member
  exact ends_number (spaced.stands_of_unit spelled given character member)

theorem hasShape_clock (spaced : Spaced found text) (given : found.map Item.token? = tokens.map some)
    (counted : Counted tokens) : Match.hasShape [' ', '0', '0', ':', '0', '0'] text = false := by
  have blankSecond {leading second : Char} (separates : isSeparator second = true)
      (rest : List Char) :
      Match.hasShape [' ', '0', '0', ':', '0', '0'] (leading :: second :: rest) = false := by
    have noDigit : Match.standsFor '0' second = false := (ends_number (.inl separates)).1
    rw [Match.hasShape_cons, Match.hasShape_cons, noDigit, Bool.false_and, Bool.and_false]
  cases spaced with
  | nil blank =>
      rcases text with _ | ⟨leading, _ | ⟨second, gap⟩⟩
      · rfl
      · exact (Match.hasShape_cons _ _ _ _).trans (Bool.and_false _)
      · exact blankSecond (blank second (by simp)) gap
  | @cons gap blank item later text spaced =>
      obtain ⟨token, others, rfl⟩ : ∃ token others, tokens = token :: others := by
        cases tokens with
        | nil => cases given
        | cons token others => exact ⟨token, others, rfl⟩
      obtain ⟨itemGiven, laterGiven⟩ := List.cons.inj given
      obtain ⟨spelling, laterSpelled⟩ := List.forall_mem_cons.mp spelled
      rcases gap with _ | ⟨leading, _ | ⟨second, gap⟩⟩
      · -- The lexeme does not begin with a space.
        obtain ⟨leading, behind, lexed, stands⟩ := spelling.stands itemGiven
        have noSpace : Match.standsFor ' ' leading = false := by
          refine Bool.eq_false_iff.mpr fun same => ?_
          have space : ' ' = leading := eq_of_beq same
          rw [← space] at stands
          cases stands
        rw [lexed, List.nil_append, List.cons_append, Match.hasShape_cons, noSpace, Bool.false_and]
      · -- The lexeme behind one space does not begin a clock time.
        have noClock : Match.hasShape ['0', '0', ':', '0', '0'] (item.lexeme ++ text) = false := by
          refine spelling.hasShape_clock itemGiven fun count same character member => ?_
          subst same
          have ends := spaced.ends_of_counted laterSpelled laterGiven counted character member
          exact ⟨ends.1, ends.2.2⟩
        rw [List.cons_append, List.nil_append, Match.hasShape_cons, noClock, Bool.and_false]
      · exact blankSecond (blank second (by simp)) _

theorem endsBefore (spaced : Spaced found text) (given : found.map Item.token? = tokens.map some)
    {token : Token} (counted : Counted (token :: tokens)) : token.EndsBefore text := by
  cases token with
  | number count =>
      intro character member
      have ends := spaced.ends_of_counted spelled given counted character member
      exact ⟨ends.1, ends.2.1⟩
  | date year month day => exact spaced.hasShape_clock spelled given counted.tail
  | _ => trivial

theorem tokensOf_eq (spaced : Spaced found text) (given : found.map Item.token? = tokens.map some)
    (counted : Counted tokens) : tokensOf text = tokens.map some := by
  induction spaced generalizing tokens with
  | nil blank =>
      have none_ := tokensOf_gap blank []
      rw [List.append_nil, tokensOf_nil] at none_
      rw [none_]
      exact given
  | cons blank item spaced ih =>
      cases tokens with
      | nil => cases given
      | cons token others =>
          obtain ⟨itemGiven, laterGiven⟩ := List.cons.inj given
          obtain ⟨spelling, laterSpelled⟩ := List.forall_mem_cons.mp spelled
          have cut := spelling.next_append itemGiven (spaced.endsBefore laterSpelled laterGiven counted)
          rw [tokensOf_gap blank, tokensOf_append cut, ih laterSpelled laterGiven counted.tail,
            List.map_cons]

end Spaced

namespace Expression

/--
A text that the grammar reads is read alike if the white space between its
items is taken out, put in or changed, even where they then touch.
-/
theorem parse_of_spaced {text respaced : String} {expression : Expression}
    (read : ofGrammar text = .ok expression) (spaced : Spaced (items text.toList) respaced.toList) :
    parse text = .ok { expression with grammatical := true }
      ∧ parse respaced = .ok { expression with grammatical := true } := by
  obtain ⟨sentence, lexes, denotes⟩ := exists_sentence_of_ofGrammar_eq_ok read
  have spelled : ∀ item ∈ items text.toList, Spelling item.lexeme item.token? := by
    intro item listed
    have member : item.token? ∈ sentence.tokens.map some := lexes ▸ List.mem_map_of_mem listed
    obtain ⟨token, _, given⟩ := List.mem_map.mp member
    rw [← given]
    exact .of_mem_items listed given.symm
  have relexes : Lexes respaced sentence.tokens :=
    spaced.tokensOf_eq spelled lexes sentence.counted_tokens
  rw [parse_of_lexes lexes, parse_of_lexes relexes, read,
    (ofGrammar_eq_ok_iff_denotes relexes).mpr denotes]
  exact ⟨rfl, rfl⟩

/-- The space between a date and a number may be missing, and a line break may stand at the end. -/
theorem parse_of_spaced_date : parse "2024-03-0110m ,\tnow\n" = parse "2024-03-01 10m,now" := by
  have lexed : items "2024-03-01 10m,now".toList
      = [⟨some (.date 2024 3 1), ['2', '0', '2', '4', '-', '0', '3', '-', '0', '1'], 0⟩,
        ⟨some (.number 10), ['1', '0'], 11⟩, ⟨some (.unit .minute), ['m'], 13⟩,
        ⟨some .comma, [','], 14⟩, ⟨some .now, ['n', 'o', 'w'], 15⟩] := by
    decide +kernel
  have read : ofGrammar "2024-03-01 10m,now"
      = .ok ⟨⟨.date ⟨19783⟩, some ⟨some 10, .minute⟩, none⟩, .now, none, none, false⟩ := by
    rw [ofGrammar, lexed]
    rfl
  have spaced : Spaced (items "2024-03-01 10m,now".toList) "2024-03-0110m ,\tnow\n".toList := by
    have touching : ∀ character ∈ [], isSeparator character = true := nofun
    have blank {single : Char} (separates : isSeparator single = true) :
        ∀ character ∈ [single], isSeparator character = true :=
      List.forall_mem_singleton.mpr separates
    rw [lexed]
    exact .cons touching _ (.cons touching _ (.cons touching _ (.cons (@blank ' ' rfl) _
      (.cons (@blank '\t' rfl) _ (.nil (@blank '\n' rfl))))))
  have same := parse_of_spaced read spaced
  rw [same.1, same.2]

end Expression

end TimeRange
