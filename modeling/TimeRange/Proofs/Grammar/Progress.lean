import TimeRange.Proofs.Grammar.Sentence

/-!
# What a parser has read

A parser follows a relation between tokens and values if it reads only tokens
and values that the relation allows, and stops only after tokens that can still
be completed to allowed ones. Either way the outcome depends on what was read
and on the one item after it, and on nothing behind that: this is the single
token of look-ahead.

The relation is kept by the operations from which parsers are built, so that
each parser of the grammar follows its part of a sentence. The main statement
is `draft_follows`, for whole expressions.
-/

namespace TimeRange

/-- The draft of a written viewpoint: its anchor is found, and its zone is still a name. -/
structure WrittenViewpoint.Drafts (written : WrittenViewpoint)
    (draft : Option Anchor × Option String) : Prop where
  asOf : Option.Rel WrittenAnchor.Denotes written.asOf? draft.1
  zone : draft.2 = written.zone?

structure Sentence.Drafts (sentence : Sentence) (draft : Draft) : Prop where
  start : sentence.start.Denotes draft.start
  stop : Option.Rel WrittenAnchor.Denotes sentence.stop? draft.stop?
  rounding : draft.rounding? = sentence.rounding?
  viewpoint : Option.Rel WrittenViewpoint.Drafts sentence.viewpoint? draft.viewpoint?

namespace Token

def unit? : Token → Option TimeUnit
  | .unit found => some found
  | _ => none

theorem unit?_eq_some_iff {token : Token} {found : TimeUnit} :
    token.unit? = some found ↔ token = .unit found := by
  cases token <;> simp [unit?]

def number? : Token → Option Int
  | .number found => some found
  | _ => none

theorem number?_eq_some_iff {token : Token} {found : Int} :
    token.number? = some found ↔ token = .number found := by
  cases token <;> simp [number?]

def zone? : Token → Option String
  | .zone found => some found
  | _ => none

theorem zone?_eq_some_iff {token : Token} {found : String} :
    token.zone? = some found ↔ token = .zone found := by
  cases token <;> simp [zone?]

end Token

end TimeRange

namespace TimeRange.Grammar

open Calendar

variable {α β : Type}

/-- A parser that reads only what `phrase` allows, and looks no further than one item ahead. -/
structure Follows (parser : Grammar α) (phrase : List Token → α → Prop) : Prop where
  read : ∀ {tokens rest : List (Option Token)} {value : α}, parser tokens = .ok (value, rest) →
    ∃ used : List Token, tokens = used.map some ++ rest ∧ phrase used value ∧
      ∀ other, other.head? = rest.head? → parser (used.map some ++ other) = .ok (value, other)
  stop : ∀ {tokens rest : List (Option Token)}, parser tokens = .error rest →
    ∃ used : List Token, tokens = used.map some ++ rest ∧
      (∃ more value, phrase (used ++ more) value) ∧
      ∀ other, other.head? = rest.head? → parser (used.map some ++ other) = .error other
  inhabited : ∃ used value, phrase used value

/-! ## Operations on parsers -/

theorem bind_apply (parser : Grammar α) (next : α → Grammar β) (tokens : List (Option Token)) :
    (parser >>= next) tokens =
      match parser tokens with
      | .ok (value, rest) => next value rest
      | .error rest => .error rest := by
  show (StateT.bind parser next) tokens = _
  unfold StateT.bind
  cases parser tokens <;> rfl

theorem bind_of_ok {parser : Grammar α} {tokens rest : List (Option Token)} {value : α}
    (read : parser tokens = .ok (value, rest)) (next : α → Grammar β) :
    (parser >>= next) tokens = next value rest := by
  rw [bind_apply, read]

theorem bind_of_error {parser : Grammar α} {tokens rest : List (Option Token)}
    (stopped : parser tokens = .error rest) (next : α → Grammar β) :
    (parser >>= next) tokens = .error rest := by
  rw [bind_apply, stopped]

theorem map_of_ok {parser : Grammar α} {tokens rest : List (Option Token)} {value : α}
    (read : parser tokens = .ok (value, rest)) (image : α → β) :
    (image <$> parser) tokens = .ok (image value, rest) := by
  show (StateT.map image parser) tokens = _
  unfold StateT.map
  rw [read]
  rfl

theorem map_eq_bind (image : α → β) (parser : Grammar α) :
    image <$> parser = parser >>= fun value => pure (image value) := by
  funext tokens
  rw [bind_apply]
  show (StateT.map image parser) tokens = _
  unfold StateT.map
  cases parser tokens <;> rfl

theorem branch_apply (starts : List (Option Token) → Bool) (left right : Grammar α)
    (tokens : List (Option Token)) :
    (do if starts (← get) then left else right : Grammar α) tokens =
      if starts tokens then left tokens else right tokens := by
  show (if starts tokens then left else right) tokens = _
  cases starts tokens <;> rfl

theorem head?_append_of_head? {used : List (Option Token)} {first second : List (Option Token)}
    (same : first.head? = second.head?) : (used ++ first).head? = (used ++ second).head? := by
  rw [List.head?_append, List.head?_append, same]

namespace Follows

theorem mono {parser : Grammar α} {phrase wider : List Token → α → Prop}
    (follows : Follows parser phrase) (widens : ∀ used value, phrase used value → wider used value) :
    Follows parser wider where
  read := by
    intro tokens rest value read
    obtain ⟨used, split, allowed, ahead⟩ := follows.read read
    exact ⟨used, split, widens _ _ allowed, ahead⟩
  stop := by
    intro tokens rest stopped
    obtain ⟨used, split, ⟨more, value, allowed⟩, ahead⟩ := follows.stop stopped
    exact ⟨used, split, ⟨more, value, widens _ _ allowed⟩, ahead⟩
  inhabited := by
    obtain ⟨used, value, allowed⟩ := follows.inhabited
    exact ⟨used, value, widens _ _ allowed⟩

theorem pure (value : α) :
    Follows (pure value : Grammar α) fun used found => used = [] ∧ found = value where
  read := by
    intro tokens rest found read
    cases read
    exact ⟨[], rfl, ⟨rfl, rfl⟩, fun _ _ => rfl⟩
  stop := by
    intro tokens rest stopped
    cases stopped
  inhabited := ⟨[], value, rfl, rfl⟩

theorem bind {parser : Grammar α} {phrase : List Token → α → Prop} {next : α → Grammar β}
    {later : α → List Token → β → Prop} (follows : Follows parser phrase)
    (continues : ∀ value, Follows (next value) (later value)) :
    Follows (parser >>= next) fun used result =>
      ∃ first second value, used = first ++ second ∧ phrase first value ∧ later value second result where
  read := by
    intro tokens rest result read
    rw [bind_apply] at read
    split at read
    · rename_i value middle firstRead
      obtain ⟨first, rfl, allowed, ahead⟩ := follows.read firstRead
      obtain ⟨second, rfl, laterAllowed, laterAhead⟩ := (continues value).read read
      refine ⟨first ++ second, ?_, ⟨first, second, value, rfl, allowed, laterAllowed⟩, ?_⟩
      · rw [List.map_append, List.append_assoc]
      · intro other same
        rw [List.map_append, List.append_assoc, bind_of_ok (ahead _ (head?_append_of_head? same))]
        exact laterAhead other same
    · cases read
  stop := by
    intro tokens rest stopped
    rw [bind_apply] at stopped
    split at stopped
    · rename_i value middle firstRead
      obtain ⟨first, rfl, allowed, ahead⟩ := follows.read firstRead
      obtain ⟨second, rfl, ⟨more, result, laterAllowed⟩, laterAhead⟩ := (continues value).stop stopped
      refine ⟨first ++ second, ?_, ⟨more, result, first, second ++ more, value, ?_, allowed,
        laterAllowed⟩, ?_⟩
      · rw [List.map_append, List.append_assoc]
      · rw [List.append_assoc]
      · intro other same
        rw [List.map_append, List.append_assoc, bind_of_ok (ahead _ (head?_append_of_head? same))]
        exact laterAhead other same
    · rename_i remaining firstStopped
      cases stopped
      obtain ⟨used, split, ⟨more, value, allowed⟩, ahead⟩ := follows.stop firstStopped
      obtain ⟨second, result, laterAllowed⟩ := (continues value).inhabited
      refine ⟨used, split, ⟨more ++ second, result, used ++ more, second, value, ?_, allowed,
        laterAllowed⟩, fun other same => bind_of_error (ahead other same) next⟩
      rw [List.append_assoc]
  inhabited := by
    obtain ⟨first, value, allowed⟩ := follows.inhabited
    obtain ⟨second, result, laterAllowed⟩ := (continues value).inhabited
    exact ⟨_, result, first, second, value, rfl, allowed, laterAllowed⟩

/-- A choice by the next item. -/
theorem branch {left right : Grammar α} {leftPhrase rightPhrase : List Token → α → Prop}
    {starts : List (Option Token) → Bool}
    (headed : ∀ first second, first.head? = second.head? → starts first = starts second)
    (leftFollows : Follows left leftPhrase) (rightFollows : Follows right rightPhrase) :
    Follows (do if starts (← get) then left else right) fun used value =>
      leftPhrase used value ∨ rightPhrase used value where
  read := by
    intro tokens rest value read
    rw [branch_apply] at read
    cases found : starts tokens with
    | true =>
        rw [found, if_pos rfl] at read
        obtain ⟨used, rfl, allowed, ahead⟩ := leftFollows.read read
        refine ⟨used, rfl, .inl allowed, fun other same => ?_⟩
        rw [branch_apply, headed _ _ (head?_append_of_head? same), found, if_pos rfl]
        exact ahead other same
    | false =>
        rw [found, if_neg Bool.false_ne_true] at read
        obtain ⟨used, rfl, allowed, ahead⟩ := rightFollows.read read
        refine ⟨used, rfl, .inr allowed, fun other same => ?_⟩
        rw [branch_apply, headed _ _ (head?_append_of_head? same), found, if_neg Bool.false_ne_true]
        exact ahead other same
  stop := by
    intro tokens rest stopped
    rw [branch_apply] at stopped
    cases found : starts tokens with
    | true =>
        rw [found, if_pos rfl] at stopped
        obtain ⟨used, rfl, ⟨more, value, allowed⟩, ahead⟩ := leftFollows.stop stopped
        refine ⟨used, rfl, ⟨more, value, .inl allowed⟩, fun other same => ?_⟩
        rw [branch_apply, headed _ _ (head?_append_of_head? same), found, if_pos rfl]
        exact ahead other same
    | false =>
        rw [found, if_neg Bool.false_ne_true] at stopped
        obtain ⟨used, rfl, ⟨more, value, allowed⟩, ahead⟩ := rightFollows.stop stopped
        refine ⟨used, rfl, ⟨more, value, .inr allowed⟩, fun other same => ?_⟩
        rw [branch_apply, headed _ _ (head?_append_of_head? same), found, if_neg Bool.false_ne_true]
        exact ahead other same
  inhabited := by
    obtain ⟨used, value, allowed⟩ := leftFollows.inhabited
    exact ⟨used, value, .inl allowed⟩

/-- A part that may be missing, and then reads nothing. -/
theorem optional {part : Grammar α} {phrase : List Token → α → Prop}
    {starts : List (Option Token) → Bool}
    (headed : ∀ first second, first.head? = second.head? → starts first = starts second)
    (follows : Follows part phrase) :
    Follows (optional starts part) fun used value? =>
      value?.elim (used = []) fun value => phrase used value := by
  have present : Follows (some <$> part) fun used value? =>
      ∃ value, value? = some value ∧ phrase used value := by
    rw [map_eq_bind]
    refine (follows.bind fun value => .pure (some value)).mono ?_
    rintro used value? ⟨first, second, value, rfl, allowed, rfl, rfl⟩
    rw [List.append_nil]
    exact ⟨value, rfl, allowed⟩
  refine (branch headed present (.pure none)).mono ?_
  rintro used value? (⟨value, rfl, allowed⟩ | ⟨rfl, rfl⟩)
  · exact allowed
  · rfl

theorem eq_cons_of_found {value? : Token → Option α} {tokens : List (Option Token)} {taken : α}
    (found : tokens.head?.join.bind value? = some taken) :
    ∃ token behind, tokens = some token :: behind ∧ value? token = some taken := by
  obtain ⟨token, heads, allowed⟩ := Option.bind_eq_some_iff.mp found
  obtain ⟨behind, same⟩ := List.head?_eq_some_iff.mp (Option.join_eq_some_iff.mp heads)
  exact ⟨token, behind, same, allowed⟩

theorem single {parser : Grammar α} (value? : Token → Option α)
    (takes : ∀ token value rest, value? token = some value →
      parser (some token :: rest) = .ok (value, rest))
    (refuses : ∀ tokens, tokens.head?.join.bind value? = none → parser tokens = .error tokens)
    (inhabited : ∃ token value, value? token = some value) :
    Follows parser fun used value => ∃ token, used = [token] ∧ value? token = some value where
  read := by
    intro tokens rest value read
    cases found : tokens.head?.join.bind value? with
    | none =>
        rw [refuses tokens found] at read
        cases read
    | some taken =>
        obtain ⟨token, behind, rfl, allowed⟩ := eq_cons_of_found found
        rw [takes token taken behind allowed] at read
        cases read
        exact ⟨[token], rfl, ⟨token, rfl, allowed⟩, fun other _ => takes token value other allowed⟩
  stop := by
    intro tokens rest stopped
    obtain ⟨token, value, allowed⟩ := inhabited
    cases found : tokens.head?.join.bind value? with
    | none =>
        rw [refuses tokens found] at stopped
        cases stopped
        refine ⟨[], rfl, ⟨[token], value, token, rfl, allowed⟩, fun other same => ?_⟩
        exact refuses other (by rw [same, found])
    | some taken =>
        obtain ⟨first, behind, rfl, firstAllowed⟩ := eq_cons_of_found found
        rw [takes first taken behind firstAllowed] at stopped
        cases stopped
  inhabited := by
    obtain ⟨token, value, allowed⟩ := inhabited
    exact ⟨[token], value, token, rfl, allowed⟩

/-- A parser of a token of one kind that may be missing. -/
theorem perhaps {parser : Grammar (Option α)} {value? : Token → Option α} (make : α → Token)
    (made : ∀ {token value}, value? token = some value ↔ token = make value)
    (takes : ∀ value rest, parser (some (make value) :: rest) = .ok (some value, rest))
    (skips : ∀ tokens, tokens.head?.join.bind value? = none → parser tokens = .ok (none, tokens)) :
    Follows parser fun used found? =>
      found?.elim (used = []) fun value => used = [make value] where
  read := by
    intro tokens rest found? read
    cases found : tokens.head?.join.bind value? with
    | none =>
        rw [skips tokens found] at read
        cases read
        exact ⟨[], rfl, rfl, fun other same => skips other (by rw [same, found])⟩
    | some taken =>
        obtain ⟨token, behind, rfl, allowed⟩ := eq_cons_of_found found
        obtain rfl := made.mp allowed
        rw [takes taken behind] at read
        cases read
        exact ⟨[make taken], rfl, rfl, fun other _ => takes taken other⟩
  stop := by
    intro tokens rest stopped
    cases found : tokens.head?.join.bind value? with
    | none =>
        rw [skips tokens found] at stopped
        cases stopped
    | some taken =>
        obtain ⟨token, behind, rfl, allowed⟩ := eq_cons_of_found found
        obtain rfl := made.mp allowed
        rw [takes taken behind] at stopped
        cases stopped
  inhabited := ⟨[], none, rfl⟩

end Follows

/-! ## The parsers of the grammar -/

/-- A test that sees the first item only. -/
theorem headed_of_cons {starts : List (Option Token) → Bool}
    (cons : ∀ item first second, starts (item :: first) = starts (item :: second))
    (first second : List (Option Token)) (same : first.head? = second.head?) :
    starts first = starts second := by
  cases first with
  | nil =>
      cases second with
      | nil => rfl
      | cons => cases same
  | cons item rest =>
      cases second with
      | nil => cases same
      | cons other behind =>
          cases same
          exact cons item rest behind

theorem startsWith_headed (token : Token) (first second : List (Option Token))
    (same : first.head? = second.head?) : startsWith token first = startsWith token second := by
  refine headed_of_cons (fun item _ _ => ?_) first second same
  cases item <;> rfl

theorem startsGrain_headed (first second : List (Option Token))
    (same : first.head? = second.head?) : startsGrain first = startsGrain second := by
  refine headed_of_cons (fun item _ _ => ?_) first second same
  rcases item with _ | (_ | _ | _ | _ | _ | _ | _ | _ | _ | _ | _ | _ | _) <;> rfl

theorem startsAnchor_headed (first second : List (Option Token))
    (same : first.head? = second.head?) : startsAnchor first = startsAnchor second := by
  refine headed_of_cons (fun item _ _ => ?_) first second same
  rcases item with _ | (_ | _ | _ | _ | _ | _ | _ | _ | _ | _ | _ | _ | _) <;> rfl

theorem mark_follows (token : Token) : Follows (mark token) fun used _ => used = [token] := by
  refine (Follows.single (fun found => if found = token then some () else none)
    ?_ ?_ ⟨token, (), if_pos rfl⟩).mono ?_
  · intro found value rest same
    obtain ⟨rfl, -⟩ := Option.ite_none_right_eq_some.mp same
    unfold mark
    rw [found.startsWith_mark, if_pos rfl]
    rfl
  · intro tokens other
    unfold mark
    rw [if_neg]
    intro starts
    rcases tokens with _ | ⟨_ | found, rest⟩
    · cases starts
    · cases starts
    · rw [show found = token from eq_of_beq starts] at other
      simp at other
  · rintro used value ⟨found, rfl, same⟩
    rw [(Option.ite_none_right_eq_some.mp same).1]

theorem unit_follows : Follows unit fun used value => used = [.unit value] := by
  refine (Follows.single Token.unit? ?_ ?_ ⟨.unit .day, .day, rfl⟩).mono ?_
  · intro token value rest same
    obtain rfl := Token.unit?_eq_some_iff.mp same
    rfl
  · intro tokens other
    rcases tokens with _ | ⟨_ | token, rest⟩
    · rfl
    · rfl
    · cases token with
      | unit found => cases other
      | _ => rfl
  · rintro used value ⟨token, rfl, same⟩
    rw [Token.unit?_eq_some_iff.mp same]

theorem count?_follows : Follows count? fun used value? =>
    value?.elim (used = []) fun value => used = [.number value] := by
  refine Follows.perhaps Token.number Token.number?_eq_some_iff (fun _ _ => rfl) ?_
  intro tokens other
  rcases tokens with _ | ⟨_ | token, rest⟩
  · rfl
  · rfl
  · cases token with
    | number found => cases other
    | _ => rfl

theorem zoneName?_follows : Follows zoneName? fun used value? =>
    value?.elim (used = []) fun value => used = [.zone value] := by
  refine Follows.perhaps Token.zone Token.zone?_eq_some_iff (fun _ _ => rfl) ?_
  intro tokens other
  rcases tokens with _ | ⟨_ | token, rest⟩
  · rfl
  · rfl
  · cases token with
    | zone found => cases other
    | _ => rfl

theorem grain_follows : Follows grain fun used value => used = value.tokens := by
  refine (count?_follows.bind fun count? =>
    unit_follows.bind fun unit => Follows.pure (⟨count?, unit⟩ : Grain)).mono ?_
  rintro used value ⟨first, _, count?, rfl, counted, _, _, unit, rfl, rfl, rfl, rfl⟩
  cases count? with
  | none =>
      obtain rfl : first = [] := counted
      rfl
  | some count =>
      obtain rfl : first = [.number count] := counted
      rfl

theorem ofNumbers?_eq_some_iff {hour minute : Nat} {clock : ClockTime} :
    ClockTime.ofNumbers? hour minute = some clock ↔ clock.Shows hour minute := by
  constructor
  · intro found
    unfold ClockTime.ofNumbers? at found
    split at found
    · cases found
      exact ⟨rfl, rfl⟩
    · cases found
  · rintro ⟨rfl, rfl⟩
    exact dif_pos ⟨clock.hour.isLt, clock.minute.isLt⟩

/-- The base of a word is found from its token. -/
theorem baseOfToken?_token_iff {word : Word} {base : Base} :
    baseOfToken? word.token = some base ↔ word.Denotes base := by
  constructor
  · intro found
    cases word with
    | now => cases found; exact .now
    | latest => cases found; exact .latest
    | earliest => cases found; exact .earliest
    | date year month day =>
        obtain ⟨date, civil, rfl⟩ := Option.map_eq_some_iff.mp found
        exact .date (Date.ofCivil?_eq_some_iff.mp civil)
    | dateTime year month day hour minute =>
        obtain ⟨date, civil, found⟩ := Option.bind_eq_some_iff.mp found
        obtain ⟨clock, shows, same⟩ := Option.bind_eq_some_iff.mp found
        cases same
        exact .dateTime (Date.ofCivil?_eq_some_iff.mp civil) (ofNumbers?_eq_some_iff.mp shows)
  · intro denotes
    cases denotes with
    | now => rfl
    | latest => rfl
    | earliest => rfl
    | date civil => exact Option.map_eq_some_iff.mpr ⟨_, Date.ofCivil?_eq_some_iff.mpr civil, rfl⟩
    | dateTime civil shows =>
        refine Option.bind_eq_some_iff.mpr ⟨_, Date.ofCivil?_eq_some_iff.mpr civil, ?_⟩
        exact Option.bind_eq_some_iff.mpr ⟨_, ofNumbers?_eq_some_iff.mpr shows, rfl⟩

theorem exists_word_of_baseOfToken? {token : Token} {base : Base}
    (found : baseOfToken? token = some base) : ∃ word : Word, word.token = token := by
  cases token with
  | now => exact ⟨.now, rfl⟩
  | latest => exact ⟨.latest, rfl⟩
  | earliest => exact ⟨.earliest, rfl⟩
  | date year month day => exact ⟨.date year month day, rfl⟩
  | dateTime year month day hour minute => exact ⟨.dateTime year month day hour minute, rfl⟩
  | _ => cases found

theorem tokenBase_follows : Follows tokenBase fun used value =>
    ∃ word : Word, [word.token] = used ∧ word.Denotes value := by
  refine (Follows.single baseOfToken? ?_ ?_ ⟨.now, .now, rfl⟩).mono ?_
  · intro token value rest found
    simp only [tokenBase, found]
  · intro tokens absent
    rcases tokens with _ | ⟨_ | token, rest⟩
    · rfl
    · rfl
    · replace absent : baseOfToken? token = none := absent
      simp only [tokenBase, absent]
  · rintro used value ⟨token, rfl, found⟩
    obtain ⟨word, rfl⟩ := exists_word_of_baseOfToken? found
    exact ⟨word, rfl, baseOfToken?_token_iff.mp found⟩

theorem base_follows : Follows base fun used value =>
    ∃ written : WrittenBase, written.tokens = used ∧ written.Denotes value := by
  have grains : Follows (Base.grain <$> grain) fun used value =>
      ∃ step : Grain, step.tokens = used ∧ value = .grain step := by
    rw [map_eq_bind]
    refine (grain_follows.bind fun step => .pure (Base.grain step)).mono ?_
    rintro used value ⟨first, _, step, rfl, rfl, rfl, rfl⟩
    exact ⟨step, (List.append_nil _).symm, rfl⟩
  refine (Follows.branch startsGrain_headed grains tokenBase_follows).mono ?_
  rintro used value (⟨step, rfl, rfl⟩ | ⟨word, rfl, denotes⟩)
  · exact ⟨.grain step, rfl, .grain step⟩
  · exact ⟨.word word, rfl, .word denotes⟩

theorem after_follows {part : Grammar α} {phrase : List Token → α → Prop} (token : Token)
    (follows : Follows part phrase) :
    Follows (after token part) fun used value? =>
      value?.elim (used = []) fun value => ∃ inner, used = token :: inner ∧ phrase inner value := by
  refine (Follows.optional (startsWith_headed token)
    ((mark_follows token).bind fun _ => follows)).mono ?_
  intro used value? allowed
  cases value? with
  | none => exact allowed
  | some value =>
      obtain ⟨_, inner, _, rfl, rfl, inside⟩ := allowed
      exact ⟨inner, rfl, inside⟩

/-- The trees of a part that may be missing. -/
theorem exists_written {Written : Type} {tokens : Written → List Token}
    {relates : Written → α → Prop} {used : List Token} {value? : Option α}
    (allowed : value?.elim (used = []) fun value =>
      ∃ written, tokens written = used ∧ relates written value) :
    ∃ written?, written?.elim [] tokens = used ∧ Option.Rel relates written? value? := by
  cases value? with
  | none => exact ⟨none, allowed.symm, .none⟩
  | some value =>
      obtain ⟨written, same, related⟩ := allowed
      exact ⟨some written, same, .some related⟩

/-- The trees of a part that may be missing, after its mark. -/
theorem exists_written_leading {Written : Type} {tokens : Written → List Token}
    {relates : Written → α → Prop} {mark : Token} {used : List Token} {value? : Option α}
    (allowed : value?.elim (used = []) fun value =>
      ∃ inner, used = mark :: inner ∧ ∃ written, tokens written = inner ∧ relates written value) :
    ∃ written?, mark.leading tokens written? = used ∧ Option.Rel relates written? value? := by
  cases value? with
  | none => exact ⟨none, allowed.symm, .none⟩
  | some value =>
      obtain ⟨inner, rfl, written, rfl, related⟩ := allowed
      exact ⟨some written, rfl, .some related⟩

theorem anchor_follows : Follows anchor fun used value =>
    ∃ written : WrittenAnchor, written.tokens = used ∧ written.Denotes value := by
  refine (base_follows.bind fun base =>
    (Follows.optional startsGrain_headed grain_follows).bind fun move? =>
      (after_follows .slash unit_follows).bind fun truncation? =>
        Follows.pure (⟨base, move?, truncation?⟩ : Anchor)).mono ?_
  rintro used value ⟨first, _, base, rfl, ⟨written, rfl, denotes⟩, second, _, move?, rfl, moved,
    third, _, truncation?, rfl, truncated, rfl, rfl⟩
  refine ⟨⟨written, move?, truncation?⟩, ?_, denotes, rfl, rfl⟩
  have moveTokens : move?.elim [] Grain.tokens = second := by
    cases move? with
    | none => exact moved.symm
    | some step => exact moved.symm
  have truncationTokens : Token.slash.leading (fun unit => [.unit unit]) truncation? = third := by
    cases truncation? with
    | none => exact truncated.symm
    | some unit =>
        obtain ⟨_, rfl, rfl⟩ := truncated
        rfl
  rw [WrittenAnchor.tokens, moveTokens, truncationTokens, List.append_nil, List.append_assoc]

theorem rounding_follows : Follows rounding fun used value => used = value.tokens := by
  have complete : Follows (do mark .pipe; let grain ← grain; mark .pipe; return .complete grain)
      fun used value => used = Rounding.tokens value := by
    refine ((mark_follows .pipe).bind fun _ => grain_follows.bind fun step =>
      (mark_follows .pipe).bind fun _ => Follows.pure (Rounding.complete step)).mono ?_
    rintro used value ⟨_, _, _, rfl, rfl, _, _, step, rfl, rfl, _, _, _, rfl, rfl, rfl, rfl⟩
    rfl
  have running : Follows (do return .running (← grain)) fun used value =>
      used = Rounding.tokens value := by
    refine (grain_follows.bind fun step => Follows.pure (Rounding.running step)).mono ?_
    rintro used value ⟨_, _, step, rfl, rfl, rfl, rfl⟩
    exact List.append_nil _
  refine (Follows.branch (startsWith_headed .pipe) complete running).mono ?_
  rintro used value (same | same)
  · exact same
  · exact same

theorem viewpoint_follows : Follows viewpoint fun used value =>
    ∃ written : WrittenViewpoint, written.tokens = used ∧ written.Drafts value := by
  refine ((Follows.optional startsAnchor_headed anchor_follows).bind fun asOf? =>
    zoneName?_follows.bind fun name? => Follows.pure (asOf?, name?)).mono ?_
  rintro used value ⟨first, _, asOf?, rfl, anchored, second, _, name?, rfl, named, rfl, rfl⟩
  obtain ⟨written?, rfl, denotes⟩ := exists_written anchored
  refine ⟨⟨written?, name?⟩, ?_, denotes, rfl⟩
  have nameTokens : (name?.elim [] fun name => [Token.zone name]) = second := by
    cases name? with
    | none => exact named.symm
    | some name => exact named.symm
  rw [WrittenViewpoint.tokens, nameTokens, List.append_nil]

theorem finish_follows : Follows finish fun used _ => used = [] where
  read := by
    intro tokens rest value read
    cases tokens with
    | nil =>
        cases read
        refine ⟨[], rfl, rfl, fun other same => ?_⟩
        rw [List.head?_eq_none_iff.mp same]
        rfl
    | cons item behind => cases read
  stop := by
    intro tokens rest stopped
    cases tokens with
    | nil => cases stopped
    | cons item behind =>
        cases stopped
        refine ⟨[], rfl, ⟨[], (), rfl⟩, fun other same => ?_⟩
        obtain ⟨_, rfl⟩ := List.head?_eq_some_iff.mp same
        rfl
  inhabited := ⟨[], (), rfl⟩

/-- The parser of whole expressions reads sentences, and stops only after tokens that begin one. -/
theorem draft_follows : Follows draft fun used value =>
    ∃ sentence : Sentence, sentence.tokens = used ∧ sentence.Drafts value := by
  refine (anchor_follows.bind fun start =>
    (after_follows .comma anchor_follows).bind fun stop? =>
      (after_follows .colon rounding_follows).bind fun rounding? =>
        (after_follows .atSign viewpoint_follows).bind fun viewpoint? =>
          finish_follows.bind fun _ =>
            Follows.pure (⟨start, stop?, rounding?, viewpoint?⟩ : Draft)).mono ?_
  rintro used value ⟨_, _, start, rfl, ⟨writtenStart, rfl, startDenotes⟩, _, _, stop?, rfl, stops,
    third, _, rounding?, rfl, rounds, _, _, viewpoint?, rfl, viewpoints, _, _, _, rfl, rfl, rfl, rfl⟩
  obtain ⟨writtenStop?, rfl, stopDenotes⟩ := exists_written_leading stops
  obtain ⟨writtenViewpoint?, rfl, viewpointDrafts⟩ := exists_written_leading viewpoints
  have roundingTokens : Token.colon.leading Rounding.tokens rounding? = third := by
    cases rounding? with
    | none => exact rounds.symm
    | some rounding =>
        obtain ⟨_, rfl, rfl⟩ := rounds
        rfl
  refine ⟨⟨writtenStart, writtenStop?, rounding?, writtenViewpoint?⟩, ?_,
    startDenotes, stopDenotes, rfl, viewpointDrafts⟩
  rw [Sentence.tokens, roundingTokens]
  simp only [List.append_assoc, List.append_nil]

end TimeRange.Grammar
