import TimeRange.Proofs.Grammar.Route

/-!
# Where reading fails

A text that is not an expression is blamed on its first wrong item: the tokens
before it begin a sentence, and no sentence goes on with its token, if it has
one that exists. If there is no wrong item, then the text ends too early.

That no sentence goes on is shown by mending. A sentence with the same
beginning, in which dates that do not exist are replaced, would be read, and
the parser has not looked behind the wrong item.
-/

namespace TimeRange

open Calendar

/-! ## Mended sentences -/

/-- A token in place of which the present stands, if it names a date that does not exist. -/
def Token.mended (token : Token) : Token :=
  if token.Exists then token else .now

def Word.mended (word : Word) : Word :=
  if word.token.Exists then word else .now

def WrittenBase.mended : WrittenBase → WrittenBase
  | .grain step => .grain step
  | .word single => .word single.mended

def WrittenAnchor.mended (written : WrittenAnchor) : WrittenAnchor :=
  ⟨written.base.mended, written.move?, written.truncation?⟩

def WrittenViewpoint.mended (written : WrittenViewpoint) : WrittenViewpoint :=
  ⟨written.asOf?.map WrittenAnchor.mended, written.zone?⟩

def Sentence.mended (sentence : Sentence) : Sentence :=
  ⟨sentence.start.mended, sentence.stop?.map WrittenAnchor.mended, sentence.rounding?,
    sentence.viewpoint?.map WrittenViewpoint.mended⟩

namespace Token

theorem mended_exists (token : Token) : token.mended.Exists := by
  unfold mended
  split
  · assumption
  · trivial

theorem mended_eq_self {token : Token} (real : token.Exists) : token.mended = token :=
  if_pos real

theorem map_mended_eq_self {tokens : List Token} (real : ∀ token ∈ tokens, token.Exists) :
    tokens.map mended = tokens := by
  have each : tokens.map mended = tokens.map id :=
    List.map_congr_left fun token member => mended_eq_self (real token member)
  rw [each, List.map_id]

theorem map_mended_leading {Part : Type} {tokens : Part → List Token} {mend : Part → Part}
    (mark : Token) (real : mark.Exists)
    (mends : ∀ part, tokens (mend part) = (tokens part).map mended) (part? : Option Part) :
    mark.leading tokens (part?.map mend) = (mark.leading tokens part?).map mended := by
  cases part? with
  | none => rfl
  | some part =>
      show mark :: tokens (mend part) = mark.mended :: (tokens part).map mended
      rw [mends, mended_eq_self real]

end Token

theorem Word.token_mended (word : Word) : word.mended.token = word.token.mended := by
  unfold Word.mended Token.mended
  split
  · rfl
  · rfl

theorem WrittenBase.tokens_mended (written : WrittenBase) :
    written.mended.tokens = written.tokens.map Token.mended := by
  cases written with
  | grain step => exact (Token.map_mended_eq_self fun _ member => Grain.exists_of_mem member).symm
  | word single => exact congrArg (fun token => [token]) single.token_mended

theorem WrittenAnchor.tokens_mended (written : WrittenAnchor) :
    written.mended.tokens = written.tokens.map Token.mended := by
  have moves : (written.move?.elim [] Grain.tokens).map Token.mended
      = written.move?.elim [] Grain.tokens := by
    cases written.move? with
    | none => rfl
    | some step => exact Token.map_mended_eq_self fun _ member => Grain.exists_of_mem member
  have truncations : (Token.slash.leading (fun unit => [.unit unit]) written.truncation?).map
      Token.mended = Token.slash.leading (fun unit => [.unit unit]) written.truncation? := by
    cases written.truncation? <;> rfl
  simp only [tokens, mended, List.map_append, written.base.tokens_mended, moves, truncations]

theorem WrittenViewpoint.tokens_mended (written : WrittenViewpoint) :
    written.mended.tokens = written.tokens.map Token.mended := by
  rcases written with ⟨asOf?, zone?⟩
  have zones : (zone?.elim [] fun name => [Token.zone name]).map Token.mended
      = zone?.elim [] fun name => [Token.zone name] := by
    cases zone? <;> rfl
  cases asOf? with
  | none => exact zones.symm
  | some asOf =>
      have anchors := asOf.tokens_mended
      show asOf.mended.tokens ++ (zone?.elim [] fun name => [Token.zone name])
        = (asOf.tokens ++ zone?.elim [] fun name => [Token.zone name]).map Token.mended
      rw [anchors, List.map_append, zones]

namespace Sentence

theorem tokens_mended (sentence : Sentence) :
    sentence.mended.tokens = sentence.tokens.map Token.mended := by
  have roundings : (Token.colon.leading Rounding.tokens sentence.rounding?).map Token.mended
      = Token.colon.leading Rounding.tokens sentence.rounding? := by
    refine Token.map_mended_eq_self ((Token.colon.forall_exists_leading_iff trivial).mpr ?_)
    exact fun _ _ _ member => Rounding.exists_of_mem member
  simp only [tokens, mended, List.map_append, sentence.start.tokens_mended,
    Token.map_mended_leading .comma trivial WrittenAnchor.tokens_mended,
    Token.map_mended_leading .atSign trivial WrittenViewpoint.tokens_mended, roundings]

theorem exists_drafts_mended (sentence : Sentence) : ∃ draft, sentence.mended.Drafts draft := by
  rw [exists_drafts_iff, tokens_mended]
  intro token member
  obtain ⟨original, _, rfl⟩ := List.mem_map.mp member
  exact original.mended_exists

end Sentence

/-! ## The first wrong item -/

/-- Where the parser stops, a sentence was begun, and none goes on with the next token if it exists. -/
theorem Grammar.draft_stops {tokens rest : List (Option Token)} (stopped : draft tokens = .error rest) :
    ∃ used : List Token, tokens = used.map some ++ rest ∧ Viable used
      ∧ (rest = [] → ¬ Grammatical used)
      ∧ ∀ token behind, rest = some token :: behind → token.Exists → ¬ Viable (used ++ [token]) := by
  obtain ⟨used, split, ⟨more, _, begun, sameTokens, drafts⟩, ahead⟩ := draft_follows.stop stopped
  have real : ∀ token ∈ used, token.Exists := by
    have each := begun.exists_drafts_iff.mp ⟨_, drafts⟩
    rw [sameTokens] at each
    exact fun token member => each token (List.mem_append_left more member)
  -- The mended sentence is read, and the parser cannot tell it from the text up to the next token.
  have clash {later : List Token} (derives : Grammatical (used ++ later))
      (looks : ((later.map Token.mended).map some).head? = rest.head?) : False := by
    obtain ⟨sentence, same⟩ := derives
    obtain ⟨draft, mendedDrafts⟩ := sentence.exists_drafts_mended
    have read := draft_reads mendedDrafts
    rw [sentence.tokens_mended, same, List.map_append, Token.map_mended_eq_self real, List.map_append,
      ahead _ looks] at read
    cases read
  refine ⟨used, split, ⟨more, begun, sameTokens⟩, ?_, ?_⟩
  · rintro rfl derives
    exact @clash [] (by rwa [List.append_nil]) rfl
  · rintro token behind rfl exists_ ⟨later, derives⟩
    rw [List.append_assoc] at derives
    refine clash derives ?_
    rw [List.singleton_append, List.map_cons, Token.mended_eq_self exists_]
    rfl

/-! ## Places in a text -/

theorem utf8Length_eq (text : List Char) : utf8Length text = (String.ofList text).utf8ByteSize := by
  induction text with
  | nil => rfl
  | cons first rest ih =>
      rw [utf8Length, ih, String.ofList_cons, String.utf8ByteSize_append, String.utf8ByteSize_singleton]

/-- A misfit is a piece of a text, between two characters. -/
def Misfit.LiesIn (misfit : Misfit) (text : String) : Prop :=
  ∃ before after : String, text = before ++ misfit.fragment ++ after
    ∧ misfit.start = before.utf8ByteSize ∧ misfit.stop = (before ++ misfit.fragment).utf8ByteSize

def Item.misfit (item : Item) : Misfit :=
  ⟨String.ofList item.lexeme, item.start, item.stop⟩

namespace Item

variable {text : String} {item : Item}

theorem misfit_liesIn (listed : item ∈ items text.toList) : item.misfit.LiesIn text := by
  obtain ⟨before, rest, split, _, rfl⟩ := exists_next_of_mem_items listed
  refine ⟨String.ofList before, String.ofList (rest.drop (Match.next rest).length), ?_, ?_, ?_⟩
  · dsimp only [misfit]
    rw [← String.ofList_append, ← String.ofList_append, List.append_assoc, List.take_append_drop,
      ← split, String.ofList_toList]
  · dsimp only [misfit]
    rw [Nat.zero_add, utf8Length_eq]
  · dsimp only [misfit, stop]
    rw [Nat.zero_add, utf8Length_eq, utf8Length_eq, String.utf8ByteSize_append]

theorem fragment_misfit_ne_empty (listed : item ∈ items text.toList) : item.misfit.fragment ≠ "" := by
  obtain ⟨before, rest, _, proper, rfl⟩ := exists_next_of_mem_items listed
  have fits := Match.next_fits proper
  intro empty
  have size := congrArg (fun fragment : String => fragment.toList.length) empty
  simp only [misfit, String.toList_ofList, List.length_take] at size
  have none_ : "".toList.length = 0 := rfl
  unfold Match.Fits at fits
  omega

end Item

/-! ## Errors of the grammar -/

/-- What it means that a text does not fit the grammar at some place. -/
inductive Misfit.Blames (text : String) : Misfit → Prop where
  /-- The text ends too early. -/
  | ending {tokens : List Token} (lexes : Lexes text tokens) (unfinished : ¬ Grammatical tokens)
      (begun : Viable tokens) : Blames text ⟨"", text.utf8ByteSize, text.utf8ByteSize⟩
  /-- An item is wrong: if its token is one that exists, no sentence goes on with it. -/
  | item {before after : List Item} {item : Item} {tokens : List Token}
      (split : items text.toList = before ++ item :: after)
      (lexes : before.map Item.token? = tokens.map some) (begun : Viable tokens)
      (wrong : ∀ token, item.token? = some token → token.Exists → ¬ Viable (tokens ++ [token])) :
      Blames text item.misfit

theorem Misfit.among_append (before after : List Item) (textLength : Nat) :
    Misfit.among (before ++ after) after.length textLength =
      (after.head?.map Item.misfit).getD ⟨"", textLength, textLength⟩ := by
  have passed : (before ++ after).length - after.length = before.length := by
    rw [List.length_append]
    exact Nat.add_sub_cancel _ _
  unfold Misfit.among
  rw [passed, List.drop_left]
  cases after <;> rfl

namespace Expression

/-- The parser of whole expressions blames the first wrong item. -/
theorem blames_of_draft_error {text : String} {rest : List (Option Token)}
    (stopped : Grammar.draft (tokensOf text.toList) = .error rest) :
    (Misfit.among (items text.toList) rest.length (utf8Length text.toList)).Blames text := by
  obtain ⟨used, split, begun, unfinished, wrong⟩ := Grammar.draft_stops stopped
  obtain ⟨before, after, parts, usedTokens, rfl⟩ := List.map_eq_append_iff.mp split
  have size : utf8Length text.toList = text.utf8ByteSize := by
    rw [utf8Length_eq, String.ofList_toList]
  rw [parts, List.length_map, Misfit.among_append, size]
  cases after with
  | nil =>
      refine .ending ?_ (unfinished rfl) begun
      rw [List.append_nil] at parts
      rw [Lexes, tokensOf, parts]
      exact usedTokens
  | cons item later =>
      refine .item parts usedTokens begun fun token given exists_ => ?_
      exact wrong token (later.map Item.token?) (by rw [List.map_cons, given]) exists_

/-- The grammar fails at a misfit, or for a zone after a sentence. -/
theorem of_ofGrammar_eq_error {text : String} {error : ReadError}
    (failed : ofGrammar text = .error error) :
    (∃ misfit : Misfit, error = .unexpected misfit ∧ misfit.Blames text)
      ∨ ∃ name tokens, error = .unknownZone name ∧ Lexes text tokens ∧ Grammatical tokens := by
  unfold ofGrammar at failed
  dsimp only at failed
  split at failed
  · rename_i draft rest drafted
    obtain rfl := Grammar.rest_of_draft drafted
    obtain ⟨used, split, ⟨sentence, rfl, drafts⟩, _⟩ := Grammar.draft_follows.read drafted
    obtain ⟨name, _, rfl⟩ := drafts.of_expression_eq_error failed
    rw [List.append_nil] at split
    exact .inr ⟨name, sentence.tokens, rfl, split, sentence, rfl⟩
  · rename_i rest stopped
    cases failed
    exact .inl ⟨_, rfl, blames_of_draft_error stopped⟩

end Expression

theorem Misfit.Blames.liesIn {text : String} {misfit : Misfit} (blames : misfit.Blames text) :
    misfit.LiesIn text := by
  cases blames with
  | ending _ _ _ => exact ⟨text, "", by simp, rfl, by simp⟩
  | item split _ _ _ =>
      exact Item.misfit_liesIn (by rw [split]; exact List.mem_append_right _ List.mem_cons_self)

/-! ## Errors of the older notations -/

def Misfit.reserved : Misfit :=
  ⟨"PP", 5, 7⟩

theorem Reading.of_ofPeriod_eq_error {name expansion : String} {error : ReadError}
    (listed : (name, expansion) ∈ Period.names) (failed : ofPeriod name expansion = .error error) :
    name = "PP" ∧ error = .unexpected .reserved := by
  unfold ofPeriod at failed
  split at failed
  · rename_i empty
    have named : ∀ entry ∈ Period.names, entry.2.isEmpty = true → entry.1 = "PP" := by decide
    obtain rfl : name = "PP" := named (name, expansion) listed empty
    cases failed
    exact ⟨rfl, rfl⟩
  · rename_i proper
    obtain ⟨expression, read⟩ := Period.ofGrammar_expansion listed (Bool.eq_false_iff.mpr proper)
    rw [read] at failed
    cases failed

theorem Reading.of_ofComponents_eq_error {text : String} {components : List Duration.Component}
    {error : ReadError} (failed : ofComponents text components = .error error) :
    ∃ component, error = .invalidDuration text component := by
  unfold ofComponents at failed
  split at failed
  · cases failed
    exact ⟨_, rfl⟩
  · split at failed
    · cases failed
      exact ⟨_, rfl⟩
    · cases failed

/-- What is wrong with a text that is read in no notation. -/
theorem Expression.of_parse_eq_error {text : String} {error : ReadError}
    (failed : parse text = .error error) :
    ofGrammar text = .error error ∨ (text = "rill-PP" ∧ error = .unexpected .reserved)
      ∨ ∃ component, error = .invalidDuration text component := by
  have route := Reading.route text
  have unread := map_eq_error_iff.mp failed
  rw [unread] at route
  generalize same : Except.error error = result at route
  cases route with
  | everything => cases same
  | period asked listed =>
      obtain ⟨rfl, rfl⟩ := Reading.of_ofPeriod_eq_error listed same.symm
      exact .inr (.inl ⟨asked, rfl⟩)
  | duration found => exact .inr (.inr (Reading.of_ofComponents_eq_error same.symm))
  | grammar => exact .inl (map_eq_error_iff.mp same.symm)

namespace Expression

/--
A text that does not fit is blamed on a piece of it. If the grammar blames the
empty piece, then it is the end of the text, whose tokens only begin a
sentence. Otherwise the piece is an item after tokens that begin a sentence,
and it has no token, or one that does not exist, or one with which no sentence
goes on. An unknown zone is found only in a text whose tokens are those of a
sentence.
-/
theorem parse_blames_first_wrong_item (text : String) :
    (∀ misfit, parse text = .error (.unexpected misfit) →
        misfit.LiesIn text ∧
          (ofGrammar text = .error (.unexpected misfit)
            ∨ text = "rill-PP" ∧ misfit = .reserved)) ∧
      (∀ misfit, ofGrammar text = .error (.unexpected misfit) →
        misfit.LiesIn text ∧
          (misfit.fragment = "" →
            misfit.start = text.utf8ByteSize ∧ misfit.stop = text.utf8ByteSize ∧
              ∃ tokens, Lexes text tokens ∧ ¬ Grammatical tokens ∧
                ∃ more, more ≠ [] ∧ Grammatical (tokens ++ more)) ∧
          (misfit.fragment ≠ "" →
            ∃ before item after tokens, items text.toList = before ++ item :: after ∧
              misfit = item.misfit ∧ before.map Item.token? = tokens.map some ∧ Viable tokens ∧
                (item.token? = none ∨ ∃ token, item.token? = some token ∧
                  (¬ token.Exists ∨ ¬ Viable (tokens ++ [token]))))) ∧
      ∀ name, parse text = .error (.unknownZone name) →
        ∃ tokens, Lexes text tokens ∧ Grammatical tokens := by
  have blamed {misfit : Misfit} (failed : ofGrammar text = .error (.unexpected misfit)) :
      misfit.Blames text := by
    rcases of_ofGrammar_eq_error failed with ⟨_, same, blames⟩ | ⟨_, _, same, _⟩
    · cases same
      exact blames
    · cases same
  refine ⟨?_, ?_, ?_⟩
  · intro misfit failed
    rcases of_parse_eq_error failed with grammar | ⟨rfl, same⟩ | ⟨_, same⟩
    · exact ⟨(blamed grammar).liesIn, .inl grammar⟩
    · cases same
      exact ⟨⟨"rill-", "", rfl, rfl, rfl⟩, .inr ⟨rfl, rfl⟩⟩
    · cases same
  · intro misfit failed
    have blames := blamed failed
    refine ⟨blames.liesIn, ?_, ?_⟩
    · intro empty
      cases blames with
      | @ending tokens lexes unfinished begun =>
          obtain ⟨more, derives⟩ := begun
          refine ⟨rfl, rfl, tokens, lexes, unfinished, more, ?_, derives⟩
          rintro rfl
          exact unfinished (by rwa [List.append_nil] at derives)
      | item split _ _ _ =>
          refine absurd empty (@Item.fragment_misfit_ne_empty text _ ?_)
          rw [split]
          exact List.mem_append_right _ List.mem_cons_self
    · intro proper
      cases blames with
      | ending _ _ _ => exact absurd rfl proper
      | @item before after item tokens split lexes begun wrong =>
          refine ⟨before, item, after, tokens, split, rfl, lexes, begun, ?_⟩
          cases given : item.token? with
          | none => exact .inl rfl
          | some token =>
              refine .inr ⟨token, rfl, ?_⟩
              by_cases exists_ : token.Exists
              · exact .inr (wrong token given exists_)
              · exact .inl exists_
  · intro name failed
    rcases of_parse_eq_error failed with grammar | ⟨_, same⟩ | ⟨_, same⟩
    · rcases of_ofGrammar_eq_error grammar with ⟨_, same, _⟩ | ⟨_, tokens, _, lexes, derives⟩
      · cases same
      · exact ⟨tokens, lexes, derives⟩
    · cases same
    · cases same

/-- A second word is the first wrong item. -/
theorem parse_blames_second_word : Misfit.LiesIn ⟨"now", 4, 7⟩ "now now" := by
  have lexed : items "now now".toList
      = [⟨some .now, ['n', 'o', 'w'], 0⟩, ⟨some .now, ['n', 'o', 'w'], 4⟩] := by
    decide +kernel
  have lexes : Lexes "now now" [.now, .now] := congrArg (List.map Item.token?) lexed
  have failed : parse "now now" = .error (.unexpected ⟨"now", 4, 7⟩) := by
    rw [parse_of_lexes lexes, ofGrammar, lexed]
    rfl
  exact ((parse_blames_first_wrong_item "now now").1 _ failed).1

end Expression

end TimeRange
