import TimeRange.Expression.Printer
import TimeRange.Proofs.Grammar.Misfit
import TimeRange.Resolution.Resolve

/-!
# Reading the canonical text

A text spells tokens if the lexer finds these tokens in it, whatever follows
but a space. Spelling is kept by joining texts, so that each part of an
expression spells the tokens of a part of a sentence that denotes it.

The main statement is `parse_canonical`: the canonical text of an expression
that was read in any notation is read as that expression. For this, the
numbers of such an expression must be ones that tokens hold, and its text must
not be taken for one of the older notations.
-/

namespace TimeRange

open Calendar Text

/-! ## Spelling -/

/-- A text in which tokens are found. It does not begin with a space, nor must a text that follows. -/
structure Spells (text : List Char) (tokens : List Token) : Prop where
  starts : text.head? ≠ some ' '
  finds : ∀ rest : List Char, rest.head? ≠ some ' ' →
    tokensOf (text ++ rest) = tokens.map some ++ tokensOf rest

namespace Spells

variable {first second : List Char} {left right : List Token}

theorem nil : Spells [] [] :=
  ⟨nofun, fun _ _ => rfl⟩

theorem append (head : Spells first left) (tail : Spells second right) :
    Spells (first ++ second) (left ++ right) where
  starts := by
    cases first with
    | nil => exact tail.starts
    | cons character first => exact head.starts
  finds := by
    intro rest ends
    have behind : (second ++ rest).head? ≠ some ' ' := by
      cases second with
      | nil => exact ends
      | cons character second => exact tail.starts
    rw [List.append_assoc, head.finds _ behind, tail.finds rest ends, List.map_append,
      List.append_assoc]

theorem lexeme {text : List Char} {token : Token}
    (cuts : ∀ rest : List Char, rest.head? ≠ some ' ' →
      Match.next (text ++ rest) = ⟨text.length, some token⟩) : Spells text [token] where
  starts := by
    intro blank
    obtain ⟨behind, rfl⟩ := List.head?_eq_some_iff.mp blank
    have found := cuts [] nofun
    rw [List.append_nil] at found
    have absent := @token?_next_of_isSeparator ' ' rfl behind
    rw [found] at absent
    cases absent
  finds rest ends := tokensOf_append (cuts rest ends)

theorem fixed {entry : List Char × Token} (listed : entry ∈ Token.fixedSpellings) :
    Spells entry.1 [entry.2] :=
  lexeme fun rest _ => Match.next_fixed listed rest

theorem unit (unit : TimeUnit) : Spells [unit.letter] [.unit unit] :=
  lexeme fun rest _ => Match.next_unit unit rest

theorem leading {Part : Type} {text : Part → List Char} {tokens : Part → List Token}
    {mark : Char} {token : Token} (listed : ([mark], token) ∈ Token.fixedSpellings) {part? : Option Part}
    (spells : ∀ part ∈ part?, Spells (text part) (tokens part)) :
    Spells (part?.elim [] fun part => mark :: text part) (token.leading tokens part?) := by
  cases part? with
  | none => exact nil
  | some part => exact (fixed listed).append (spells part rfl)

theorem optional {Part : Type} {text : Part → List Char} {tokens : Part → List Token}
    {part? : Option Part} (spells : ∀ part ∈ part?, Spells (text part) (tokens part)) :
    Spells (part?.elim [] text) (part?.elim [] tokens) := by
  cases part? with
  | none => exact nil
  | some part => exact spells part rfl

end Spells

/-! ## The parts of an expression -/

/-- A count before a unit, written in either way, spells the number and the unit. -/
theorem Spells.counted {numeral : List Char} {count : Int} (unit : TimeUnit)
    (proper : numeral.head? ≠ some ' ')
    (cuts : ∀ rest : List Char, Match.next (numeral ++ unit.letter :: rest)
      = ⟨numeral.length, some (.number count)⟩) :
    Spells (numeral ++ [unit.letter]) [.number count, .unit unit] where
  starts := by
    cases numeral with
    | nil => cases unit <;> nofun
    | cons first numeral => exact proper
  finds := by
    intro rest _
    have units : tokensOf (unit.letter :: rest) = some (.unit unit) :: tokensOf rest :=
      @tokensOf_append [unit.letter] rest _ (Match.next_unit unit rest)
    rw [List.append_assoc, List.singleton_append, tokensOf_append (cuts rest), units]
    rfl

namespace Grain

variable {grain : Grain}

theorem isDigit_letter (unit : TimeUnit) : unit.letter.isDigit = false ∧ unit.letter ≠ '-' := by
  cases unit <;> exact ⟨rfl, by decide⟩

theorem head?_signed (count : Int) : (Decimal.signed count).head? ≠ some ' ' := by
  unfold Decimal.signed
  split <;> exact nofun

theorem head?_integer (count : Int) : (Decimal.integer count).head? ≠ some ' ' := by
  unfold Decimal.integer
  split
  · exact nofun
  · intro blank
    have digit := Decimal.isDigit_of_mem_natural (List.mem_of_head? blank)
    cases digit

theorem text_spells (writable : ∀ token ∈ grain.tokens, token.Writable) :
    Spells grain.text grain.tokens := by
  rcases grain with ⟨count?, unit⟩
  cases count? with
  | none => exact .unit unit
  | some count =>
      obtain ⟨lower, upper⟩ := writable (.number count) List.mem_cons_self
      refine .counted unit (head?_integer count) fun rest => Match.next_integer lower upper ?_
      intro character member
      cases member
      exact isDigit_letter unit

theorem signedText_spells (writable : ∀ token ∈ grain.tokens, token.Writable) :
    Spells grain.signedText grain.tokens := by
  rcases grain with ⟨count?, unit⟩
  cases count? with
  | none => exact .unit unit
  | some count =>
      obtain ⟨lower, upper⟩ := writable (.number count) List.mem_cons_self
      refine .counted unit (head?_signed count) fun rest => Match.next_signed lower upper ?_
      intro character member
      cases member
      exact (isDigit_letter unit).1

end Grain

/-- A date prints as its numbers if the year has four digits. -/
theorem Text.Timestamp.dateText_eq {date : Date} {year month day : Nat}
    (civil : date.HasCivil year month day) (fits : year < 10000) :
    dateText date = Match.dateDigits year month day := by
  obtain ⟨years, months, days⟩ := civil
  have numbers : date.year.toNat = year ∧ date.month.toNat = month ∧ date.dayOfMonth.toNat = day := by
    omega
  unfold dateText yearText Match.dateDigits
  rw [if_pos (by omega), numbers.1, numbers.2.1, numbers.2.2, List.append_assoc, List.cons_append]

theorem Word.Denotes.text_spells {word : Word} {base : Base} (denotes : word.Denotes base)
    (writable : word.token.Writable) : Spells base.text [word.token] := by
  have short {date : Date} {year month day : Nat} (civil : date.HasCivil year month day) :
      month < 100 ∧ day < 100 := by
    obtain ⟨_, months, days⟩ := civil
    have monthBounds := date.month_bounds
    have dayBounds := date.dayOfMonth_bounds
    omega
  cases denotes with
  | now => exact @Spells.fixed (['n', 'o', 'w'], .now) (by decide)
  | latest => exact @Spells.fixed (['l', 'a', 't', 'e', 's', 't'], .latest) (by decide)
  | earliest =>
      exact @Spells.fixed (['e', 'a', 'r', 'l', 'i', 'e', 's', 't'], .earliest) (by decide)
  | date civil =>
      obtain ⟨monthFits, dayFits⟩ := short civil
      refine .lexeme fun rest ends => ?_
      rw [Base.text, Timestamp.dateText_eq civil writable]
      exact Match.next_date writable monthFits dayFits ends
  | @dateTime year month day hour minute date clock civil shows =>
      obtain ⟨monthFits, dayFits⟩ := short civil
      obtain ⟨rfl, rfl⟩ := shows
      have hourFits : clock.hour.val < 100 := by omega
      have minuteFits : clock.minute.val < 100 := by omega
      refine .lexeme fun rest _ => ?_
      rw [Base.text, Timestamp.dateText_eq civil writable]
      exact Match.next_dateTime writable monthFits dayFits hourFits minuteFits rest

theorem WrittenBase.Denotes.text_spells {written : WrittenBase} {base : Base}
    (denotes : written.Denotes base) (writable : ∀ token ∈ written.tokens, token.Writable) :
    Spells base.text written.tokens := by
  cases denotes with
  | grain step => exact Grain.text_spells writable
  | word found => exact found.text_spells (writable _ List.mem_cons_self)

theorem WrittenAnchor.Denotes.text_spells {written : WrittenAnchor} {anchor : Anchor}
    (denotes : written.Denotes anchor) (writable : ∀ token ∈ written.tokens, token.Writable) :
    Spells anchor.text written.tokens := by
  rcases anchor with ⟨base, move?, truncation?⟩
  obtain ⟨baseDenotes, rfl, rfl⟩ := denotes
  simp only [tokens, List.forall_mem_append] at writable
  obtain ⟨⟨baseWritable, moveWritable⟩, _⟩ := writable
  refine (((baseDenotes.text_spells baseWritable).append (.optional ?_)).append (.leading ?_ ?_))
  · intro step found
    have moved : written.move? = some step := found
    rw [moved] at moveWritable
    exact Grain.signedText_spells moveWritable
  · decide
  · exact fun unit _ => .unit unit

theorem Rounding.text_spells {rounding : Rounding}
    (writable : ∀ token ∈ rounding.tokens, token.Writable) :
    Spells rounding.text rounding.tokens := by
  have bar : Spells ['|'] [.pipe] := @Spells.fixed (['|'], .pipe) (by decide)
  cases rounding with
  | running step => exact Grain.text_spells writable
  | complete step =>
      simp only [tokens, List.cons_append, List.forall_mem_cons, List.forall_mem_append] at writable
      exact (bar.append (Grain.text_spells writable.2.1)).append bar

/-- The name of a zone of the catalogue is found between braces. -/
theorem NamedZone.spells {zone : NamedZone} (listed : zone ∈ catalogue) :
    Spells ('\x7b' :: zone.name.toList ++ ['\x7d']) [.zone zone.name] := by
  have plain : ∀ zone ∈ catalogue, zone.name.toList ≠ [] ∧ '\x7d' ∉ zone.name.toList
      ∧ Match.zoneName zone.name.toList = zone.name := by
    decide
  obtain ⟨proper, open_, same⟩ := plain zone listed
  have size : ('\x7b' :: zone.name.toList ++ ['\x7d']).length = zone.name.toList.length + 2 := by
    simp
  refine .lexeme fun rest _ => ?_
  have found := Match.next_zone proper open_ rest
  rw [same] at found
  rw [size, ← found]
  simp

theorem WrittenViewpoint.Denotes.text_spells {written : WrittenViewpoint} {viewpoint : Viewpoint}
    (denotes : written.Denotes viewpoint) (writable : ∀ token ∈ written.tokens, token.Writable) :
    Spells viewpoint.text written.tokens := by
  rcases written with ⟨writtenAsOf?, writtenZone?⟩
  rcases viewpoint with ⟨asOf?, zone?⟩
  simp only [tokens, List.forall_mem_append] at writable
  have anchors : Spells (asOf?.elim [] Anchor.text) (writtenAsOf?.elim [] WrittenAnchor.tokens) := by
    cases denotes.asOf with
    | none => exact .nil
    | some found => exact found.text_spells writable.1
  have zones : Spells (zone?.elim [] fun zone => '\x7b' :: zone.name.toList ++ ['\x7d'])
      (writtenZone?.elim [] fun name => [.zone name]) := by
    cases denotes.zone with
    | none => exact .nil
    | @some name zone known =>
        obtain ⟨listed, rfl⟩ := known
        exact zone.spells listed
  exact anchors.append zones

/-- An expression prints as a text with the tokens of a sentence that denotes it and has an end. -/
theorem Sentence.Denotes.text_spells {sentence : Sentence} {expression : Expression}
    (ended : sentence.stop?.isSome = true) (denotes : sentence.Denotes expression)
    (writable : ∀ token ∈ sentence.tokens, token.Writable) :
    Spells expression.text sentence.tokens := by
  rcases sentence with ⟨writtenStart, _ | writtenStop, writtenRounding?, writtenViewpoint?⟩
  · cases ended
  rcases expression with ⟨start, stop, rounding?, viewpoint?, grammatical⟩
  obtain ⟨startDenotes, stopDenotes, rfl, viewpointDenotes, _⟩ := denotes
  simp only [tokens, List.forall_mem_append] at writable
  obtain ⟨⟨⟨startWritable, stopWritable⟩, roundingWritable⟩, viewpointWritable⟩ := writable
  have starts := startDenotes.text_spells startWritable
  have comma : Spells [','] [.comma] := @Spells.fixed ([','], .comma) (by decide)
  have stops := stopDenotes.text_spells (List.forall_mem_cons.mp stopWritable).2
  have roundings : Spells (rounding?.elim [] fun rounding => ':' :: rounding.text)
      (Token.colon.leading Rounding.tokens rounding?) := by
    refine .leading (by decide) fun rounding found => ?_
    rw [Option.mem_def.mp found] at roundingWritable
    exact Rounding.text_spells (List.forall_mem_cons.mp roundingWritable).2
  have viewpoints : Spells (viewpoint?.elim [] fun viewpoint => '@' :: viewpoint.text)
      (Token.atSign.leading WrittenViewpoint.tokens writtenViewpoint?) := by
    have mark : Spells ['@'] [.atSign] := @Spells.fixed (['@'], .atSign) (by decide)
    cases viewpointDenotes with
    | none => exact .nil
    | some found =>
        exact mark.append (found.text_spells (List.forall_mem_cons.mp viewpointWritable).2)
  exact ((starts.append (comma.append stops)).append roundings).append viewpoints

/-! ## Expressions that can be written -/

/--
Whether an expression can be written: apart from its mark, some sentence with an
end denotes it, and the numbers of that sentence are ones that tokens hold.
-/
def Expression.Writable (expression : Expression) : Prop :=
  ∃ sentence : Sentence, sentence.stop?.isSome = true
    ∧ sentence.Denotes { expression with grammatical := false }
    ∧ ∀ token ∈ sentence.tokens, token.Writable

namespace Sentence

def ended (sentence : Sentence) : Sentence :=
  { sentence with stop? := some (sentence.stop?.getD .now) }

theorem Denotes.ended {sentence : Sentence} {expression : Expression}
    (denotes : sentence.Denotes expression) : sentence.ended.Denotes expression :=
  ⟨denotes.start, denotes.stop, denotes.rounding, denotes.viewpoint, denotes.unmarked⟩

theorem writable_ended {sentence : Sentence} (writable : ∀ token ∈ sentence.tokens, token.Writable) :
    ∀ token ∈ sentence.ended.tokens, token.Writable := by
  rcases sentence with ⟨start, stop?, rounding?, viewpoint?⟩
  cases stop? with
  | none =>
      simp only [tokens, List.forall_mem_append] at writable ⊢
      obtain ⟨⟨⟨starts, _⟩, roundings⟩, viewpoints⟩ := writable
      have present : ∀ token ∈ Token.comma.leading WrittenAnchor.tokens (some .now),
          token.Writable := by
        simp [Token.leading, WrittenAnchor.tokens, WrittenAnchor.now, WrittenBase.tokens, Word.token,
          Token.Writable]
      exact ⟨⟨⟨starts, present⟩, roundings⟩, viewpoints⟩
  | some stop => exact writable

end Sentence

namespace Expression

theorem writable_of_ofGrammar {text : String} {expression : Expression}
    (read : ofGrammar text = .ok expression) : expression.marked.Writable := by
  obtain ⟨sentence, lexes, denotes⟩ := exists_sentence_of_ofGrammar_eq_ok read
  have same : { expression.marked with grammatical := false } = expression := by
    rcases expression with ⟨start, stop, rounding?, viewpoint?, grammatical⟩
    rw [show grammatical = false from denotes.unmarked]
    rfl
  refine ⟨sentence.ended, rfl, ?_, Sentence.writable_ended fun token member => ?_⟩
  · rw [same]
    exact denotes.ended
  · refine @writable_of_mem_items text.toList token ?_
    rw [lexes]
    exact List.mem_map_of_mem member

end Expression

theorem Duration.writable_of_grains {components : List Component} {kept : List Grain}
    (read : grains components = .ok kept) :
    ∀ grain ∈ kept, ∀ token ∈ grain.tokens, token.Writable := by
  induction components generalizing kept with
  | nil =>
      cases read
      exact nofun
  | cons component later ih =>
      unfold grains at read
      split at read
      · rename_i grain held
        obtain ⟨behind, laterRead, rfl⟩ := map_eq_ok_iff.mp read
        rw [List.forall_mem_cons]
        refine ⟨?_, ih laterRead⟩
        obtain ⟨count, counted, rfl⟩ := Option.map_eq_some_iff.mp held
        unfold Component.count? at counted
        dsimp only at counted
        split at counted
        · rename_i upper
          cases counted
          have lower : leastCount ≤ (Decimal.value component.digits : Int) :=
            Int.le_trans (by decide) (Int.natCast_nonneg _)
          simp [Grain.tokens, Token.Writable, lower, upper]
        · cases counted
      · cases read

namespace Reading

theorem writable_everything : everything.expression.Writable := by
  refine ⟨⟨⟨.word .earliest, none, none⟩, some ⟨.word .latest, none, none⟩, none, none⟩, rfl, ?_, ?_⟩
  · exact ⟨⟨.word .earliest, rfl, rfl⟩, ⟨.word .latest, rfl, rfl⟩, rfl, .none, rfl⟩
  · simp [Sentence.tokens, Token.leading, WrittenAnchor.tokens, WrittenBase.tokens, Word.token,
      Token.Writable]

theorem writable_duration {kept : Grain} (writable : ∀ token ∈ kept.tokens, token.Writable)
    (compound : Bool) : (duration kept compound).expression.Writable := by
  refine ⟨Sentence.ended ⟨⟨.grain kept, none, none⟩, none, none, none⟩, rfl, ?_, ?_⟩
  · exact ⟨⟨.grain kept, rfl, rfl⟩, ⟨.word .now, rfl, rfl⟩, rfl, .none, rfl⟩
  · refine Sentence.writable_ended ?_
    simpa [Sentence.tokens, Token.leading, WrittenAnchor.tokens, WrittenBase.tokens] using writable

theorem writable_of_ofComponents {text : String} {components : List Duration.Component}
    {reading : Reading} (read : ofComponents text components = .ok reading) :
    reading.expression.Writable := by
  unfold ofComponents at read
  split at read
  · cases read
  · rename_i grains held
    split at read
    · cases read
    · rename_i kept last
      cases read
      exact writable_duration (Duration.writable_of_grains held kept (List.mem_of_getLast? last)) _

theorem writable_of_ofPeriod {name expansion : String} {reading : Reading}
    (read : ofPeriod name expansion = .ok reading) : reading.expression.Writable := by
  unfold ofPeriod at read
  split at read
  · cases read
  · obtain ⟨expression, found, rfl⟩ := map_eq_ok_iff.mp read
    exact Expression.writable_of_ofGrammar found

theorem writable_of_ofText {text : String} {reading : Reading} (read : ofText text = .ok reading) :
    reading.expression.Writable := by
  have found := route text
  rw [read] at found
  generalize same : Except.ok reading = result at found
  cases found with
  | everything =>
      cases same
      exact writable_everything
  | period asked listed => exact writable_of_ofPeriod same.symm
  | duration components => exact writable_of_ofComponents same.symm
  | grammar =>
      obtain ⟨expression, found, rfl⟩ := map_eq_ok_iff.mp same.symm
      exact Expression.writable_of_ofGrammar found

end Reading

/-! ## Reading again -/

namespace Expression

/-- The canonical text of an expression that can be written is read as this expression. -/
theorem parse_canonical_of_writable {expression : Expression} (writable : expression.Writable) :
    parse expression.canonical = .ok { expression with grammatical := true } := by
  obtain ⟨sentence, ended, denotes, tokensWritable⟩ := writable
  have lexes : Lexes expression.canonical sentence.tokens := by
    have found := (denotes.text_spells ended tokensWritable).finds [] nofun
    rw [List.append_nil, tokensOf_nil, List.append_nil] at found
    rw [Lexes, canonical, String.toList_ofList]
    exact found
  rw [parse_of_lexes lexes]
  exact map_eq_ok_iff.mpr ⟨_, (ofGrammar_eq_ok_iff_denotes lexes).mpr denotes, rfl⟩

/--
The canonical text of an expression that was read in any notation is read as
that expression, now one of the grammar. It prints as the same text, and
resolves to the same range in every context.
-/
theorem parse_canonical {text : String} {expression : Expression}
    (read : parse text = .ok expression) :
    parse expression.canonical = .ok { expression with grammatical := true }
      ∧ ({ expression with grammatical := true } : Expression).canonical = expression.canonical
      ∧ ∀ context, ({ expression with grammatical := true } : Expression).resolve context
          = expression.resolve context := by
  obtain ⟨reading, found, rfl⟩ := map_eq_ok_iff.mp read
  exact ⟨parse_canonical_of_writable (Reading.writable_of_ofText found), rfl, fun _ => rfl⟩

/-- A text with white space, a capital letter for days and a padded zone is read again without them. -/
theorem parse_canonical_of_padded :
    ∃ expression, parse "+07D , latest @ { UTC }" = .ok expression
      ∧ parse "7d,latest@{UTC}" = .ok { expression with grammatical := true } := by
  have lexes : Lexes "+07D , latest @ { UTC }"
      [.number 7, .unit .day, .comma, .latest, .atSign, .zone "UTC"] := by
    unfold Lexes
    decide +kernel
  have read : parse "+07D , latest @ { UTC }" = .ok ⟨.ofBase (.grain ⟨some 7, .day⟩),
      .ofBase .latest, none, some ⟨none, some .utc⟩, true⟩ :=
    parse_of_draft lexes rfl
  exact ⟨_, read, (parse_canonical read).1⟩

end Expression

end TimeRange
