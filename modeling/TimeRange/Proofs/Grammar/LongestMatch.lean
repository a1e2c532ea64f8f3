import TimeRange.Proofs.Grammar.Misfit
import TimeRange.Proofs.Grammar.Pattern

/-!
# How a text is cut into items

At each place that is not white space the longest text of a pattern is cut off.
What the lexer matches is a text of a pattern. The other way round, where a
text of a pattern begins there is a match that is not shorter, though it need
not be the same: a number may go on with more digits, and a date with a clock
time. Where there is none, a single character is cut off, or all that is left
if a brace opens there and is never closed.

`IsCut` says how items lie in a text: in order, each the piece that is to be cut
off at its place, with nothing but white space between and around them. The
main statements are `items_isCut`, that the lexer cuts every text in this way,
and `IsCut.eq_itemsFrom`, that no other items do.
-/

namespace TimeRange

/-! ## The longest match -/

namespace Match

variable {text : List Char} {found : Match}

theorem mem_candidates_of_date? (matched : date? text = some found) : found ∈ candidates text := by
  simp [candidates, matched]

theorem mem_candidates_of_number? (matched : number? text = some found) : found ∈ candidates text := by
  simp [candidates, matched]

/-- At the start of a number all digits there are taken. -/
theorem number?_append {mark digits : List Char} {sign : Int}
    (signed : (mark, sign) ∈ [([], 1), (['+'], 1), (['-'], -1)]) (proper : digits ≠ [])
    (numeral : ∀ digit ∈ digits, digit.isDigit = true) (rest : List Char) :
    number? (mark ++ digits ++ rest)
      = numberOf mark.length sign (digits ++ rest.takeWhile Char.isDigit) := by
  have taken : (digits ++ rest).takeWhile Char.isDigit = digits ++ rest.takeWhile Char.isDigit :=
    List.takeWhile_append_of_pos numeral
  rw [← taken]
  rcases Spelling.sign_cases signed with ⟨rfl, rfl⟩ | ⟨rfl, rfl⟩ | ⟨rfl, rfl⟩
  · obtain ⟨first, others, rfl⟩ := List.exists_cons_of_ne_nil proper
    have digit := numeral first List.mem_cons_self
    rw [List.nil_append]
    unfold number?
    split
    · rename_i same
      cases same
      cases digit
    · rename_i same
      cases same
      cases digit
    · rfl
  · rfl
  · rfl

end Match

namespace Spelling

variable {lexeme rest : List Char} {token : Token} {token? : Option Token}

theorem exists_candidate_of_ends (spelling : Spelling lexeme token?) (given : token? = some token)
    (ends : token.EndsBefore rest) :
    ∃ found ∈ Match.candidates (lexeme ++ rest), lexeme.length ≤ found.length := by
  have cut := spelling.next_append given ends
  have listed := Match.mem_candidates_of_next (congrArg Match.token? cut)
  exact ⟨_, listed, by rw [cut]⟩

theorem exists_candidate (spelling : Spelling lexeme token?) (rest : List Char) :
    ∃ found ∈ Match.candidates (lexeme ++ rest), lexeme.length ≤ found.length := by
  cases spelling with
  | fixed listed =>
      have plain : ∀ entry ∈ Token.fixedSpellings, entry.2.EndsBefore rest := by
        simp [Token.fixedSpellings, Token.EndsBefore]
      exact (Spelling.fixed listed).exists_candidate_of_ends rfl (plain _ listed)
  | unit names => exact (Spelling.unit names).exists_candidate_of_ends rfl trivial
  | zone proper open_ => exact (Spelling.zone proper open_).exists_candidate_of_ends rfl trivial
  | dateTime formed size =>
      exact (Spelling.dateTime formed size).exists_candidate_of_ends rfl trivial
  | date formed size =>
      -- A clock time may follow, and then the date is not what is cut off.
      have begins := (Match.append_of_hasShape formed size rest).1
      exact ⟨_, Match.mem_candidates_of_date? (if_pos begins), Nat.le_of_eq size⟩
  | number signed proper numeral =>
      have more : _ ++ rest.takeWhile Char.isDigit ≠ [] := List.append_ne_nil_of_left_ne_nil proper _
      have counted := Match.number?_append signed proper numeral rest
      rw [Match.numberOf_of_ne_nil more] at counted
      refine ⟨_, Match.mem_candidates_of_number? counted, ?_⟩
      simp only [List.length_append]
      omega

end Spelling

def Unclosed (text : List Char) : Prop :=
  ∃ inner, inner ≠ [] ∧ '\x7d' ∉ inner ∧ text = '\x7b' :: inner

namespace Item

/-- An item that is the longest text of a pattern that a text begins with, and has the token of the pattern. -/
structure IsLongest (item : Item) (pattern : Pattern) (text : List Char) : Prop where
  matched : item.lexeme ∈ pattern.language
  longest : ∀ (other : Pattern) (piece : List Char), piece <+: text → piece ∈ other.language →
    piece.length ≤ item.lexeme.length
  carries : item.token? = pattern.token? item.lexeme
  bare_iff : item.token? = none ↔ pattern = .number ∧
    ¬ (leastCount ≤ Pattern.count item.lexeme ∧ Pattern.count item.lexeme ≤ greatestCount)

/-- An item without a token, at the start of a text that begins with no text of a pattern. -/
structure IsStray (item : Item) (text : List Char) : Prop where
  unmatched : ∀ (pattern : Pattern) (piece : List Char), piece <+: text → piece ∉ pattern.language
  bare : item.token? = none
  extent : (Unclosed text ∧ item.lexeme = text) ∨ (¬ Unclosed text ∧ item.lexeme.length = 1)

/-- What is to be cut off at the start of a text. -/
structure IsNext (item : Item) (text : List Char) : Prop where
  begins : item.lexeme <+: text
  longest_or_stray : (∃ pattern, item.IsLongest pattern text) ∨ item.IsStray text

theorem IsNext.unique {item other : Item} {text : List Char} (next : item.IsNext text)
    (also : other.IsNext text) : item.lexeme = other.lexeme ∧ item.token? = other.token? := by
  have same (sizes : item.lexeme.length = other.lexeme.length) : item.lexeme = other.lexeme :=
    (List.prefix_of_prefix_length_le next.begins also.begins sizes.le).eq_of_length sizes
  rcases next.longest_or_stray with ⟨pattern, long⟩ | stray
  · rcases also.longest_or_stray with ⟨rival, longer⟩ | stray
    · have lexemes := same (Nat.le_antisymm (longer.longest pattern _ next.begins long.matched)
        (long.longest rival _ also.begins longer.matched))
      refine ⟨lexemes, ?_⟩
      have patterns := Pattern.unique long.matched (lexemes ▸ longer.matched)
      rw [long.carries, longer.carries, lexemes, patterns]
    · cases stray.unmatched pattern _ next.begins long.matched
  · rcases also.longest_or_stray with ⟨rival, longer⟩ | another
    · cases stray.unmatched rival _ also.begins longer.matched
    · refine ⟨?_, stray.bare.trans another.bare.symm⟩
      rcases stray.extent with ⟨unclosed, whole⟩ | ⟨closed, single⟩
      · rcases another.extent with ⟨_, all⟩ | ⟨closed, _⟩
        · rw [whole, all]
        · cases closed unclosed
      · rcases another.extent with ⟨unclosed, _⟩ | ⟨_, one⟩
        · cases closed unclosed
        · exact same (single.trans one.symm)

end Item

namespace Match

variable {text : List Char}

/-- Where a text of a pattern begins, a match is chosen, and is not shorter. -/
theorem exists_longest?_of_prefix {pattern : Pattern} {piece : List Char} (begins : piece <+: text)
    (matched : piece ∈ pattern.language) :
    ∃ best, longest? (candidates text) = some best ∧ piece.length ≤ best.length := by
  obtain ⟨rest, rfl⟩ := begins
  obtain ⟨found, listed, long⟩ := (Pattern.spelling_of_mem matched).exists_candidate rest
  cases chosen : longest? (candidates (piece ++ rest)) with
  | none =>
      rw [longest?_eq_none_iff.mp chosen] at listed
      cases listed
  | some best => exact ⟨best, rfl, long.trans (length_le_of_longest? chosen listed)⟩

theorem extent_unmatched (proper : text ≠ []) :
    (Unclosed text ∧ text.take (unmatched text).length = text)
      ∨ (¬ Unclosed text ∧ (text.take (unmatched text).length).length = 1) := by
  unfold unmatched
  split
  · rename_i rest
    have unclosed : Unclosed ('\x7b' :: rest) ↔ (!rest.isEmpty && !rest.contains '\x7d') = true := by
      simp [Unclosed]
    by_cases open_ : Unclosed ('\x7b' :: rest)
    · rw [if_pos (unclosed.mp open_)]
      exact .inl ⟨open_, List.take_of_length_le (Nat.le_refl _)⟩
    · rw [if_neg fun closed => open_ (unclosed.mpr closed)]
      exact .inr ⟨open_, rfl⟩
  · rename_i other
    refine .inr ⟨?_, ?_⟩
    · rintro ⟨inner, _, _, same⟩
      exact other inner same
    · have size := List.length_pos_iff.mpr proper
      rw [List.length_take]
      exact Nat.min_eq_left size

/-- The lexer cuts off what is to be cut off, wherever the text starts. -/
theorem isNext_next (proper : text ≠ []) (start : Nat) :
    Item.IsNext ⟨(next text).token?, text.take (next text).length, start⟩ text := by
  refine ⟨List.take_prefix _ _, ?_⟩
  unfold next
  cases chosen : longest? (candidates text) with
  | none =>
      refine .inr ⟨fun pattern piece begins matched => ?_, ?_, extent_unmatched proper⟩
      · obtain ⟨best, found, _⟩ := exists_longest?_of_prefix begins matched
        rw [chosen] at found
        cases found
      · dsimp only [Option.getD, unmatched]
        split <;> rfl
  | some best =>
      have listed := mem_of_longest? chosen
      obtain ⟨pattern, matched, carries⟩ := spelling_iff.mp (Spelling.of_mem_candidates listed)
      refine .inl ⟨pattern, matched, fun other piece begins also => ?_, carries.symm, ?_⟩
      · obtain ⟨other, found, long⟩ := exists_longest?_of_prefix begins also
        rw [chosen] at found
        cases found
        dsimp only [Option.getD]
        rwa [List.length_take, Nat.min_eq_left (fits_of_mem_candidates listed).2]
      · dsimp only [Option.getD]
        rw [← carries]
        exact Pattern.token?_eq_none_iff matched

end Match

/-! ## The items of a text -/

def separators : List Char :=
  [' ', '\t', '\r', '\n', '\x0c']

theorem isSeparator_eq_true_iff {character : Char} :
    isSeparator character = true ↔ character ∈ separators := by
  simp [isSeparator, separators, or_assoc]

/-- How a text that starts at a byte is cut into items. -/
structure IsCut (start : Nat) (text : List Char) (found : List Item) : Prop where
  /-- Each item ends before the next begins. -/
  inOrder : found.Pairwise fun earlier later => earlier.stop ≤ later.start
  /-- Each item is what is to be cut off at its place. -/
  placed : ∀ item ∈ found, ∃ before rest, text = before ++ rest ∧
    item.start = start + utf8Length before ∧ item.IsNext rest
  /-- No item is empty or begins with white space. -/
  visible : ∀ item ∈ found, ∃ first behind, item.lexeme = first :: behind ∧ first ∉ separators
  /-- A character in no item is white space. -/
  between : ∀ before character after, text = before ++ character :: after →
    character ∈ separators ∨ ∃ item ∈ found,
      item.start ≤ start + utf8Length before ∧ start + utf8Length before < item.stop

theorem start_le_of_mem_items {start : Nat} {text : List Char} {item : Item}
    (member : item ∈ itemsFrom start text) : start ≤ item.start := by
  obtain ⟨before, rest, _, _, rfl⟩ := exists_next_of_mem_items member
  exact Nat.le_add_right _ _

theorem inOrder_itemsFrom (start : Nat) (text : List Char) :
    (itemsFrom start text).Pairwise fun earlier later => earlier.stop ≤ later.start := by
  fun_induction itemsFrom start text with
  | case1 => exact .nil
  | case2 start first rest separates ih => exact ih
  | case3 start first rest stands found lexeme ih =>
      exact .cons (fun later member => start_le_of_mem_items member) ih

theorem placed_itemsFrom {start : Nat} {text : List Char} {item : Item}
    (member : item ∈ itemsFrom start text) : ∃ before rest, text = before ++ rest ∧
      item.start = start + utf8Length before ∧ item.IsNext rest := by
  obtain ⟨before, rest, split, proper, rfl⟩ := exists_next_of_mem_items member
  exact ⟨before, rest, split, rfl, Match.isNext_next proper _⟩

theorem visible_itemsFrom {start : Nat} {text : List Char} {item : Item}
    (member : item ∈ itemsFrom start text) :
    ∃ first behind, item.lexeme = first :: behind ∧ first ∉ separators := by
  fun_induction itemsFrom start text with
  | case1 => cases member
  | case2 start first rest separates ih => exact ih member
  | case3 start first rest stands found lexeme ih =>
      rcases List.mem_cons.mp member with rfl | later
      · have size := (Match.next_fits (List.cons_ne_nil first rest)).1
        obtain ⟨length, more⟩ := Nat.exists_eq_add_of_le' size
        refine ⟨first, rest.take length, ?_, fun separates => stands ?_⟩
        · show (first :: rest).take (Match.next (first :: rest)).length = _
          rw [more, List.take_succ_cons]
        · exact isSeparator_eq_true_iff.mpr separates
      · exact ih later

/-- A character of two texts put together is one of the first, or stands behind the first. -/
theorem inside_or_beyond {left right before after : List Char} {character : Char}
    (split : left ++ right = before ++ character :: after) :
    (∃ inside, left = before ++ character :: inside)
      ∨ ∃ beyond, before = left ++ beyond ∧ right = beyond ++ character :: after := by
  rcases List.append_eq_append_iff.mp split with ⟨beyond, same, behind⟩ | ⟨inside, same, behind⟩
  · exact .inr ⟨beyond, same, behind⟩
  · cases inside with
    | nil => exact .inr ⟨[], by rw [same, List.append_nil, List.append_nil], behind.symm⟩
    | cons leading inside =>
        cases behind
        exact .inl ⟨inside, same⟩

theorem between_itemsFrom (start : Nat) (text : List Char) :
    ∀ before character after, text = before ++ character :: after →
      character ∈ separators ∨ ∃ item ∈ itemsFrom start text,
        item.start ≤ start + utf8Length before ∧ start + utf8Length before < item.stop := by
  fun_induction itemsFrom start text with
  | case1 =>
      intro before character after split
      cases List.append_ne_nil_of_right_ne_nil before (List.cons_ne_nil character after) split.symm
  | case2 start first rest separates ih =>
      intro before character after split
      cases before with
      | nil =>
          cases split
          exact .inl (isSeparator_eq_true_iff.mp separates)
      | cons leading before =>
          cases split
          rw [utf8Length, ← Nat.add_assoc]
          exact ih before character after rfl
  | case3 start first rest stands found lexeme ih =>
      intro before character after split
      rw [← List.take_append_drop found.length (first :: rest)] at split
      rcases inside_or_beyond split with ⟨inside, taken⟩ | ⟨beyond, rfl, behind⟩
      · refine .inr ⟨_, List.mem_cons_self, Nat.le_add_right _ _, ?_⟩
        have size := character.utf8Size_pos
        show start + utf8Length before < start + utf8Length lexeme
        rw [show lexeme = before ++ character :: inside from taken, utf8Length_append, utf8Length]
        omega
      · rw [utf8Length_append, ← Nat.add_assoc]
        rcases ih beyond character after behind with separates | ⟨item, later, covers⟩
        · exact .inl separates
        · exact .inr ⟨item, List.mem_cons_of_mem _ later, covers⟩

theorem isCut_itemsFrom (start : Nat) (text : List Char) : IsCut start text (itemsFrom start text) where
  inOrder := inOrder_itemsFrom start text
  placed _ := placed_itemsFrom
  visible _ := visible_itemsFrom
  between := between_itemsFrom start text

/--
The items of a text lie in it between two characters each, in order, with
nothing but white space between and around them. Each is the longest text of a
pattern at its place, with the token of the pattern, or without one if it is a
number out of bounds. Where no text of a pattern begins it is one character, or
all that is left if that is an unclosed brace.
-/
theorem items_isCut (text : String) :
    IsCut 0 text.toList (items text.toList) ∧ ∀ item ∈ items text.toList,
      (String.Pos.Raw.mk item.start).IsValid text ∧ (String.Pos.Raw.mk item.stop).IsValid text := by
  refine ⟨isCut_itemsFrom 0 text.toList, fun item member => ?_⟩
  obtain ⟨before, after, split, starts, stops⟩ := Item.misfit_liesIn member
  have upTo : text = before ++ (item.misfit.fragment ++ after) := by
    rw [split, String.append_assoc]
  simp only [String.Pos.Raw.isValid_iff_exists_append]
  exact ⟨⟨before, item.misfit.fragment ++ after, upTo, String.Pos.Raw.ext starts⟩,
    ⟨before ++ item.misfit.fragment, after, split, String.Pos.Raw.ext stops⟩⟩

/-- A date that stops short is two numbers, a word is not begun by its first letters, and an open brace takes the rest. -/
example : items "2024-03 la\x7bé".toList
    = [⟨some (.number 2024), ['2', '0', '2', '4'], 0⟩, ⟨some (.number (-3)), ['-', '0', '3'], 4⟩,
      ⟨none, ['l'], 8⟩, ⟨none, ['a'], 9⟩, ⟨none, ['\x7b', 'é'], 10⟩] := by
  decide +kernel

/-! ## No other items -/

namespace IsCut

variable {start : Nat} {text rest : List Char} {first : Char} {item : Item} {found later : List Item}

theorem eq_nil (cut : IsCut start [] found) : found = [] := by
  refine List.eq_nil_iff_forall_not_mem.mpr fun item member => ?_
  obtain ⟨before, rest, split, _, next⟩ := cut.placed item member
  obtain ⟨first, behind, lexed, _⟩ := cut.visible item member
  obtain ⟨_, rfl⟩ := List.append_eq_nil_iff.mp split.symm
  rw [List.prefix_nil.mp next.begins] at lexed
  cases lexed

theorem behind_separator (cut : IsCut start (first :: rest) found) (separates : first ∈ separators) :
    IsCut (start + first.utf8Size) rest found where
  inOrder := cut.inOrder
  placed item member := by
    obtain ⟨before, behind, split, starts, next⟩ := cut.placed item member
    cases before with
    | nil =>
        obtain ⟨leading, more, lexed, stands⟩ := cut.visible item member
        obtain ⟨beyond, same⟩ := next.begins
        rw [← same, lexed] at split
        cases split
        cases stands separates
    | cons leading before =>
        cases split
        exact ⟨before, behind, rfl, by rw [starts, utf8Length, Nat.add_assoc], next⟩
  visible := cut.visible
  between before character after split := by
    rw [Nat.add_assoc]
    exact cut.between (first :: before) character after (congrArg _ split)

theorem stop_pos (cut : IsCut start text found) (member : item ∈ found) : start < item.stop := by
  obtain ⟨before, rest, _, starts, _⟩ := cut.placed item member
  obtain ⟨first, behind, lexed, _⟩ := cut.visible item member
  have size := first.utf8Size_pos
  rw [Item.stop, starts, lexed, utf8Length]
  omega

/-- Where no white space stands, the first item begins. -/
theorem exists_eq_cons (cut : IsCut start (first :: rest) found) (stands : first ∉ separators) :
    ∃ item later, found = item :: later ∧ item.start = start ∧ item.IsNext (first :: rest) := by
  obtain ⟨item, member, covers, _⟩ := (cut.between [] first rest rfl).resolve_left stands
  obtain ⟨before, behind, split, starts, next⟩ := cut.placed item member
  have none_ : before = [] := by
    cases before with
    | nil => rfl
    | cons leading before =>
        have size := leading.utf8Size_pos
        simp only [utf8Length] at covers starts
        omega
  subst none_
  cases found with
  | nil => cases member
  | cons head later =>
      rcases List.mem_cons.mp member with rfl | other
      · exact ⟨_, later, rfl, starts, split ▸ next⟩
      · -- An item in front of it would end where the text begins.
        have ordered := List.rel_of_pairwise_cons cut.inOrder other
        have beyond := cut.stop_pos List.mem_cons_self
        simp only [utf8Length] at starts
        omega

/-- Behind the first item, the others cut the rest of the text. -/
theorem tail (cut : IsCut start text (item :: later)) (starts : item.start = start)
    (parts : item.lexeme ++ rest = text) : IsCut (start + utf8Length item.lexeme) rest later where
  inOrder := cut.inOrder.of_cons
  placed other member := by
    obtain ⟨before, behind, split, begins, next⟩ := cut.placed other (List.mem_cons_of_mem _ member)
    have ordered := List.rel_of_pairwise_cons cut.inOrder member
    rw [Item.stop, starts, begins] at ordered
    rw [← parts] at split
    obtain ⟨more, rfl, rfl⟩ : ∃ more, before = item.lexeme ++ more ∧ rest = more ++ behind := by
      rcases List.append_eq_append_iff.mp split with beyond | ⟨inside, same, after⟩
      · exact beyond
      · cases inside with
        | nil => exact ⟨[], by rw [same, List.append_nil, List.append_nil], after.symm⟩
        | cons leading inside =>
            have size := leading.utf8Size_pos
            rw [same, utf8Length_append, utf8Length] at ordered
            omega
    exact ⟨more, behind, rfl, by rw [begins, utf8Length_append, Nat.add_assoc], next⟩
  visible other member := cut.visible other (List.mem_cons_of_mem _ member)
  between before character after split := by
    have whole : text = (item.lexeme ++ before) ++ character :: after := by
      rw [← parts, split, List.append_assoc]
    have covered := cut.between _ _ _ whole
    rw [utf8Length_append, ← Nat.add_assoc] at covered
    rcases covered with separates | ⟨other, member, covers⟩
    · exact .inl separates
    · rcases List.mem_cons.mp member with rfl | listed
      · rw [Item.stop, starts] at covers
        omega
      · exact .inr ⟨other, listed, covers⟩

/-- A list of items that cuts a text is the one that the lexer finds. -/
theorem eq_itemsFrom (cut : IsCut start text found) : found = itemsFrom start text := by
  fun_induction itemsFrom start text generalizing found with
  | case1 => exact cut.eq_nil
  | case2 start first rest separates ih =>
      exact ih (cut.behind_separator (isSeparator_eq_true_iff.mp separates))
  | case3 start first rest stands cutOff lexeme =>
      rename_i ih
      obtain ⟨item, later, rfl, starts, next⟩ :=
        cut.exists_eq_cons fun separates => stands (isSeparator_eq_true_iff.mpr separates)
      obtain ⟨lexed, carried⟩ := next.unique (Match.isNext_next (List.cons_ne_nil first rest) start)
      have parts : item.lexeme ++ (first :: rest).drop cutOff.length = first :: rest := by
        rw [lexed]
        exact List.take_append_drop _ _
      have behind := cut.tail starts parts
      rw [lexed] at behind
      rcases item with ⟨token?, text, place⟩
      cases starts
      cases lexed
      cases carried
      rw [ih behind]

end IsCut

end TimeRange
