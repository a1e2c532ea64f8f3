import TimeRange.Proofs.Grammar.Lexeme

/-!
# The spellings of each kind of token

`Spelling` lists the texts that a kind of token matches as a whole. What the
lexer cuts off for a token is a spelling of that token. The other way round, a
spelling is cut off as a whole if what stands behind it does not lengthen the
match: a number goes on with a digit, or with a hyphen as part of a date, and a
date goes on with a space and a clock time.

The main statements are `Spelling.of_next` and `Spelling.next_append`.
-/

namespace TimeRange

open Text

/-- The text of a kind of token, with the token. A number that a count cannot hold has none. -/
inductive Spelling : List Char → Option Token → Prop where
  | fixed {entry : List Char × Token} (listed : entry ∈ Token.fixedSpellings) :
      Spelling entry.1 (some entry.2)
  | unit {letter : Char} {unit : TimeUnit} (names : TimeUnit.ofLetter? letter = some unit) :
      Spelling [letter] (some (.unit unit))
  | zone {inner : List Char} (proper : inner ≠ []) (open_ : '\x7d' ∉ inner) :
      Spelling ('\x7b' :: (inner ++ ['\x7d'])) (some (.zone (Match.zoneName inner)))
  | date {lexeme : List Char} (formed : Match.hasShape Match.dateShape lexeme = true)
      (size : lexeme.length = 10) :
      Spelling lexeme (some (.date (Match.numberAt lexeme 0 4) (Match.numberAt lexeme 5 2)
        (Match.numberAt lexeme 8 2)))
  | dateTime {lexeme : List Char} (formed : Match.hasShape Match.dateTimeShape lexeme = true)
      (size : lexeme.length = 16) :
      Spelling lexeme (some (.dateTime (Match.numberAt lexeme 0 4) (Match.numberAt lexeme 5 2)
        (Match.numberAt lexeme 8 2) (Match.numberAt lexeme 11 2) (Match.numberAt lexeme 14 2)))
  | number {mark : List Char} {sign : Int} {digits : List Char}
      (signed : (mark, sign) ∈ [([], 1), (['+'], 1), (['-'], -1)]) (proper : digits ≠ [])
      (numeral : ∀ digit ∈ digits, digit.isDigit = true) :
      Spelling (mark ++ digits)
        (if leastCount ≤ sign * Decimal.value digits ∧ sign * Decimal.value digits ≤ greatestCount
          then some (.number (sign * Decimal.value digits)) else none)

namespace Match

/-! ## Shapes and what follows them -/

variable {shape text lexeme : List Char}

/-- What has a shape still has it before any rest, and the numbers in it are the same. -/
theorem append_of_hasShape (formed : hasShape shape lexeme = true)
    (size : lexeme.length = shape.length) (rest : List Char) :
    hasShape shape (lexeme ++ rest) = true ∧ ∀ position width, position + width ≤ shape.length →
      numberAt (lexeme ++ rest) position width = numberAt lexeme position width := by
  constructor
  · have parted := hasShape_append size [] rest
    rwa [List.append_nil, formed, hasShape, Bool.and_true] at parted
  · intro position width within
    have room : width ≤ (lexeme.drop position).length := by
      rw [List.length_drop]
      omega
    unfold numberAt
    rw [List.drop_append_of_le_length (by omega), List.take_append_of_le_length room]

/-- The characters that are compared with a shape have it, and the numbers in it are theirs. -/
theorem take_of_hasShape (formed : hasShape shape text = true) :
    hasShape shape (text.take shape.length) = true ∧ (text.take shape.length).length = shape.length ∧
      ∀ position width, position + width ≤ shape.length →
        numberAt (text.take shape.length) position width = numberAt text position width := by
  have size : (text.take shape.length).length = shape.length := by
    rw [List.length_take]
    exact Nat.min_eq_left (length_le_of_hasShape formed)
  have parted := hasShape_append size [] (text.drop shape.length)
  rw [List.append_nil, List.take_append_drop, formed, hasShape, Bool.and_true] at parted
  have numbers := (append_of_hasShape parted.symm size (text.drop shape.length)).2
  rw [List.take_append_drop] at numbers
  exact ⟨parted.symm, size, fun position width within => (numbers position width within).symm⟩

end Match

/-! ## What is cut off is a spelling -/

namespace Spelling

variable {text lexeme rest : List Char} {found : Match} {token : Token} {token? : Option Token}

theorem of_zone? (matched : Match.zone? text = some found) :
    Spelling (text.take found.length) found.token? := by
  obtain ⟨name, given⟩ : ∃ name, found.token? = some (.zone name) := by
    unfold Match.zone? at matched
    split at matched
    · dsimp only at matched
      split at matched
      · cases matched
        exact ⟨_, rfl⟩
      · cases matched
    · cases matched
  obtain ⟨inner, rest, rfl, open_, size, rfl⟩ := (Match.finds_of_zone? matched given).exists_inner
  have proper : inner ≠ [] := by
    rintro rfl
    cases matched
  have parted : '\x7b' :: (inner ++ '\x7d' :: rest) = '\x7b' :: (inner ++ ['\x7d']) ++ rest := by
    simp
  rw [given, size, parted, List.take_left' (by simp)]
  exact .zone proper open_

theorem of_date? (matched : Match.date? text = some found) :
    Spelling (text.take found.length) found.token? := by
  unfold Match.date? at matched
  split at matched
  · rename_i formed
    obtain ⟨taken, size, digits⟩ := Match.take_of_hasShape formed
    have spelling := Spelling.date taken size
    rw [digits 0 4 (by decide), digits 5 2 (by decide), digits 8 2 (by decide)] at spelling
    cases matched
    exact spelling
  · cases matched

theorem of_dateTime? (matched : Match.dateTime? text = some found) :
    Spelling (text.take found.length) found.token? := by
  unfold Match.dateTime? at matched
  split at matched
  · rename_i formed
    obtain ⟨taken, size, digits⟩ := Match.take_of_hasShape formed
    have spelling := Spelling.dateTime taken size
    rw [digits 0 4 (by decide), digits 5 2 (by decide), digits 8 2 (by decide),
      digits 11 2 (by decide), digits 14 2 (by decide)] at spelling
    cases matched
    exact spelling
  · cases matched

theorem of_numberOf {mark : List Char} {sign : Int}
    (signed : (mark, sign) ∈ [([], 1), (['+'], 1), (['-'], -1)])
    (matched : Match.numberOf mark.length sign (rest.takeWhile Char.isDigit) = some found) :
    Spelling ((mark ++ rest).take found.length) found.token? := by
  obtain ⟨size, _⟩ := Match.length_of_numberOf matched
  have taken : rest.take (rest.takeWhile Char.isDigit).length = rest.takeWhile Char.isDigit :=
    (List.prefix_iff_eq_take.mp (List.takeWhile_prefix Char.isDigit)).symm
  unfold Match.numberOf at matched
  split at matched
  · cases matched
  · rename_i proper
    cases matched
    dsimp only
    rw [List.take_length_add_append, taken]
    exact .number signed (by simpa using proper) fun digit member =>
      List.all_eq_true.mp List.all_takeWhile digit member

theorem of_mem_candidates (member : found ∈ Match.candidates text) :
    Spelling (text.take found.length) found.token? := by
  simp only [Match.candidates, List.mem_append, Option.mem_toList] at member
  rcases member with ((((word | unit) | zone) | dateTime) | date) | number
  · obtain ⟨entry, listed, matched⟩ := List.mem_filterMap.mp word
    split at matched
    · rename_i starts
      cases matched
      dsimp only
      rw [← List.prefix_iff_eq_take.mp (List.isPrefixOf_iff_prefix.mp starts)]
      exact .fixed listed
    · cases matched
  · cases text with
    | nil => cases unit
    | cons letter rest =>
        obtain ⟨unit, names, rfl⟩ := Option.map_eq_some_iff.mp unit
        exact .unit names
  · exact of_zone? zone
  · exact of_dateTime? dateTime
  · exact of_date? date
  · unfold Match.number? at number
    split at number
    · exact @of_numberOf _ _ ['-'] (-1) (by decide) number
    · exact @of_numberOf _ _ ['+'] 1 (by decide) number
    · exact @of_numberOf _ _ [] 1 (by decide) number

theorem of_next (given : (Match.next text).token? = some token) :
    Spelling (text.take (Match.next text).length) (some token) := by
  rw [← given]
  exact of_mem_candidates (Match.mem_candidates_of_next given)

theorem of_mem_items {item : Item} (listed : item ∈ items text) (given : item.token? = some token) :
    Spelling item.lexeme (some token) := by
  obtain ⟨_, rest, _, _, rfl⟩ := exists_next_of_mem_items listed
  exact of_next given

end Spelling

/-! ## A spelling is cut off -/

/-- A number begins with a plus, with a minus, or with neither. -/
theorem Spelling.sign_cases {mark : List Char} {sign : Int}
    (signed : (mark, sign) ∈ [([], 1), (['+'], 1), (['-'], -1)]) :
    (mark = [] ∧ sign = 1) ∨ (mark = ['+'] ∧ sign = 1) ∨ (mark = ['-'] ∧ sign = -1) := by
  simpa only [List.mem_cons, Prod.mk.injEq, List.not_mem_nil, or_false] using signed

theorem TimeUnit.mem_letters_of_ofLetter? {letter : Char} {unit : TimeUnit}
    (names : ofLetter? letter = some unit) :
    letter ∈ ['s', 'm', 'h', 'd', 'D', 'W', 'M', 'Q', 'Y'] := by
  unfold ofLetter? at names
  split at names
  case h_10 => cases names
  all_goals decide

theorem TimeUnit.letter_cases {letter : Char} {unit : TimeUnit}
    (names : ofLetter? letter = some unit) :
    letter = 's' ∨ letter = 'm' ∨ letter = 'h' ∨ letter = 'd' ∨ letter = 'D' ∨ letter = 'W'
      ∨ letter = 'M' ∨ letter = 'Q' ∨ letter = 'Y' := by
  simpa only [List.mem_cons, List.not_mem_nil, or_false] using mem_letters_of_ofLetter? names

/-- What a text must not go on with behind a token, for the token to be cut off there. -/
def Token.EndsBefore (rest : List Char) : Token → Prop
  | .number _ => ∀ character ∈ rest.head?, character.isDigit = false ∧ character ≠ '-'
  | .date _ _ _ => Match.hasShape [' ', '0', '0', ':', '0', '0'] rest = false
  | _ => True

theorem Token.endsBefore_nil (token : Token) : token.EndsBefore [] := by
  cases token with
  | number count => exact nofun
  | date year month day => rfl
  | _ => trivial

namespace Spelling

variable {lexeme rest : List Char} {token : Token} {token? : Option Token}

theorem next_date (formed : Match.hasShape Match.dateShape lexeme = true) (size : lexeme.length = 10)
    (ends : Match.hasShape [' ', '0', '0', ':', '0', '0'] rest = false) :
    Match.next (lexeme ++ rest) = ⟨lexeme.length, some (.date (Match.numberAt lexeme 0 4)
      (Match.numberAt lexeme 5 2) (Match.numberAt lexeme 8 2))⟩ := by
  obtain ⟨begins, digits⟩ := Match.append_of_hasShape formed size rest
  have goesOn := @Match.hasShape_append Match.dateShape lexeme size [' ', '0', '0', ':', '0', '0'] rest
  rw [formed, ends, Bool.and_false] at goesOn
  have noClock : Match.dateTime? (lexeme ++ rest) = none := by
    unfold Match.dateTime?
    rw [if_neg]
    exact Bool.eq_false_iff.mp goesOn
  rw [Match.next_of_hasShape begins, noClock, digits 0 4 (by decide), digits 5 2 (by decide),
    digits 8 2 (by decide), size]
  rfl

theorem next_dateTime (formed : Match.hasShape Match.dateTimeShape lexeme = true)
    (size : lexeme.length = 16) (rest : List Char) :
    Match.next (lexeme ++ rest) = ⟨lexeme.length, some (.dateTime (Match.numberAt lexeme 0 4)
      (Match.numberAt lexeme 5 2) (Match.numberAt lexeme 8 2) (Match.numberAt lexeme 11 2)
      (Match.numberAt lexeme 14 2))⟩ := by
  obtain ⟨whole, digits⟩ := Match.append_of_hasShape formed size rest
  have clock : Match.dateTime? (lexeme ++ rest) = some ⟨lexeme.length, some (.dateTime
      (Match.numberAt lexeme 0 4) (Match.numberAt lexeme 5 2) (Match.numberAt lexeme 8 2)
      (Match.numberAt lexeme 11 2) (Match.numberAt lexeme 14 2))⟩ := by
    unfold Match.dateTime?
    rw [if_pos whole, digits 0 4 (by decide), digits 5 2 (by decide), digits 8 2 (by decide),
      digits 11 2 (by decide), digits 14 2 (by decide), size]
  rw [Match.next_of_hasShape (Match.hasShape_of_append whole), clock]
  rfl

theorem next_number {mark digits : List Char} {sign : Int}
    (signed : (mark, sign) ∈ [([], 1), (['+'], 1), (['-'], -1)]) (proper : digits ≠ [])
    (numeral : ∀ digit ∈ digits, digit.isDigit = true)
    (ends : ∀ character ∈ rest.head?, character.isDigit = false ∧ character ≠ '-') :
    Match.numberOf mark.length sign digits = some (Match.next (mark ++ digits ++ rest)) := by
  have taken := Decimal.takeWhile_isDigit numeral fun character member => (ends character member).1
  have alone {text : List Char} (only : Match.candidates text = (Match.numberOf 1 sign digits).toList) :
      Match.numberOf 1 sign digits = some (Match.next text) := by
    rw [Match.numberOf_of_ne_nil proper] at only ⊢
    rw [Match.next, only]
    rfl
  rcases sign_cases signed with ⟨rfl, rfl⟩ | ⟨rfl, rfl⟩ | ⟨rfl, rfl⟩
  · exact Match.next_digits proper numeral ends
  · have only := Match.candidates_plus (digits ++ rest)
    rw [taken] at only
    rw [List.append_assoc]
    exact alone only
  · have only := Match.candidates_minus (digits ++ rest)
    rw [taken] at only
    rw [List.append_assoc]
    exact alone only

theorem next_append (spelling : Spelling lexeme token?) (given : token? = some token)
    (ends : token.EndsBefore rest) :
    Match.next (lexeme ++ rest) = ⟨lexeme.length, some token⟩ := by
  cases spelling with
  | fixed listed =>
      cases given
      exact Match.next_fixed listed rest
  | @unit letter unit names =>
      cases given
      rcases TimeUnit.letter_cases names with rfl | rfl | rfl | rfl | rfl | rfl | rfl | rfl | rfl <;>
        cases names <;> rfl
  | @zone inner proper open_ =>
      cases given
      have found := Match.next_zone proper open_ rest
      rw [List.cons_append, List.append_assoc, List.singleton_append, found]
      simp
  | date formed size =>
      cases given
      exact next_date formed size ends
  | dateTime formed size =>
      cases given
      exact next_dateTime formed size rest
  | @number mark sign digits signed proper numeral =>
      split at given
      · rename_i bounds
        cases given
        have counted := Match.numberOf_count proper mark.length sign rfl bounds.1 bounds.2
        rw [next_number signed proper numeral ends, ← List.length_append] at counted
        exact Option.some.inj counted
      · cases given

end Spelling

end TimeRange
