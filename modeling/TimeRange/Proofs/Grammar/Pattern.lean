import Mathlib.Computability.Language
import TimeRange.Proofs.Grammar.Spelling

/-!
# The patterns of tokens

The texts of each kind of token are a regular language, put together from
classes of characters. No text is in two of these languages, since its first
character and the marks in it tell them apart. So a text of a pattern has the
token of that pattern and of no other.

The main statements are `spelling_iff`, that the spellings of tokens are the
texts of the patterns, and `Pattern.unique`.
-/

namespace TimeRange

open Computability Text

inductive Pattern where
  | now
  | latest
  | earliest
  | unit
  | zone
  | dateTime
  | date
  | number
  | comma
  | colon
  | atSign
  | pipe
  | slash
  deriving DecidableEq, Repr

namespace Pattern

/-! ## Languages -/

def oneOf (allowed : Char → Prop) : Language Char :=
  {text | ∃ character, allowed character ∧ text = [character]}

def many (language : Language Char) : Language Char :=
  language * language∗

def digit : Language Char :=
  oneOf fun character => character.isDigit = true

def calendarDate : Language Char :=
  digit ^ 4 * {['-']} * digit ^ 2 * {['-']} * digit ^ 2

/-- The texts of a kind of token. -/
def language : Pattern → Language Char
  | now => {['n', 'o', 'w']}
  | latest => {['l', 'a', 't', 'e', 's', 't']}
  | earliest => {['e', 'a', 'r', 'l', 'i', 'e', 's', 't']}
  | unit => oneOf fun letter => letter ∈ ['s', 'm', 'h', 'd', 'D', 'W', 'M', 'Q', 'Y']
  | zone => {['\x7b']} * many (oneOf fun character => character ≠ '\x7d') * {['\x7d']}
  | dateTime => calendarDate * {[' ']} * digit ^ 2 * {[':']} * digit ^ 2
  | date => calendarDate
  | number => (1 + {['-']} + {['+']}) * many digit
  | comma => {[',']}
  | colon => {[':']}
  | atSign => {['@']}
  | pipe => {['|']}
  | slash => {['/']}

def count : List Char → Int
  | '-' :: digits => -Decimal.value digits
  | '+' :: digits => Decimal.value digits
  | digits => Decimal.value digits

/-- The token of a text of a pattern. A number that no grain can have gives none. -/
def token? (lexeme : List Char) : Pattern → Option Token
  | now => some .now
  | latest => some .latest
  | earliest => some .earliest
  | unit => (lexeme.head?.bind TimeUnit.ofLetter?).map .unit
  | zone => some (.zone (String.ofList (trim (withoutBraces lexeme))))
  | dateTime => some (.dateTime (Match.numberAt lexeme 0 4) (Match.numberAt lexeme 5 2)
      (Match.numberAt lexeme 8 2) (Match.numberAt lexeme 11 2) (Match.numberAt lexeme 14 2))
  | date => some (.date (Match.numberAt lexeme 0 4) (Match.numberAt lexeme 5 2)
      (Match.numberAt lexeme 8 2))
  | number =>
      if leastCount ≤ count lexeme ∧ count lexeme ≤ greatestCount then some (.number (count lexeme))
      else none
  | comma => some .comma
  | colon => some .colon
  | atSign => some .atSign
  | pipe => some .pipe
  | slash => some .slash

/-! ## Texts of characters of a class -/

section Classes

variable {allowed : Char → Prop} {text : List Char}

theorem mem_oneOf :
    text ∈ oneOf allowed ↔ ∃ character, allowed character ∧ text = [character] :=
  Iff.rfl

theorem mem_oneOf_star : text ∈ (oneOf allowed)∗ ↔ ∀ character ∈ text, allowed character := by
  rw [Language.mem_kstar]
  constructor
  · rintro ⟨pieces, rfl, each⟩ character member
    obtain ⟨piece, listed, inside⟩ := List.mem_flatten.mp member
    obtain ⟨only, permitted, rfl⟩ := each piece listed
    rwa [List.mem_singleton.mp inside]
  · intro each
    refine ⟨text.map fun character => [character], ?_, ?_⟩
    · rw [← List.flatMap_def, List.flatMap_singleton']
    · intro piece listed
      obtain ⟨character, member, rfl⟩ := List.mem_map.mp listed
      exact ⟨character, each character member, rfl⟩

theorem mem_many_oneOf :
    text ∈ many (oneOf allowed) ↔ text ≠ [] ∧ ∀ character ∈ text, allowed character := by
  rw [many, Language.mem_mul]
  constructor
  · rintro ⟨_, ⟨first, permitted, rfl⟩, rest, others, rfl⟩
    refine ⟨List.cons_ne_nil _ _, List.forall_mem_cons.mpr ⟨permitted, ?_⟩⟩
    exact mem_oneOf_star.mp others
  · rintro ⟨proper, each⟩
    obtain ⟨first, rest, rfl⟩ := List.exists_cons_of_ne_nil proper
    obtain ⟨permitted, others⟩ := List.forall_mem_cons.mp each
    exact ⟨[first], ⟨first, permitted, rfl⟩, rest, mem_oneOf_star.mpr others, rfl⟩

end Classes

def ofShape (shape : List Char) : Language Char :=
  (shape.map fun mark => oneOf fun character => Match.standsFor mark character = true).prod

theorem mem_ofShape {shape text : List Char} :
    text ∈ ofShape shape ↔ text.length = shape.length ∧ Match.hasShape shape text = true := by
  induction shape generalizing text with
  | nil => simp [ofShape, Match.hasShape]
  | cons mark shape ih =>
      rw [ofShape, List.map_cons, List.prod_cons, Language.mem_mul]
      constructor
      · rintro ⟨_, ⟨character, stands, rfl⟩, rest, formed, rfl⟩
        obtain ⟨size, shaped⟩ := ih.mp formed
        rw [List.singleton_append, Match.hasShape_cons, stands, shaped]
        exact ⟨congrArg Nat.succ size, rfl⟩
      · rintro ⟨size, shaped⟩
        obtain ⟨character, rest, rfl⟩ := List.exists_cons_of_length_eq_add_one size
        rw [Match.hasShape_cons, Bool.and_eq_true] at shaped
        exact ⟨[character], ⟨character, shaped.1, rfl⟩, rest,
          ih.mpr ⟨Nat.succ.inj size, shaped.2⟩, rfl⟩

/-! ## Texts of each pattern -/

section Texts

variable {lexeme : List Char}

theorem mem_language_unit :
    lexeme ∈ unit.language ↔ ∃ letter unit, TimeUnit.ofLetter? letter = some unit ∧ lexeme = [letter] := by
  constructor
  · rintro ⟨letter, listed, rfl⟩
    simp only [List.mem_cons, List.not_mem_nil, or_false] at listed
    rcases listed with rfl | rfl | rfl | rfl | rfl | rfl | rfl | rfl | rfl <;> exact ⟨_, _, rfl, rfl⟩
  · rintro ⟨letter, unit, names, rfl⟩
    exact ⟨letter, TimeUnit.mem_letters_of_ofLetter? names, rfl⟩

theorem mem_language_zone :
    lexeme ∈ zone.language ↔
      ∃ inner, inner ≠ [] ∧ '\x7d' ∉ inner ∧ lexeme = '\x7b' :: (inner ++ ['\x7d']) := by
  have closed {inner : List Char} :
      (∀ character ∈ inner, character ≠ '\x7d') ↔ '\x7d' ∉ inner :=
    ⟨fun each member => each _ member rfl, fun open_ _ member same => open_ (same ▸ member)⟩
  simp only [language, Language.mem_mul, mem_many_oneOf, closed]
  constructor
  · rintro ⟨_, ⟨_, rfl, inner, ⟨proper, open_⟩, rfl⟩, _, rfl, rfl⟩
    exact ⟨inner, proper, open_, rfl⟩
  · rintro ⟨inner, proper, open_, rfl⟩
    exact ⟨_, ⟨_, rfl, inner, ⟨proper, open_⟩, rfl⟩, _, rfl, rfl⟩

/-- Where a shape has a mark, that mark stands. -/
theorem oneOf_standsFor {mark : Char} (other : mark ≠ '0') :
    (oneOf fun character => Match.standsFor mark character = true) = {[mark]} := by
  have only (character : Char) : Match.standsFor mark character = true ↔ mark = character := by
    rw [Match.standsFor, if_neg other, beq_iff_eq]
  ext text
  simp only [mem_oneOf, only]
  constructor
  · rintro ⟨_, rfl, rfl⟩
    rfl
  · rintro rfl
    exact ⟨mark, rfl, rfl⟩

theorem calendarDate_eq : calendarDate = ofShape Match.dateShape := by
  have digits : (oneOf fun character => Match.standsFor '0' character = true) = digit := rfl
  simp only [calendarDate, ofShape, Match.dateShape, List.map_cons, List.map_nil, List.prod_cons,
    List.prod_nil, digits, oneOf_standsFor (show '-' ≠ '0' by decide), pow_succ, pow_zero, one_mul,
    mul_one, mul_assoc]

theorem language_dateTime_eq : dateTime.language = ofShape Match.dateTimeShape := by
  have digits : (oneOf fun character => Match.standsFor '0' character = true) = digit := rfl
  rw [language, calendarDate_eq, Match.dateTimeShape, ofShape, ofShape, List.map_append,
    List.prod_append]
  simp only [List.map_cons, List.map_nil, List.prod_cons, List.prod_nil, digits,
    oneOf_standsFor (show ' ' ≠ '0' by decide), oneOf_standsFor (show ':' ≠ '0' by decide),
    pow_succ, pow_zero, one_mul, mul_one, mul_assoc]

theorem mem_language_date :
    lexeme ∈ date.language ↔ lexeme.length = 10 ∧ Match.hasShape Match.dateShape lexeme = true := by
  rw [language, calendarDate_eq, mem_ofShape]
  rfl

theorem mem_language_dateTime :
    lexeme ∈ dateTime.language ↔
      lexeme.length = 16 ∧ Match.hasShape Match.dateTimeShape lexeme = true := by
  rw [language_dateTime_eq, mem_ofShape]
  rfl

theorem count_digits {digits : List Char} (proper : digits ≠ [])
    (numeral : ∀ digit ∈ digits, digit.isDigit = true) : count digits = Decimal.value digits := by
  obtain ⟨first, rest, rfl⟩ := List.exists_cons_of_ne_nil proper
  have digit := numeral first List.mem_cons_self
  unfold count
  split
  · rename_i same
    cases same
    cases digit
  · rename_i same
    cases same
    cases digit
  · rfl

theorem count_append {mark digits : List Char} {sign : Int}
    (signed : (mark, sign) ∈ [([], 1), (['+'], 1), (['-'], -1)]) (proper : digits ≠ [])
    (numeral : ∀ digit ∈ digits, digit.isDigit = true) :
    count (mark ++ digits) = sign * Decimal.value digits := by
  rcases Spelling.sign_cases signed with ⟨rfl, rfl⟩ | ⟨rfl, rfl⟩ | ⟨rfl, rfl⟩
  · rw [List.nil_append, count_digits proper numeral, Int.one_mul]
  · exact (Int.one_mul _).symm
  · exact (Int.neg_one_mul _).symm

theorem mem_language_number :
    lexeme ∈ number.language ↔ ∃ mark sign digits,
      (mark, sign) ∈ [([], (1 : Int)), (['+'], 1), (['-'], -1)] ∧ digits ≠ [] ∧
        (∀ digit ∈ digits, digit.isDigit = true) ∧ lexeme = mark ++ digits := by
  simp only [language, Language.mem_mul, Language.mem_add, Language.mem_one, digit, mem_many_oneOf]
  constructor
  · rintro ⟨mark, signs, digits, ⟨proper, numeral⟩, rfl⟩
    rcases signs with (rfl | rfl) | rfl
    · exact ⟨[], 1, digits, by simp, proper, numeral, rfl⟩
    · exact ⟨['-'], -1, digits, by simp, proper, numeral, rfl⟩
    · exact ⟨['+'], 1, digits, by simp, proper, numeral, rfl⟩
  · rintro ⟨mark, sign, digits, signed, proper, numeral, rfl⟩
    refine ⟨mark, ?_, digits, ⟨proper, numeral⟩, rfl⟩
    rcases Spelling.sign_cases signed with ⟨rfl, _⟩ | ⟨rfl, _⟩ | ⟨rfl, _⟩
    · exact .inl (.inl rfl)
    · exact .inr rfl
    · exact .inl (.inr rfl)

end Texts

/-! ## The token of a text of a pattern -/

variable {lexeme : List Char} {pattern : Pattern}

/-- Only a number can be without a token, and is if it is out of bounds. -/
theorem token?_eq_none_iff (matched : lexeme ∈ pattern.language) :
    pattern.token? lexeme = none ↔
      pattern = number ∧ ¬ (leastCount ≤ count lexeme ∧ count lexeme ≤ greatestCount) := by
  cases pattern with
  | unit =>
      obtain ⟨letter, unit, names, rfl⟩ := mem_language_unit.mp matched
      simp [token?, names]
  | _ => simp [token?]

def ofToken : Token → Pattern
  | .now => now
  | .latest => latest
  | .earliest => earliest
  | .unit _ => unit
  | .zone _ => zone
  | .dateTime _ _ _ _ _ => dateTime
  | .date _ _ _ => date
  | .number _ => number
  | .comma => comma
  | .colon => colon
  | .atSign => atSign
  | .pipe => pipe
  | .slash => slash

theorem ofToken_of_token? {token : Token} (carried : pattern.token? lexeme = some token) :
    ofToken token = pattern := by
  cases pattern with
  | unit =>
      obtain ⟨unit, _, rfl⟩ := Option.map_eq_some_iff.mp carried
      rfl
  | number =>
      simp only [token?] at carried
      split at carried
      · cases carried
        rfl
      · cases carried
  | _ =>
      cases carried
      rfl

theorem spelling_of_mem (matched : lexeme ∈ pattern.language) :
    Spelling lexeme (pattern.token? lexeme) := by
  have fixed {spelling : List Char} {token : Token} (listed : (spelling, token) ∈ Token.fixedSpellings)
      (same : lexeme ∈ ({spelling} : Language Char)) : Spelling lexeme (some token) := by
    obtain rfl : lexeme = spelling := same
    exact .fixed listed
  cases pattern with
  | unit =>
      obtain ⟨letter, unit, names, rfl⟩ := mem_language_unit.mp matched
      have carried : token? [letter] .unit = some (.unit unit) := by simp [token?, names]
      rw [carried]
      exact .unit names
  | zone =>
      obtain ⟨inner, proper, open_, rfl⟩ := mem_language_zone.mp matched
      rw [token?, withoutBraces_zone open_]
      exact .zone proper open_
  | dateTime =>
      obtain ⟨size, formed⟩ := mem_language_dateTime.mp matched
      exact .dateTime formed size
  | date =>
      obtain ⟨size, formed⟩ := mem_language_date.mp matched
      exact .date formed size
  | number =>
      obtain ⟨mark, sign, digits, signed, proper, numeral, rfl⟩ := mem_language_number.mp matched
      rw [token?, count_append signed proper numeral]
      exact .number signed proper numeral
  | _ => exact fixed (by decide) matched

/-! ## No text of two patterns -/

theorem next_of_mem (matched : lexeme ∈ pattern.language) :
    Match.next lexeme = ⟨lexeme.length, pattern.token? lexeme⟩ := by
  have whole {token : Token} (carried : pattern.token? lexeme = some token) :
      Match.next lexeme = ⟨lexeme.length, pattern.token? lexeme⟩ := by
    have cut := (spelling_of_mem matched).next_append carried token.endsBefore_nil
    rwa [List.append_nil, ← carried] at cut
  cases carried : pattern.token? lexeme with
  | some token => rw [whole carried, carried]
  | none =>
      -- Without a token it is a number out of bounds, which is cut off all the same.
      obtain ⟨rfl, excess⟩ := (token?_eq_none_iff matched).mp carried
      obtain ⟨mark, sign, digits, signed, proper, numeral, rfl⟩ := mem_language_number.mp matched
      have counted := Match.numberOf_of_ne_nil proper mark.length sign
      have cut := @Spelling.next_number [] mark digits sign signed proper numeral nofun
      rw [count_append signed proper numeral] at excess
      rw [cut, if_neg excess, List.append_nil] at counted
      rw [Option.some.inj counted, List.length_append]

theorem unique {other : Pattern} (matched : lexeme ∈ pattern.language)
    (also : lexeme ∈ other.language) : pattern = other := by
  have same : pattern.token? lexeme = other.token? lexeme := by
    have both := (next_of_mem matched).symm.trans (next_of_mem also)
    exact congrArg Match.token? both
  cases carried : pattern.token? lexeme with
  | some token =>
      rw [← ofToken_of_token? carried, ← ofToken_of_token? (same.symm.trans carried)]
  | none =>
      rw [((token?_eq_none_iff matched).mp carried).1,
        ((token?_eq_none_iff also).mp (same.symm.trans carried)).1]

end Pattern

/-- The spellings of tokens are the texts of the patterns. -/
theorem spelling_iff {lexeme : List Char} {token? : Option Token} :
    Spelling lexeme token? ↔
      ∃ pattern : Pattern, lexeme ∈ pattern.language ∧ pattern.token? lexeme = token? := by
  constructor
  · intro spelling
    cases spelling with
    | fixed listed =>
        rcases Token.fixed_cases listed with rfl | rfl | rfl | rfl | rfl | rfl | rfl | rfl
        · exact ⟨.now, rfl, rfl⟩
        · exact ⟨.latest, rfl, rfl⟩
        · exact ⟨.earliest, rfl, rfl⟩
        · exact ⟨.comma, rfl, rfl⟩
        · exact ⟨.colon, rfl, rfl⟩
        · exact ⟨.atSign, rfl, rfl⟩
        · exact ⟨.pipe, rfl, rfl⟩
        · exact ⟨.slash, rfl, rfl⟩
    | unit names =>
        exact ⟨.unit, Pattern.mem_language_unit.mpr ⟨_, _, names, rfl⟩, by simp [Pattern.token?, names]⟩
    | zone proper open_ =>
        refine ⟨.zone, Pattern.mem_language_zone.mpr ⟨_, proper, open_, rfl⟩, ?_⟩
        rw [Pattern.token?, withoutBraces_zone open_]
        rfl
    | date formed size => exact ⟨.date, Pattern.mem_language_date.mpr ⟨size, formed⟩, rfl⟩
    | dateTime formed size => exact ⟨.dateTime, Pattern.mem_language_dateTime.mpr ⟨size, formed⟩, rfl⟩
    | number signed proper numeral =>
        refine ⟨.number, Pattern.mem_language_number.mpr ⟨_, _, _, signed, proper, numeral, rfl⟩, ?_⟩
        rw [Pattern.token?, Pattern.count_append signed proper numeral]
  · rintro ⟨pattern, matched, rfl⟩
    exact Pattern.spelling_of_mem matched

end TimeRange
