import TimeRange.Expression.Grammar

/-!
# How tokens are spelled

A lexeme spells a token before a given rest of a text if the lexer cuts it off
and finds that token. Since the longest match is taken, this depends on the
rest: a number must not be followed by a digit, nor a date by a space and a
time. The lemmas `next_…` give a spelling for each kind of token with a weak
condition on the rest, and `tokensOf_append` puts spellings together.

The other way round, `Match.finds_of_next` says what the tokens of a text are
like: counts are in bounds, years have four digits, and the names of zones are
lexemes without their braces and the white space around them.
-/

namespace TimeRange

open Text

/-- The tokens of the items of a text, and `none` for an item without a token. -/
def tokensOf (text : List Char) : List (Option Token) :=
  (items text).map Item.token?

/-- The items of a text all have tokens, and these are the tokens. -/
def Lexes (text : String) (tokens : List Token) : Prop :=
  tokensOf text.toList = tokens.map some

theorem Lexes.unique {text : String} {first second : List Token} (left : Lexes text first)
    (right : Lexes text second) : first = second :=
  (List.map_inj_right fun _ _ => Option.some.inj).mp (left.symm.trans right)

/-! ## From pieces to texts -/

theorem map_token?_itemsFrom (start : Nat) (text : List Char) :
    (itemsFrom start text).map Item.token? = tokensOf text := by
  have shifted (first second : Nat) :
      (itemsFrom first text).map Item.token? = (itemsFrom second text).map Item.token? := by
    fun_induction itemsFrom first text generalizing second with
    | case1 => rw [itemsFrom_nil]
    | case2 first head rest separates ih =>
        rw [itemsFrom_separator separates]
        exact ih _
    | case3 first head rest stands found lexeme ih =>
        rw [itemsFrom_piece (Bool.eq_false_iff.mpr stands)]
        simp only [List.map_cons]
        rw [ih]
  exact shifted start 0

theorem tokensOf_nil : tokensOf [] = [] := by
  unfold tokensOf items
  rw [itemsFrom_nil]
  rfl

theorem tokensOf_piece {first : Char} (stands : isSeparator first = false) (rest : List Char) :
    tokensOf (first :: rest) =
      (Match.next (first :: rest)).token?
        :: tokensOf ((first :: rest).drop (Match.next (first :: rest)).length) := by
  conv => lhs; unfold tokensOf items
  rw [itemsFrom_piece stands]
  simp only [List.map_cons]
  rw [map_token?_itemsFrom]

theorem token?_next_of_isSeparator {first : Char} (separates : isSeparator first = true)
    (rest : List Char) : (Match.next (first :: rest)).token? = none := by
  simp only [isSeparator, Bool.or_eq_true, beq_iff_eq] at separates
  rcases separates with (((rfl | rfl) | rfl) | rfl) | rfl <;> rfl

/-- A lexeme that spells a token gives that token before those of the rest. -/
theorem tokensOf_append {lexeme rest : List Char} {token : Token}
    (spells : Match.next (lexeme ++ rest) = ⟨lexeme.length, some token⟩) :
    tokensOf (lexeme ++ rest) = some token :: tokensOf rest := by
  cases whole : lexeme ++ rest with
  | nil =>
      rw [whole] at spells
      cases congrArg Match.token? spells
  | cons first behind =>
      rw [whole] at spells
      have stands : isSeparator first = false := by
        cases separates : isSeparator first with
        | false => rfl
        | true =>
            have absent := token?_next_of_isSeparator separates behind
            rw [spells] at absent
            cases absent
      rw [tokensOf_piece stands, spells, ← whole, List.drop_left]

/-! ## Spellings -/

theorem Token.fixed_cases {entry : List Char × Token} (listed : entry ∈ fixedSpellings) :
    entry = (['n', 'o', 'w'], .now) ∨ entry = (['l', 'a', 't', 'e', 's', 't'], .latest)
      ∨ entry = (['e', 'a', 'r', 'l', 'i', 'e', 's', 't'], .earliest) ∨ entry = ([','], .comma)
      ∨ entry = ([':'], .colon) ∨ entry = (['@'], .atSign) ∨ entry = (['|'], .pipe)
      ∨ entry = (['/'], .slash) := by
  simpa only [fixedSpellings, List.mem_cons, List.not_mem_nil, or_false] using listed

namespace Match

theorem next_fixed {entry : List Char × Token} (listed : entry ∈ Token.fixedSpellings)
    (rest : List Char) : next (entry.1 ++ rest) = ⟨entry.1.length, some entry.2⟩ := by
  rcases Token.fixed_cases listed with rfl | rfl | rfl | rfl | rfl | rfl | rfl | rfl <;> rfl

theorem next_unit (unit : TimeUnit) (rest : List Char) :
    next (unit.letter :: rest) = ⟨1, some (.unit unit)⟩ := by
  cases unit <;> rfl

theorem candidates_brace (rest : List Char) :
    candidates ('\x7b' :: rest) = (zone? ('\x7b' :: rest)).toList := by
  have only : candidates ('\x7b' :: rest) = (zone? ('\x7b' :: rest)).toList ++ [] ++ [] ++ [] := rfl
  simpa only [List.append_nil] using only

theorem next_zone {inner : List Char} (proper : inner ≠ []) (open_ : '\x7d' ∉ inner)
    (rest : List Char) :
    next ('\x7b' :: (inner ++ '\x7d' :: rest)) = ⟨inner.length + 2, some (.zone (zoneName inner))⟩ := by
  have passed : ∀ character ∈ inner, (character != '\x7d') = true := by
    intro character member
    exact bne_iff_ne.mpr fun same => open_ (same ▸ member)
  have cut : (inner ++ '\x7d' :: rest).takeWhile (· != '\x7d') = inner := by
    rw [List.takeWhile_append_of_pos passed]
    exact List.append_nil inner
  have found : zone? ('\x7b' :: (inner ++ '\x7d' :: rest))
      = some ⟨inner.length + 2, some (.zone (zoneName inner))⟩ := by
    simp only [zone?, cut]
    rw [if_pos]
    simp [proper]
  rw [next, candidates_brace, found]
  rfl

/-! ### Numbers -/

theorem mem_digits_of_isDigit {character : Char} (digit : character.isDigit = true) :
    character ∈ ['0', '1', '2', '3', '4', '5', '6', '7', '8', '9'] := by
  have bounds := Char.isDigit_iff_toNat.mp digit
  have zero : '0'.toNat = 48 := rfl
  have nine : '9'.toNat = 57 := rfl
  have code : character.toNat = 48 ∨ character.toNat = 49 ∨ character.toNat = 50
      ∨ character.toNat = 51 ∨ character.toNat = 52 ∨ character.toNat = 53 ∨ character.toNat = 54
      ∨ character.toNat = 55 ∨ character.toNat = 56 ∨ character.toNat = 57 := by omega
  rw [← Char.ofNat_toNat character]
  rcases code with same | same | same | same | same | same | same | same | same | same <;>
    rw [same] <;> decide

/-- Only a date, a date and a clock time or a number begin with a digit. -/
theorem candidates_digits {digits : List Char} (proper : digits ≠ [])
    (numeral : ∀ digit ∈ digits, digit.isDigit = true) (rest : List Char) :
    candidates (digits ++ rest) =
      (dateTime? (digits ++ rest)).toList ++ (date? (digits ++ rest)).toList
        ++ (numberOf 0 1 ((digits ++ rest).takeWhile Char.isDigit)).toList := by
  cases digits with
  | nil => exact absurd rfl proper
  | cons first digits =>
      have listed := mem_digits_of_isDigit (numeral first List.mem_cons_self)
      simp only [List.mem_cons, List.not_mem_nil, or_false] at listed
      rcases listed with rfl | rfl | rfl | rfl | rfl | rfl | rfl | rfl | rfl | rfl <;> rfl

theorem candidates_minus (rest : List Char) :
    candidates ('-' :: rest) = (numberOf 1 (-1) (rest.takeWhile Char.isDigit)).toList :=
  rfl

theorem candidates_plus (rest : List Char) :
    candidates ('+' :: rest) = (numberOf 1 1 (rest.takeWhile Char.isDigit)).toList :=
  rfl

theorem numberOf_of_ne_nil {digits : List Char} (proper : digits ≠ []) (signLength : Nat) (sign : Int) :
    numberOf signLength sign digits
      = some ⟨signLength + digits.length,
          if leastCount ≤ sign * Decimal.value digits ∧ sign * Decimal.value digits ≤ greatestCount
          then some (.number (sign * Decimal.value digits)) else none⟩ := by
  unfold numberOf
  rw [if_neg (by rwa [List.isEmpty_iff])]

theorem numberOf_count {digits : List Char} (proper : digits ≠ []) (signLength : Nat) (sign : Int)
    {count : Int} (counts : sign * Decimal.value digits = count) (lower : leastCount ≤ count)
    (upper : count ≤ greatestCount) :
    numberOf signLength sign digits
      = some ⟨signLength + digits.length, some (.number count)⟩ := by
  rw [numberOf_of_ne_nil proper, counts, if_pos ⟨lower, upper⟩]

def standsFor (mark character : Char) : Bool :=
  if mark = '0' then character.isDigit else mark == character

theorem hasShape_cons (mark character : Char) (shape text : List Char) :
    hasShape (mark :: shape) (character :: text) = (standsFor mark character && hasShape shape text) := by
  unfold standsFor
  by_cases zero : mark = '0'
  · rw [zero, hasShape, if_pos rfl]
  · rw [hasShape, if_neg zero]
    exact zero

theorem hasShape_of_append {first second text : List Char}
    (formed : hasShape (first ++ second) text = true) : hasShape first text = true := by
  induction first generalizing text with
  | nil => simp [hasShape]
  | cons mark first ih =>
      cases text with
      | nil => cases formed
      | cons character text =>
          rw [List.cons_append, hasShape_cons, Bool.and_eq_true] at formed
          rw [hasShape_cons, Bool.and_eq_true]
          exact ⟨formed.1, ih formed.2⟩

/-- A run of digits and a mark are not found where the mark does not follow the digits. -/
theorem hasShape_numeral {mark : Char} (apart : mark.isDigit = false) (width : Nat)
    (shape : List Char) {digits rest : List Char} (numeral : ∀ digit ∈ digits, digit.isDigit = true)
    (ends : ∀ character ∈ rest.head?, character.isDigit = false ∧ character ≠ mark) :
    hasShape (List.replicate width '0' ++ mark :: shape) (digits ++ rest) = false := by
  have plain : mark ≠ '0' := by
    rintro rfl
    cases apart
  induction width generalizing digits with
  | zero =>
      cases digits with
      | nil =>
          cases rest with
          | nil => rfl
          | cons first behind =>
              have other := (ends first rfl).2.symm
              simp [hasShape_cons, standsFor, plain, other]
      | cons digit digits =>
          have other : mark ≠ digit := by
            rintro rfl
            rw [numeral mark List.mem_cons_self] at apart
            cases apart
          simp [hasShape_cons, standsFor, plain, other]
  | succ width ih =>
      rw [List.replicate_succ, List.cons_append]
      cases digits with
      | nil =>
          cases rest with
          | nil => rfl
          | cons first behind => simp [hasShape_cons, standsFor, (ends first rfl).1]
      | cons digit digits =>
          have later := ih fun other member => numeral other (List.mem_cons_of_mem digit member)
          rw [List.cons_append, hasShape_cons, later, Bool.and_false]

/-- Digits that do not go on as a date are cut off as a number, in bounds or not. -/
theorem next_digits {digits rest : List Char} (proper : digits ≠ [])
    (numeral : ∀ digit ∈ digits, digit.isDigit = true)
    (ends : ∀ character ∈ rest.head?, character.isDigit = false ∧ character ≠ '-') :
    numberOf 0 1 digits = some (next (digits ++ rest)) := by
  have noDate : hasShape dateShape (digits ++ rest) = false :=
    hasShape_numeral (by decide) 4 ['0', '0', '-', '0', '0'] numeral ends
  have noDateTime : hasShape dateTimeShape (digits ++ rest) = false := by
    cases formed : hasShape dateTimeShape (digits ++ rest) with
    | false => rfl
    | true => rw [hasShape_of_append formed] at noDate; cases noDate
  have taken := Decimal.takeWhile_isDigit numeral fun character member => (ends character member).1
  have counted := numberOf_of_ne_nil proper 0 1
  rw [next, candidates_digits proper numeral, taken, counted]
  simp only [dateTime?, date?, noDate, noDateTime]
  simp [longest?]

theorem next_numeral {digits rest : List Char} (proper : digits ≠ [])
    (numeral : ∀ digit ∈ digits, digit.isDigit = true)
    (ends : ∀ character ∈ rest.head?, character.isDigit = false ∧ character ≠ '-')
    (fits : (Decimal.value digits : Int) ≤ greatestCount) :
    next (digits ++ rest) = ⟨digits.length, some (.number (Decimal.value digits))⟩ := by
  have counted := numberOf_count proper 0 1 (Int.one_mul _)
    (Int.le_trans (by decide) (Int.natCast_nonneg _)) fits
  rw [next_digits proper numeral ends, Nat.zero_add] at counted
  exact Option.some.inj counted

theorem next_signed {count : Int} (lower : leastCount ≤ count) (upper : count ≤ greatestCount)
    {rest : List Char} (ends : ∀ character ∈ rest.head?, character.isDigit = false) :
    next (Decimal.signed count ++ rest) = ⟨(Decimal.signed count).length, some (.number count)⟩ := by
  have proper := Decimal.natural_ne_nil count.natAbs
  have value := Decimal.value_natural count.natAbs
  have numeral (digit : Char) (member : digit ∈ Decimal.natural count.natAbs) :=
    Decimal.isDigit_of_mem_natural member
  have taken := Decimal.takeWhile_isDigit numeral ends
  unfold Decimal.signed next
  by_cases negative : count < 0
  · have counted := numberOf_count proper 1 (-1) (by rw [value]; omega) lower upper
    rw [if_pos negative, List.cons_append, candidates_minus, taken, counted, Nat.add_comm]
    rfl
  · have counted := numberOf_count proper 1 1 (by rw [value]; omega) lower upper
    rw [if_neg negative, List.cons_append, candidates_plus, taken, counted, Nat.add_comm]
    rfl

theorem next_integer {count : Int} (lower : leastCount ≤ count) (upper : count ≤ greatestCount)
    {rest : List Char} (ends : ∀ character ∈ rest.head?, character.isDigit = false ∧ character ≠ '-') :
    next (Decimal.integer count ++ rest) = ⟨(Decimal.integer count).length, some (.number count)⟩ := by
  by_cases negative : count < 0
  · have same : Decimal.integer count = Decimal.signed count := by
      unfold Decimal.integer Decimal.signed
      rw [if_pos negative, if_pos negative]
    rw [same]
    exact next_signed lower upper fun character member => (ends character member).1
  · have value := Decimal.value_natural count.natAbs
    have same : ((Decimal.value (Decimal.natural count.natAbs) : Nat) : Int) = count := by
      rw [value]
      omega
    have found := next_numeral (Decimal.natural_ne_nil count.natAbs)
      (fun _ => Decimal.isDigit_of_mem_natural) ends (by rw [same]; exact upper)
    rw [same] at found
    unfold Decimal.integer
    rw [if_neg negative]
    exact found

/-! ### Dates -/

theorem numberAt_padded {width number : Nat} (size : (Decimal.padded width number).length = width)
    (rest : List Char) : numberAt (Decimal.padded width number ++ rest) 0 width = number := by
  unfold numberAt
  rw [List.drop_zero, List.take_left' size, Decimal.value_padded]

theorem numberAt_append {lexeme : List Char} {length : Nat} (size : lexeme.length = length)
    (rest : List Char) (position width : Nat) :
    numberAt (lexeme ++ rest) (length + position) width = numberAt rest position width := by
  unfold numberAt
  rw [← size, List.drop_length_add_append]

theorem hasShape_digits {digits : List Char} {width : Nat} (size : digits.length = width)
    (numeral : ∀ digit ∈ digits, digit.isDigit = true) (shape rest : List Char) :
    hasShape (List.replicate width '0' ++ shape) (digits ++ rest) = hasShape shape rest := by
  induction digits generalizing width with
  | nil =>
      rw [← size]
      rfl
  | cons digit digits ih =>
      have later := ih rfl fun other member => numeral other (List.mem_cons_of_mem digit member)
      have stands : standsFor '0' digit = true := numeral digit List.mem_cons_self
      rw [← size, List.length_cons, List.replicate_succ, List.cons_append, List.cons_append,
        hasShape_cons, stands, later, Bool.true_and]

theorem hasShape_padded (width : Nat) (positive : 0 < width) {number : Nat}
    (fits : number < Nat.pow 10 width) (shape rest : List Char) :
    hasShape (List.replicate width '0' ++ shape) (Decimal.padded width number ++ rest)
      = hasShape shape rest :=
  hasShape_digits (Decimal.length_padded_of_lt width positive fits)
    (fun _ => Decimal.isDigit_of_mem_padded) shape rest

theorem hasShape_mark {mark : Char} (other : mark ≠ '0') (shape rest : List Char) :
    hasShape (mark :: shape) (mark :: rest) = hasShape shape rest := by
  have stands : standsFor mark mark = true := by
    rw [standsFor, if_neg other]
    exact beq_self_eq_true mark
  rw [hasShape_cons, stands, Bool.true_and]

/-- A shape is compared with as many characters as it has. -/
theorem hasShape_append {first lexeme : List Char} (size : lexeme.length = first.length)
    (second rest : List Char) :
    hasShape (first ++ second) (lexeme ++ rest) = (hasShape first lexeme && hasShape second rest) := by
  induction first generalizing lexeme with
  | nil =>
      rw [List.eq_nil_of_length_eq_zero size]
      simp [hasShape]
  | cons mark first ih =>
      cases lexeme with
      | nil => cases size
      | cons character lexeme =>
          rw [List.cons_append, List.cons_append, hasShape_cons, hasShape_cons, Bool.and_assoc,
            ih (Nat.succ.inj size)]

theorem isDigit_of_hasShape (width : Nat) (shape : List Char) {text : List Char}
    (formed : hasShape (List.replicate width '0' ++ shape) text = true) :
    ∀ digit ∈ text.take width, digit.isDigit = true := by
  induction width generalizing text with
  | zero => simp
  | succ width ih =>
      cases text with
      | nil => simp
      | cons character text =>
          rw [List.replicate_succ, List.cons_append, hasShape_cons, Bool.and_eq_true] at formed
          rw [List.take_succ_cons, List.forall_mem_cons]
          exact ⟨formed.1, ih formed.2⟩

theorem exists_hyphen_of_hasShape {text : List Char} (formed : hasShape dateShape text = true) :
    ∃ digits rest, text = digits ++ '-' :: rest ∧ digits.length = 4 ∧
      ∀ digit ∈ digits, digit.isDigit = true := by
  have numeral := isDigit_of_hasShape 4 ['-', '0', '0', '-', '0', '0'] formed
  have room : 10 ≤ text.length := length_le_of_hasShape formed
  have size : (text.take 4).length = 4 := by
    rw [List.length_take]
    omega
  have parted := @hasShape_append ['0', '0', '0', '0'] (text.take 4) size
    ['-', '0', '0', '-', '0', '0'] (text.drop 4)
  have whole : hasShape (['0', '0', '0', '0'] ++ ['-', '0', '0', '-', '0', '0'])
    (text.take 4 ++ text.drop 4) = true := by
    rw [List.take_append_drop]
    exact formed
  rw [whole] at parted
  have after := ((Bool.and_eq_true _ _).mp parted.symm).2
  cases behind : text.drop 4 with
  | nil =>
      rw [behind] at after
      cases after
  | cons mark rest =>
      rw [behind, hasShape_cons, Bool.and_eq_true] at after
      have hyphen : '-' = mark := eq_of_beq after.1
      refine ⟨text.take 4, rest, ?_, size, numeral⟩
      rw [hyphen, ← behind, List.take_append_drop]

/-- At the digits of a date the clock time is cut off as well, if there is one. -/
theorem next_of_hasShape {text : List Char} (formed : hasShape dateShape text = true) :
    next text = (dateTime? text).getD
      ⟨10, some (.date (numberAt text 0 4) (numberAt text 5 2) (numberAt text 8 2))⟩ := by
  obtain ⟨digits, rest, parts, size, numeral⟩ := exists_hyphen_of_hasShape formed
  have proper : digits ≠ [] := by
    rintro rfl
    cases size
  have taken : (digits ++ '-' :: rest).takeWhile Char.isDigit = digits :=
    Decimal.takeWhile_isDigit numeral (by simp)
  have found : date? text = some ⟨10, some (.date (numberAt text 0 4) (numberAt text 5 2)
      (numberAt text 8 2))⟩ := if_pos formed
  have listed := candidates_digits proper numeral ('-' :: rest)
  rw [taken, ← parts, found] at listed
  unfold next
  rw [listed]
  -- The year alone is a number, but a shorter one.
  have shorter : ∀ year ∈ numberOf 0 1 digits, year.length = 4 := by
    intro year matched
    rw [(length_of_numberOf matched).1, size]
  have longer : ∀ clock ∈ dateTime? text, clock.length = 16 := by
    intro clock matched
    unfold dateTime? at matched
    split at matched <;> cases matched
    rfl
  cases year? : numberOf 0 1 digits with
  | none =>
      cases clock? : dateTime? text with
      | none => rfl
      | some clock => simp [longest?, longer clock clock?]
  | some year =>
      have years := shorter year year?
      cases clock? : dateTime? text with
      | none => simp [longest?, years]
      | some clock => simp [longest?, years, longer clock clock?]

def dateDigits (year month day : Nat) : List Char :=
  Decimal.padded 4 year ++ '-' :: (Decimal.padded 2 month ++ '-' :: Decimal.padded 2 day)

def clockDigits (hour minute : Nat) : List Char :=
  Decimal.padded 2 hour ++ ':' :: Decimal.padded 2 minute

section Dates

variable {year month day : Nat} (yearFits : year < 10000) (monthFits : month < 100)
  (dayFits : day < 100)

include yearFits monthFits dayFits

theorem length_dateDigits : (dateDigits year month day).length = 10 := by
  simp only [dateDigits, List.length_append, List.length_cons,
    Decimal.length_padded_of_lt 4 (by decide) yearFits,
    Decimal.length_padded_of_lt 2 (by decide) monthFits,
    Decimal.length_padded_of_lt 2 (by decide) dayFits]

/-- A date has the shape of one, and what is after the date is compared with the rest of the shape. -/
theorem hasShape_dateDigits (shape rest : List Char) :
    hasShape (dateShape ++ shape) (dateDigits year month day ++ rest) = hasShape shape rest := by
  have years := hasShape_padded 4 (by decide) yearFits
  have months := hasShape_padded 2 (by decide) monthFits
  have days := hasShape_padded 2 (by decide) dayFits
  have parts : dateShape ++ shape = List.replicate 4 '0'
      ++ '-' :: (List.replicate 2 '0' ++ '-' :: (List.replicate 2 '0' ++ shape)) := rfl
  rw [parts, dateDigits, List.append_assoc, years, List.cons_append, hasShape_mark (by decide),
    List.append_assoc, months, List.cons_append, hasShape_mark (by decide), days]

theorem numberAt_dateDigits (rest : List Char) :
    numberAt (dateDigits year month day ++ rest) 0 4 = year
      ∧ numberAt (dateDigits year month day ++ rest) 5 2 = month
      ∧ numberAt (dateDigits year month day ++ rest) 8 2 = day := by
  have yearSize : (Decimal.padded 4 year ++ ['-']).length = 5 := by
    simp [Decimal.length_padded_of_lt 4 (by decide) yearFits]
  have monthSize : (Decimal.padded 4 year ++ '-' :: Decimal.padded 2 month ++ ['-']).length = 8 := by
    simp [Decimal.length_padded_of_lt 4 (by decide) yearFits,
      Decimal.length_padded_of_lt 2 (by decide) monthFits]
  have upToMonth : dateDigits year month day ++ rest = Decimal.padded 4 year ++ ['-']
      ++ (Decimal.padded 2 month ++ '-' :: Decimal.padded 2 day ++ rest) := by
    simp [dateDigits]
  have upToDay : dateDigits year month day ++ rest
      = Decimal.padded 4 year ++ '-' :: Decimal.padded 2 month ++ ['-']
        ++ (Decimal.padded 2 day ++ rest) := by
    simp [dateDigits]
  refine ⟨?_, ?_, ?_⟩
  · rw [dateDigits, List.append_assoc]
    exact numberAt_padded (Decimal.length_padded_of_lt 4 (by decide) yearFits) _
  · rw [upToMonth, List.append_assoc (Decimal.padded 2 month)]
    exact (numberAt_append yearSize _ 0 2).trans
      (numberAt_padded (Decimal.length_padded_of_lt 2 (by decide) monthFits) _)
  · rw [upToDay]
    exact (numberAt_append monthSize _ 0 2).trans
      (numberAt_padded (Decimal.length_padded_of_lt 2 (by decide) dayFits) _)

theorem next_date {rest : List Char} (ends : rest.head? ≠ some ' ') :
    next (dateDigits year month day ++ rest) =
      ⟨(dateDigits year month day).length, some (.date year month day)⟩ := by
  have noClock : hasShape dateTimeShape (dateDigits year month day ++ rest) = false := by
    rw [dateTimeShape, hasShape_dateDigits yearFits monthFits dayFits]
    cases rest with
    | nil => rfl
    | cons first behind =>
        have other : ' ' ≠ first := fun same => ends (congrArg some same.symm)
        simp [hasShape_cons, standsFor, other]
  have noDateTime : dateTime? (dateDigits year month day ++ rest) = none := by
    rw [dateTime?, noClock, if_neg Bool.false_ne_true]
  have formed : hasShape dateShape (dateDigits year month day ++ rest) = true :=
    hasShape_dateDigits yearFits monthFits dayFits [] rest
  obtain ⟨years, months, days⟩ := numberAt_dateDigits yearFits monthFits dayFits rest
  rw [next_of_hasShape formed, noDateTime, years, months, days,
    length_dateDigits yearFits monthFits dayFits]
  rfl

theorem next_dateTime {hour minute : Nat} (hourFits : hour < 100) (minuteFits : minute < 100)
    (rest : List Char) :
    next (dateDigits year month day ++ ' ' :: clockDigits hour minute ++ rest) =
      ⟨(dateDigits year month day ++ ' ' :: clockDigits hour minute).length,
        some (.dateTime year month day hour minute)⟩ := by
  have dateSize := length_dateDigits yearFits monthFits dayFits
  have hourSize := Decimal.length_padded_of_lt 2 (by decide) hourFits
  have minuteSize := Decimal.length_padded_of_lt 2 (by decide) minuteFits
  have size : (dateDigits year month day ++ ' ' :: clockDigits hour minute).length = 16 := by
    simp [clockDigits, dateSize, hourSize, minuteSize]
  have hours := hasShape_padded 2 (by decide) hourFits
  have minutes := hasShape_padded 2 (by decide) minuteFits
  have formed : hasShape dateTimeShape
      (dateDigits year month day ++ ' ' :: clockDigits hour minute ++ rest) = true := by
    have parts : dateTimeShape = dateShape
        ++ ' ' :: (List.replicate 2 '0' ++ ':' :: (List.replicate 2 '0' ++ [])) := rfl
    rw [parts, List.append_assoc, hasShape_dateDigits yearFits monthFits dayFits, List.cons_append,
      hasShape_mark (by decide), clockDigits, List.append_assoc, hours, List.cons_append,
      hasShape_mark (by decide), minutes]
    rfl
  have hourAt : numberAt (dateDigits year month day ++ ' ' :: clockDigits hour minute ++ rest) 11 2
      = hour := by
    have upTo : dateDigits year month day ++ ' ' :: clockDigits hour minute ++ rest
        = dateDigits year month day ++ [' ']
          ++ (Decimal.padded 2 hour ++ (':' :: Decimal.padded 2 minute ++ rest)) := by
      simp [clockDigits]
    rw [upTo]
    exact (numberAt_append (by simp [dateSize]) _ 0 2).trans (numberAt_padded hourSize _)
  have minuteAt : numberAt (dateDigits year month day ++ ' ' :: clockDigits hour minute ++ rest) 14 2
      = minute := by
    have upTo : dateDigits year month day ++ ' ' :: clockDigits hour minute ++ rest
        = dateDigits year month day ++ ' ' :: Decimal.padded 2 hour ++ [':']
          ++ (Decimal.padded 2 minute ++ rest) := by
      simp [clockDigits]
    rw [upTo]
    exact (numberAt_append (by simp [dateSize, hourSize]) _ 0 2).trans
      (numberAt_padded minuteSize _)
  obtain ⟨years, months, days⟩ := numberAt_dateDigits yearFits monthFits dayFits
    (' ' :: clockDigits hour minute ++ rest)
  rw [← List.append_assoc] at years months days
  have found : dateTime? (dateDigits year month day ++ ' ' :: clockDigits hour minute ++ rest)
      = some ⟨16, some (.dateTime year month day hour minute)⟩ := by
    rw [dateTime?, if_pos formed, years, months, days, hourAt, minuteAt]
  rw [next_of_hasShape (hasShape_of_append formed), found, size]
  rfl

end Dates

end Match

/-! ## What tokens hold -/

/-- Whether the numbers of a token can be spelled: a count is in bounds, and a year has four digits. -/
def Token.Writable : Token → Prop
  | .number count => leastCount ≤ count ∧ count ≤ greatestCount
  | .date year _ _ => year < 10000
  | .dateTime year _ _ _ _ => year < 10000
  | _ => True

namespace Match

theorem value_lt {digits : List Char} (numeral : ∀ digit ∈ digits, digit.isDigit = true)
    (short : digits.length ≤ 4) : Decimal.value digits < 10000 := by
  have bound (leading : Nat) :
      Nat.ofDigitChars 10 digits leading < 10 ^ digits.length * (leading + 1) := by
    clear short
    induction digits generalizing leading with
    | nil => simp
    | cons digit digits ih =>
        have first := Char.isDigit_iff_toNat.mp (numeral digit List.mem_cons_self)
        have zero : '0'.toNat = 48 := rfl
        have nine : '9'.toNat = 57 := rfl
        have later := ih (fun other member => numeral other (List.mem_cons_of_mem digit member))
          (10 * leading + (digit.toNat - '0'.toNat))
        rw [Nat.ofDigitChars_cons, List.length_cons, Nat.pow_succ, Nat.mul_assoc]
        exact Nat.lt_of_lt_of_le later (Nat.mul_le_mul_left _ (by omega))
  have total := bound 0
  rw [Nat.zero_add, Nat.mul_one] at total
  exact Nat.lt_of_lt_of_le total (Nat.pow_le_pow_right (by decide) short)

theorem year_lt {text : List Char} (formed : hasShape dateShape text = true) :
    numberAt text 0 4 < 10000 := by
  have numeral := isDigit_of_hasShape 4 ['-', '0', '0', '-', '0', '0'] formed
  have short : (text.take 4).length ≤ 4 := by
    rw [List.length_take]
    exact Nat.min_le_left _ _
  exact value_lt numeral short

/-- What a token that is found at the start of a text holds, and for a zone, where it was found. -/
inductive Finds (text : List Char) (length : Nat) : Token → Prop where
  | fixed {entry : List Char × Token} (listed : entry ∈ Token.fixedSpellings) :
      Finds text length entry.2
  | unit (unit : TimeUnit) : Finds text length (.unit unit)
  | zone {inner rest : List Char} (braces : text = '\x7b' :: (inner ++ '\x7d' :: rest))
      (open_ : '\x7d' ∉ inner) (size : length = inner.length + 2) :
      Finds text length (.zone (zoneName inner))
  | date {year : Nat} (fits : year < 10000) (month day : Nat) :
      Finds text length (.date year month day)
  | dateTime {year : Nat} (fits : year < 10000) (month day hour minute : Nat) :
      Finds text length (.dateTime year month day hour minute)
  | number {count : Int} (lower : leastCount ≤ count) (upper : count ≤ greatestCount) :
      Finds text length (.number count)

theorem finds_of_zone? {text : List Char} {found : Match} {token : Token}
    (matched : zone? text = some found) (given : found.token? = some token) :
    Finds text found.length token := by
  unfold zone? at matched
  split at matched
  · rename_i behind
    dsimp only at matched
    split at matched
    · rename_i closed
      cases matched
      cases given
      have rejoined := List.takeWhile_append_dropWhile (p := (· != '\x7d')) (l := behind)
      have closes : ∃ rest, behind.dropWhile (· != '\x7d') = '\x7d' :: rest := by
        cases after : behind.dropWhile (· != '\x7d') with
        | nil =>
            rw [after, List.append_nil] at rejoined
            rw [rejoined] at closed
            simp at closed
        | cons first rest =>
            have stops := List.head?_dropWhile_not (· != '\x7d') behind
            rw [after] at stops
            have closing : first = '\x7d' := by simpa using stops
            exact ⟨rest, by rw [closing]⟩
      obtain ⟨rest, after⟩ := closes
      rw [after] at rejoined
      refine .zone (congrArg _ rejoined.symm) ?_ rfl
      intro member
      have passed := List.all_takeWhile (p := (· != '\x7d')) (l := behind)
      have other := List.all_eq_true.mp passed _ member
      simp at other
    · cases matched
  · cases matched

theorem finds_of_numberOf {signLength : Nat} {sign : Int} {digits text : List Char} {found : Match}
    {token : Token} (matched : numberOf signLength sign digits = some found)
    (given : found.token? = some token) :
    Finds text found.length token := by
  unfold numberOf at matched
  split at matched
  · cases matched
  · cases matched
    dsimp only at given
    split at given
    · rename_i bounds
      cases given
      exact .number bounds.1 bounds.2
    · cases given

theorem finds_of_mem_candidates {text : List Char} {found : Match}
    {token : Token} (member : found ∈ candidates text) (given : found.token? = some token) :
    Finds text found.length token := by
  simp only [candidates, List.mem_append, Option.mem_toList] at member
  rcases member with ((((word | unit) | zone) | dateTime) | date) | number
  · obtain ⟨entry, listed, matched⟩ := List.mem_filterMap.mp word
    split at matched
    · cases matched
      cases given
      exact .fixed listed
    · cases matched
  · cases text with
    | nil => cases unit
    | cons letter rest =>
        obtain ⟨found, _, rfl⟩ := Option.map_eq_some_iff.mp unit
        cases given
        exact .unit found
  · exact finds_of_zone? zone given
  · unfold dateTime? at dateTime
    split at dateTime
    · rename_i formed
      cases dateTime
      cases given
      exact .dateTime (year_lt (hasShape_of_append formed)) _ _ _ _
    · cases dateTime
  · unfold date? at date
    split at date
    · rename_i formed
      cases date
      cases given
      exact .date (year_lt formed) _ _
    · cases date
  · unfold number? at number
    split at number <;> exact finds_of_numberOf number given

/-- A zone is found between braces. -/
theorem Finds.exists_inner {text : List Char} {length : Nat} {name : String}
    (finds : Finds text length (.zone name)) :
    ∃ inner rest : List Char, text = '\x7b' :: (inner ++ '\x7d' :: rest) ∧ '\x7d' ∉ inner
      ∧ length = inner.length + 2 ∧ name = zoneName inner := by
  generalize same : Token.zone name = token at finds
  cases finds with
  | fixed listed =>
      rcases Token.fixed_cases listed with rfl | rfl | rfl | rfl | rfl | rfl | rfl | rfl <;>
        cases same
  | unit unit => cases same
  | zone braces open_ size =>
      cases same
      exact ⟨_, _, braces, open_, size, rfl⟩
  | date _ _ _ => cases same
  | dateTime _ _ _ _ _ => cases same
  | number _ _ => cases same

theorem mem_candidates_of_next {text : List Char} {token : Token}
    (given : (next text).token? = some token) : next text ∈ candidates text := by
  unfold next at given ⊢
  cases chosen : longest? (candidates text) with
  | none =>
      rw [chosen] at given
      dsimp only [Option.getD, unmatched] at given
      split at given <;> cases given
  | some best => exact mem_of_longest? chosen

theorem finds_of_next {text : List Char} {token : Token} (given : (next text).token? = some token) :
    Finds text (next text).length token :=
  finds_of_mem_candidates (mem_candidates_of_next given) given

end Match

theorem exists_next_of_mem_items {start : Nat} {text : List Char} {item : Item}
    (member : item ∈ itemsFrom start text) :
    ∃ before rest : List Char, text = before ++ rest ∧ rest ≠ [] ∧
      item = ⟨(Match.next rest).token?, rest.take (Match.next rest).length,
        start + utf8Length before⟩ := by
  fun_induction itemsFrom start text with
  | case1 => cases member
  | case2 start first rest separates ih =>
      obtain ⟨before, behind, rfl, proper, same⟩ := ih member
      refine ⟨first :: before, behind, rfl, proper, ?_⟩
      rw [same, utf8Length, Nat.add_assoc]
  | case3 start first rest stands found lexeme ih =>
      rcases List.mem_cons.mp member with rfl | later
      · exact ⟨[], first :: rest, rfl, List.cons_ne_nil _ _, rfl⟩
      · obtain ⟨before, behind, split, proper, same⟩ := ih later
        refine ⟨lexeme ++ before, behind, ?_, proper, ?_⟩
        · rw [List.append_assoc, ← split, List.take_append_drop]
        · rw [same, utf8Length_append, Nat.add_assoc]

/-- The numbers of the tokens of a text can be spelled. -/
theorem writable_of_mem_items {text : List Char} {token : Token}
    (member : some token ∈ tokensOf text) : token.Writable := by
  obtain ⟨item, listed, given⟩ := List.mem_map.mp member
  obtain ⟨_, rest, _, _, rfl⟩ := exists_next_of_mem_items listed
  cases Match.finds_of_next given with
  | fixed entry =>
      rcases Token.fixed_cases entry with rfl | rfl | rfl | rfl | rfl | rfl | rfl | rfl <;> trivial
  | unit unit => trivial
  | zone _ _ _ => trivial
  | date fits month day => exact fits
  | dateTime fits month day hour minute => exact fits
  | number lower upper => exact ⟨lower, upper⟩

def withoutBraces (lexeme : List Char) : List Char :=
  ((lexeme.dropWhile (· == '\x7b')).reverse.dropWhile (· == '\x7d')).reverse

theorem dropWhile_eq_self {dropped : Char → Bool} {text : List Char}
    (kept : ∀ character ∈ text, dropped character = false) : text.dropWhile dropped = text := by
  cases text with
  | nil => rfl
  | cons first rest =>
      rw [List.dropWhile_cons_of_neg]
      rw [kept first List.mem_cons_self]
      exact Bool.false_ne_true

theorem withoutBraces_zone {inner : List Char} (open_ : '\x7d' ∉ inner) :
    withoutBraces ('\x7b' :: (inner ++ ['\x7d'])) = inner.dropWhile (· == '\x7b') := by
  have opened : ('\x7b' :: (inner ++ ['\x7d'])).dropWhile (· == '\x7b')
      = inner.dropWhile (· == '\x7b') ++ ['\x7d'] := by
    rw [List.dropWhile_cons_of_pos (by decide), List.dropWhile_append]
    split
    · rename_i empty
      rw [List.isEmpty_iff.mp empty]
      rfl
    · rfl
  have kept : ∀ character ∈ (inner.dropWhile (· == '\x7b')).reverse,
      (character == '\x7d') = false := by
    intro character member
    rw [List.mem_reverse] at member
    have inside := (List.dropWhile_sublist _).subset member
    exact beq_eq_false_iff_ne.mpr fun same => open_ (same ▸ inside)
  rw [withoutBraces, opened, List.reverse_append, List.reverse_singleton, List.singleton_append,
    List.dropWhile_cons_of_pos (by decide), dropWhile_eq_self kept, List.reverse_reverse]

/-- The name of a zone is its lexeme without braces and white space at its ends. -/
theorem name_of_zone_item {text : List Char} {item : Item} (listed : item ∈ items text)
    {name : String} (given : item.token? = some (.zone name)) :
    name = String.ofList (trim (withoutBraces item.lexeme)) := by
  obtain ⟨_, rest, _, _, rfl⟩ := exists_next_of_mem_items listed
  obtain ⟨inner, behind, braces, open_, size, rfl⟩ := (Match.finds_of_next given).exists_inner
  have cut : rest.take (Match.next rest).length = '\x7b' :: (inner ++ ['\x7d']) := by
    have sizes : ('\x7b' :: (inner ++ ['\x7d'])).length = inner.length + 2 := by simp
    have split : rest = '\x7b' :: (inner ++ ['\x7d']) ++ behind := by simp [braces]
    rw [size, ← sizes, split, List.take_left]
  dsimp only
  rw [cut, withoutBraces_zone open_]
  rfl

end TimeRange
