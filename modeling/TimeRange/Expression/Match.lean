import TimeRange.Expression.Token
import TimeRange.Text.Blank
import TimeRange.Text.Decimal

/-!
# Matching a token

A match says how many characters some kind of token takes at the start of a
text. Of all matches the longest is taken. Where nothing matches, the next
character is cut off, or the whole rest of the text if a brace opens there and
is never closed. A number that a count cannot hold is matched all the same,
and gives no token.

The main statement is `next_fits`: what is cut off a text is part of it and
not empty.
-/

namespace TimeRange

open Text

/-- A match of a kind of token at the start of a text: how many characters it takes, and the token if there is one. -/
structure Match where
  length : Nat
  token? : Option Token
  deriving DecidableEq, Repr

namespace Match

def fixed (text : List Char) : List Match :=
  Token.fixedSpellings.filterMap fun entry =>
    if entry.1.isPrefixOf text then some ⟨entry.1.length, some entry.2⟩ else none

def unit? : List Char → Option Match
  | [] => none
  | letter :: _ => (TimeUnit.ofLetter? letter).map fun unit => ⟨1, some (.unit unit)⟩

/-- The name that a zone token gives: its text between the braces, without braces before it and white space around it. -/
def zoneName (inner : List Char) : String :=
  String.ofList (trim (inner.dropWhile (· == '\x7b')))

/-- A zone is any text but a closing brace between two braces. -/
def zone? : List Char → Option Match
  | '\x7b' :: rest =>
      let inner := rest.takeWhile (· != '\x7d')
      if !inner.isEmpty && inner.length < rest.length then
        some ⟨inner.length + 2, some (.zone (zoneName inner))⟩
      else none
  | _ => none

/-- Whether a text begins with a shape, in which a zero stands for any digit. -/
def hasShape : (shape text : List Char) → Bool
  | [], _ => true
  | _ :: _, [] => false
  | '0' :: shape, character :: text => character.isDigit && hasShape shape text
  | mark :: shape, character :: text => mark == character && hasShape shape text

def dateShape : List Char :=
  ['0', '0', '0', '0', '-', '0', '0', '-', '0', '0']

def dateTimeShape : List Char :=
  dateShape ++ [' ', '0', '0', ':', '0', '0']

def numberAt (text : List Char) (position width : Nat) : Nat :=
  Decimal.value ((text.drop position).take width)

/-- A date is ten characters long, whether it exists or not. -/
def date? (text : List Char) : Option Match :=
  if hasShape dateShape text then
    some ⟨10, some (.date (numberAt text 0 4) (numberAt text 5 2) (numberAt text 8 2))⟩
  else none

def dateTime? (text : List Char) : Option Match :=
  if hasShape dateTimeShape text then
    some ⟨16, some (.dateTime (numberAt text 0 4) (numberAt text 5 2) (numberAt text 8 2)
      (numberAt text 11 2) (numberAt text 14 2))⟩
  else none

/-- The match of a sign of a given length and the digits after it. A count that is out of bounds has no token. -/
def numberOf (signLength : Nat) (sign : Int) (digits : List Char) : Option Match :=
  if digits.isEmpty then none
  else
    let value := sign * Decimal.value digits
    some ⟨signLength + digits.length,
      if leastCount ≤ value ∧ value ≤ greatestCount then some (.number value) else none⟩

def number? : List Char → Option Match
  | '-' :: rest => numberOf 1 (-1) (rest.takeWhile Char.isDigit)
  | '+' :: rest => numberOf 1 1 (rest.takeWhile Char.isDigit)
  | text => numberOf 0 1 (text.takeWhile Char.isDigit)

def candidates (text : List Char) : List Match :=
  fixed text ++ (unit? text).toList ++ (zone? text).toList ++ (dateTime? text).toList
    ++ (date? text).toList ++ (number? text).toList

/-- The longest of some matches, and of equally long ones the first. -/
def longest? : List Match → Option Match
  | [] => none
  | first :: later =>
      match longest? later with
      | none => some first
      | some best => if first.length < best.length then some best else some first

theorem longest?_eq_none_iff {found : List Match} : longest? found = none ↔ found = [] := by
  constructor
  · intro absent
    cases found with
    | nil => rfl
    | cons first later =>
        simp only [longest?] at absent
        split at absent
        · cases absent
        · split at absent <;> cases absent
  · rintro rfl
    rfl

theorem mem_of_longest? {found : List Match} {best : Match} (chosen : longest? found = some best) :
    best ∈ found := by
  induction found with
  | nil => cases chosen
  | cons first later ih =>
      simp only [longest?] at chosen
      split at chosen
      · cases chosen
        exact List.mem_cons_self
      · rename_i longestLater chosenLater
        split at chosen <;> cases chosen
        · exact List.mem_cons_of_mem _ (ih chosenLater)
        · exact List.mem_cons_self

theorem length_le_of_longest? {found : List Match} {best : Match}
    (chosen : longest? found = some best) {other : Match} (member : other ∈ found) :
    other.length ≤ best.length := by
  induction found generalizing best with
  | nil => cases member
  | cons first later ih =>
      simp only [longest?] at chosen
      split at chosen
      · rename_i none_
        cases chosen
        rw [longest?_eq_none_iff.mp none_, List.mem_singleton] at member
        exact Nat.le_of_eq (congrArg length member)
      · rename_i longestLater chosenLater
        rcases List.mem_cons.mp member with rfl | behind
        · split at chosen <;> cases chosen <;> omega
        · have shorter := ih chosenLater behind
          split at chosen <;> cases chosen <;> omega

def unmatched : List Char → Match
  | '\x7b' :: rest => ⟨if !rest.isEmpty && !rest.contains '\x7d' then rest.length + 1 else 1, none⟩
  | _ => ⟨1, none⟩

def next (text : List Char) : Match :=
  (longest? (candidates text)).getD (unmatched text)

/-! ## Pieces lie within the text -/

def Fits (found : Match) (text : List Char) : Prop :=
  1 ≤ found.length ∧ found.length ≤ text.length

theorem fits_of_mem_fixed {text : List Char} {found : Match} (member : found ∈ fixed text) :
    found.Fits text := by
  obtain ⟨entry, listed, matched⟩ := List.mem_filterMap.mp member
  have proper : ∀ entry ∈ Token.fixedSpellings, 1 ≤ entry.1.length := by decide
  split at matched
  · rename_i starts
    cases matched
    exact ⟨proper entry listed, (List.isPrefixOf_iff_prefix.mp starts).length_le⟩
  · cases matched

theorem fits_of_unit? {text : List Char} {found : Match} (matched : unit? text = some found) :
    found.Fits text := by
  cases text with
  | nil => cases matched
  | cons letter rest =>
      obtain ⟨unit, _, rfl⟩ := Option.map_eq_some_iff.mp matched
      exact ⟨Nat.le_refl 1, Nat.succ_le_succ (Nat.zero_le _)⟩

theorem fits_of_zone? {text : List Char} {found : Match} (matched : zone? text = some found) :
    found.Fits text := by
  unfold zone? at matched
  split at matched
  · rename_i rest
    dsimp only at matched
    split at matched
    · rename_i closed
      cases matched
      rw [Bool.and_eq_true] at closed
      have shorter := of_decide_eq_true closed.2
      exact ⟨Nat.succ_le_succ (Nat.zero_le _), Nat.succ_le_succ shorter⟩
    · cases matched
  · cases matched

theorem length_le_of_hasShape {shape text : List Char} (formed : hasShape shape text = true) :
    shape.length ≤ text.length := by
  induction shape generalizing text with
  | nil => exact Nat.zero_le _
  | cons mark shape ih =>
      cases text with
      | nil => cases formed
      | cons character text =>
          apply Nat.succ_le_succ
          unfold hasShape at formed
          split at formed
          · contradiction
          · contradiction
          · rename_i same other
            cases same
            cases other
            exact ih ((Bool.and_eq_true _ _).mp formed).2
          · rename_i same other
            cases same
            cases other
            exact ih ((Bool.and_eq_true _ _).mp formed).2

theorem fits_of_date? {text : List Char} {found : Match} (matched : date? text = some found) :
    found.Fits text := by
  unfold date? at matched
  split at matched
  · rename_i formed
    cases matched
    exact ⟨Nat.succ_le_succ (Nat.zero_le _), length_le_of_hasShape formed⟩
  · cases matched

theorem fits_of_dateTime? {text : List Char} {found : Match}
    (matched : dateTime? text = some found) : found.Fits text := by
  unfold dateTime? at matched
  split at matched
  · rename_i formed
    cases matched
    exact ⟨Nat.succ_le_succ (Nat.zero_le _), length_le_of_hasShape formed⟩
  · cases matched

theorem length_of_numberOf {signLength : Nat} {sign : Int} {digits : List Char} {found : Match}
    (matched : numberOf signLength sign digits = some found) :
    found.length = signLength + digits.length ∧ 1 ≤ digits.length := by
  unfold numberOf at matched
  split at matched
  · cases matched
  · rename_i proper
    cases matched
    cases digits with
    | nil => exact absurd rfl proper
    | cons digit digits => exact ⟨rfl, Nat.succ_le_succ (Nat.zero_le _)⟩

theorem fits_of_number? {text : List Char} {found : Match} (matched : number? text = some found) :
    found.Fits text := by
  have within (characters : List Char) :
      (characters.takeWhile Char.isDigit).length ≤ characters.length :=
    (List.takeWhile_prefix _).length_le
  unfold number? at matched
  split at matched
  · rename_i rest
    have size := length_of_numberOf matched
    have bound := within rest
    simp only [Fits, List.length_cons]
    omega
  · rename_i rest
    have size := length_of_numberOf matched
    have bound := within rest
    simp only [Fits, List.length_cons]
    omega
  · have size := length_of_numberOf matched
    have bound := within text
    unfold Fits
    omega

theorem fits_of_mem_candidates {text : List Char} {found : Match}
    (member : found ∈ candidates text) : found.Fits text := by
  simp only [candidates, List.mem_append, Option.mem_toList] at member
  rcases member with ((((word | unit) | zone) | dateTime) | date) | number
  · exact fits_of_mem_fixed word
  · exact fits_of_unit? unit
  · exact fits_of_zone? zone
  · exact fits_of_dateTime? dateTime
  · exact fits_of_date? date
  · exact fits_of_number? number

theorem unmatched_fits {text : List Char} (proper : text ≠ []) : (unmatched text).Fits text := by
  unfold unmatched
  split
  · rename_i rest
    simp only [Fits, List.length_cons]
    split <;> omega
  · exact ⟨Nat.le_refl 1, List.length_pos_iff.mpr proper⟩

theorem next_fits {text : List Char} (proper : text ≠ []) : (next text).Fits text := by
  unfold next
  cases chosen : longest? (candidates text) with
  | none => exact unmatched_fits proper
  | some best => exact fits_of_mem_candidates (mem_of_longest? chosen)

end Match

end TimeRange
