import TimeRange.Expression.Basic
import TimeRange.Expression.Error
import TimeRange.Expression.Item

/-!
# The grammar of expressions

    expression := anchor (',' anchor)? (':' rounding)? ('@' viewpoint)?
    anchor     := (grain | date | date-time | now | latest | earliest) grain? ('/' unit)?
    rounding   := grain | '|' grain '|'
    viewpoint  := anchor? zone?
    grain      := number? unit

The parser reads tokens from left to right, and one token of look-ahead tells
what follows. Its state is the tokens still to be read, `none` standing for an
item without a token. It fails with the tokens from the first wrong one on,
which are none if the text ends too early.
-/

namespace TimeRange

open Calendar

abbrev Grammar (α : Type) : Type :=
  StateT (List (Option Token)) (Except (List (Option Token))) α

/-- An expression as it is written: its end may be missing, and its zone is a name. -/
structure Draft where
  start : Anchor
  stop? : Option Anchor
  rounding? : Option Rounding
  viewpoint? : Option (Option Anchor × Option String)
  deriving DecidableEq, Repr

namespace Grammar

/-- Reads what the tokens go on with, if that is the case, and otherwise nothing. -/
def optional {α : Type} (starts : List (Option Token) → Bool) (part : Grammar α) :
    Grammar (Option α) := do
  if starts (← get) then some <$> part else pure none

def startsWith (token : Token) : List (Option Token) → Bool
  | some found :: _ => found == token
  | _ => false

def mark (token : Token) : Grammar Unit := fun tokens =>
  if startsWith token tokens then .ok ((), tokens.tail) else .error tokens

def after {α : Type} (token : Token) (part : Grammar α) : Grammar (Option α) :=
  optional (startsWith token) do
    mark token
    part

def unit : Grammar TimeUnit
  | some (.unit unit) :: rest => .ok (unit, rest)
  | tokens => .error tokens

def startsGrain : List (Option Token) → Bool
  | some (.number _) :: _ => true
  | some (.unit _) :: _ => true
  | _ => false

def count? : Grammar (Option Int)
  | some (.number count) :: rest => .ok (some count, rest)
  | tokens => .ok (none, tokens)

def grain : Grammar Grain := do
  let count? ← count?
  let unit ← unit
  return ⟨count?, unit⟩

def startsAnchor : List (Option Token) → Bool
  | some (.date ..) :: _ => true
  | some (.dateTime ..) :: _ => true
  | some .now :: _ => true
  | some .latest :: _ => true
  | some .earliest :: _ => true
  | tokens => startsGrain tokens

/-- The base that a token denotes by itself. A date or a clock time that does not exist denotes none. -/
def baseOfToken? : Token → Option Base
  | .now => some .now
  | .latest => some .latest
  | .earliest => some .earliest
  | .date year month day => (Date.ofCivil? year month day).map .date
  | .dateTime year month day hour minute => do
      let date ← Date.ofCivil? year month day
      let clock ← ClockTime.ofNumbers? hour minute
      return .dateTime date clock
  | _ => none

def tokenBase : Grammar Base
  | some token :: rest =>
      match baseOfToken? token with
      | some base => .ok (base, rest)
      | none => .error (some token :: rest)
  | tokens => .error tokens

def base : Grammar Base := do
  if startsGrain (← get) then Base.grain <$> grain else tokenBase

def anchor : Grammar Anchor := do
  let base ← base
  let move? ← optional startsGrain grain
  let truncation? ← after .slash unit
  return ⟨base, move?, truncation?⟩

def rounding : Grammar Rounding := do
  if startsWith .pipe (← get) then
    mark .pipe
    let grain ← grain
    mark .pipe
    return .complete grain
  else
    return .running (← grain)

def zoneName? : Grammar (Option String)
  | some (.zone name) :: rest => .ok (some name, rest)
  | tokens => .ok (none, tokens)

def viewpoint : Grammar (Option Anchor × Option String) := do
  let asOf? ← optional startsAnchor anchor
  let name? ← zoneName?
  return (asOf?, name?)

def finish : Grammar Unit
  | [] => .ok ((), [])
  | tokens => .error tokens

def draft : Grammar Draft := do
  let start ← anchor
  let stop? ← after .comma anchor
  let rounding? ← after .colon rounding
  let viewpoint? ← after .atSign viewpoint
  finish
  return ⟨start, stop?, rounding?, viewpoint?⟩

end Grammar

def Viewpoint.ofNamed (asOf? : Option Anchor) : Option String → Except ReadError Viewpoint
  | none => .ok ⟨asOf?, none⟩
  | some name =>
      match NamedZone.ofName? name with
      | some zone => .ok ⟨asOf?, some zone⟩
      | none => .error (.unknownZone name)

/--
The expression that a draft stands for, once its zone is found. A missing end is the
present. It is for the reading to mark it as one of the grammar.
-/
def Draft.expression (draft : Draft) : Except ReadError Expression :=
  let seenFrom (viewpoint? : Option Viewpoint) : Expression :=
    ⟨draft.start, draft.stop?.getD .now, draft.rounding?, viewpoint?, false⟩
  match draft.viewpoint? with
  | none => .ok (seenFrom none)
  | some (asOf?, name?) => (seenFrom ∘ some) <$> Viewpoint.ofNamed asOf? name?

/-- The place in a text where the last `remaining` of its items begin; its end, if there are none. -/
def Misfit.among (items : List Item) (remaining textLength : Nat) : Misfit :=
  match items.drop (items.length - remaining) with
  | item :: _ => ⟨String.ofList item.lexeme, item.start, item.stop⟩
  | [] => ⟨"", textLength, textLength⟩

namespace Expression

def ofGrammar (text : String) : Except ReadError Expression :=
  let items := items text.toList
  match Grammar.draft (items.map Item.token?) with
  | .ok (draft, _) => draft.expression
  | .error rest => .error (.unexpected (.among items rest.length (utf8Length text.toList)))

end Expression

end TimeRange
