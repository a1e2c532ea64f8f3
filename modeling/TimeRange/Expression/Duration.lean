import TimeRange.Expression.Basic
import TimeRange.Expression.Token
import TimeRange.Text.Decimal

/-!
# Durations

A duration in the notation of ISO 8601 is a `P` and then components, each a
run of digits and a designator: years, months, weeks and days, and after a `T`
hours, minutes and seconds, in this order and each at most once. The same
letter `M` stands for months before the `T` and for minutes after it.
-/

namespace TimeRange.Duration

open Text

structure Component where
  digits : List Char
  unit : TimeUnit
  deriving DecidableEq, Repr

def dateDesignators : List (Char × TimeUnit) :=
  [('Y', .year), ('M', .month), ('W', .week), ('D', .day)]

def timeDesignators : List (Char × TimeUnit) :=
  [('H', .hour), ('M', .minute), ('S', .second)]

/-- Reads at most one component for each designator, in their order, and gives the rest of the text. -/
def readComponents : List (Char × TimeUnit) → List Char → List Component × List Char
  | [], text => ([], text)
  | (designator, unit) :: later, text =>
      let digits := text.takeWhile Char.isDigit
      match digits, text.dropWhile Char.isDigit with
      | _ :: _, letter :: rest =>
          if letter = designator then
            let (components, rest) := readComponents later rest
            (⟨digits, unit⟩ :: components, rest)
          else readComponents later text
      | _, _ => readComponents later text

/-- The components of a text that is a duration. There may be none, as in `P` and `PT`. -/
def components? : List Char → Option (List Component)
  | 'P' :: text =>
      let (date, rest) := readComponents dateDesignators text
      match rest with
      | [] => some date
      | 'T' :: rest =>
          let (time, rest) := readComponents timeDesignators rest
          if rest.isEmpty then some (date ++ time) else none
      | _ => none
  | _ => none

namespace Component

def count? (component : Component) : Option Int :=
  let count : Int := Decimal.value component.digits
  if count ≤ greatestCount then some count else none

def grain? (component : Component) : Option Grain :=
  component.count?.map fun count => ⟨some count, component.unit⟩

end Component

/-- The grains of components, or the first component whose number is too large. -/
def grains : List Component → Except Component (List Grain)
  | [] => .ok []
  | component :: later =>
      match component.grain? with
      | some grain => (grain :: ·) <$> grains later
      | none => .error component

end TimeRange.Duration
