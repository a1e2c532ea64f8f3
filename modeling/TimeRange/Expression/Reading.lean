import TimeRange.Expression.Duration
import TimeRange.Expression.Grammar
import TimeRange.Expression.Period

/-!
# Reading an expression in any notation

Besides the grammar there are three older notations: the word `inf` for all of
the data, named periods such as `rill-MTD`, and durations such as `P7D`. They
are tried first, in this order, and a text that is none of them goes to the
grammar. A reading tells in which notation a text was read, and marks the
expressions of the grammar.

Of a duration only the last component is kept, so that `P1Y2M` is two months.
In strict reading of the older notations, a text that is none of them is an
error.
-/

namespace TimeRange

inductive Reading where
  /-- As all of the data. -/
  | everything
  /-- As a named period, which stands for an expression of the grammar. -/
  | period (expansion : String) (expression : Expression)
  /-- As a duration, of which a grain is kept; whether it had further components. -/
  | duration (kept : Grain) (compound : Bool)
  /-- As an expression of the grammar. -/
  | sentence (expression : Expression)
  deriving DecidableEq, Repr

namespace Reading

/-- The expression that was read. That of a period is one of the grammar. -/
def expression : Reading → Expression
  | .everything => ⟨.ofBase .earliest, .ofBase .latest, none, none, false⟩
  | .period _ expression => expression.marked
  | .duration kept _ => ⟨.ofBase (.grain kept), .now, none, none, false⟩
  | .sentence expression => expression.marked

def isEverything (text : String) : Bool :=
  text.toList.map Char.toLower == ['i', 'n', 'f']

/-- Reads the period of a name that is known. A reserved name does not fit. -/
def ofPeriod (name expansion : String) : Except ReadError Reading :=
  if expansion.isEmpty then
    .error (.unexpected
      ⟨name, Period.marker.length, Period.marker.length + utf8Length name.toList⟩)
  else .period expansion <$> Expression.ofGrammar expansion

def ofComponents (text : String) (components : List Duration.Component) :
    Except ReadError Reading :=
  match Duration.grains components with
  | .error component => .error (.invalidDuration text (String.ofList component.digits))
  | .ok grains =>
      match grains.getLast? with
      | none => .error (.invalidDuration text "")
      | some kept => .ok (.duration kept (1 < grains.length))

def ofDuration? (text : String) (strict : Bool) : Except ReadError (Option Reading) :=
  match Duration.components? text.toList with
  | some components => some <$> ofComponents text components
  | none => if strict then .error (.invalidDuration text text) else .ok none

/--
Reads a text in one of the older notations, if it is in one. An unknown period
is left to the duration, unless the reading is strict.
-/
def ofOlder? (text : String) (strict : Bool) : Except ReadError (Option Reading) :=
  if isEverything text then .ok (some .everything)
  else
    match Period.ofText? text with
    | none => ofDuration? text strict
    | some name =>
        match Period.expansion? name with
        | some expansion => some <$> ofPeriod name expansion
        | none => if strict then .error (.unknownPeriod name) else ofDuration? text strict

def ofText (text : String) : Except ReadError Reading :=
  match ofOlder? text false with
  | .error error => .error error
  | .ok (some reading) => .ok reading
  | .ok none => .sentence <$> Expression.ofGrammar text

end Reading

namespace Expression

def parse (text : String) : Except ReadError Expression :=
  Reading.expression <$> Reading.ofText text

def parseOlder? (text : String) (strict : Bool) : Except ReadError (Option Expression) :=
  Option.map Reading.expression <$> Reading.ofOlder? text strict

end Expression

end TimeRange
