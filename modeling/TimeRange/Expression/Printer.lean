import TimeRange.Expression.Basic
import TimeRange.Text.Decimal
import TimeRange.Text.Timestamp

/-!
# The canonical text of an expression

Every expression prints as a text of the grammar without white space. Both
anchors are always printed. The grain that moves an anchor has a sign even
when it is positive, since `now1h` would be harder to read than `now+1h`.
-/

namespace TimeRange

open Text

def Grain.text (grain : Grain) : List Char :=
  match grain.count? with
  | some count => Decimal.integer count ++ [grain.unit.letter]
  | none => [grain.unit.letter]

/-- A grain whose count has a sign in any case. -/
def Grain.signedText (grain : Grain) : List Char :=
  match grain.count? with
  | some count => Decimal.signed count ++ [grain.unit.letter]
  | none => [grain.unit.letter]

def Calendar.ClockTime.text (clock : Calendar.ClockTime) : List Char :=
  Decimal.padded 2 clock.hour.val ++ ':' :: Decimal.padded 2 clock.minute.val

namespace Base

def text : Base → List Char
  | .grain count => count.text
  | .date day => Timestamp.dateText day
  | .dateTime day clock => Timestamp.dateText day ++ ' ' :: clock.text
  | .now => ['n', 'o', 'w']
  | .latest => ['l', 'a', 't', 'e', 's', 't']
  | .earliest => ['e', 'a', 'r', 'l', 'i', 'e', 's', 't']

end Base

namespace Anchor

def text (anchor : Anchor) : List Char :=
  anchor.base.text ++ (anchor.move?.elim [] Grain.signedText)
    ++ anchor.truncation?.elim [] fun unit => ['/', unit.letter]

end Anchor

namespace Rounding

def text : Rounding → List Char
  | .running grain => grain.text
  | .complete grain => '|' :: grain.text ++ ['|']

end Rounding

namespace Viewpoint

def text (viewpoint : Viewpoint) : List Char :=
  viewpoint.asOf?.elim [] Anchor.text
    ++ viewpoint.zone?.elim [] fun zone => '\x7b' :: zone.name.toList ++ ['\x7d']

end Viewpoint

namespace Expression

def text (expression : Expression) : List Char :=
  expression.start.text ++ ',' :: expression.stop.text
    ++ (expression.rounding?.elim [] fun rounding => ':' :: rounding.text)
    ++ expression.viewpoint?.elim [] fun viewpoint => '@' :: viewpoint.text

def canonical (expression : Expression) : String :=
  String.ofList expression.text

end Expression

end TimeRange
