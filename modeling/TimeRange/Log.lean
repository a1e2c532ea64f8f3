import TimeRange.Expression.Printer
import TimeRange.Expression.Reading
import TimeRange.Resolution.Resolve
import TimeRange.Text.Timestamp

/-!
# The log

Reading and resolving an expression are told in events, each with a level, a
message and named fields. The events are a function of what was read and of
what was resolved. A text that cannot be read has none, and an expression that
cannot be resolved has at most the event of its shifted context.
-/

namespace TimeRange

open Calendar Text

inductive Level where
  | trace
  | debug
  | warn
  deriving DecidableEq, Repr

def Level.name : Level → String
  | .trace => "TRACE"
  | .debug => "DEBUG"
  | .warn => "WARN"

structure Event where
  level : Level
  message : String
  fields : List (String × String)
  deriving DecidableEq, Repr

/-- An instant as the log shows it: the date and the time of day in a zone, and the zone's name. -/
def NamedZone.instantText (zone : NamedZone) (instant : Instant) : String :=
  String.ofList (Timestamp.wallText ' ' (zone.wallNanoseconds instant)) ++ " " ++ zone.name

namespace Reading

def sentenceEvent (text : String) : Event :=
  ⟨.debug, "parsed time range", [("text", text)]⟩

def events (text : String) : Reading → List Event
  | .everything => [⟨.debug, "parsed infinite time range", [("text", text)]⟩]
  | .period expansion _ =>
      [⟨.debug, "expanding time range macro", [("text", text), ("expr", expansion)]⟩,
        sentenceEvent expansion]
  | .duration kept compound =>
      (if compound then
        [⟨.warn, "compound ISO 8601 duration only keeps its last component", [("text", text)]⟩]
      else []) ++
        [⟨.debug, "parsed ISO 8601 duration",
          [("text", text), ("grain", String.ofList kept.text)]⟩]
  | .sentence _ => [sentenceEvent text]

end Reading

namespace Expression

def shiftEvent (shifted : Context) : Event :=
  ⟨.trace, "shifted resolver context",
    [("now", NamedZone.utc.instantText shifted.now),
      ("min_time", NamedZone.utc.instantText shifted.earliest),
      ("max_time", NamedZone.utc.instantText shifted.latest)]⟩

def rangeEvent (expression : Expression) (range : Range) : Event :=
  ⟨.debug, "resolved time range",
    [("expr", expression.canonical),
      ("start", expression.zone.instantText range.start),
      ("end", expression.zone.instantText range.stop)]⟩

def events (expression : Expression) (context : Context) : List Event :=
  (if expression.asOf?.isSome then
    (expression.shiftedContext? context).toList.map shiftEvent
  else []) ++ (expression.range? context).toList.map expression.rangeEvent

end Expression

end TimeRange
