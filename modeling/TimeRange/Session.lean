import TimeRange.Expression.Printer
import TimeRange.Expression.Reading
import TimeRange.Resolution.Resolve

/-!
# Sessions

A session holds a context, an expression once one has been read, and the range
to which one was last resolved. Each step changes one of them, or resolves the
expression, and has an answer. A step that fails leaves the session as it was.
-/

namespace TimeRange

open Calendar

structure Session where
  context : Context
  expression? : Option Expression
  range? : Option Range
  deriving DecidableEq, Repr

inductive Bound where
  | start
  | stop
  deriving DecidableEq, Repr

def Range.bound (range : Range) : Bound → Instant
  | .start => range.start
  | .stop => range.stop

inductive Step where
  /-- Replace the context. -/
  | setContext (context : Context)
  | setNow (now : Instant)
  /-- Make a bound of the last range the present. -/
  | setNowFrom (bound : Bound)
  | setEarliest (earliest : Instant)
  | setLatest (latest : Instant)
  /-- Set the first weekday as it is given. -/
  | setFirstDay (day : Nat)
  | setFirstMonth (month : Nat)
  /-- Set the first weekday, or Monday if the number is no weekday. -/
  | chooseFirstDay (day : Nat)
  | chooseFirstMonth (month : Nat)
  /-- Read an expression in any notation. -/
  | read (text : String)
  /-- Read an expression in one of the older notations. -/
  | readOlder (text : String) (strict : Bool)
  /-- Replace the expression by what its canonical text is read as. -/
  | canonicalize
  | resolve
  deriving DecidableEq, Repr

inductive Answer where
  /-- The context after the step. -/
  | context (context : Context)
  /-- The expression after the step. -/
  | expression (expression : Expression)
  /-- That the text is in none of the older notations. -/
  | notOlder
  /-- The canonical expression, and whether it is the one there was before. -/
  | canonical (expression : Expression) (same : Bool)
  /-- The range, on the clocks of a zone. -/
  | range (zone : NamedZone) (range : Range)
  deriving DecidableEq, Repr

inductive StepError where
  | read (error : ReadError)
  | resolve (error : ResolveError)
  | noExpression
  | noRange
  deriving DecidableEq, Repr

def StepError.message : StepError → String
  | .read error => error.message
  | .resolve error => error.message
  | .noExpression => "no expression"
  | .noRange => "no range"

namespace Session

def initial : Session :=
  ⟨.blank, none, none⟩

def withContext (session : Session) (context : Context) : Session × Answer :=
  ({ session with context := context }, .context context)

def withConvention (session : Session) (convention : Convention) : Session × Answer :=
  session.withContext { session.context with convention := convention }

def withExpression (session : Session) (expression : Expression) : Session :=
  { session with expression? := some expression }

def currentExpression (session : Session) : Except StepError Expression :=
  match session.expression? with
  | some expression => .ok expression
  | none => .error .noExpression

def step (session : Session) : Step → Except StepError (Session × Answer)
  | .setContext context => .ok (session.withContext context)
  | .setNow now => .ok (session.withContext { session.context with now := now })
  | .setNowFrom bound =>
      match session.range? with
      | some range => .ok (session.withContext { session.context with now := range.bound bound })
      | none => .error .noRange
  | .setEarliest earliest => .ok (session.withContext (session.context.withEarliest earliest))
  | .setLatest latest => .ok (session.withContext (session.context.withLatest latest))
  | .setFirstDay day =>
      .ok (session.withConvention { session.context.convention with firstDayOfWeek := day })
  | .setFirstMonth month =>
      .ok (session.withConvention { session.context.convention with firstMonthOfYear := month })
  | .chooseFirstDay day => .ok (session.withContext (session.context.withFirstDayOfWeek day))
  | .chooseFirstMonth month =>
      .ok (session.withContext (session.context.withFirstMonthOfYear month))
  | .read text => do
      let expression ← (Expression.parse text).mapError StepError.read
      return (session.withExpression expression, .expression expression)
  | .readOlder text strict => do
      match ← (Expression.parseOlder? text strict).mapError StepError.read with
      | some expression => return (session.withExpression expression, .expression expression)
      | none => return (session, .notOlder)
  | .canonicalize => do
      let expression ← session.currentExpression
      let canonical ← (Expression.parse expression.canonical).mapError StepError.read
      return (session.withExpression canonical, .canonical canonical (canonical == expression))
  | .resolve => do
      let expression ← session.currentExpression
      let range ← (expression.resolve session.context).mapError StepError.resolve
      return ({ session with range? := some range }, .range expression.zone range)

/-- Takes a step, or stays where it is if the step fails. -/
def next (session : Session) (action : Step) : Session × Except StepError Answer :=
  match session.step action with
  | .ok (session, answer) => (session, .ok answer)
  | .error error => (session, .error error)

def run (session : Session) : List Step → List (Except StepError Answer)
  | [] => []
  | action :: later =>
      let (session, answer) := session.next action
      answer :: run session later

theorem length_run (session : Session) (steps : List Step) :
    (session.run steps).length = steps.length := by
  induction steps generalizing session with
  | nil => rfl
  | cons action later ih => exact congrArg (· + 1) (ih _)

end Session

end TimeRange
