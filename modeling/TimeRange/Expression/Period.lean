/-!
# Named periods

Common ranges have names: a period to date, such as `WTD` for the week, and
the previous complete period, such as `PWC`, whose `C` may be left out. A name
stands for an expression of the grammar. The name `PP` is reserved and stands
for none.
-/

namespace TimeRange.Period

def marker : List Char :=
  ['r', 'i', 'l', 'l', '-']

def names : List (String × String) :=
  [("TD", "0d,latest"),
    ("WTD", "0W,latest"),
    ("MTD", "0M,latest"),
    ("QTD", "0Q,latest"),
    ("YTD", "0Y,latest"),
    ("PDC", "-1d,0d"),
    ("PWC", "-1W,0W"),
    ("PMC", "-1M,0M"),
    ("PQC", "-1Q,0Q"),
    ("PYC", "-1Y,0Y"),
    ("PP", ""),
    ("PD", "-1d,0d"),
    ("PW", "-1W,0W"),
    ("PM", "-1M,0M"),
    ("PQ", "-1Q,0Q"),
    ("PY", "-1Y,0Y")]

/-- The expression that a name stands for; the empty one for a reserved name. -/
def expansion? (name : String) : Option String :=
  names.lookup name

def ofText? (text : String) : Option String :=
  if marker.isPrefixOf text.toList then some (String.ofList (text.toList.drop marker.length))
  else none

end TimeRange.Period
