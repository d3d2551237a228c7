import SeriesQuery.Text.Quoted
import SeriesQuery.Query.Basic

/-!
PromQL expressions and their text.
-/

set_option autoImplicit false

namespace SeriesQuery.Prometheus

structure Matcher where
  label : String
  relation : String
  value : String
  deriving Repr, DecidableEq

def Matcher.text (matcher : Matcher) : String :=
  matcher.label ++ matcher.relation ++ Text.quotedLine matcher.value

structure Selector where
  metric : String
  matchers : List Matcher
  deriving Repr, DecidableEq

def Selector.text (selector : Selector) : String :=
  if selector.matchers.isEmpty then selector.metric
  else selector.metric ++ "\x7b" ++ ",".intercalate (selector.matchers.map Matcher.text) ++ "\x7d"

def rangeText (selector : Selector) (interval : Duration) : String :=
  selector.text ++ "[" ++ interval.text ++ "]"

inductive Expression where
  | selector (selector : Selector)
  /-- A function of the samples in an interval. -/
  | overTime (function : String) (parameter? : Option String) (selector : Selector)
      (interval : Duration)
  /-- The distance between the largest and the smallest sample in an interval. -/
  | spreadOverTime (selector : Selector) (interval : Duration)
  /-- A function of several series, one result for each group of labels. -/
  | across (function : String) (labels : List String) (parameter? : Option String)
      (inner : Expression)
  | compare (inner : Expression) (operator : String) (value : String)
  | limit (function : String) (count : UInt64) (inner : Expression)
  /-- An expression, inserted as it stands. -/
  | verbatim (text : String)
  deriving DecidableEq

def parameterText (parameter? : Option String) : String :=
  (parameter?.map (· ++ ", ")).getD ""

def groupText (labels : List String) : String :=
  if labels.isEmpty then "" else " by (" ++ ", ".intercalate labels ++ ") "

def Expression.text : Expression → String
  | .selector chosen => chosen.text
  | .overTime function parameter? samples interval =>
    function ++ "(" ++ parameterText parameter? ++ rangeText samples interval ++ ")"
  | .spreadOverTime samples interval =>
    "(max_over_time(" ++ rangeText samples interval ++ ") - min_over_time(" ++
      rangeText samples interval ++ "))"
  | .across function labels parameter? inner =>
    function ++ groupText labels ++ "(" ++ parameterText parameter? ++ inner.text ++ ")"
  | .compare inner operator value => inner.text ++ " " ++ operator ++ " " ++ value
  | .limit function count inner =>
    function ++ "(" ++ toString count.toNat ++ ", " ++ inner.text ++ ")"
  | .verbatim written => written

structure NamedExpression where
  name : String
  expression : Expression
  deriving DecidableEq

structure Compiled where
  expressions : List NamedExpression
  time : TimeWindow
  step : String
  deriving DecidableEq

namespace Compiled

def text (compiled : Compiled) : String :=
  "\n".intercalate (compiled.expressions.map fun named => named.expression.text)

/-- The window as two instants; one that is not absolute ends now. -/
def bounds (compiled : Compiled) (now : Time.Instant) : Time.Instant × Time.Instant :=
  match compiled.time with
  | .unset => ((now.secondsEarlier? 3600).getD .earliest, now)
  | .relative duration => (duration.before now, now)
  | .absolute start finish => (start, finish)

def parameters (compiled : Compiled) (named : NamedExpression) (now : Time.Instant) :
    List (String × String) :=
  let (start, finish) := compiled.bounds now
  [("query", named.expression.text), ("start", toString start.seconds),
    ("end", toString finish.seconds), ("step", compiled.step)]

end Compiled

end SeriesQuery.Prometheus
