/-!
# SpanMetrics.Route — the first segment of a request target

A target such as `/payment/1234?id=1` is reported as `/payment`, which keeps the number of different
operations small.
-/

namespace SpanMetrics.Route

/-- A segment ends at a slash, at the query and at the fragment. -/
def endsSegment (c : Char) : Bool :=
  c == '/' || c == '?' || c == '#'

/-- The text between the first and the second end of a segment, if there is a first one. -/
def segment? (target : String) : Option String :=
  match target.toList.splitOnP endsSegment with
  | _ :: segment :: _ => some (.ofList segment)
  | _ => none

/-- The route of a request target. -/
def ofTarget (target : String) : String :=
  "/" ++ (segment? target).getD ""

/-- The route of a request target that may be unknown. -/
def ofTarget? (target : Option String) : String :=
  ofTarget (target.getD "")

end SpanMetrics.Route
