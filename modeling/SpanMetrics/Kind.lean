/-!
# SpanMetrics.Kind — span kinds
-/

namespace SpanMetrics

/-- The role of a span in the exchange it belongs to. -/
inductive Kind where
  | internal
  | server
  | client
  | producer
  | consumer
deriving DecidableEq, Repr, Inhabited

namespace Kind

/-- The kind in capitals, as metrics and notices show it. -/
def name : Kind → String
  | .internal => "INTERNAL"
  | .server => "SERVER"
  | .client => "CLIENT"
  | .producer => "PRODUCER"
  | .consumer => "CONSUMER"

/-- Every kind. -/
def all : List Kind :=
  [.internal, .server, .client, .producer, .consumer]

/-- The kind with a name. -/
def ofName? (s : String) : Option Kind :=
  all.find? (·.name == s)

end Kind

end SpanMetrics
