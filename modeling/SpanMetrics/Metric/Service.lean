import SpanMetrics.Remote.Call

/-!
# SpanMetrics.Metric.Service — work that enters the service
-/

namespace SpanMetrics.Metric

/-- The service of a resource that does not name it. -/
def unknownService : String := "UnknownService"

/-- The span kind of a local root in a service metric. -/
def localRootKind : String := "LOCAL_ROOT"

/-- The name of the service, with a notice if the resource does not name it. Any value counts as a
name, except the default one. -/
def service [Runtime] (resource : Attributes) (s : Span) : Logged Value :=
  match (resource.get? Key.serviceName).filter (!·.isString Runtime.defaultService) with
  | some name => pure name
  | none => do
    s.noValue Key.localService
    pure (.string unknownService)

/-- The attributes of a service metric. -/
structure ServiceMetric where
  service : Value
  operation : String
  /-- The kind of the span, or the mark of a local root. -/
  kind : String

namespace ServiceMetric

/-- The metric of a span. -/
def ofSpan [Runtime] (resource : Attributes) (s : Span) : Logged ServiceMetric := do
  let service ← Metric.service resource s
  let operation ← s.ingressOperation
  if operation = Span.unknownOperation then
    s.noValue Key.localOperation
  let root ← s.localRoot
  pure ⟨service, operation, if root then localRootKind else s.kind.name⟩

/-- The metric as a set of attributes. -/
def toList (m : ServiceMetric) : List (String × Value) :=
  [(Key.localService, m.service),
   (Key.localOperation, .string m.operation),
   (Key.spanKind, .string m.kind)]

end ServiceMetric

end SpanMetrics.Metric
