import SpanMetrics.Metric.Dependency

/-!
# SpanMetrics.Metric.Basic — metrics of a span

A span gives rise to a service metric, a dependency metric, both or none.
-/

namespace SpanMetrics

/-- The metrics of a span. -/
structure Metrics where
  service : Option Metric.ServiceMetric
  dependency : Option Metric.DependencyMetric

namespace Metrics

/-- The name of the type of service metrics. -/
def serviceType : String := "Service"

/-- The name of the type of dependency metrics. -/
def dependencyType : String := "Dependency"

/-- The answer to a question that is asked only under a condition. -/
def onlyIf {α : Type} (condition : Bool) (question : Logged α) : Logged (Option α) :=
  if condition then some <$> question else pure none

/-- The metrics of a span, given the configured environment of invoked functions and the resource
that the span belongs to. -/
def ofSpan [Runtime] (configured : Option String) (resource : Attributes) (s : Span) :
    Logged Metrics := do
  let service ← onlyIf (← s.serviceDescribed) (Metric.ServiceMetric.ofSpan resource s)
  let dependency ←
    onlyIf (← s.dependencyDescribed) (Metric.DependencyMetric.ofSpan configured resource s)
  pure ⟨service, dependency⟩

/-- The metrics by type, each as a set of attributes. -/
def toList (m : Metrics) : List (String × List (String × Value)) :=
  (m.service.map fun s => (serviceType, s.toList)).toList
    ++ (m.dependency.map fun d => (dependencyType, d.toList)).toList

end Metrics

end SpanMetrics
