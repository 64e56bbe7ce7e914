import SpanMetrics.Proofs.Tracer.Parentage

/-!
# SpanMetrics.Proofs.Metric.Measure — metrics of the spans of a run

* `Metrics.service_eq_some_iff`, `Metrics.dependency_eq_some_iff` — which metrics a span has.
* `ServiceMetric.get?`, `DependencyMetric.get?` — metrics as maps from keys to values.
* `Birth.Measures` — what the tracer answers when a span of a run is measured.
-/

namespace SpanMetrics

namespace Metrics

variable (configured : Option String) (resource : Attributes) (s : Span)

theorem value_onlyIf {α : Type} (condition : Bool) (question : Logged α) :
    (onlyIf condition question).value = if condition then some question.value else none := by
  cases condition <;> rfl

variable [Runtime]

theorem value_service :
    (ofSpan configured resource s).value.service =
      if s.describesService then some (Metric.ServiceMetric.ofSpan resource s).value else none :=
  value_onlyIf _ _

theorem value_dependency :
    (ofSpan configured resource s).value.dependency =
      if s.describesDependency then
        some (Metric.DependencyMetric.ofSpan configured resource s).value
      else none := by
  rw [← Span.value_dependencyDescribed]
  exact value_onlyIf _ _

theorem isSome_service :
    (ofSpan configured resource s).value.service.isSome = s.describesService := by
  rw [value_service]
  cases s.describesService <;> rfl

theorem isSome_dependency :
    (ofSpan configured resource s).value.dependency.isSome = s.describesDependency := by
  rw [value_dependency]
  cases s.describesDependency <;> rfl

variable {configured resource s}

/-- The service metric of a span, where it has one. -/
theorem service_eq_some_iff {m : Metric.ServiceMetric} :
    (ofSpan configured resource s).value.service = some m ↔
      s.describesService = true ∧ (Metric.ServiceMetric.ofSpan resource s).value = m := by
  rw [value_service]
  cases s.describesService <;> simp

/-- The dependency metric of a span, where it has one. -/
theorem dependency_eq_some_iff {m : Metric.DependencyMetric} :
    (ofSpan configured resource s).value.dependency = some m ↔
      s.describesDependency = true ∧
        (Metric.DependencyMetric.ofSpan configured resource s).value = m := by
  rw [value_dependency]
  cases s.describesDependency <;> simp

end Metrics

namespace Metric

/-- The value that a service metric has under a key. -/
def ServiceMetric.get? (m : ServiceMetric) (key : String) : Option Value :=
  m.toList.lookup key

/-- The value that a dependency metric has under a key. -/
def DependencyMetric.get? (m : DependencyMetric) (key : String) : Option Value :=
  m.toList.lookup key

theorem ServiceMetric.get?_localOperation (m : ServiceMetric) :
    m.get? Key.localOperation = some (.string m.operation) := rfl

theorem ServiceMetric.get?_spanKind (m : ServiceMetric) :
    m.get? Key.spanKind = some (.string m.kind) := rfl

theorem DependencyMetric.get?_localOperation (m : DependencyMetric) :
    m.get? Key.localOperation = some (.string m.operation) := rfl

theorem DependencyMetric.get?_remoteService (m : DependencyMetric) :
    m.get? Key.remoteService = some (.string m.call.service) := rfl

theorem DependencyMetric.get?_remoteOperation (m : DependencyMetric) :
    m.get? Key.remoteOperation = some (.string m.call.operation) := rfl

variable (configured : Option String) (resource : Attributes) (s : Span)

theorem ServiceMetric.value_ofSpan [Runtime] :
    (ServiceMetric.ofSpan resource s).value =
      ⟨(Metric.service resource s).value, s.ingressOperation.value,
        if s.isLocalRoot then localRootKind else s.kind.name⟩ := by
  unfold ServiceMetric.ofSpan
  simp only [Logged.value_bind]
  split <;> rfl

theorem DependencyMetric.value_callerOperation :
    (callerOperation s).value = s.egressOperation?.getD Span.unknownOperation := by
  rw [← Span.value_egressOperation, callerOperation, Logged.value_bind]
  cases s.egressOperation.value <;> rfl

theorem DependencyMetric.operation_ofSpan [Runtime] :
    (DependencyMetric.ofSpan configured resource s).value.operation =
      s.egressOperation?.getD Span.unknownOperation :=
  value_callerOperation s

theorem DependencyMetric.call_ofSpan [Runtime] :
    (DependencyMetric.ofSpan configured resource s).value.call = (Remote.call s).value := rfl

theorem DependencyMetric.environment_ofSpan [Runtime] :
    (DependencyMetric.ofSpan configured resource s).value.environment =
      if s.isInvocation then some (Environment.ofFunctions configured) else none := rfl

theorem DependencyMetric.resource_ofSpan [Runtime] :
    (DependencyMetric.ofSpan configured resource s).value.resource =
      (Remote.resource s).value.map fun r => ⟨r, Remote.Owner.ofSpan? s⟩ := rfl

theorem DependencyMetric.dbUser_ofSpan [Runtime] :
    (DependencyMetric.ofSpan configured resource s).value.dbUser =
      if s.isDbCall then s.attributes.get? Key.dbUser else none := rfl

end Metric

namespace Run.Birth

variable [Runtime] {r : Run}

/-- Measured after the first `n` steps, the span has the metrics. -/
def Measures (b : Birth r) (n : Nat) (resource : Attributes) (m : Metrics) : Prop :=
  ((r.after n).step (.measure b.start.handle resource)).2.value = .metrics m

theorem measures_of_span? {b : Birth r} {n : Nat} {s : Span} (hs : b.span? n = some s)
    (resource : Attributes) :
    b.Measures n resource (Metrics.ofSpan (r.after n).environment resource s).value := by
  rcases Option.map_eq_some_iff.1 hs with ⟨live, hlive, rfl⟩
  unfold live? at hlive
  simp [Measures, Tracer.step, Tracer.ask, hlive]

/-- A span has one answer at a time. -/
theorem Measures.eq {b : Birth r} {n : Nat} {s : Span} {resource : Attributes} {m : Metrics}
    (hm : b.Measures n resource m) (hs : b.span? n = some s) :
    m = (Metrics.ofSpan (r.after n).environment resource s).value :=
  Answer.metrics.inj (hm.symm.trans (measures_of_span? hs resource))

end Run.Birth

end SpanMetrics
