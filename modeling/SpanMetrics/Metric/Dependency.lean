import SpanMetrics.Environment
import SpanMetrics.Metric.Service
import SpanMetrics.Remote.Owner
import SpanMetrics.Remote.Resource

/-!
# SpanMetrics.Metric.Dependency — calls that leave the service
-/

namespace SpanMetrics.Metric

/-- A resource with its owner, if that is known. -/
structure OwnedResource where
  resource : Remote.Resource
  owner : Option Remote.Owner
deriving DecidableEq, Repr

namespace OwnedResource

/-- The attributes of an owner. -/
def ownerList : Remote.Owner → List (String × Value)
  | .account id region =>
    [(Key.resourceAccountId, .string id), (Key.resourceRegion, .string region)]
  | .accessKey key region =>
    [(Key.resourceAccessKey, .string key), (Key.resourceRegion, .string region)]

/-- The resource as attributes. -/
def toList (r : OwnedResource) : List (String × Value) :=
  [(Key.resourceType, .string r.resource.type),
   (Key.resourceIdentifier, .string r.resource.identifier),
   (Key.primaryIdentifier, .string r.resource.primaryIdentifier)]
    ++ (r.owner.map ownerList).getD []

end OwnedResource

/-- The attributes of a dependency metric. -/
structure DependencyMetric where
  service : Value
  /-- The operation on whose behalf the call was made. -/
  operation : String
  /-- The environment of an invoked function. -/
  environment : Option String
  call : Remote.Call
  resource : Option OwnedResource
  kind : Kind
  /-- The user of a database call. -/
  dbUser : Option Value

namespace DependencyMetric

/-- The operation on whose behalf the span leaves the service, with a notice if nothing was handed
down to it. -/
def callerOperation (s : Span) : Logged String := do
  match ← s.egressOperation with
  | some operation => pure operation
  | none => do
    s.noValue Key.localOperation
    pure Span.unknownOperation

/-- The metric of a span. -/
def ofSpan [Runtime] (configured : Option String) (resource : Attributes) (s : Span) :
    Logged DependencyMetric := do
  let service ← Metric.service resource s
  let operation ← callerOperation s
  let call ← Remote.call s
  let resource? ← Remote.resource s
  pure {
    service
    operation
    environment := if s.isInvocation then some (Environment.ofFunctions configured) else none
    call
    resource := resource?.map fun r => ⟨r, Remote.Owner.ofSpan? s⟩
    kind := s.kind
    dbUser := if s.isDbCall then s.attributes.get? Key.dbUser else none }

/-- The metric as a set of attributes. -/
def toList (m : DependencyMetric) : List (String × Value) :=
  [(Key.localService, m.service),
   (Key.localOperation, .string m.operation),
   (Key.remoteService, .string m.call.service),
   (Key.remoteOperation, .string m.call.operation),
   (Key.spanKind, .string m.kind.name)]
    ++ (m.environment.map fun e => (Key.remoteEnvironment, Value.string e)).toList
    ++ (m.resource.map OwnedResource.toList).getD []
    ++ (m.dbUser.map fun user => (Key.remoteDbUser, user)).toList

end DependencyMetric

end SpanMetrics.Metric
