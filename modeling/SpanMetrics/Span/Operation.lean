import SpanMetrics.Route
import SpanMetrics.Span.Class
import SpanMetrics.Url.Basic

/-!
# SpanMetrics.Span.Operation — operations of the service

The operation under which a span enters the service (ingress), and the operation on whose behalf it
leaves it (egress). The name of a span is its operation unless the name says nothing; then the HTTP
method and the route stand in.
-/

namespace SpanMetrics.Span

/-- The operation of a span that nothing names. -/
def unknownOperation : String := "UnknownOperation"

/-- The operation of a local root that serves no request. -/
def internalOperation : String := "InternalOperation"

/-! ## HTTP attributes -/

/-- The method of a request. -/
def httpMethod? (s : Span) : Option String :=
  s.attributes.firstText? [Key.httpMethod, Key.httpRequestMethod]

/-- The URL of a request. -/
def httpUrl? (s : Span) : Option String :=
  s.attributes.firstText? [Key.httpUrl, Key.urlFull]

/-- The target of a request, as a path. -/
def httpTarget? (s : Span) : Option String :=
  s.attributes.firstText? [Key.httpTarget, Key.urlPath]

/-- The URL of a request, parsed, if it has one; with a notice if it does not parse. -/
def requestUrl [Runtime] (s : Span) : Logged (Option Url) :=
  match s.httpUrl? with
  | none => pure none
  | some text =>
    match Url.parse? text with
    | some url => pure (some url)
    | none => do
      Logged.note (.malformedUrl text)
      pure none

/-! ## Ingress -/

/-- The name of the span is a name for its operation. -/
def isNamed (s : Span) : Bool :=
  s.name != "" && s.name != unknownOperation && s.httpMethod? != some s.name

/-- The path of a request: its target, or the path of its URL. -/
def requestPath [Runtime] (s : Span) : Logged (Option String) :=
  match s.httpTarget? with
  | some target => pure (some target)
  | none => do
    let url? ← s.requestUrl
    pure (url?.map Url.pathname)

/-- The method and the route of a request, if both are known. -/
def requestOperation [Runtime] (s : Span) : Logged (Option String) :=
  match s.httpMethod? with
  | none => pure none
  | some method => do
    let path? ← s.requestPath
    pure (path?.map fun path => method ++ " " ++ Route.ofTarget path)

/-- The operation under which the span enters the service. -/
def ingressOperation [Runtime] (s : Span) : Logged String := do
  if ← s.internalRoot then
    pure internalOperation
  else if s.isNamed then
    pure s.name
  else
    match ← s.requestOperation with
    | some operation => pure operation
    | none => do
      let root ← s.localRoot
      pure (if root then internalOperation else unknownOperation)

/-! ## Egress -/

/-- The operation on whose behalf the span leaves the service: what was handed down to it. -/
def egressOperation? (s : Span) : Option String :=
  if s.isInternalRoot then some internalOperation else s.text? Key.localOperation

/-- The question on whose behalf the span leaves the service. -/
def egressOperation (s : Span) : Logged (Option String) := do
  let internal ← s.internalRoot
  pure (if internal then some internalOperation else s.text? Key.localOperation)

@[simp] theorem value_egressOperation (s : Span) :
    s.egressOperation.value = s.egressOperation? := rfl

end SpanMetrics.Span
