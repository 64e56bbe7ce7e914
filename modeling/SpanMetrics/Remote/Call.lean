import SpanMetrics.Remote.Source
import SpanMetrics.Span.Operation

/-!
# SpanMetrics.Remote.Call — the remote side of a call

What the deciding source says, overruled by the name that a user gives to the peer. What is still
unknown is made up from the host and the port of the peer, and from the method and the route of the
request.
-/

namespace SpanMetrics.Remote

variable [Runtime]

/-- A host, perhaps with a port. -/
def withPort (host : String) (port : Option String) : String :=
  match port with
  | some port => host ++ ":" ++ port
  | none => host

/-- The host and the port of the URL of the request. -/
def urlService (s : Span) : Logged (Option String) := do
  let url? ← s.requestUrl
  pure (url?.bind fun url =>
    if url.hostname = "" then none else some (withPort url.hostname url.portText?))

/-- The service that answers a call which no source names. -/
def peerService (s : Span) : Logged String :=
  if s.has Key.netPeerName then
    pure (withPort (serviceAt s Key.netPeerName) (s.text? Key.netPeerPort))
  else if s.has Key.netSockPeerAddr then
    pure (withPort (serviceAt s Key.netSockPeerAddr) (s.text? Key.netSockPeerPort))
  else do
    let service? ← urlService s
    if service?.isNone then
      s.noValue Key.remoteService
    pure (service?.getD unknownService)

/-- The method and the route of the URL of the request. -/
def urlOperation (s : Span) : Logged (Option String) := do
  let url? ← s.requestUrl
  pure (url?.map fun url =>
    let route := Route.ofTarget url.pathname
    match s.httpMethod? with
    | some method => method ++ " " ++ route
    | none => route)

/-- The operation of a call which no source names. -/
def requestOperation (s : Span) : Logged String := do
  let operation? ← urlOperation s
  if operation?.isNone then
    s.noValue Key.remoteOperation
  pure (operation?.getD unknownOperation)

/-- The remote side as attributes name it: a name for the peer overrules every source but the one a
user sets by hand. -/
def namedCall (s : Span) : Call :=
  let call := sourcedCall s
  if s.has Key.peerService && !s.has Key.remoteService then
    { call with service := serviceAt s Key.peerService }
  else call

/-- The remote side of the call. -/
def call (s : Span) : Logged Call := do
  let named := namedCall s
  let service ← if named.service = unknownService then peerService s else pure named.service
  let operation ←
    if named.operation = unknownOperation then requestOperation s else pure named.operation
  pure ⟨service, operation⟩

end SpanMetrics.Remote
