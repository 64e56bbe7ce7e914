import SpanMetrics.Key
import SpanMetrics.Notice
import SpanMetrics.Span.Basic
import SpanMetrics.Text.Case

/-!
# SpanMetrics.Span.Class — classes of spans

What a span stands for: a call through an AWS client, a database call, the work of a consumer, the
place where a trace enters the service; and which metrics it gives rise to.
-/

namespace SpanMetrics.Span

/-- A notice that the span gives no value for a metric attribute. -/
def noValue (s : Span) (key : String) : Logged Unit :=
  Logged.note (.noValue key s.kind s.id)

/-! ## Calls -/

/-- The span is a call through an AWS client. Older instrumentation records the service alone. -/
def isAwsCall (s : Span) : Bool :=
  if s.has Key.rpcSystem then s.holds Key.rpcSystem "aws-api" else s.has Key.awsService

/-- The span is a database call. -/
def isDbCall (s : Span) : Bool :=
  s.has Key.dbSystem || s.has Key.dbOperation || s.has Key.dbStatement

/-- The span invokes a function, which counts as a call to another service. -/
def isInvocation (s : Span) : Bool :=
  s.isAwsCall && s.holds Key.rpcService "Lambda" && s.holds Key.rpcMethod "Invoke"

/-! ## Local roots -/

/-- The flag that tells whether the span is a local root, if it carries one. -/
def localRootFlag? (s : Span) : Option Bool :=
  match s.attributes.get? Key.isLocalRoot with
  | some (.bool b) => some b
  | _ => none

/-- The span is where a trace enters the service: the flag says so, or there is no flag and no
parent. -/
def isLocalRoot (s : Span) : Bool :=
  s.localRootFlag?.getD s.parentId.isNone

/-- The question whether the span is a local root, with a notice each time that no flag answers it. -/
def localRoot (s : Span) : Logged Bool :=
  ⟨s.isLocalRoot, if s.localRootFlag?.isNone then [.noLocalRootFlag] else []⟩

@[simp] theorem value_localRoot (s : Span) : s.localRoot.value = s.isLocalRoot := rfl

/-- The operation of the span is internal to the service: it is a local root that serves no
request. -/
def isInternalRoot (s : Span) : Bool :=
  s.isLocalRoot && s.kind != .server

/-- The question whether the operation of the span is internal. -/
def internalRoot (s : Span) : Logged Bool := do
  let root ← s.localRoot
  pure (root && s.kind != .server)

@[simp] theorem value_internalRoot (s : Span) : s.internalRoot.value = s.isInternalRoot := rfl

/-! ## Consumers -/

/-- The span is a consumer that processes a message. -/
def isConsumerProcess (s : Span) : Bool :=
  s.kind == .consumer && s.holds Key.messagingOperation "process"

/-- The name of a span that polls a queue. -/
def pollName : String := "Sqs.ReceiveMessage"

/-- What the names of scopes that instrument the AWS client start with. -/
def clientScope : String := "@opentelemetry/instrumentation-aws-sdk"

/-- The span is a consumer that an instrumented AWS client starts for a poll of a queue. -/
def isQueuePoll (s : Span) : Bool :=
  Text.lower s.name.toList == Text.lower pollName.toList
    && s.kind == .consumer
    && s.scope.any (clientScope.toList.isPrefixOf ·.toList)
    && (!s.has Key.messagingOperation || s.holds Key.messagingOperation "process")

/-- The span is a consumer that stands for a dependency. A consumer that processes a message below
another consumer belongs to a pair whose other span stands for it already. -/
def isDependencyConsumer (s : Span) : Bool :=
  s.kind == .consumer
    && (!s.isConsumerProcess || s.isLocalRoot
      || !s.holds Key.consumerParentKind Kind.consumer.name)

/-- The question whether the span is such a consumer. Local roots matter only if it processes a
message. -/
def dependencyConsumer (s : Span) : Logged Bool :=
  if s.isConsumerProcess then do
    let root ← s.localRoot
    pure (root || !s.holds Key.consumerParentKind Kind.consumer.name)
  else pure (s.kind == .consumer)

@[simp] theorem value_dependencyConsumer (s : Span) :
    s.dependencyConsumer.value = s.isDependencyConsumer := by
  unfold dependencyConsumer isDependencyConsumer
  cases hprocess : s.isConsumerProcess with
  | false => simp
  | true =>
    have hkind : (s.kind == .consumer) = true := by
      rw [isConsumerProcess, Bool.and_eq_true] at hprocess
      exact hprocess.1
    simp [hkind]

/-! ## Metrics -/

/-- The span gives rise to a metric of the service. -/
def describesService (s : Span) : Bool :=
  (s.isLocalRoot && !s.isQueuePoll) || s.kind == .server

/-- The question whether the span gives rise to a metric of the service. -/
def serviceDescribed (s : Span) : Logged Bool := do
  let root ← s.localRoot
  pure ((root && !s.isQueuePoll) || s.kind == .server)

@[simp] theorem value_serviceDescribed (s : Span) :
    s.serviceDescribed.value = s.describesService := rfl

/-- The span gives rise to a metric of a dependency. -/
def describesDependency (s : Span) : Bool :=
  s.kind == .client || s.kind == .producer || (s.isDependencyConsumer && !s.isQueuePoll)

/-- The question whether the span gives rise to a metric of a dependency. -/
def dependencyDescribed (s : Span) : Logged Bool :=
  if s.kind = .client ∨ s.kind = .producer then pure true
  else do
    let consumer ← s.dependencyConsumer
    pure (consumer && !s.isQueuePoll)

@[simp] theorem value_dependencyDescribed (s : Span) :
    s.dependencyDescribed.value = s.describesDependency := by
  unfold dependencyDescribed describesDependency
  cases s.kind <;> simp

end SpanMetrics.Span
