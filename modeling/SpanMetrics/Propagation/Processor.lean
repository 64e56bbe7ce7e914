import SpanMetrics.Propagation.Context
import SpanMetrics.Recording
import SpanMetrics.Span.Operation

/-!
# SpanMetrics.Propagation.Processor — handing data down from span to span

When a span starts, a processor marks whether it is a local root, marks the calls below a call
through an AWS client, copies chosen attributes from an internal parent, notes a consumer below a
consumer, and records the data that its line of spans carries. That data is taken from a local root
that serves no request when it starts, and from a span that serves one when the span below it
starts; any other span hands on what it was given.
-/

namespace SpanMetrics.Propagation

/-- Takes the data to hand down from a span. -/
abbrev Extraction := Span → Logged (Option Value)

/-- The extractions that have names. -/
inductive Extractor where
  /-- The ingress operation. -/
  | ingress
  /-- The name of the span. -/
  | name
  /-- Always the same value. -/
  | constant (value : Value)
  /-- The value under a key. -/
  | valueAt (key : String)
deriving Repr

/-- Takes the data from a span. -/
def Extractor.take [Runtime] : Extractor → Extraction
  | .ingress, s => do
    let operation ← s.ingressOperation
    pure (some (.string operation))
  | .name, s => pure (some (.string s.name))
  | .constant value, _ => pure (some value)
  | .valueAt key, s => pure (s.attributes.get? key)

/-- What is handed down, and under which key. -/
structure Processor where
  extract : Extraction
  /-- The key of the data. -/
  key : String
  /-- The keys of the attributes that are copied from internal parents. -/
  keys : List String

namespace Processor

/-- Records whether the span is a local root: it has no parent in this process. -/
def markRoot (parent : Parent) (s : Span) : Span :=
  s.record Key.isLocalRoot (.bool (s.parentId.isNone || !parent.isLocal))

/-- Marks a span below a call through an AWS client. -/
def markBelowCall (parent s : Span) : Span :=
  if parent.isAwsCall then s.record Key.sdkDescendant (.string "true") else s

/-- Copies one attribute, if the parent has it. -/
def copy (parent : Span) (s : Span) (key : String) : Span :=
  match parent.attributes.get? key with
  | some value => s.record key value
  | none => s

/-- Copies the chosen attributes from an internal parent. -/
def copyKeys (p : Processor) (parent s : Span) : Span :=
  if parent.kind = .internal then p.keys.foldl (copy parent) s else s

/-- Notes a consumer below a consumer. -/
def markPair (parent s : Span) : Span :=
  if s.kind = .consumer ∧ parent.kind = .consumer then
    s.record Key.consumerParentKind (.string Kind.consumer.name)
  else s

/-- What the parent gives to the span besides the data. -/
def inherit (p : Processor) (parent s : Span) : Span :=
  markPair parent (p.copyKeys parent (markBelowCall parent s))

/-- The data that the span is to carry. -/
def data (p : Processor) (parent? : Option Span) (s : Span) : Logged (Option Value) := do
  let root ← s.localRoot
  if root then
    if s.kind = .server then pure none else p.extract s
  else
    match parent? with
    | none => pure none
    | some parent =>
      if parent.kind = .server then p.extract parent else pure (parent.attributes.get? p.key)

/-- The span as it is after its start. -/
def onStart (p : Processor) (parent : Parent) (s : Span) : Logged Span := do
  let marked := markRoot parent s
  let given := (parent.span?.map (p.inherit · marked)).getD marked
  let data? ← p.data parent.span? given
  pure ((data?.map (given.record p.key)).getD given)

end Processor

end SpanMetrics.Propagation
