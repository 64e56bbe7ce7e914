import SpanMetrics.Metric.Basic
import SpanMetrics.Propagation.Builder
import SpanMetrics.Span.Classification

/-!
# SpanMetrics.Tracer.Basic — a tracer with a propagating processor

A tracer starts spans, and its processor hands data down to them as they start. Spans can be changed
until they end, and be read and measured at any time. Another processor takes over for the spans
that start after it. A processor that is installed with a list of keys goes on reading that list while
keys are added to it; one that comes from a builder does not.
-/

namespace SpanMetrics

/-- A span of a tracer. -/
structure LiveSpan where
  span : Span
  /-- The span has ended and does not change any more. -/
  ended : Bool

/-- The state of a tracer. -/
structure Tracer where
  /-- The name of the instrumentation scope of its spans. -/
  scope : String
  /-- The spans by handle, the last started first. -/
  spans : List (String × LiveSpan)
  /-- The number of spans started. -/
  started : Nat
  /-- The processor for spans to come. -/
  processor : Propagation.Processor
  /-- The processor reads the list of keys that was handed over last. -/
  sharesKeys : Bool
  /-- The list of keys that was handed over last. -/
  handedKeys : List String
  builder : Option Propagation.Builder
  /-- The configured environment of invoked functions. -/
  environment : Option String

/-- What a new span is started under. -/
inductive ParentRef where
  | none
  | span (handle : String)
  | context (c : SpanContext)

/-- What is given for a new span. -/
structure Start where
  handle : String
  name : String
  kind : Kind
  attributes : List (String × Value)
  parent : ParentRef
  /-- The parent is disregarded. -/
  detached : Bool

namespace Tracer

/-- A tracer without spans, whose processor has the default settings. -/
def new [Runtime] (scope : String) : Tracer where
  scope
  spans := []
  started := 0
  processor := .default
  sharesKeys := false
  handedKeys := []
  builder := none
  environment := none

/-- The span with a handle. -/
def find? (t : Tracer) (handle : String) : Option LiveSpan :=
  t.spans.lookup handle

/-- The id of the span that is started as the `n`-th. -/
def spanId (n : Nat) : String :=
  let digits := Nat.toDigits 16 n
  .ofList (List.replicate (16 - digits.length) '0' ++ digits)

/-- What a new span is started under, if the handle of its parent is known. -/
def parent? (t : Tracer) (start : Start) : Option Parent :=
  if start.detached then some .none
  else
    match start.parent with
    | .none => some .none
    | .context c => some (.context c)
    | .span handle => (t.find? handle).map fun live => .span live.span

/-- The new span before the processor sees it. -/
def fresh (t : Tracer) (start : Start) (parent : Parent) : Span where
  id := spanId (t.started + 1)
  name := start.name
  kind := start.kind
  parentId := parent.id?
  attributes := Attributes.empty.recordAll start.attributes
  scope := some t.scope

/-- The new span as it is after its start. -/
def startSpan (t : Tracer) (start : Start) (parent : Parent) : Logged Span :=
  t.processor.onStart parent (t.fresh start parent)

/-- The tracer with a new span. -/
def add (t : Tracer) (handle : String) (s : Span) : Tracer :=
  { t with spans := (handle, ⟨s, false⟩) :: t.spans, started := t.started + 1 }

/-- The spans with one of them changed. -/
def updateSpans (change : LiveSpan → LiveSpan) (handle : String) :
    List (String × LiveSpan) → List (String × LiveSpan)
  | [] => []
  | e :: es =>
    if e.1 = handle then (e.1, change e.2) :: es else e :: updateSpans change handle es

/-- The tracer with one span changed. -/
def update (t : Tracer) (handle : String) (change : LiveSpan → LiveSpan) : Tracer :=
  { t with spans := updateSpans change handle t.spans }

end Tracer

namespace LiveSpan

/-- Changes the span, unless it has ended. -/
def change (f : Span → Span) (live : LiveSpan) : LiveSpan :=
  if live.ended then live else { live with span := f live.span }

/-- Ends the span. -/
def finish (live : LiveSpan) : LiveSpan :=
  { live with ended := true }

end LiveSpan

end SpanMetrics
