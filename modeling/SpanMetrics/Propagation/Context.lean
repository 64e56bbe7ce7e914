import SpanMetrics.Span.Basic

/-!
# SpanMetrics.Propagation.Context — parent contexts

A span is started under another span of the same process, under a bare context that stands for a
span elsewhere, or under nothing.
-/

namespace SpanMetrics

/-- What is known of a span elsewhere. -/
structure SpanContext where
  traceId : String
  spanId : String
  /-- The span belongs to another process. -/
  isRemote : Bool
deriving DecidableEq, Repr

namespace SpanContext

/-- The text is a number of hexadecimal digits of which not all are zero. -/
def isId (length : Nat) (s : String) : Bool :=
  let cs := s.toList
  cs.length == length
    && cs.all (fun c => c.isDigit || ('a' ≤ c && c ≤ 'f') || ('A' ≤ c && c ≤ 'F'))
    && cs.any (· != '0')

/-- Both ids are such as spans have. -/
def isValid (c : SpanContext) : Bool :=
  isId 32 c.traceId && isId 16 c.spanId

end SpanContext

/-- What a span is started under. -/
inductive Parent where
  | none
  | context (c : SpanContext)
  | span (s : Span)

namespace Parent

/-- The parent is a span, or a valid context, of the same process. -/
def isLocal : Parent → Bool
  | .none => false
  | .context c => c.isValid && !c.isRemote
  | .span _ => true

/-- The id that a span started under the parent records for it. -/
def id? : Parent → Option String
  | .none => Option.none
  | .context c => if c.isValid then some c.spanId else Option.none
  | .span s => some s.id

/-- The parent, if it is a span. -/
def span? : Parent → Option Span
  | .span s => some s
  | _ => Option.none

end Parent

end SpanMetrics
