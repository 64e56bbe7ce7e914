import SpanMetrics.Attributes
import SpanMetrics.Kind

/-!
# SpanMetrics.Span.Basic — spans
-/

namespace SpanMetrics

/-- A span as it can be read at some moment. -/
structure Span where
  /-- The id, for notices. -/
  id : String
  /-- The name. -/
  name : String
  /-- The kind. -/
  kind : Kind
  /-- The id of the parent; a span may have a parent whose id is the empty text. -/
  parentId : Option String
  /-- The attributes. -/
  attributes : Attributes
  /-- The name of the instrumentation scope, if the span has one. -/
  scope : Option String

namespace Span

/-- The key is present, whatever its value. -/
def has (s : Span) (key : String) : Bool :=
  s.attributes.has key

/-- The key holds the given string. -/
def holds (s : Span) (key : String) (text : String) : Bool :=
  s.attributes.holds key text

/-- The text under a key that holds a string. -/
def string? (s : Span) (key : String) : Option String :=
  s.attributes.string? key

/-- The string form of the value under a key. -/
def text? (s : Span) (key : String) : Option String :=
  s.attributes.text? key

end Span

end SpanMetrics
