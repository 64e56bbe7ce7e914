import SpanMetrics.Span.Basic

/-!
# SpanMetrics.Recording — recording attributes on a span

A span takes an attribute only if the key is not empty and the value is one that it may record, and
no new key once it is full.

* `get?_record_of_ne` — recording an attribute leaves every other key as it is.
* `get?_record_self` — an attribute that is taken is read back.
-/

namespace SpanMetrics

namespace Attributes

/-- The number of keys that a span may carry. -/
def limit : Nat := 128

/-- There is room for the key: it is present, or one more fits. -/
def hasRoom (attributes : Attributes) (key : String) : Bool :=
  attributes.has key || decide (attributes.size < limit)

/-- The attributes with one more recorded, if it is taken. -/
def record (attributes : Attributes) (key : String) (value : Value) : Attributes :=
  if key ≠ "" ∧ value.recordable ∧ attributes.hasRoom key then attributes.insert key value
  else attributes

/-- The attributes that result from recording a list in order. -/
def recordAll (attributes : Attributes) (entries : List (String × Value)) : Attributes :=
  entries.foldl (fun attributes e => attributes.record e.1 e.2) attributes

/-- Recording an attribute leaves every other key as it is. -/
theorem get?_record_of_ne (attributes : Attributes) {key k : String} (value : Value) (h : k ≠ key) :
    (attributes.record key value).get? k = attributes.get? k := by
  unfold record
  split
  · simp [h]
  · rfl

/-- An attribute that is taken is read back. -/
theorem get?_record_self (attributes : Attributes) {key : String} {value : Value} (hk : key ≠ "")
    (hv : value.recordable = true) (hr : attributes.hasRoom key = true) :
    (attributes.record key value).get? key = some value := by
  simp [record, hk, hv, hr]

/-- Recording an attribute adds at most one key. -/
theorem size_record_le (attributes : Attributes) (key : String) (value : Value) :
    (attributes.record key value).size ≤ attributes.size + 1 := by
  unfold record
  split
  · rw [size_insert]
    split <;> omega
  · omega

end Attributes

namespace Span

/-- The span with one more attribute recorded, if it is taken. -/
def record (s : Span) (key : String) (value : Value) : Span :=
  { s with attributes := s.attributes.record key value }

@[simp] theorem kind_record (s : Span) (key : String) (value : Value) :
    (s.record key value).kind = s.kind := rfl

@[simp] theorem name_record (s : Span) (key : String) (value : Value) :
    (s.record key value).name = s.name := rfl

@[simp] theorem id_record (s : Span) (key : String) (value : Value) :
    (s.record key value).id = s.id := rfl

@[simp] theorem parentId_record (s : Span) (key : String) (value : Value) :
    (s.record key value).parentId = s.parentId := rfl

end Span

end SpanMetrics
