import SpanMetrics.Span.Basic

/-!
# SpanMetrics.Proofs.Span.Insert — spans that differ in one attribute
-/

namespace SpanMetrics

namespace Attributes

/-- The attributes without one. -/
def erase (attributes : Attributes) (key : String) : Attributes where
  entries := attributes.entries.filter (·.1 ≠ key)
  nodup := attributes.nodup.sublist (List.filter_sublist.map _)

theorem lookup_filter (key : String) (es : List (String × Value)) (k : String) :
    (es.filter (·.1 ≠ key)).lookup k = if k = key then none else es.lookup k := by
  induction es with
  | nil => simp
  | cons e es ih =>
    obtain ⟨a, value⟩ := e
    by_cases ha : a = key
    · subst ha
      rw [List.filter_cons_of_neg (by simp), ih, lookup_pair]
      by_cases hk : k = a <;> simp [hk]
    · rw [List.filter_cons_of_pos (by simpa using ha), lookup_pair, lookup_pair, ih]
      by_cases hk : k = a
      · subst hk
        simp [ha]
      · simp [hk]

@[simp] theorem get?_erase (attributes : Attributes) (key k : String) :
    (attributes.erase key).get? k = if k = key then none else attributes.get? k :=
  lookup_filter key attributes.entries k

end Attributes

namespace Span

/-- The span with one attribute written. -/
def insert (s : Span) (key : String) (value : Value) : Span :=
  { s with attributes := s.attributes.insert key value }

/-- The span without one attribute. -/
def erase (s : Span) (key : String) : Span :=
  { s with attributes := s.attributes.erase key }

variable {s : Span} {key k : String} (value : Value)

theorem has_insert_of_ne (h : k ≠ key) : (s.insert key value).has k = s.has k := by
  simp [insert, has, Attributes.has, h]

theorem text?_insert_of_ne (h : k ≠ key) : (s.insert key value).text? k = s.text? k := by
  simp [insert, text?, Attributes.text?, h]

theorem text?_insert_self : (s.insert key value).text? key = value.text? := by
  simp [insert, text?, Attributes.text?]

end Span

end SpanMetrics
