/-!
# SpanMetrics.Text.Digits — runs of digits
-/

namespace SpanMetrics.Text

/-- The text consists of ASCII digits, at least one. -/
def allDigits (cs : List Char) : Bool :=
  !cs.isEmpty && cs.all Char.isDigit

/-- The number a run of decimal digits stands for. -/
def digitsValue (cs : List Char) : Nat :=
  cs.foldl (fun n c => 10 * n + (c.toNat - '0'.toNat)) 0

theorem allDigits_iff (cs : List Char) :
    allDigits cs = true ↔ cs ≠ [] ∧ ∀ c ∈ cs, c.isDigit = true := by
  simp [allDigits]

/-- The text is written in ASCII digits and is not empty. -/
def IsDigits (s : String) : Prop :=
  s ≠ "" ∧ ∀ c ∈ s.toList, c.isDigit = true

theorem allDigits_toList_iff (s : String) : allDigits s.toList = true ↔ IsDigits s := by
  rw [allDigits_iff, IsDigits, Ne, String.toList_eq_nil_iff]

end SpanMetrics.Text
