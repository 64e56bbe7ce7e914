/-!
# SpanMetrics.Text.Units — length in UTF-16 units

Limits on names and statements count UTF-16 units: a character beyond the basic plane counts twice.
-/

namespace SpanMetrics.Text

/-- The UTF-16 units of a character. -/
def unitsOf (c : Char) : Nat :=
  if c.toNat < 0x10000 then 1 else 2

/-- The length of a text in UTF-16 units. -/
def units : List Char → Nat
  | [] => 0
  | c :: cs => unitsOf c + units cs

/-- The longest beginning of a text that has at most `n` units. -/
def takeUnits : Nat → List Char → List Char
  | _, [] => []
  | n, c :: cs => if unitsOf c ≤ n then c :: takeUnits (n - unitsOf c) cs else []

@[simp] theorem units_nil : units [] = 0 := rfl

@[simp] theorem units_cons (c : Char) (cs : List Char) :
    units (c :: cs) = unitsOf c + units cs := rfl

end SpanMetrics.Text
