import SpanMetrics.Number.Basic

/-!
# SpanMetrics.Value — attribute values

What a span or resource attribute can hold. A value can be `null`: the attribute is then present but
has no string form, and neither has a list.
-/

namespace SpanMetrics

/-- The value of an attribute. -/
inductive Value where
  | string (s : String)
  | bool (b : Bool)
  | number (n : Number)
  | null
  | list (items : List Value)
deriving Repr

namespace Value

/-- The text of a string value; other values have none. -/
def string? : Value → Option String
  | .string s => some s
  | _ => none

/-- The string form of a single value. -/
def text? : Value → Option String
  | .string s => some s
  | .bool b => some (if b then "true" else "false")
  | .number n => some n.text
  | .null | .list _ => none

/-- The value is the given string. -/
def isString (v : Value) (s : String) : Bool :=
  v.string? == some s

/-- The sorts of single value that a list may hold. -/
inductive Primitive where
  | string
  | bool
  | number
deriving DecidableEq, Repr

/-- The sort of a single value. -/
def primitive? : Value → Option Primitive
  | .string _ => some .string
  | .bool _ => some .bool
  | .number _ => some .number
  | .null | .list _ => none

/-- Every element is `null` or of the sort that the first other element has. -/
def uniform : Option Primitive → List Value → Bool
  | _, [] => true
  | seen, .null :: vs => uniform seen vs
  | none, v :: vs => v.primitive?.isSome && uniform v.primitive? vs
  | some t, v :: vs => v.primitive? == some t && uniform (some t) vs

/-- A span may record the value: it is a single value, or a list of single values of one sort,
among which `null` may stand. -/
def recordable : Value → Bool
  | .string _ | .bool _ | .number _ => true
  | .null => false
  | .list vs => uniform none vs

theorem string?_eq_some_iff {v : Value} {s : String} : v.string? = some s ↔ v = .string s := by
  cases v <;> simp [string?]

/-- A string value is its own string form. -/
theorem text?_of_string? {v : Value} {s : String} (h : v.string? = some s) : v.text? = some s := by
  cases v <;> simp_all [string?, text?]

end Value

end SpanMetrics
