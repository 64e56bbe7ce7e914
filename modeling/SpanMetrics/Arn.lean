import SpanMetrics.Text.Digits
import SpanMetrics.Value

/-!
# SpanMetrics.Arn — resource names

A resource name has the form `arn:partition:service:region:account:resource`. The account is a run
of digits. The resource may itself have colons, as in `function:my-function`; its last part is the
name of the resource, possibly with a label such as `table/` in front.
-/

namespace SpanMetrics

/-- A parsed resource name. -/
structure Arn where
  partition : String
  service : String
  region : String
  account : String
  /-- The parts of the resource between colons. -/
  resource : List String
  /-- There is at least one part. -/
  resource_ne : resource ≠ []
deriving DecidableEq, Repr

namespace Arn

/-- What every resource name starts with. -/
def scheme : List Char := ['a', 'r', 'n']

/-- Parses a resource name. -/
def parse? (s : String) : Option Arn :=
  match s.toList.splitOn ':' with
  | head :: partition :: service :: region :: account :: part :: parts =>
    if head = scheme ∧ Text.allDigits account then
      some {
        partition := .ofList partition
        service := .ofList service
        region := .ofList region
        account := .ofList account
        resource := (part :: parts).map .ofList
        resource_ne := by simp }
    else none
  | _ => none

/-- The resource name in an attribute value; only a string can hold one. -/
def ofValue? (v : Value) : Option Arn :=
  v.string?.bind parse?

/-- The parts between the colons. -/
def parts (arn : Arn) : List String :=
  .ofList scheme :: arn.partition :: arn.service :: arn.region :: arn.account :: arn.resource

/-- The resource name in writing. -/
def text (arn : Arn) : String :=
  .ofList ([':'].intercalate (arn.parts.map String.toList))

/-- The last part of the resource. -/
def name (arn : Arn) : String :=
  arn.resource.getLast arn.resource_ne

/-- A text without a label that it may start with. -/
def unlabelled (label s : String) : String :=
  if label.toList.isPrefixOf s.toList then .ofList (s.toList.drop label.toList.length) else s

/-- The label of a table. -/
def tableLabel : String := "table/"

/-- The label of a stream. -/
def streamLabel : String := "stream/"

@[simp] theorem unlabelled_append (label s : String) : unlabelled label (label ++ s) = s := by
  simp [unlabelled]

end Arn

end SpanMetrics
