import SpanMetrics.Text.Case
import SpanMetrics.Text.Digits
import SpanMetrics.Text.Erase
import SpanMetrics.Value

/-!
# SpanMetrics.QueueUrl — queue URLs

A queue URL has three segments after its scheme: a domain, an account and the name of a queue. The
name is taken from any such URL. The account and the region are taken only when the domain starts
with the name of the queue service, and the region only from a domain of four labels.
-/

namespace SpanMetrics

/-- A parsed queue URL. -/
structure QueueUrl where
  domain : String
  account : String
  queue : String
deriving DecidableEq, Repr

namespace QueueUrl

/-- Removes every `http://`, and then every `https://`. -/
def withoutSchemes (cs : List Char) : List Char :=
  Text.erase 'h' "ttps://".toList (Text.erase 'h' "ttp://".toList cs)

/-- The longest queue name. -/
def nameLimit : Nat := 80

/-- A character of a queue name. -/
def isNameChar (c : Char) : Bool :=
  c.isAlphanum || c == '_' || c == '-'

/-- The text is a queue name. -/
def isName (cs : List Char) : Bool :=
  !cs.isEmpty && decide (cs.length ≤ nameLimit) && cs.all isNameChar

/-- Parses a queue URL. -/
def parse? (s : String) : Option QueueUrl :=
  match (withoutSchemes s.toList).splitOn '/' with
  | [domain, account, queue] =>
    if Text.allDigits account ∧ isName queue then
      some ⟨.ofList domain, .ofList account, .ofList queue⟩
    else none
  | _ => none

/-- The queue URL in an attribute value; only a string can hold one. -/
def ofValue? (v : Value) : Option QueueUrl :=
  v.string?.bind parse?

/-- The domain starts with the name of the queue service, in any letter case. -/
def ofService (url : QueueUrl) : Bool :=
  "sqs".toList.isPrefixOf (Text.lower url.domain.toList)

/-- The second of the four labels of the domain. -/
def region? (url : QueueUrl) : Option String :=
  match url.domain.toList.splitOn '.' with
  | [_, region, _, _] => some (.ofList region)
  | _ => none

/-- The queue URL in an attribute value, if its domain is one of the queue service. -/
def ofServiceValue? (v : Value) : Option QueueUrl :=
  (ofValue? v).filter ofService

end QueueUrl

end SpanMetrics
