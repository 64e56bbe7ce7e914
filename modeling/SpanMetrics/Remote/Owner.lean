import SpanMetrics.Arn
import SpanMetrics.QueueUrl
import SpanMetrics.Span.Class

/-!
# SpanMetrics.Remote.Owner — owners of remote resources

The account and the region of a resource come from its queue URL or from an ARN. When they are not
known, the access key with which the call was signed stands in for the account.
-/

namespace SpanMetrics.Remote

/-- Who owns a resource, and where it is. -/
inductive Owner where
  | account (id region : String)
  | accessKey (key region : String)
deriving DecidableEq, Repr

namespace Owner

/-- The keys of ARNs, the most telling first. -/
def arnKeys : List String :=
  [Key.tableArn, Key.streamArn, Key.topicArn, Key.secretArn, Key.activityArn, Key.stateMachineArn,
   Key.guardrailArn, Key.functionArn]

/-- The owner in a queue URL. -/
def ofQueueUrl? (v : Value) : Option Owner := do
  let url ← QueueUrl.ofServiceValue? v
  let region ← url.region?
  some (.account url.account region)

/-- The owner in an ARN. -/
def ofArn? (v : Value) : Option Owner :=
  (Arn.ofValue? v).map fun arn => .account arn.account arn.region

/-- The account that a queue URL names, or the first ARN if there is no queue URL. -/
def located? (s : Span) : Option Owner :=
  match s.attributes.get? Key.queueUrl with
  | some url => ofQueueUrl? url
  | none => (s.attributes.first? arnKeys).bind ofArn?

/-- The access key and the region with which the call was signed. -/
def signed? (s : Span) : Option Owner := do
  let key ← s.text? Key.authAccessKey
  let region ← s.text? Key.authRegion
  some (.accessKey key region)

/-- The owner of the resource that the call uses. -/
def ofSpan? (s : Span) : Option Owner :=
  (located? s).or (signed? s)

end Owner

end SpanMetrics.Remote
