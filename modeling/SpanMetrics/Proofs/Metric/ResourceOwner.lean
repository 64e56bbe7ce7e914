import SpanMetrics.Proofs.Metric.Measure
import SpanMetrics.Proofs.Remote.Owner

/-!
# SpanMetrics.Proofs.Metric.ResourceOwner — account and region in dependency metrics

The account and the region that a dependency metric reports are those of the queue URL or of the
first ARN that is present. That need not be the one from which the reported resource was taken.

* `owner_of_source` — whose account and region are reported.
* `owner_of_source_ne_copy` — a table with a queue URL beside it is reported with the account of the
  queue.
-/

namespace SpanMetrics

open Remote (Owner)

namespace Remote.Owner

/-- The account, if the owner is one. -/
def accountId? : Owner → Option String
  | .account id _ => some id
  | .accessKey _ _ => none

/-- The region. -/
def region : Owner → String
  | .account _ region | .accessKey _ region => region

/-- The signature of a call names no account. -/
theorem accountId?_signed (s : Span) : (signed? s).bind accountId? = none := by
  unfold signed?
  cases s.text? Key.authAccessKey <;> cases s.text? Key.authRegion <;> rfl

end Remote.Owner

namespace Metric.DependencyMetric

/-! ## The owner as attributes -/

/-- The owner that the metric reports. -/
def owner? (m : DependencyMetric) : Option Owner :=
  m.resource.bind (·.owner)

/-- The keys under which an owner is written. -/
def ownerKeys : List String :=
  [Key.resourceAccountId, Key.resourceAccessKey, Key.resourceRegion]

/-- The keys under which all else is written. -/
def otherKeys : List String :=
  [Key.localService, Key.localOperation, Key.remoteService, Key.remoteOperation, Key.spanKind,
    Key.remoteEnvironment, Key.resourceType, Key.resourceIdentifier, Key.primaryIdentifier,
    Key.remoteDbUser]

/-- What stands under a key of an owner comes from the owner. -/
theorem get?_of_mem_ownerKeys {key : String} (hkey : key ∈ ownerKeys) (m : DependencyMetric) :
    m.get? key = m.owner?.bind fun owner => (OwnedResource.ownerList owner).lookup key := by
  have hother : ∀ key ∈ ownerKeys, ∀ k ∈ otherKeys, (key == k) = false := by decide
  have hne := hother key hkey
  simp only [otherKeys, List.forall_mem_cons] at hne
  have henvironment :
      (m.environment.map fun e => (Key.remoteEnvironment, Value.string e)).toList.lookup key =
        none := by
    cases m.environment <;> simp [List.lookup_cons, hne]
  have huser : (m.dbUser.map fun user => (Key.remoteDbUser, user)).toList.lookup key = none := by
    cases m.dbUser <;> simp [List.lookup_cons, hne]
  unfold get? toList owner?
  simp only [List.lookup_append, List.lookup_cons, hne, henvironment, huser]
  cases m.resource with
  | none => simp
  | some r => cases h : r.owner <;> simp [OwnedResource.toList, List.lookup_cons, hne, h]

theorem get?_resourceAccountId (m : DependencyMetric) :
    m.get? Key.resourceAccountId = (m.owner?.bind Owner.accountId?).map Value.string := by
  rw [get?_of_mem_ownerKeys (by decide)]
  rcases m.owner? with _ | ⟨_ | _⟩ <;> rfl

theorem get?_resourceRegion (m : DependencyMetric) :
    m.get? Key.resourceRegion = m.owner?.map fun owner => .string owner.region := by
  rw [get?_of_mem_ownerKeys (by decide)]
  rcases m.owner? with _ | ⟨_ | _⟩ <;> rfl

/-- An account is reported with its region. -/
theorem get?_of_account {m : DependencyMetric} {id region : String}
    (h : m.owner? = some (.account id region)) :
    m.get? Key.resourceAccountId = some (.string id) ∧
      m.get? Key.resourceRegion = some (.string region) := by
  rw [get?_resourceAccountId, get?_resourceRegion, h]
  exact ⟨rfl, rfl⟩

end Metric.DependencyMetric

namespace Metrics

/-- The dependency metric of a span reports a resource which the deciding rule takes from the ARN or
the queue URL under a key, and that names an account and a region. -/
structure TakenFrom [Runtime] (configured : Option String) (resource : Attributes) (s : Span)
    (m : Metric.DependencyMetric) (key id region : String) : Prop where
  measured : (ofSpan configured resource s).value.dependency = some m
  reported : m.resource.isSome = true
  taken : ∃ rule, Remote.rule? s = some rule ∧ key ∈ rule.locators
  named : Owner.named? s key = some (.account id region)

variable {configured : Option String} {resource : Attributes} {s : Span}
  {m : Metric.DependencyMetric} {key id region : String}

/-- The owner that is reported beside a resource. -/
theorem owner?_of_dependency [Runtime]
    (hm : (ofSpan configured resource s).value.dependency = some m)
    (hreported : m.resource.isSome = true) : m.owner? = Owner.ofSpan? s := by
  rcases dependency_eq_some_iff.1 hm with ⟨-, rfl⟩
  have hresource := Metric.DependencyMetric.resource_ofSpan configured resource s
  rw [hresource, Option.isSome_map] at hreported
  rcases Option.isSome_iff_exists.1 hreported with ⟨r, hr⟩
  rw [Metric.DependencyMetric.owner?, hresource, hr]
  rfl

/-- The first of the overruling keys that is present names the owner, and if none is, the key from
which the resource was taken. -/
theorem TakenFrom.owner?_eq [Runtime] (h : TakenFrom configured resource s m key id region) :
    m.owner? = (Owner.named? s (((Owner.overruling key).find? s.has).getD key)).or
      (Owner.signed? s) := by
  rcases h.taken with ⟨rule, hrule, hkey⟩
  have hhas : s.has key = true := by
    rcases Option.bind_eq_some_iff.1 h.named with ⟨v, hv, -⟩
    simp [Span.has, Attributes.has, hv]
  rw [owner?_of_dependency h.measured h.reported, Owner.ofSpan?,
    Owner.located?_eq_of_locators hrule hkey hhas]

/-- The account and the region are those of the ARN or the queue URL from which the resource was
taken, unless another one overrules it. Then the first one that does is reported if it names an
account and a region, and otherwise no account. -/
theorem owner_of_source [Runtime] (h : TakenFrom configured resource s m key id region) :
    ((∀ k ∈ Owner.overruling key, s.has k = false) →
      m.get? Key.resourceAccountId = some (.string id) ∧
        m.get? Key.resourceRegion = some (.string region)) ∧
      ∀ first, (Owner.overruling key).find? s.has = some first →
        (∀ id' region', Owner.named? s first = some (.account id' region') →
          m.get? Key.resourceAccountId = some (.string id') ∧
            m.get? Key.resourceRegion = some (.string region')) ∧
        (Owner.named? s first = none → m.get? Key.resourceAccountId = none) := by
  have howner := h.owner?_eq
  constructor
  · intro habsent
    have hnone : (Owner.overruling key).find? s.has = none := by
      simpa [List.find?_eq_none] using habsent
    rw [hnone, Option.getD_none, h.named] at howner
    exact Metric.DependencyMetric.get?_of_account howner
  · intro first hfirst
    rw [hfirst, Option.getD_some] at howner
    constructor
    · intro id' region' hnamed
      rw [hnamed] at howner
      exact Metric.DependencyMetric.get?_of_account howner
    · intro hnamed
      rw [Metric.DependencyMetric.get?_resourceAccountId, howner, hnamed, Option.none_or,
        Owner.accountId?_signed]
      rfl

/-- A call that copies a table into a queue of another account. -/
def copy : Span where
  id := "9"
  name := "DynamoDB.Scan"
  kind := .client
  parentId := some "1"
  attributes := .ofList [("aws.is.local.root", .bool false), ("rpc.system", .string "aws-api"),
    ("aws.dynamodb.table.arn",
      .string "arn:aws:dynamodb:eu-west-1:111111111111:table/orders"),
    ("aws.sqs.queue.url", .string "https://sqs.us-east-1.amazonaws.com/222222222222/jobs")]
  scope := none

/-- The table is reported with the account of the queue. -/
theorem owner_of_source_ne_copy :
    ¬ ∀ (configured : Option String) (resource : Attributes) (s : Span)
        (m : Metric.DependencyMetric) (key id region : String),
      TakenFrom configured resource s m key id region →
        m.get? Key.resourceAccountId = some (.string id) ∧
          m.get? Key.resourceRegion = some (.string region) := by
  intro h
  have htaken : TakenFrom none .empty copy (Metric.DependencyMetric.ofSpan none .empty copy).value
      Key.tableArn "111111111111" "eu-west-1" :=
    ⟨dependency_eq_some_iff.2 ⟨by decide, rfl⟩, by decide,
      ⟨.aws "DynamoDB" "Table" (.arn Key.tableArn Arn.tableLabel) .name, by decide, by decide⟩,
      by decide⟩
  have haccount := (h _ _ _ _ _ _ _ htaken).1
  have howner : (Metric.DependencyMetric.ofSpan none .empty copy).value.owner? =
      some (.account "222222222222" "us-east-1") := by
    decide
  rw [Metric.DependencyMetric.get?_resourceAccountId, howner] at haccount
  simp [Owner.accountId?] at haccount

/-- A call that starts an activity with a secret. -/
def rotation : Span where
  id := "9"
  name := "SecretsManager.RotateSecret"
  kind := .client
  parentId := some "1"
  attributes := .ofList [("aws.is.local.root", .bool false), ("rpc.system", .string "aws-api"),
    ("aws.lambda.function.arn", .string "arn:aws:lambda:us-west-2:333333333333:function:rotate"),
    ("aws.stepfunctions.activity.arn", .string "arn:aws:states:us-east-1:222222222222:activity:a"),
    ("aws.secretsmanager.secret.arn",
      .string "arn:aws:secretsmanager:eu-west-1:111111111111:secret:db")]
  scope := none

/-- The secret is reported with its own account, whatever other ARNs are present. -/
theorem owner_of_source_rotation :
    ∃ m, (ofSpan none .empty rotation).value.dependency = some m ∧
      m.get? Key.resourceAccountId = some (.string "111111111111") ∧
        m.get? Key.resourceRegion = some (.string "eu-west-1") := by
  have htaken : TakenFrom none .empty rotation
      (Metric.DependencyMetric.ofSpan none .empty rotation).value Key.secretArn "111111111111"
      "eu-west-1" :=
    ⟨dependency_eq_some_iff.2 ⟨by decide, rfl⟩, by decide,
      ⟨.aws "SecretsManager" "Secret" (.arn Key.secretArn "") (.string Key.secretArn), by decide,
        by decide⟩,
      by decide⟩
  exact ⟨_, htaken.measured, (owner_of_source htaken).1 (by decide)⟩

end Metrics

end SpanMetrics
