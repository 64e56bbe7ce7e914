import SpanMetrics.Proofs.Arn
import SpanMetrics.Proofs.Metric.ResourceOwner
import SpanMetrics.Proofs.QueueUrl

/-!
# SpanMetrics.Proofs.Metric.Schema — which attributes a metric has

A service metric always has the same three attributes. A dependency metric always has five, and the
others come in groups: a resource is reported as a whole, an owner only beside a resource and always
with a region, and nothing is left over of an owner that is known by half.

* `Owner.NamedIn` — the account and the region of an owner come from one ARN or queue URL.
* `schema_ofSpan` — the attributes of both metrics, for every span.
-/

namespace SpanMetrics

open Remote (Owner)

namespace Remote.Owner

/-- The account and the region stand in the queue URL of the span, or in one ARN of it. -/
inductive NamedIn (s : Span) (id region : String) : Prop where
  | queueUrl {v : Value} {url : QueueUrl} (present : s.attributes.get? Key.queueUrl = some v)
      (parsed : QueueUrl.ofServiceValue? v = some url) (account : url.account = id)
      (region : url.region? = some region)
  | arn {key : String} {v : Value} {arn : Arn} (key_mem : key ∈ arnKeys)
      (present : s.attributes.get? key = some v) (parsed : Arn.ofValue? v = some arn)
      (account : arn.account = id) (region : arn.region = region)

/-- The access key, if the owner is known by one. -/
def accessKey? : Owner → Option String
  | .account _ _ => none
  | .accessKey key _ => some key

variable {s : Span}

/-- The account is a number. -/
theorem NamedIn.allDigits {id region : String} (h : NamedIn s id region) :
    Text.allDigits id.toList = true := by
  cases h with
  | queueUrl present parsed account region =>
    obtain ⟨hvalue, -⟩ := QueueUrl.ofServiceValue?_eq_some_iff.1 parsed
    obtain ⟨hwell, -⟩ := QueueUrl.ofValue?_eq_some_iff.1 hvalue
    exact account ▸ (Text.allDigits_toList_iff _).2 hwell.account
  | arn key_mem present parsed account region =>
    obtain ⟨hwell, -⟩ := Arn.ofValue?_eq_some_iff.1 parsed
    exact account ▸ (Text.allDigits_toList_iff _).2 hwell.account

/-- An owner that is located is an account, and its region comes from the same place. -/
theorem namedIn_of_located? {owner : Owner} (h : located? s = some owner) :
    ∃ id region, owner = .account id region ∧ NamedIn s id region := by
  unfold located? at h
  split at h
  · next v hv =>
    obtain ⟨url, hurl, hregion⟩ := Option.bind_eq_some_iff.1 h
    obtain ⟨region, hregion, howner⟩ := Option.bind_eq_some_iff.1 hregion
    exact ⟨url.account, region, (Option.some.inj howner).symm, .queueUrl hv hurl rfl hregion⟩
  · obtain ⟨v, hfirst, harn⟩ := Option.bind_eq_some_iff.1 h
    obtain ⟨key, hkey, hv⟩ := List.exists_of_findSome?_eq_some hfirst
    obtain ⟨arn, hparse, howner⟩ := Option.map_eq_some_iff.1 harn
    exact ⟨arn.account, arn.region, howner.symm, .arn hkey hv hparse rfl rfl⟩

/-- A call that is signed has an access key and a region. -/
theorem signed?_eq_some_iff {owner : Owner} :
    signed? s = some owner ↔
      ∃ key region, s.text? Key.authAccessKey = some key ∧ s.text? Key.authRegion = some region ∧
        owner = .accessKey key region := by
  unfold signed?
  cases s.text? Key.authAccessKey with
  | none => simp
  | some key => cases s.text? Key.authRegion <;> simp [eq_comm]

end Remote.Owner

namespace Metric

/-! ## Service metrics -/

namespace ServiceMetric

/-- The keys of every service metric. -/
def keys : List String :=
  [Key.localService, Key.localOperation, Key.spanKind]

/-- A service metric has its keys, each once, and no other. -/
theorem keys_toList (m : ServiceMetric) : m.toList.map (·.1) = keys := rfl

end ServiceMetric

/-! ## Dependency metrics -/

namespace DependencyMetric

/-- The keys of every dependency metric. -/
def alwaysKeys : List String :=
  [Key.localService, Key.localOperation, Key.remoteService, Key.remoteOperation, Key.spanKind]

/-- The keys under which a resource is written. -/
def resourceKeys : List String :=
  [Key.resourceType, Key.resourceIdentifier, Key.primaryIdentifier]

/-- Every key that a dependency metric may have. -/
def allKeys : List String :=
  alwaysKeys ++ [Key.remoteEnvironment] ++ (resourceKeys ++ ownerKeys) ++ [Key.remoteDbUser]

/-- The metric has the key. -/
def Has (m : DependencyMetric) (key : String) : Prop :=
  (m.get? key).isSome = true

theorem has_iff_mem (m : DependencyMetric) (key : String) :
    m.Has key ↔ key ∈ m.toList.map (·.1) :=
  (Attributes.mem_keys_iff m.toList key).symm

/-- The keys under which an owner is written. -/
def keysOfOwner : Owner → List String
  | .account _ _ => [Key.resourceAccountId, Key.resourceRegion]
  | .accessKey _ _ => [Key.resourceAccessKey, Key.resourceRegion]

/-- The keys of a metric: those of every metric, and those of the parts that it has. -/
theorem keys_toList (m : DependencyMetric) :
    m.toList.map (·.1) =
      alwaysKeys ++ (if m.environment.isSome then [Key.remoteEnvironment] else []) ++
        ((if m.resource.isSome then resourceKeys else []) ++
          (m.owner?.map keysOfOwner).getD []) ++
        (if m.dbUser.isSome then [Key.remoteDbUser] else []) := by
  unfold toList owner?
  rcases m.environment with _ | e <;> rcases m.resource with _ | ⟨r, _ | ⟨_ | _⟩⟩ <;>
    rcases m.dbUser with _ | user <;> rfl

/-- The keys of a metric are some of all, in the same order. -/
theorem keys_sublist (m : DependencyMetric) : (m.toList.map (·.1)).Sublist allKeys := by
  have hif : ∀ (b : Bool) (keys : List String), (if b then keys else []).Sublist keys := by
    intro b keys
    cases b
    · exact List.nil_sublist keys
    · exact List.Sublist.refl keys
  have howner : ((m.owner?.map keysOfOwner).getD []).Sublist ownerKeys := by
    rcases m.owner? with _ | ⟨_ | _⟩
    · exact List.nil_sublist ownerKeys
    · change [Key.resourceAccountId, Key.resourceRegion].Sublist ownerKeys
      decide
    · change [Key.resourceAccessKey, Key.resourceRegion].Sublist ownerKeys
      decide
  rw [keys_toList]
  exact (((List.Sublist.refl alwaysKeys).append (hif _ _)).append ((hif _ _).append howner)).append
    (hif _ _)

theorem nodup_keys (m : DependencyMetric) : (m.toList.map (·.1)).Nodup :=
  m.keys_sublist.nodup (by decide)

theorem mem_ownerKeys_of_keysOfOwner {owner : Owner} {key : String}
    (h : key ∈ keysOfOwner owner) : key ∈ ownerKeys := by
  cases owner <;> simp only [keysOfOwner, ownerKeys, List.mem_cons] at h ⊢
  · rcases h with h | h
    · exact .inl h
    · exact .inr (.inr h)
  · exact .inr h

/-- The parts of a metric that decide whether it has a key. -/
theorem has_iff (m : DependencyMetric) (key : String) :
    m.Has key ↔ key ∈ alwaysKeys ∨ (m.environment.isSome = true ∧ key = Key.remoteEnvironment) ∨
      (m.resource.isSome = true ∧ key ∈ resourceKeys) ∨
      (∃ owner, m.owner? = some owner ∧ key ∈ keysOfOwner owner) ∨
      (m.dbUser.isSome = true ∧ key = Key.remoteDbUser) := by
  have howner : key ∈ (m.owner?.map keysOfOwner).getD [] ↔
      ∃ owner, m.owner? = some owner ∧ key ∈ keysOfOwner owner := by
    cases m.owner? <;> simp
  rw [has_iff_mem, keys_toList]
  simp only [List.mem_append, howner, List.mem_ite_nil_right, List.mem_singleton, or_assoc]

variable {m : DependencyMetric} {key : String}

theorem has_of_mem_alwaysKeys (h : key ∈ alwaysKeys) : m.Has key :=
  (m.has_iff key).2 (.inl h)

/-- The keys of a resource are there together, if there is a resource. -/
theorem has_iff_of_mem_resourceKeys (h : key ∈ resourceKeys) :
    m.Has key ↔ m.resource.isSome = true := by
  have hother : ∀ k ∈ resourceKeys, k ∉ alwaysKeys ∧ k ≠ Key.remoteEnvironment ∧
      k ∉ ownerKeys ∧ k ≠ Key.remoteDbUser := by
    decide
  obtain ⟨halways, henvironment, howner, huser⟩ := hother key h
  have hnone : ¬ ∃ owner, m.owner? = some owner ∧ key ∈ keysOfOwner owner := by
    rintro ⟨owner, -, hkey⟩
    exact howner (mem_ownerKeys_of_keysOfOwner hkey)
  rw [has_iff]
  simp [h, halways, henvironment, hnone, huser]

/-- The keys that stand by themselves. -/
theorem has_iff_of_notMem (h : key ∉ alwaysKeys ++ resourceKeys ++ ownerKeys) :
    m.Has key ↔ (m.environment.isSome = true ∧ key = Key.remoteEnvironment) ∨
      (m.dbUser.isSome = true ∧ key = Key.remoteDbUser) := by
  simp only [List.mem_append, not_or] at h
  obtain ⟨⟨halways, hresource⟩, howner⟩ := h
  have hnone : ¬ ∃ owner, m.owner? = some owner ∧ key ∈ keysOfOwner owner := by
    rintro ⟨owner, -, hkey⟩
    exact howner (mem_ownerKeys_of_keysOfOwner hkey)
  rw [has_iff]
  simp [halways, hresource, hnone]

theorem get?_resourceAccessKey (m : DependencyMetric) :
    m.get? Key.resourceAccessKey = (m.owner?.bind Owner.accessKey?).map Value.string := by
  rw [get?_of_mem_ownerKeys (by decide)]
  rcases m.owner? with _ | ⟨_ | _⟩ <;> rfl

/-- An owner is known by its account or by an access key. -/
theorem not_has_account_and_accessKey (m : DependencyMetric) :
    ¬ (m.Has Key.resourceAccountId ∧ m.Has Key.resourceAccessKey) := by
  unfold Has
  rw [get?_resourceAccountId, get?_resourceAccessKey]
  rcases m.owner? with _ | ⟨_ | _⟩ <;> simp [Owner.accountId?, Owner.accessKey?]

/-- Every owner comes with a region, and no region without an owner. -/
theorem has_resourceRegion_iff (m : DependencyMetric) :
    m.Has Key.resourceRegion ↔ m.Has Key.resourceAccountId ∨ m.Has Key.resourceAccessKey := by
  unfold Has
  rw [get?_resourceAccountId, get?_resourceAccessKey, get?_resourceRegion]
  rcases m.owner? with _ | ⟨_ | _⟩ <;> simp [Owner.accountId?, Owner.accessKey?]

/-- An account that is reported is the one of the owner, and so is its region. -/
theorem owner?_of_resourceAccountId {v : Value} (h : m.get? Key.resourceAccountId = some v) :
    ∃ id region, m.owner? = some (.account id region) ∧ v = .string id ∧
      m.get? Key.resourceRegion = some (.string region) := by
  rw [get?_resourceAccountId] at h
  obtain ⟨id, hid, rfl⟩ := Option.map_eq_some_iff.1 h
  obtain ⟨owner, howner, hid⟩ := Option.bind_eq_some_iff.1 hid
  rw [get?_resourceRegion, howner]
  cases owner with
  | account id' region =>
    cases hid
    exact ⟨id, region, rfl, rfl, rfl⟩
  | accessKey key region => cases hid

/-- An access key that is reported is the one of the owner, and so is its region. -/
theorem owner?_of_resourceAccessKey {v : Value} (h : m.get? Key.resourceAccessKey = some v) :
    ∃ key region, m.owner? = some (.accessKey key region) ∧ v = .string key ∧
      m.get? Key.resourceRegion = some (.string region) := by
  rw [get?_resourceAccessKey] at h
  obtain ⟨key, hkey, rfl⟩ := Option.map_eq_some_iff.1 h
  obtain ⟨owner, howner, hkey⟩ := Option.bind_eq_some_iff.1 hkey
  rw [get?_resourceRegion, howner]
  cases owner with
  | account id region => cases hkey
  | accessKey key' region =>
    cases hkey
    exact ⟨key, region, rfl, rfl, rfl⟩

end DependencyMetric

end Metric

namespace Metrics

variable {configured : Option String} {resource : Attributes} {s : Span}

/-- What is true of the attributes of a dependency metric of the span. -/
structure DependencySchema (s : Span) (m : Metric.DependencyMetric) : Prop where
  /-- No key is written twice. -/
  distinct : (m.toList.map (·.1)).Nodup
  known : ∀ key, m.Has key → key ∈ Metric.DependencyMetric.allKeys
  always : ∀ key ∈ Metric.DependencyMetric.alwaysKeys, m.Has key
  environment : m.Has Key.remoteEnvironment ↔ s.isInvocation = true
  /-- A resource is reported as a whole or not at all. -/
  together : ∀ key ∈ Metric.DependencyMetric.resourceKeys,
    ∀ key' ∈ Metric.DependencyMetric.resourceKeys, m.Has key → m.Has key'
  /-- An owner is reported only beside a resource. -/
  beside : ¬ m.Has Key.resourceType → ∀ key ∈ Metric.DependencyMetric.ownerKeys, ¬ m.Has key
  /-- An owner is known by its account or by an access key. -/
  single : ¬ (m.Has Key.resourceAccountId ∧ m.Has Key.resourceAccessKey)
  located : m.Has Key.resourceRegion ↔ m.Has Key.resourceAccountId ∨ m.Has Key.resourceAccessKey
  /-- An account is a number, and its region comes from the same ARN or queue URL. -/
  account : ∀ v, m.get? Key.resourceAccountId = some v →
    ∃ id region, v = .string id ∧ id.toList ≠ [] ∧ (∀ c ∈ id.toList, c.isDigit = true) ∧
      m.get? Key.resourceRegion = some (.string region) ∧ Owner.NamedIn s id region
  /-- An access key and its region are those with which the call was signed. -/
  accessKey : ∀ v, m.get? Key.resourceAccessKey = some v →
    ∃ key region, v = .string key ∧ s.text? Key.authAccessKey = some key ∧
      m.get? Key.resourceRegion = some (.string region) ∧ s.text? Key.authRegion = some region
  dbUser : m.Has Key.remoteDbUser ↔ s.isDbCall = true ∧ s.has Key.dbUser = true

/-- The owner that a dependency metric reports is located, or else signed. -/
theorem owner?_eq_some [Runtime] {m : Metric.DependencyMetric}
    (hm : (ofSpan configured resource s).value.dependency = some m) {owner : Owner}
    (h : m.owner? = some owner) :
    Owner.located? s = some owner ∨ Owner.signed? s = some owner := by
  have hreported : m.resource.isSome = true := by
    unfold Metric.DependencyMetric.owner? at h
    obtain ⟨r, hr, -⟩ := Option.bind_eq_some_iff.1 h
    simp [hr]
  rw [owner?_of_dependency hm hreported] at h
  rcases Option.or_eq_some_iff.1 h with hlocated | ⟨-, hsigned⟩
  · exact .inl hlocated
  · exact .inr hsigned

theorem dependencySchema [Runtime] {m : Metric.DependencyMetric}
    (hm : (ofSpan configured resource s).value.dependency = some m) : DependencySchema s m where
  distinct := m.nodup_keys
  known := by
    intro key hkey
    exact m.keys_sublist.subset ((m.has_iff_mem key).1 hkey)
  always := by
    intro key hkey
    exact Metric.DependencyMetric.has_of_mem_alwaysKeys hkey
  environment := by
    obtain ⟨-, rfl⟩ := dependency_eq_some_iff.1 hm
    have hne : Key.remoteEnvironment ≠ Key.remoteDbUser := by decide
    rw [Metric.DependencyMetric.has_iff_of_notMem (by decide),
      Metric.DependencyMetric.environment_ofSpan]
    simp [hne]
  together := by
    intro key hkey key' hkey' h
    rw [Metric.DependencyMetric.has_iff_of_mem_resourceKeys hkey] at h
    rwa [Metric.DependencyMetric.has_iff_of_mem_resourceKeys hkey']
  beside := by
    intro hnot key hkey hhas
    -- without a resource there is no owner to report
    rw [Metric.DependencyMetric.has_iff_of_mem_resourceKeys (by decide), Bool.not_eq_true,
      Option.isSome_eq_false_iff, Option.isNone_iff_eq_none] at hnot
    unfold Metric.DependencyMetric.Has at hhas
    rw [Metric.DependencyMetric.get?_of_mem_ownerKeys hkey] at hhas
    simp [Metric.DependencyMetric.owner?, hnot] at hhas
  single := m.not_has_account_and_accessKey
  located := m.has_resourceRegion_iff
  account := by
    intro v hv
    obtain ⟨id, region, howner, hid, hregion⟩ :=
      Metric.DependencyMetric.owner?_of_resourceAccountId hv
    rcases owner?_eq_some hm howner with hlocated | hsigned
    · obtain ⟨id', region', heq, hnamed⟩ := Owner.namedIn_of_located? hlocated
      cases heq
      obtain ⟨hne, hdigits⟩ := (Text.allDigits_iff _).1 hnamed.allDigits
      exact ⟨id, region, hid, hne, hdigits, hregion, hnamed⟩
    · obtain ⟨_, _, -, -, heq⟩ := Owner.signed?_eq_some_iff.1 hsigned
      cases heq
  accessKey := by
    intro v hv
    obtain ⟨key, region, howner, hkey, hregion⟩ :=
      Metric.DependencyMetric.owner?_of_resourceAccessKey hv
    rcases owner?_eq_some hm howner with hlocated | hsigned
    · obtain ⟨_, _, heq, -⟩ := Owner.namedIn_of_located? hlocated
      cases heq
    · obtain ⟨key', region', hkey', hregion', heq⟩ := Owner.signed?_eq_some_iff.1 hsigned
      cases heq
      exact ⟨key, region, hkey, hkey', hregion, hregion'⟩
  dbUser := by
    obtain ⟨-, rfl⟩ := dependency_eq_some_iff.1 hm
    have hne : Key.remoteDbUser ≠ Key.remoteEnvironment := by decide
    rw [Metric.DependencyMetric.has_iff_of_notMem (by decide),
      Metric.DependencyMetric.dbUser_ofSpan]
    cases s.isDbCall <;> simp [hne, Span.has, Attributes.has]

/-- The attributes of the metrics of a span: those of a service metric are always the same, and
those of a dependency metric are as `DependencySchema` says. -/
theorem schema_ofSpan [Runtime] (configured : Option String) (resource : Attributes) (s : Span) :
    (∀ m, (ofSpan configured resource s).value.service = some m →
      (m.toList.map (·.1)).Nodup ∧
        ∀ key, (m.get? key).isSome = true ↔ key ∈ Metric.ServiceMetric.keys) ∧
      ∀ m, (ofSpan configured resource s).value.dependency = some m → DependencySchema s m := by
  constructor
  · intro m _
    have hkeys := m.keys_toList
    constructor
    · rw [hkeys]
      decide
    · intro key
      rw [← hkeys]
      exact (Attributes.mem_keys_iff m.toList key).symm
  · intro m hm
    exact dependencySchema hm

/-- A call that polls a queue by a URL which names an account and no region, and that is signed. -/
def poll : Span where
  id := "9"
  name := "SQS.ReceiveMessage"
  kind := .client
  parentId := some "1"
  attributes := .ofList [("aws.is.local.root", .bool false), ("rpc.system", .string "aws-api"),
    ("aws.sqs.queue.url", .string "https://sqs.amazonaws.com/111111111111/jobs"),
    ("aws.auth.account.access_key", .string "AKIA"), ("aws.auth.region", .string "eu-west-1")]
  scope := none

/-- The half of an owner that the URL names is not reported beside the signature. -/
theorem schema_ofSpan_poll :
    ∃ m, (ofSpan none .empty poll).value.dependency = some m ∧
      m.get? Key.resourceAccessKey = some (.string "AKIA") ∧
      m.get? Key.resourceRegion = some (.string "eu-west-1") ∧
      m.get? Key.resourceAccountId = none := by
  have hm : (ofSpan none .empty poll).value.dependency =
      some (Metric.DependencyMetric.ofSpan none .empty poll).value :=
    dependency_eq_some_iff.2 ⟨by decide, rfl⟩
  have hschema := (schema_ofSpan none .empty poll).2 _ hm
  have hkey : (Metric.DependencyMetric.ofSpan none .empty poll).value.get? Key.resourceAccessKey =
      some (.string "AKIA") := by
    have howner : (Metric.DependencyMetric.ofSpan none .empty poll).value.owner? =
        some (.accessKey "AKIA" "eu-west-1") := by
      decide
    rw [Metric.DependencyMetric.get?_resourceAccessKey, howner]
    rfl
  refine ⟨_, hm, hkey, ?_, ?_⟩
  · obtain ⟨_, region, -, -, hregion, hauth⟩ := hschema.accessKey _ hkey
    have heq : region = "eu-west-1" := by
      have hauth' : poll.text? Key.authRegion = some "eu-west-1" := by decide
      rw [hauth'] at hauth
      exact (Option.some.inj hauth).symm
    rw [hregion, heq]
  · rw [← Option.not_isSome_iff_eq_none]
    intro haccount
    refine hschema.single ⟨haccount, ?_⟩
    unfold Metric.DependencyMetric.Has
    rw [hkey]
    rfl

end Metrics

end SpanMetrics
