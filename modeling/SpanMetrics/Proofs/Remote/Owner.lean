import SpanMetrics.Proofs.Remote.Rule
import SpanMetrics.Remote.Owner

/-!
# SpanMetrics.Proofs.Remote.Owner — which ARN or queue URL names the owner of a resource

The rules look for a resource in an order of their own; its owner is named by the queue URL or the
first ARN that is present. The rule that decides rules out that most of the others are present.

* `located?_eq_of_locators` — the keys that come before the one from which the resource was taken.
-/

namespace SpanMetrics.Remote

/-! ## Where the resource is taken from -/

/-- The key of the ARN or the queue URL in which a name is found. -/
def Naming.locator? : Naming → Option String
  | .arn key _ | .queue key => some key
  | .string _ | .only _ | .uninvoked _ => none

/-- The key of the ARN or the queue URL under which a resource is registered. -/
def Primary.locator? : Primary → Option String
  | .string key => some key
  | .name | .under _ => none

/-- The keys of the ARNs and the queue URLs from which the rule takes an identifier. -/
def Rule.locators : Rule → List String
  | .aws _ _ naming primary => naming.locator?.toList ++ primary.locator?.toList
  | .connection => []

/-- The key whose presence makes the rule claim a call through an AWS client. -/
def Rule.presenceKey? : Rule → Option String
  | .aws _ _ (.only _) _ | .connection => none
  | .aws _ _ naming _ => some naming.key

/-- The keys that are absent from every span about which the rule decides. -/
def Rule.excluded (rule : Rule) : List String :=
  (Rule.all.takeWhile (· != rule)).filterMap Rule.presenceKey?

variable {s : Span} {rule : Rule} {key : String}

theorem isAwsCall_of_locators (hrule : rule? s = some rule) (hkey : key ∈ rule.locators) :
    s.isAwsCall = true := by
  have hclaims := claims_of_rule? hrule
  cases rule with
  | aws service kind naming primary =>
    rw [Rule.claims, Bool.and_eq_true] at hclaims
    exact hclaims.1
  | connection => simp [Rule.locators] at hkey

theorem claims_of_presenceKey? (h : rule.presenceKey? = some key) (s : Span) :
    rule.claims s = (s.isAwsCall && s.has key) := by
  cases rule with
  | aws service kind naming primary => cases naming <;> cases h <;> rfl
  | connection => cases h

/-- A key whose presence makes an earlier rule claim the span is absent. -/
theorem has_of_excluded (hrule : rule? s = some rule) (haws : s.isAwsCall = true)
    (hkey : key ∈ rule.excluded) : s.has key = false := by
  rcases List.mem_filterMap.1 hkey with ⟨earlier, hearlier, hpresence⟩
  have hnot := claims_of_before hrule hearlier
  rwa [claims_of_presenceKey? hpresence, haws, Bool.true_and] at hnot

namespace Owner

/-! ## Where the owner is named -/

/-- The keys of the queue URL and the ARNs, in the order in which they decide about the owner. -/
def keys : List String :=
  Key.queueUrl :: arnKeys

/-- The owner that the queue URL or the ARN under a key names. -/
def named? (s : Span) (key : String) : Option Owner :=
  (s.attributes.get? key).bind (if key = Key.queueUrl then ofQueueUrl? else ofArn?)

theorem first?_eq (attributes : Attributes) (keys : List String) :
    attributes.first? keys = (keys.find? attributes.has).bind attributes.get? := by
  induction keys with
  | nil => rfl
  | cons k ks ih =>
    have hfirst : attributes.first? (k :: ks) = (attributes.get? k).or (attributes.first? ks) := by
      simp only [Attributes.first?, List.findSome?_cons]
      cases attributes.get? k <;> rfl
    rw [hfirst, ih, List.find?_cons, Attributes.has]
    cases hk : attributes.get? k with
    | none => rfl
    | some v => simp [hk]

/-- The first key that is present decides about the owner. -/
theorem located?_eq (s : Span) : located? s = (keys.find? s.has).bind (named? s) := by
  unfold located? keys
  rw [List.find?_cons]
  cases hurl : s.attributes.get? Key.queueUrl with
  | some url =>
    have hhas : s.has Key.queueUrl = true := by simp [Span.has, Attributes.has, hurl]
    simp [hhas, named?, hurl]
  | none =>
    have hhas : s.has Key.queueUrl = false := by simp [Span.has, Attributes.has, hurl]
    rw [hhas, first?_eq]
    change ((arnKeys.find? s.has).bind s.attributes.get?).bind ofArn? = _
    cases hfind : arnKeys.find? s.has with
    | none => rfl
    | some key =>
      have hne : ∀ k ∈ arnKeys, k ≠ Key.queueUrl := by decide
      have hkey := hne key (List.mem_of_find?_eq_some hfind)
      simp [named?, hkey]

/-- The keys that decide about the owner, if they are present, of a resource that is taken from the
ARN or the queue URL under a key. -/
def overruling (key : String) : List String :=
  if key ∈ [Key.tableArn, Key.streamArn, Key.topicArn] then [Key.queueUrl]
  else if key = Key.secretArn then [Key.queueUrl, Key.topicArn]
  else if key = Key.functionArn then
    [Key.queueUrl, Key.topicArn, Key.secretArn, Key.activityArn, Key.stateMachineArn,
      Key.guardrailArn]
  else []

/-- A resource is taken only from the ARNs and the queue URL that name owners. -/
theorem mem_keys_of_locators : ∀ rule ∈ Rule.all, ∀ key ∈ rule.locators, key ∈ keys := by
  decide +kernel

/-- Of the keys before the one from which the resource is taken, those that may be present. -/
theorem filter_excluded_eq_overruling : ∀ rule ∈ Rule.all, ∀ key ∈ rule.locators,
    (keys.takeWhile (· != key)).filter (· ∉ rule.excluded) = overruling key := by
  decide +kernel

theorem find?_eq_of_mem {p : String → Bool} {l : List String} (hmem : key ∈ l)
    (hp : p key = true) : l.find? p = ((l.takeWhile (· != key)).find? p).or (some key) := by
  induction l with
  | nil => simp at hmem
  | cons k l ih =>
    by_cases hk : k = key
    · subst hk
      simp [hp]
    · have hmem' : key ∈ l := by
        rcases List.mem_cons.1 hmem with h | h
        · exact absurd h.symm hk
        · exact h
      have htake : (k :: l).takeWhile (· != key) = k :: l.takeWhile (· != key) := by simp [hk]
      rw [htake, List.find?_cons, List.find?_cons]
      cases p k with
      | true => rfl
      | false => exact ih hmem'

/-- The first of the overruling keys that is present decides about the owner, and if none is, the
key from which the resource is taken. -/
theorem located?_eq_of_locators (hrule : rule? s = some rule) (hkey : key ∈ rule.locators)
    (hhas : s.has key = true) :
    located? s = named? s (((overruling key).find? s.has).getD key) := by
  have hmem := mem_keys_of_locators rule (mem_all_of_rule? hrule) key hkey
  have haws := isAwsCall_of_locators hrule hkey
  -- the keys that are passed over here are absent
  have hfind : (keys.takeWhile (· != key)).find? s.has = (overruling key).find? s.has := by
    rw [← filter_excluded_eq_overruling rule (mem_all_of_rule? hrule) key hkey, List.find?_filter]
    congr
    funext k
    by_cases hk : k ∈ rule.excluded
    · simp [hk, has_of_excluded hrule haws hk]
    · simp [hk]
  rw [located?_eq, find?_eq_of_mem hmem hhas, hfind]
  cases (overruling key).find? s.has <;> rfl

end Owner

end SpanMetrics.Remote
