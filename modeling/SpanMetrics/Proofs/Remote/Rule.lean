import SpanMetrics.Remote.Resource

/-!
# SpanMetrics.Proofs.Remote.Rule — the rule that decides about a span

* `value_resource` — the resource of a span is the one that the deciding rule finds.
* `claims_of_before` — no rule before the deciding one claims the span.
-/

namespace SpanMetrics.Remote

variable {s : Span} {rule : Rule}

/-- The resource of a span is the one that the deciding rule finds. -/
theorem value_resource [Runtime] (s : Span) :
    (resource s).value = (rule? s).bind fun rule => (rule.resource s).value := by
  unfold resource
  cases rule? s with
  | none => rfl
  | some rule =>
    simp only [Logged.value_bind, Option.bind_some]
    split <;> rfl

/-- What is reported about a span was found by the deciding rule. -/
theorem exists_rule_of_resource [Runtime] {r : Resource} (hr : (resource s).value = some r) :
    ∃ rule, rule? s = some rule ∧ (rule.resource s).value = some r := by
  rw [value_resource] at hr
  exact Option.bind_eq_some_iff.1 hr

theorem mem_all_of_rule? (h : rule? s = some rule) : rule ∈ Rule.all :=
  List.mem_of_find?_eq_some h

theorem claims_of_rule? (h : rule? s = some rule) : rule.claims s = true :=
  List.find?_some h

/-- No rule before the deciding one claims the span. -/
theorem claims_of_before (h : rule? s = some rule) {earlier : Rule}
    (hearlier : earlier ∈ Rule.all.takeWhile (· != rule)) : earlier.claims s = false := by
  rcases List.find?_eq_some_iff_append.1 h with ⟨hclaims, before, after, hall, hbefore⟩
  have hnot : ∀ r ∈ before, (r != rule) = true := by
    intro r hr
    have hr' := hbefore r hr
    rw [bne_iff_ne]
    rintro rfl
    simp [hclaims] at hr'
  rw [hall, List.takeWhile_append_of_pos hnot] at hearlier
  simpa using hbefore earlier (by simpa using hearlier)

/-- A call through an AWS client is decided by a rule for one of the AWS services, which finds the
name of the resource. -/
theorem resource_of_awsCall [Runtime] (haws : s.isAwsCall = true) {r : Resource}
    (hr : (resource s).value = some r) :
    ∃ service kind naming primary name,
      rule? s = some (.aws service kind naming primary) ∧ naming.name? s = some name ∧
        r = ⟨(Rule.aws service kind naming primary).type, Delimited.encode name,
          primary.identifier s name⟩ := by
  rcases exists_rule_of_resource hr with ⟨rule, hrule, hresource⟩
  cases rule with
  | aws service kind naming primary =>
    rcases Option.map_eq_some_iff.1 hresource with ⟨name, hname, hr⟩
    exact ⟨service, kind, naming, primary, name, hrule, hname, hr.symm⟩
  | connection =>
    have hclaims := claims_of_rule? hrule
    simp [Rule.claims, haws] at hclaims

/-- A database call outside of AWS is decided by the rule for connections. -/
theorem value_resource_of_dbCall [Runtime] (haws : s.isAwsCall = false) (hdb : s.isDbCall = true) :
    (resource s).value =
      (connection s).value.map fun identifier => ⟨"DB::Connection", identifier, identifier⟩ := by
  have hrule : rule? s = some .connection := by
    simp [rule?, Rule.all, Rule.claims, haws, hdb]
  rw [value_resource, hrule]
  rfl

end SpanMetrics.Remote
