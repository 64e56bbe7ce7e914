import SpanMetrics.Proofs.Metric.Measure
import SpanMetrics.Proofs.Propagation.Descent

/-!
# SpanMetrics.Proofs.Metric.LocalOperation — the local operation of service and dependency metrics

The service metric of a span takes the local operation from the span when the metrics are made. The
dependency metrics below it read what was handed down when the spans started. Under the default
processor both say the same.

* `localOperation_agrees` — below a span that serves a request, the dependency metrics have the
  local operation of its service metric; below any other local root all metrics have the internal
  one.
-/

namespace SpanMetrics

namespace Span

/-- A local root that serves no request enters and leaves the service on behalf of the internal
operation. -/
theorem operations_of_isInternalRoot [Runtime] {s : Span} (h : s.isInternalRoot = true) :
    s.ingressOperation.value = internalOperation ∧
      s.egressOperation? = some internalOperation := by
  constructor
  · simp [ingressOperation, h]
  · simp [egressOperation?, h]

/-- What was handed down to a span that is no local root is the operation on whose behalf it leaves
the service. -/
theorem egressOperation?_of_data {s : Span} {text : String} (h : s.isLocalRoot = false)
    (hdata : s.attributes.get? Key.localOperation = some (.string text)) :
    s.egressOperation? = some text := by
  simp [egressOperation?, isInternalRoot, h, Span.text?, Attributes.text?, hdata, Value.text?]

/-- The internal operation, handed down or not, is on whose behalf a span leaves the service. -/
theorem egressOperation?_of_internal_data {s : Span}
    (hdata : s.attributes.get? Key.localOperation = some (.string internalOperation)) :
    s.egressOperation? = some internalOperation := by
  simp [egressOperation?, Span.text?, Attributes.text?, hdata, Value.text?]

end Span

open Propagation

namespace Metrics

variable [Runtime] {configured : Option String} {resource : Attributes} {s : Span}

/-- A dependency metric has the operation on whose behalf the span leaves the service. -/
theorem get?_localOperation_of_dependency {text : String} (hs : s.egressOperation? = some text)
    {m : Metric.DependencyMetric}
    (hm : (ofSpan configured resource s).value.dependency = some m) :
    m.get? Key.localOperation = some (.string text) := by
  rcases dependency_eq_some_iff.1 hm with ⟨-, rfl⟩
  rw [Metric.DependencyMetric.get?_localOperation, Metric.DependencyMetric.operation_ofSpan, hs]
  rfl

/-- A service metric has the operation under which the span enters the service. -/
theorem get?_localOperation_of_service {m : Metric.ServiceMetric}
    (hm : (ofSpan configured resource s).value.service = some m) :
    m.get? Key.localOperation = some (.string s.ingressOperation.value) := by
  rcases service_eq_some_iff.1 hm with ⟨-, rfl⟩
  rw [Metric.ServiceMetric.get?_localOperation, Metric.ServiceMetric.value_ofSpan]

/-- A span that serves a request has a service metric. -/
theorem exists_service (configured : Option String) (resource : Attributes)
    (hs : s.kind = .server) :
    ∃ m, (ofSpan configured resource s).value.service = some m := by
  have hdescribes : s.describesService = true := by simp [Span.describesService, hs]
  exact ⟨_, service_eq_some_iff.2 ⟨hdescribes, rfl⟩⟩

end Metrics

namespace Line

section

variable [Runtime] {r : Run} {n : Nat}

/-- The line is started under the default processor, within the bound on start attributes, and no
span between its first and its last serves a request; below the first span no step writes the data
that is handed down, nor, on the last span, the flag of local roots, until the last span is read
after the first `k` steps. -/
structure IntactAt (l : Line r n) (k : Nat) : Prop where
  default : ∀ i ≤ n, (l.birth i).processor = .default
  room : ∀ i ≤ n, (l.birth i).fresh.attributes.size ≤ 122
  between : ∀ i, 0 < i → i < n → (l.birth i).start.kind ≠ .server
  named : (l.birth n).Named k
  data_unwritten : ∀ i, 0 < i → i < n →
    (l.birth i).Unwritten Key.localOperation (l.birth (i + 1)).position
  last_data_unwritten : (l.birth n).Unwritten Key.localOperation k
  last_flag_unwritten : (l.birth n).Unwritten Key.isLocalRoot k

namespace IntactAt

variable {l : Line r n} {k : Nat}

theorem receives (h : l.IntactAt k) : ∀ i ≤ n,
    (l.birth i).Receives Extractor.ingress.take Key.localOperation :=
  fun i hi => Run.Birth.receives_default (h.default i hi) (h.room i hi)

/-- Below a span that serves a request, the last span leaves the service on behalf of the operation
that the request had when the line went on below it. -/
theorem egressOperation?_below_server (h : l.IntactAt k) (hn : 1 ≤ n)
    (hserver : (l.birth 0).start.kind = .server) {s₀ s : Span}
    (hs₀ : (l.birth 0).span? (l.birth 1).position = some s₀) (hs : (l.birth n).span? k = some s) :
    s.egressOperation? = some s₀.ingressOperation.value := by
  have hinitial := l.get?_initial_below_server givesText_ingress hn hserver
    (fun i _ => h.receives i) h.between h.data_unwritten hs₀
  have hdata : s.attributes.get? Key.localOperation =
      some (.string s₀.ingressOperation.value) := by
    rw [Run.Birth.get?_of_unwritten h.named h.last_data_unwritten hs, hinitial]
    rfl
  -- the last span is a child, so it is no local root and its data counts
  have hlocal : s.isLocalRoot = false := by
    rcases Nat.exists_eq_succ_of_ne_zero (Nat.ne_of_gt hn) with ⟨i, rfl⟩
    have hchild := l.child i (Nat.lt_succ_self i)
    rw [(h.receives _ (Nat.le_refl _)).isLocalRoot_of_span? h.named h.last_flag_unwritten hs,
      (l.birth (i + 1)).isLocal_parent_eq_true_iff.2 hchild.not_isRoot]
    rfl
  exact Span.egressOperation?_of_data hlocal hdata

/-- Below a local root that serves no request, and on the root itself, the last span leaves the
service on behalf of the internal operation. -/
theorem egressOperation?_below_root (h : l.IntactAt k) (hroot : (l.birth 0).start.IsRoot)
    (hkind : (l.birth 0).start.kind ≠ .server)
    (hkey : 0 < n → (l.birth 0).Unwritten Key.localOperation (l.birth 1).position) {s : Span}
    (hs : (l.birth n).span? k = some s) :
    s.egressOperation? = some Span.internalOperation := by
  have hkinds : ∀ i < n, (l.birth i).start.kind ≠ .server := by
    intro i hi
    rcases Nat.eq_zero_or_pos i with rfl | hpos
    · exact hkind
    · exact h.between i hpos hi
  have hkeys : ∀ i < n, (l.birth i).Unwritten Key.localOperation (l.birth (i + 1)).position := by
    intro i hi
    rcases Nat.eq_zero_or_pos i with rfl | hpos
    · exact hkey hi
    · exact h.data_unwritten i hpos hi
  have h₀ := h.receives 0 (Nat.zero_le n)
  have hinitial := l.get?_initial_below_root givesText_ingress hroot h.receives hkind hkinds hkeys
  refine Span.egressOperation?_of_internal_data ?_
  rw [Run.Birth.get?_of_unwritten h.named h.last_data_unwritten hs, hinitial]
  exact ingress_of_root (Run.Birth.isLocalRoot_marked h₀ hroot) hkind

end IntactAt

/-- Service and dependency metrics agree on the local operation. If the first span of a line serves
a request and is left alone after the line goes on below it, the dependency metric of the last span
has the local operation of the service metric of the first. If the first span is a local root that
serves no request, all metrics of both have the internal operation; the line may then consist of the
root alone. The two spans are measured after the first `k` and `k₀` steps. -/
theorem localOperation_agrees (l : Line r n) {k k₀ : Nat} (h : l.IntactAt k)
    (h₀ : (l.birth 0).Named k₀) (resource resource₀ : Attributes) :
    ∃ m m₀, (l.birth n).Measures k resource m ∧ (l.birth 0).Measures k₀ resource₀ m₀ ∧
      (1 ≤ n → (l.birth 0).start.kind = .server → (l.birth 1).position ≤ k₀ →
        (l.birth 0).Unchanged (l.birth 1).position k₀ →
        ∃ service, m₀.service = some service ∧ ∀ dependency, m.dependency = some dependency →
          dependency.get? Key.localOperation = service.get? Key.localOperation) ∧
      ((l.birth 0).start.kind ≠ .server → (l.birth 0).start.IsRoot →
        (0 < n → (l.birth 0).Unwritten Key.localOperation (l.birth 1).position) →
        (l.birth 0).Unwritten Key.isLocalRoot k₀ →
        (∀ service, m₀.service = some service →
          service.get? Key.localOperation = some (.string Span.internalOperation)) ∧
        (∀ dependency, m₀.dependency = some dependency →
          dependency.get? Key.localOperation = some (.string Span.internalOperation)) ∧
        ∀ dependency, m.dependency = some dependency →
          dependency.get? Key.localOperation = some (.string Span.internalOperation)) := by
  rcases Run.Birth.exists_span? h.named with ⟨s, hs, -⟩
  rcases Run.Birth.exists_span? h₀ with ⟨s₀, hs₀, -⟩
  have hkind₀ : s₀.kind = (l.birth 0).start.kind := (Run.Birth.sameSpan_of_span? h₀ hs₀).kind_eq
  refine ⟨_, _, Run.Birth.measures_of_span? hs resource, Run.Birth.measures_of_span? hs₀ resource₀,
    ?_, ?_⟩
  · -- the request is measured as it was when its first child started
    intro hn hserver hle hunchanged
    have hnamed := (l.child 0 hn).named
    have hthen : (l.birth 0).span? (l.birth 1).position = some s₀ := by
      rw [← hs₀]
      exact (Run.Birth.span?_of_unchanged hnamed.1 hle h₀ hunchanged).symm
    have hegress := h.egressOperation?_below_server hn hserver hthen hs
    rcases Metrics.exists_service (r.after k₀).environment resource₀ (hkind₀.trans hserver)
      with ⟨service, hservice⟩
    refine ⟨service, hservice, ?_⟩
    intro dependency hdependency
    rw [Metrics.get?_localOperation_of_dependency hegress hdependency,
      Metrics.get?_localOperation_of_service hservice]
  · -- the root has no use for what it was handed, but still is a local root when it is measured
    intro hkind hroot hkey hflag
    have hegress := h.egressOperation?_below_root hroot hkind hkey hs
    have hlocal : s₀.isLocalRoot = true := by
      rw [(h.receives 0 (Nat.zero_le n)).isLocalRoot_of_span? h₀ hflag hs₀,
        (l.birth 0).isLocal_parent_eq_false_iff.2 hroot]
      rfl
    have hinternal : s₀.isInternalRoot = true := by
      simp [Span.isInternalRoot, hlocal, hkind₀, hkind]
    have hoperations := Span.operations_of_isInternalRoot hinternal
    refine ⟨?_, ?_, ?_⟩
    · intro service hservice
      rw [Metrics.get?_localOperation_of_service hservice, hoperations.1]
    · intro dependency hdependency
      exact Metrics.get?_localOperation_of_dependency hoperations.2 hdependency
    · intro dependency hdependency
      exact Metrics.get?_localOperation_of_dependency hegress hdependency

end

/-- A request without a name of its own, which calls out from work below it. -/
def purchase : Run where
  origin := .new "shop"
  steps :=
    [.start ⟨"request", "GET", .server, [("http.method", .string "GET")], .none, false⟩,
     .setAttribute "request" "http.target" (.string "/cart/7?full=1"),
     .start ⟨"work", "price", .internal, [], .span "request", false⟩,
     .rename "work" "quote",
     .start ⟨"call", "GET", .client, [("aws.local.operation", .string "none")], .span "work",
       false⟩,
     .finish "request"]

def purchaseLine : Line purchase 2 where
  birth
    | 0 => (purchase.birthAt? 0).get (by decide)
    | 1 => (purchase.birthAt? 2).get (by decide)
    | _ => (purchase.birthAt? 4).get (by decide)
  child
    | 0, _ => ⟨by decide, by rfl, Run.Birth.named_of_distinct (by decide) _ (by decide)⟩
    | 1, _ => ⟨by decide, by rfl, Run.Birth.named_of_distinct (by decide) _ (by decide)⟩

/-- The call and the request report the same operation. -/
theorem localOperation_agrees_purchase :
    ∃ m m₀ dependency service, (purchaseLine.birth 2).Measures 6 .empty m ∧
      (purchaseLine.birth 0).Measures 6 .empty m₀ ∧ m.dependency = some dependency ∧
      m₀.service = some service ∧
      dependency.get? Key.localOperation = service.get? Key.localOperation := by
  have hstart : ∀ i ≤ 2, (purchaseLine.birth i).processor = .default ∧
      (purchaseLine.birth i).fresh.attributes.size ≤ 122
    | 0, _ => ⟨rfl, by decide⟩
    | 1, _ => ⟨rfl, by decide⟩
    | 2, _ => ⟨rfl, by decide⟩
  have hintact : purchaseLine.IntactAt 6 := by
    refine ⟨fun i hi => (hstart i hi).1, fun i hi => (hstart i hi).2, ?_,
      Run.Birth.named_of_distinct (by decide) _ (by decide),
      fun i _ _ => Run.Birth.unwritten_of_spares (by decide) _ _,
      Run.Birth.unwritten_of_spares (by decide) _ _,
      Run.Birth.unwritten_of_spares (by decide) _ _⟩
    intro i hi hin
    have hone : i = 1 := by omega
    subst hone
    decide
  have hnamed : (purchaseLine.birth 0).Named 6 :=
    Run.Birth.named_of_distinct (by decide) _ (by decide)
  -- the only step that writes to the request comes before the work starts
  have hunchanged : (purchaseLine.birth 0).Unchanged 2 6 := by
    intro i hi hin _
    have hhandle : (purchaseLine.birth 0).start.handle = "request" := rfl
    have hcases : i = 2 ∨ i = 3 ∨ i = 4 ∨ i = 5 := by omega
    rw [hhandle]
    rcases hcases with rfl | rfl | rfl | rfl <;> simp [purchase]
  rcases purchaseLine.localOperation_agrees hintact hnamed .empty .empty
    with ⟨m, m₀, hm, hm₀, hserver, -⟩
  rcases hserver (by decide) rfl (by decide) hunchanged with ⟨service, hservice, hagree⟩
  rcases Run.Birth.exists_span? hintact.named with ⟨s, hs, hsame⟩
  have hclient : s.kind = .client := hsame.kind_eq
  have hsome : m.dependency.isSome = true := by
    rw [hm.eq hs, Metrics.isSome_dependency]
    simp [Span.describesDependency, hclient]
  rcases Option.isSome_iff_exists.1 hsome with ⟨dependency, hdependency⟩
  exact ⟨m, m₀, dependency, service, hm, hm₀, hdependency, hservice, hagree dependency hdependency⟩

end Line

end SpanMetrics
