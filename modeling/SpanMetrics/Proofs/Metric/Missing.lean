import SpanMetrics.Proofs.Metric.Measure
import SpanMetrics.Proofs.Remote.Call

/-!
# SpanMetrics.Proofs.Metric.Missing — what an answer gives no value for

An answer reports the metric attributes that the span gives no value for. What each question reports
follows from what it asks in turn.

* `Logged.Misses` — the answer reports that there is no value for a key.
* `Logged.Misses.exists_message` — the wording of the report.
* `Remote.misses_peerService_iff` — when nothing tells which service answers the call.
* `Metrics.misses_remoteService_iff` — when the metrics of a span report this.
-/

namespace SpanMetrics

namespace Logged

variable {α β : Type} {x : Logged α} {s : Span} {key : String}

/-- The answer comes with the notice that the span gives no value for the key. -/
def Misses (x : Logged α) (s : Span) (key : String) : Prop :=
  .noValue key s.kind s.id ∈ x.notices

/-- The report says the key, and the kind and the id of the span. -/
theorem Misses.exists_message (h : x.Misses s key) :
    ∃ notice ∈ x.ofLevel .verbose, notice.message =
      "No valid " ++ key ++ " value found for " ++ s.kind.name ++ " span " ++ s.id :=
  ⟨_, List.mem_filter.2 ⟨h, rfl⟩, rfl⟩

@[simp] theorem not_misses_pure (a : α) : ¬ (pure a : Logged α).Misses s key :=
  List.not_mem_nil

@[simp] theorem misses_bind {f : α → Logged β} :
    (x >>= f).Misses s key ↔ x.Misses s key ∨ (f x.value).Misses s key :=
  List.mem_append

@[simp] theorem misses_map {f : α → β} : (f <$> x).Misses s key ↔ x.Misses s key := by
  rw [map_eq_pure_bind, misses_bind, or_iff_left (not_misses_pure _)]

@[simp] theorem misses_ite {c : Prop} [Decidable c] {y : Logged α} :
    (if c then x else y).Misses s key ↔ if c then x.Misses s key else y.Misses s key := by
  split <;> rfl

@[simp] theorem misses_note {notice : Notice} :
    (note notice).Misses s key ↔ .noValue key s.kind s.id = notice :=
  List.mem_singleton

@[simp] theorem misses_noValue {key' : String} :
    (s.noValue key').Misses s key ↔ key = key' := by
  simp [Span.noValue]

end Logged

/-! ## The operation of the service -/

namespace Span

variable {s : Span} {key : String}

theorem not_misses_localRoot : ¬ s.localRoot.Misses s key := by
  unfold localRoot Logged.Misses
  split <;> simp

theorem not_misses_internalRoot : ¬ s.internalRoot.Misses s key := by
  simp [internalRoot, not_misses_localRoot]

theorem not_misses_serviceDescribed : ¬ s.serviceDescribed.Misses s key := by
  simp [serviceDescribed, not_misses_localRoot]

theorem not_misses_dependencyDescribed : ¬ s.dependencyDescribed.Misses s key := by
  have hconsumer : ¬ s.dependencyConsumer.Misses s key := by
    unfold dependencyConsumer
    split <;> simp [not_misses_localRoot]
  unfold dependencyDescribed
  split <;> simp [hconsumer]

theorem not_misses_egressOperation : ¬ s.egressOperation.Misses s key := by
  simp [egressOperation, not_misses_internalRoot]

/-- A URL that does not parse is reported as such. -/
theorem not_misses_requestUrl [Runtime] : ¬ s.requestUrl.Misses s key := by
  unfold requestUrl
  split
  · simp
  · split <;> simp

theorem not_misses_requestPath [Runtime] : ¬ s.requestPath.Misses s key := by
  unfold requestPath
  split <;> simp [not_misses_requestUrl]

theorem not_misses_requestOperation [Runtime] : ¬ s.requestOperation.Misses s key := by
  unfold requestOperation
  split <;> simp [not_misses_requestPath]

theorem not_misses_ingressOperation [Runtime] : ¬ s.ingressOperation.Misses s key := by
  simp only [ingressOperation, Logged.misses_bind, not_misses_internalRoot, false_or]
  split
  · simp
  · split
    · simp
    · rw [Logged.misses_bind, or_iff_right not_misses_requestOperation]
      split <;> simp [not_misses_localRoot]

end Span

namespace Metric

variable {configured : Option String} {resource : Attributes} {s : Span} {key : String}

theorem eq_of_misses_service [Runtime] (h : (service resource s).Misses s key) :
    key = Key.localService := by
  unfold service at h
  split at h
  · exact absurd h (Logged.not_misses_pure _)
  · simpa using h

/-- A service metric is about the service and its operation. -/
theorem ServiceMetric.mem_of_misses_ofSpan [Runtime]
    (h : (ServiceMetric.ofSpan resource s).Misses s key) :
    key ∈ [Key.localService, Key.localOperation] := by
  simp only [ServiceMetric.ofSpan, Logged.misses_bind, Span.not_misses_ingressOperation,
    false_or] at h
  rcases h with hservice | hoperation
  · exact List.mem_cons.2 (.inl (eq_of_misses_service hservice))
  · refine List.mem_cons_of_mem _ (List.mem_singleton.2 ?_)
    split at hoperation
    · simpa [Span.not_misses_localRoot] using hoperation
    · simp [Span.not_misses_localRoot] at hoperation

theorem DependencyMetric.eq_of_misses_callerOperation
    (h : (DependencyMetric.callerOperation s).Misses s key) : key = Key.localOperation := by
  rw [callerOperation, Logged.misses_bind, or_iff_right Span.not_misses_egressOperation] at h
  split at h
  · exact absurd h (Logged.not_misses_pure _)
  · simpa using h

end Metric

/-! ## The remote side -/

namespace Remote

variable [Runtime] {s : Span} {key : String}

theorem not_misses_connection : ¬ (connection s).Misses s key := by
  have hconnection (text : String) : ¬ (Endpoint.ofConnection text).Misses s key := by
    unfold Endpoint.ofConnection
    split <;> simp
  have hendpoint : ¬ (Endpoint.ofSpan s).Misses s key := by
    unfold Endpoint.ofSpan
    split
    · simp
    · split <;> simp [hconnection]
  simp [connection, hendpoint]

/-- A rule that finds no resource is reported as such. -/
theorem not_misses_resource : ¬ (resource s).Misses s key := by
  have hrule (rule : Rule) : ¬ (rule.resource s).Misses s key := by
    cases rule <;> simp [Rule.resource, not_misses_connection]
  unfold resource
  split
  · simp
  · simp [hrule]

theorem eq_of_misses_requestOperation (h : (requestOperation s).Misses s key) :
    key = Key.remoteOperation := by
  have hurl : ¬ (urlOperation s).Misses s key := by
    simp [urlOperation, Span.not_misses_requestUrl]
  simp only [requestOperation, Logged.misses_bind, hurl, false_or] at h
  split at h <;> simp_all

/-- The keys under which a span tells the host of the remote side, each with that of the port. -/
def hostKeys : List (String × String) :=
  [(Key.netPeerName, Key.netPeerPort), (Key.netSockPeerAddr, Key.netSockPeerPort)]

/-- The first of them that is present. -/
def hostKeys? (s : Span) : Option (String × String) :=
  hostKeys.find? (s.has ·.1)

/-- A service is made up under a key that is present, whether or not it holds a host. -/
theorem peerService_of_hostKeys? {address port : String}
    (h : hostKeys? s = some (address, port)) :
    peerService s = pure (withPort (serviceAt s address) (s.text? port)) := by
  cases hname : s.has Key.netPeerName <;> cases haddress : s.has Key.netSockPeerAddr <;>
    simp only [hostKeys?, hostKeys, List.find?_cons, List.find?_nil, hname, haddress,
      Option.some.injEq, Prod.mk.injEq, reduceCtorEq] at h <;>
    (obtain ⟨rfl, rfl⟩ := h; simp [peerService, hname, haddress])

/-- Without such a key the host is that of the URL. -/
theorem peerService_of_hostKeys?_eq_none (h : hostKeys? s = none) :
    peerService s = (do
      let service? ← urlService s
      if service?.isNone then
        s.noValue Key.remoteService
      pure (service?.getD unknownService)) := by
  have habsent : s.has Key.netPeerName = false ∧ s.has Key.netSockPeerAddr = false := by
    simpa [hostKeys?, hostKeys] using h
  simp [peerService, habsent.1, habsent.2]

theorem value_peerService_of_hostKeys?_eq_none (h : hostKeys? s = none) :
    (peerService s).value = (s.requestUrl.value.bind hostAndPort?).getD unknownService := by
  have habsent : s.has Key.netPeerName = false ∧ s.has Key.netSockPeerAddr = false := by
    simpa [hostKeys?, hostKeys] using h
  simp [value_peerService, habsent.1, habsent.2]

/-- The service that answers a call is reported as unknown just if no key for a host is present and no
URL has one. -/
theorem misses_peerService_iff :
    (peerService s).Misses s Key.remoteService ↔
      hostKeys? s = none ∧ s.requestUrl.value.bind hostAndPort? = none := by
  cases hkeys : hostKeys? s with
  | some keys => simp [peerService_of_hostKeys? hkeys]
  | none =>
    have hurl : (urlService s).value = s.requestUrl.value.bind hostAndPort? := rfl
    have hmisses : ¬ (urlService s).Misses s Key.remoteService := by
      simp [urlService, Span.not_misses_requestUrl]
    rw [peerService_of_hostKeys?_eq_none hkeys]
    simp [hmisses, hurl]

/-- A call is reported to have no service if nothing names it and none can be made up. -/
theorem misses_call_iff :
    (call s).Misses s Key.remoteService ↔
      (namedCall s).service = unknownService ∧ (peerService s).Misses s Key.remoteService := by
  have hoperation : ¬ (requestOperation s).Misses s Key.remoteService := by
    intro h
    exact absurd (eq_of_misses_requestOperation h) (by decide)
  unfold call
  by_cases hservice : (namedCall s).service = unknownService <;>
    by_cases hopen : (namedCall s).operation = unknownOperation <;>
      simp [hservice, hopen, hoperation]

end Remote

namespace Metrics

variable {configured : Option String} {resource : Attributes} {s : Span}

/-- The metrics of a span report that there is no remote service just if one of them is about a call
that has none. -/
theorem misses_remoteService_iff [Runtime] :
    (ofSpan configured resource s).Misses s Key.remoteService ↔
      s.describesDependency = true ∧ (Remote.call s).Misses s Key.remoteService := by
  have hlocalService : ¬ (Metric.service resource s).Misses s Key.remoteService := by
    intro h
    exact absurd (Metric.eq_of_misses_service h) (by decide)
  have hcaller : ¬ (Metric.DependencyMetric.callerOperation s).Misses s Key.remoteService := by
    intro h
    exact absurd (Metric.DependencyMetric.eq_of_misses_callerOperation h) (by decide)
  have hservice :
      ¬ (onlyIf s.describesService (Metric.ServiceMetric.ofSpan resource s)).Misses s
        Key.remoteService := by
    intro h
    unfold onlyIf at h
    split at h
    · have hkey := Metric.ServiceMetric.mem_of_misses_ofSpan (Logged.misses_map.1 h)
      exact absurd hkey (by decide)
    · exact Logged.not_misses_pure _ h
  have hdependency : (Metric.DependencyMetric.ofSpan configured resource s).Misses s
      Key.remoteService ↔ (Remote.call s).Misses s Key.remoteService := by
    simp [Metric.DependencyMetric.ofSpan, hlocalService, hcaller, Remote.not_misses_resource]
  simp only [ofSpan, Logged.misses_bind, Span.not_misses_serviceDescribed,
    Span.not_misses_dependencyDescribed, Span.value_serviceDescribed,
    Span.value_dependencyDescribed, hservice, Logged.not_misses_pure, or_false, false_or]
  unfold onlyIf
  split <;> simp_all

end Metrics

end SpanMetrics
