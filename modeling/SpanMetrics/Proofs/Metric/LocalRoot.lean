import SpanMetrics.Proofs.Metric.Measure

/-!
# SpanMetrics.Proofs.Metric.LocalRoot — local roots and service metrics

Whether a span enters the service is settled when it starts. Later the metrics read the flag that
the start left on the span, or the parent id of a span that had no room for the flag; the two agree,
except for a full span under a context of another process.

* `service_iff_root` — the service metric of a span, at any time, by what the span was started under.
-/

namespace SpanMetrics

namespace Span

/-- A poll of a queue is a consumer. -/
theorem kind_of_isQueuePoll {s : Span} (h : s.isQueuePoll = true) : s.kind = .consumer := by
  unfold isQueuePoll at h
  simp only [Bool.and_eq_true, beq_iff_eq] at h
  exact h.1.1.2

/-- A poll of a queue gives rise to no metric. -/
theorem describes_of_isQueuePoll {s : Span} (h : s.isQueuePoll = true) :
    s.describesService = false ∧ s.describesDependency = false := by
  have hk := kind_of_isQueuePoll h
  constructor
  · simp [describesService, h, hk]
  · simp [describesDependency, h, hk]

theorem describesService_iff (s : Span) :
    s.describesService = true ↔
      s.kind = .server ∨ (s.isLocalRoot = true ∧ s.isQueuePoll = false) := by
  simp only [describesService, Bool.or_eq_true, Bool.and_eq_true, Bool.not_eq_true', beq_iff_eq]
  exact or_comm

end Span

theorem Kind.name_ne_localRootKind (k : Kind) : k.name ≠ Metric.localRootKind := by
  cases k <;> decide

namespace Run.Birth

variable [Runtime] {r : Run} {b : Birth r} {n : Nat}

/-- The default processor writes the flag of local roots only as such. -/
theorem isLocalRoot_initial_default (hdefault : b.processor = .default)
    (hroom : ¬ b.start.UnderRemote ∨ b.fresh.attributes.hasRoom Key.isLocalRoot = true) :
    b.initial.isLocalRoot = !b.parent.isLocal := by
  refine isLocalRoot_initial ?_ ?_ hroom
  · rw [hdefault, Propagation.Processor.keys_default]
    decide
  · rw [hdefault, Propagation.Processor.key_default]
    decide

/-- The service metric of a span that started under the default processor. Unless the span is full
and under a context of another process, its start decides: the span has the metric just if it serves
a request, or if it started as a local root and is no poll of a queue, and the metric names it a
local root just if it started as one. What the start attributes say about that does not count. -/
theorem service_iff_root (hdefault : b.processor = .default)
    (hroom : ¬ b.start.UnderRemote ∨ b.fresh.attributes.size < Attributes.limit ∨
      b.fresh.has Key.isLocalRoot = true)
    (hn : b.Named n) (hflag : b.Unwritten Key.isLocalRoot n) (resource : Attributes) :
    ∃ s m, b.span? n = some s ∧ b.Measures n resource m ∧
      (s.isLocalRoot = true ↔ b.start.IsRoot) ∧
      (m.service.isSome = true ↔
        b.start.kind = .server ∨ (b.start.IsRoot ∧ s.isQueuePoll = false)) ∧
      (∀ service, m.service = some service →
        (service.get? Key.spanKind = some (.string Metric.localRootKind) ↔ b.start.IsRoot) ∧
          (¬ b.start.IsRoot →
            service.get? Key.spanKind = some (.string b.start.kind.name))) ∧
      (s.isQueuePoll = true → m.toList = []) := by
  have hroom' : ¬ b.start.UnderRemote ∨ b.fresh.attributes.hasRoom Key.isLocalRoot = true := by
    rcases hroom with h | h | h
    · exact .inl h
    · exact .inr (Attributes.hasRoom_iff.2 (.inr h))
    · exact .inr (Attributes.hasRoom_iff.2 (.inl h))
  rcases exists_span? hn with ⟨s, hs, -⟩
  have hkind : s.kind = b.start.kind := (sameSpan_of_span? hn hs).kind_eq
  -- the flag and the parent id say at any time what the start said
  have hlocal : s.isLocalRoot = !b.parent.isLocal :=
    (isLocalRoot_of_span? hn hflag hs).trans (isLocalRoot_initial_default hdefault hroom')
  have hroot : s.isLocalRoot = true ↔ b.start.IsRoot := by
    rw [hlocal, ← b.isLocal_parent_eq_false_iff]
    simp
  refine ⟨s, _, hs, measures_of_span? hs resource, hroot, ?_, ?_, ?_⟩
  · rw [Metrics.isSome_service, Span.describesService_iff, hkind, hroot]
  · intro service hservice
    rcases Metrics.service_eq_some_iff.1 hservice with ⟨-, rfl⟩
    rw [Metric.ServiceMetric.get?_spanKind, Metric.ServiceMetric.value_ofSpan, hkind]
    by_cases h : s.isLocalRoot = true
    · rw [if_pos h]
      constructor
      · exact ⟨fun _ => hroot.1 h, fun _ => rfl⟩
      · intro hnot
        exact absurd (hroot.1 h) hnot
    · -- the name of a kind is not the word for local roots
      rw [if_neg h]
      have hnot : ¬ b.start.IsRoot := by
        intro hr
        exact h (hroot.2 hr)
      constructor
      · constructor
        · intro heq
          simp only [Option.some.injEq, Value.string.injEq] at heq
          exact absurd heq (Kind.name_ne_localRootKind _)
        · intro hr
          exact absurd hr hnot
      · intro _
        rfl
  · intro hpoll
    have hnone := Span.describes_of_isQueuePoll hpoll
    simp [Metrics.toList, Metrics.value_service, Metrics.value_dependency, hnone.1, hnone.2]

end Run.Birth

/-- A request within a request, which claims at its start to be a local root. -/
def nestedRequest : Run where
  origin := .new "shop"
  steps :=
    [.start ⟨"outer", "GET", .server, [], .none, false⟩,
     .start ⟨"inner", "quote", .server, [("aws.is.local.root", .bool true)], .span "outer", false⟩,
     .setAttribute "inner" "messaging.operation" (.string "process"),
     .finish "inner"]

def innerRequest : Run.Birth nestedRequest :=
  (nestedRequest.birthAt? 1).get (by decide)

/-- The inner request has a service metric, but not as a local root. -/
theorem service_iff_root_innerRequest :
    ∃ m service, innerRequest.Measures 4 .empty m ∧ m.service = some service ∧
      service.get? Key.spanKind = some (.string "SERVER") := by
  have hnamed : innerRequest.Named 4 := Run.Birth.named_of_distinct (by decide) _ (by decide)
  have hflag : innerRequest.Unwritten Key.isLocalRoot 4 :=
    Run.Birth.unwritten_of_spares (by decide) _ _
  have hroot : ¬ innerRequest.start.IsRoot := by
    rw [← innerRequest.isLocal_parent_eq_true_iff]
    decide
  rcases Run.Birth.service_iff_root rfl (.inr (.inl (by decide))) hnamed hflag .empty
    with ⟨s, m, -, hm, -, hsome, hkind, -⟩
  rcases Option.isSome_iff_exists.1 (hsome.2 (.inl (by decide))) with ⟨service, hservice⟩
  exact ⟨m, service, hm, hservice, (hkind service hservice).2 hroot⟩

end SpanMetrics
