import SpanMetrics.Proofs.Metric.LocalRoot
import SpanMetrics.Proofs.Propagation.Descent

/-!
# SpanMetrics.Proofs.Metric.ConsumerPair — one dependency metric for a pair of consumers

A message is often processed under two consumer spans, one below the other. The start of the lower
one notes that it is below a consumer; whether it processes a message may be known only later, and
is read when the metrics are made. Of a pair, and of any line of such consumers, just the first
gives rise to a dependency metric.

* `dependency_iff_not_below` — which consumers have the metric, and which of a line of them.
-/

namespace SpanMetrics

namespace Span

/-- A consumer that processes a message and is no poll of a queue gives rise to a dependency metric
if it is a local root or carries no mark of a pair. -/
theorem describesDependency_of_process {s : Span} (hk : s.kind = .consumer)
    (hprocess : s.holds Key.messagingOperation "process" = true) (hpoll : s.isQueuePoll = false) :
    s.describesDependency = true ↔
      s.isLocalRoot = true ∨ s.holds Key.consumerParentKind Kind.consumer.name = false := by
  have hconsumer : s.isConsumerProcess = true := by simp [isConsumerProcess, hk, hprocess]
  simp [describesDependency, isDependencyConsumer, hk, hconsumer, hpoll]

end Span

open Propagation

namespace Run.Birth

variable [Runtime] {r : Run} {b above : Birth r} {n : Nat}

/-- The span is started under a consumer span. -/
def BelowConsumer (b : Birth r) : Prop :=
  ∃ s, b.parent = .span s ∧ s.kind = .consumer

/-- The span is a consumer under the default processor that, after the first `n` steps, processes a
message and is no poll of a queue; only the processor has written the mark of a pair and the flag
of local roots on it. -/
structure ProcessesAt (b : Birth r) (n : Nat) : Prop where
  default : b.processor = .default
  consumer : b.start.kind = .consumer
  room : b.fresh.attributes.size ≤ 122
  unmarked : b.fresh.has Key.consumerParentKind = false
  named : b.Named n
  mark_unwritten : b.Unwritten Key.consumerParentKind n
  flag_unwritten : b.Unwritten Key.isLocalRoot n
  processes : ∀ s, b.span? n = some s →
    s.holds Key.messagingOperation "process" = true ∧ s.isQueuePoll = false

/-- The data that the default processor records says nothing about the mark. -/
theorem get?_mark_initial (hdefault : b.processor = .default) :
    b.initial.attributes.get? Key.consumerParentKind =
      b.given.attributes.get? Key.consumerParentKind := by
  refine (b.processor.footprint_data b.parent b.fresh).get?_eq _ ?_
  rw [hdefault, Processor.key_default]
  decide

namespace ProcessesAt

theorem get?_mark_of_below (h : b.ProcessesAt n) (hbelow : b.BelowConsumer) :
    b.initial.attributes.get? Key.consumerParentKind = some (.string Kind.consumer.name) := by
  rcases hbelow with ⟨s, hparent, hs⟩
  rw [get?_mark_initial h.default]
  have habove : b.parent.span? = some s := by rw [hparent]; rfl
  refine Processor.get?_pair_given habove h.consumer hs ?_
  have hsize := h.room
  rw [h.default]
  -- the default processor copies two keys
  change b.fresh.attributes.size + 2 + 2 < 128
  omega

theorem get?_mark_of_not_below (h : b.ProcessesAt n) (hbelow : ¬ b.BelowConsumer) :
    b.initial.attributes.get? Key.consumerParentKind = none := by
  have hfresh : b.fresh.attributes.get? Key.consumerParentKind = none := by
    simpa [Span.has, Attributes.has] using h.unmarked
  rw [get?_mark_initial h.default, ← hfresh]
  have hkey : Key.consumerParentKind ∉ b.processor.keys := by
    rw [h.default, Processor.keys_default]
    decide
  refine Processor.get?_pair_given_of_not hkey ?_
  rintro s hs ⟨-, hkind⟩
  exact hbelow ⟨s, Parent.eq_span_of_span? hs, hkind⟩

/-- Of the consumers that process a message, those below a consumer have no dependency metric, and
all others have one. -/
theorem isSome_dependency_iff (h : b.ProcessesAt n) (resource : Attributes) :
    ∃ m, b.Measures n resource m ∧ (m.dependency.isSome = true ↔ ¬ b.BelowConsumer) := by
  rcases exists_span? h.named with ⟨s, hs, -⟩
  rcases h.processes s hs with ⟨hprocess, hpoll⟩
  have hkind : s.kind = .consumer := (sameSpan_of_span? h.named hs).kind_eq.trans h.consumer
  have hlocal : s.isLocalRoot = !b.parent.isLocal :=
    (receives_default h.default h.room).isLocalRoot_of_span? h.named h.flag_unwritten hs
  have hmark := get?_of_unwritten h.named h.mark_unwritten hs
  refine ⟨_, measures_of_span? hs resource, ?_⟩
  rw [Metrics.isSome_dependency, Span.describesDependency_of_process hkind hprocess hpoll]
  by_cases hbelow : b.BelowConsumer
  · -- the second of a pair: no local root, and marked
    have hholds : s.holds Key.consumerParentKind Kind.consumer.name = true := by
      rw [h.get?_mark_of_below hbelow] at hmark
      simp [Span.holds, Attributes.holds, Attributes.string?, hmark, Value.string?]
    rcases hbelow with ⟨s', hparent, hs'⟩
    have hnot : s.isLocalRoot = false := by
      rw [hlocal, hparent]
      rfl
    have hb : b.BelowConsumer := ⟨s', hparent, hs'⟩
    simp [hnot, hholds, hb]
  · -- not the second of a pair: unmarked
    have hholds : s.holds Key.consumerParentKind Kind.consumer.name = false := by
      rw [h.get?_mark_of_not_below hbelow] at hmark
      simp [Span.holds, Attributes.holds, Attributes.string?, hmark]
    simp [hholds, hbelow]

end ProcessesAt

/-- A child of a consumer is below a consumer. -/
theorem ChildOf.belowConsumer (h : b.ChildOf above) (hk : above.start.kind = .consumer) :
    b.BelowConsumer := by
  rcases h.exists_span with ⟨s, hparent, hs⟩
  exact ⟨s, hparent, (sameSpan_of_span? h.named hs).kind_eq.trans hk⟩

end Run.Birth

/-- No dependency is counted twice and none is lost: a consumer that processes a message has a
dependency metric just if it is not below a consumer. So of a line of such consumers, each measured
at a time of its own, none but the first has the metric, and the first has it just if it is not
below a consumer either. -/
theorem dependency_iff_not_below [Runtime] (r : Run) (resource : Attributes) :
    (∀ (b : Run.Birth r) (n : Nat), b.ProcessesAt n →
      ∃ m, b.Measures n resource m ∧ (m.dependency.isSome = true ↔ ¬ b.BelowConsumer)) ∧
    ∀ (length : Nat) (l : Line r length) (time : Nat → Nat),
      (∀ i ≤ length, (l.birth i).ProcessesAt (time i)) →
      (∃ m, (l.birth 0).Measures (time 0) resource m ∧
        (m.dependency.isSome = true ↔ ¬ (l.birth 0).BelowConsumer)) ∧
      ∀ i, 0 < i → i ≤ length →
        ∃ m, (l.birth i).Measures (time i) resource m ∧ m.dependency = none := by
  constructor
  · intro b n h
    exact h.isSome_dependency_iff resource
  · intro length l time hall
    constructor
    · exact (hall 0 (Nat.zero_le _)).isSome_dependency_iff resource
    · -- every other span of the line is below the consumer before it
      intro i hi hle
      rcases Nat.exists_eq_succ_of_ne_zero (Nat.ne_of_gt hi) with ⟨j, rfl⟩
      rcases (hall (j + 1) hle).isSome_dependency_iff resource with ⟨m, hm, hiff⟩
      have hbelow := (l.child j hle).belowConsumer (hall j (by omega)).consumer
      refine ⟨m, hm, ?_⟩
      by_cases hsome : m.dependency.isSome = true
      · exact absurd hbelow (hiff.1 hsome)
      · simpa using hsome

/-- A message that is received and then processed, which the lower span says only later. -/
def delivery : Run where
  origin := .new "shop"
  steps :=
    [.start ⟨"receive", "orders process", .consumer,
       [("messaging.operation", .string "process")], .none, false⟩,
     .start ⟨"process", "orders process", .consumer, [], .span "receive", false⟩,
     .setAttribute "process" "messaging.operation" (.string "process"),
     .finish "process"]

def deliveryLine : Line delivery 1 where
  birth
    | 0 => (delivery.birthAt? 0).get (by decide)
    | _ => (delivery.birthAt? 1).get (by decide)
  child
    | 0, _ => ⟨by decide, by rfl, Run.Birth.named_of_distinct (by decide) _ (by decide)⟩

/-- Of the two consumers the upper one has the dependency metric. -/
theorem dependency_iff_not_below_delivery :
    (∃ m, (deliveryLine.birth 0).Measures 4 .empty m ∧ m.dependency.isSome = true) ∧
      ∃ m, (deliveryLine.birth 1).Measures 4 .empty m ∧ m.dependency = none := by
  have hstart : ∀ i ≤ 1, (deliveryLine.birth i).processor = .default ∧
      (deliveryLine.birth i).start.kind = .consumer ∧
      (deliveryLine.birth i).fresh.attributes.size ≤ 122 ∧
      (deliveryLine.birth i).fresh.has Key.consumerParentKind = false ∧
      (deliveryLine.birth i).position < 4
    | 0, _ => ⟨rfl, rfl, by decide, by decide, by decide⟩
    | 1, _ => ⟨rfl, rfl, by decide, by decide, by decide⟩
  have hread : ∀ i ≤ 1, ((deliveryLine.birth i).span? 4).all
      (fun s => s.holds Key.messagingOperation "process" && !s.isQueuePoll) = true
    | 0, _ => by decide
    | 1, _ => by decide
  have hprocess : ∀ i ≤ 1, (deliveryLine.birth i).ProcessesAt 4 := by
    intro i hi
    rcases hstart i hi with ⟨hdefault, hkind, hroom, hmark, hposition⟩
    refine ⟨hdefault, hkind, hroom, hmark, Run.Birth.named_of_distinct (by decide) _ hposition,
      Run.Birth.unwritten_of_spares (by decide) _ _,
      Run.Birth.unwritten_of_spares (by decide) _ _, ?_⟩
    intro s hs
    simpa using (Option.all_eq_true _ _).1 (hread i hi) s hs
  rcases (dependency_iff_not_below delivery .empty).2 1 deliveryLine (fun _ => 4) hprocess
    with ⟨⟨m, hm, hiff⟩, hbelow⟩
  refine ⟨⟨m, hm, hiff.2 ?_⟩, hbelow 1 (by decide) (by decide)⟩
  rintro ⟨s, hparent, -⟩
  cases hparent

end SpanMetrics
