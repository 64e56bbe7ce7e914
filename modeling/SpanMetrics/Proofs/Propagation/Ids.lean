import SpanMetrics.Proofs.Propagation.Start
import SpanMetrics.Proofs.Span.Operation

/-!
# SpanMetrics.Proofs.Propagation.Ids — ids that nothing is handed down from

The id of a span says how many spans were started before it, and the id that it records for its
parent says so of the parent. Neither is read when a span starts: what a span is given depends on
everything else about it and about its parent.

* `Extractor.ignoresIds_take` — no extraction that has a name reads an id.
* `Processor.alike_onStart` — spans that differ in ids alone do so after their start.
-/

namespace SpanMetrics

namespace Span

/-- Two spans that differ in ids alone. Whether a span has a parent is more than an id. -/
structure Alike (s s' : Span) : Prop where
  name_eq : s.name = s'.name
  kind_eq : s.kind = s'.kind
  orphan_eq : s.parentId.isNone = s'.parentId.isNone
  attributes_eq : s.attributes = s'.attributes
  scope_eq : s.scope = s'.scope

namespace Alike

variable {s s' : Span}

theorem record (h : s.Alike s') (key : String) (value : Value) :
    (s.record key value).Alike (s'.record key value) := by
  refine ⟨h.name_eq, h.kind_eq, h.orphan_eq, ?_, h.scope_eq⟩
  change s.attributes.record key value = s'.attributes.record key value
  rw [h.attributes_eq]

theorem rename (h : s.Alike s') (name : String) :
    Alike { s with name } { s' with name } :=
  ⟨rfl, h.kind_eq, h.orphan_eq, h.attributes_eq, h.scope_eq⟩

theorem agreeOn (h : s.Alike s') (keys : List String) : AgreeOn keys s s' := by
  intro key _
  rw [h.attributes_eq]

theorem isAwsCall_eq (h : s.Alike s') : s.isAwsCall = s'.isAwsCall :=
  isAwsCall_congr (h.agreeOn _)

theorem isLocalRoot_eq (h : s.Alike s') : s.isLocalRoot = s'.isLocalRoot := by
  simp only [isLocalRoot, localRootFlag?, h.attributes_eq, h.orphan_eq]

theorem value_ingressOperation_eq [Runtime] (h : s.Alike s') :
    s.ingressOperation.value = s'.ingressOperation.value := by
  have hmethod : s.httpMethod? = s'.httpMethod? := by rw [httpMethod?, httpMethod?, h.attributes_eq]
  have htarget : s.httpTarget? = s'.httpTarget? := by rw [httpTarget?, httpTarget?, h.attributes_eq]
  have hurl : s.httpUrl? = s'.httpUrl? := by rw [httpUrl?, httpUrl?, h.attributes_eq]
  simp only [value_ingressOperation, value_requestOperation, value_requestPath, value_requestUrl,
    isInternalRoot, isNamed, h.isLocalRoot_eq, h.kind_eq, h.name_eq, hmethod, htarget, hurl]

end Alike

end Span

/-- Two parents that differ in ids alone. A bare context keeps its ids: they are not given by the
tracer. -/
inductive Parent.Alike : Parent → Parent → Prop
  | none : Alike .none .none
  | context (c : SpanContext) : Alike (.context c) (.context c)
  | span {s s' : Span} (h : s.Alike s') : Alike (.span s) (.span s')

namespace Propagation

/-- The extraction takes the same data from spans that differ in ids alone. -/
def IgnoresIds (extract : Extraction) : Prop :=
  ∀ s s' : Span, s.Alike s' → (extract s).value = (extract s').value

theorem Extractor.ignoresIds_take [Runtime] (extractor : Extractor) :
    IgnoresIds extractor.take := by
  intro s s' h
  cases extractor with
  | ingress =>
    change some (Value.string s.ingressOperation.value) = some (.string s'.ingressOperation.value)
    rw [h.value_ingressOperation_eq]
  | name =>
    change some (Value.string s.name) = some (.string s'.name)
    rw [h.name_eq]
  | constant value => rfl
  | valueAt key =>
    change s.attributes.get? key = s'.attributes.get? key
    rw [h.attributes_eq]

namespace Processor

variable {p : Processor} {above above' : Parent} {parent parent' s s' : Span}

/-! ## What a span is given besides the data -/

theorem alike_markRoot (habove : above.Alike above') (h : s.Alike s') :
    (markRoot above s).Alike (markRoot above' s') := by
  have hlocal : above.isLocal = above'.isLocal := by
    cases habove <;> rfl
  unfold markRoot
  rw [h.orphan_eq, hlocal]
  exact h.record _ _

theorem alike_markBelowCall (hparent : parent.Alike parent') (h : s.Alike s') :
    (markBelowCall parent s).Alike (markBelowCall parent' s') := by
  unfold markBelowCall
  rw [hparent.isAwsCall_eq]
  split
  · exact h.record _ _
  · exact h

theorem alike_copy (hparent : parent.Alike parent') (h : s.Alike s') (key : String) :
    (copy parent s key).Alike (copy parent' s' key) := by
  unfold copy
  rw [hparent.attributes_eq]
  split
  · exact h.record _ _
  · exact h

theorem alike_foldl_copy (hparent : parent.Alike parent') (keys : List String)
    (h : s.Alike s') : (keys.foldl (copy parent) s).Alike (keys.foldl (copy parent') s') := by
  induction keys generalizing s s' with
  | nil => exact h
  | cons key keys ih => exact ih (alike_copy hparent h key)

theorem alike_copyKeys (hparent : parent.Alike parent') (h : s.Alike s') :
    (p.copyKeys parent s).Alike (p.copyKeys parent' s') := by
  unfold copyKeys
  rw [hparent.kind_eq]
  split
  · exact alike_foldl_copy hparent p.keys h
  · exact h

theorem alike_markPair (hparent : parent.Alike parent') (h : s.Alike s') :
    (markPair parent s).Alike (markPair parent' s') := by
  unfold markPair
  rw [hparent.kind_eq, h.kind_eq]
  split
  · exact h.record _ _
  · exact h

theorem alike_given (habove : above.Alike above') (h : s.Alike s') :
    (p.given above s).Alike (p.given above' s') := by
  have hmarked := alike_markRoot habove h
  cases habove with
  | none => exact hmarked
  | context c => exact hmarked
  | span hparent =>
    exact alike_markPair hparent (alike_copyKeys hparent (alike_markBelowCall hparent hmarked))

/-! ## The data -/

theorem value_data_eq (hp : IgnoresIds p.extract) (habove : above.Alike above') (h : s.Alike s') :
    (p.data above.span? s).value = (p.data above'.span? s').value := by
  unfold data
  rw [Logged.value_bind, Logged.value_bind, Span.value_localRoot, Span.value_localRoot,
    h.isLocalRoot_eq, h.kind_eq]
  split
  · -- a local root gives its own data, or none if it serves a request
    split
    · rfl
    · exact hp s s' h
  · -- another span is given the data of its parent
    cases habove with
    | none => rfl
    | context c => rfl
    | @span parent parent' hparent =>
      simp only [Parent.span?, hparent.kind_eq, hparent.attributes_eq]
      split
      · exact hp parent parent' hparent
      · rfl

/-- Spans that differ in ids alone do so after they are started, below parents that do. -/
theorem alike_onStart (hp : IgnoresIds p.extract) (habove : above.Alike above')
    (h : s.Alike s') : (p.onStart above s).value.Alike (p.onStart above' s').value := by
  have hgiven : (p.given above s).Alike (p.given above' s') := alike_given habove h
  rw [value_onStart, value_onStart, value_data_eq hp habove hgiven]
  cases (p.data above'.span? (p.given above' s')).value with
  | none => exact hgiven
  | some value => exact hgiven.record p.key value

end Processor

end Propagation

end SpanMetrics
