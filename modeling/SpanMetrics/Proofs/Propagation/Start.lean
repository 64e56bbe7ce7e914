import SpanMetrics.Proofs.Footprint
import SpanMetrics.Propagation.Builder

/-!
# SpanMetrics.Proofs.Propagation.Start — what a processor writes when a span starts

Each part of `Processor.onStart` has a footprint of one or a few keys; `Processor.given` is the span
that all of them but the last have dealt with, and the data of the line of spans is recorded on it.

* `Processor.footprint_onStart` — a start writes nothing but the flag of local roots, the two marks,
  the copied keys and the key of the data.
* `Processor.get?_isLocalRoot_given` — the flag says what the parent context says.
* `Processor.get?_key_onStart` — the data, where there is any, is read back.
-/

namespace SpanMetrics

namespace Parent

/-- A parent in this process leaves its id, so the id adds nothing to the parent context. -/
theorem isNone_id?_or (parent : Parent) :
    (parent.id?.isNone || !parent.isLocal) = !parent.isLocal := by
  cases parent with
  | none => rfl
  | context c => by_cases hc : c.isValid = true <;> simp [id?, isLocal, hc]
  | span s => rfl

theorem eq_span_of_span? {parent : Parent} {s : Span} (h : parent.span? = some s) :
    parent = .span s := by
  cases parent with
  | none => cases h
  | context c => cases h
  | span s' => exact congrArg Parent.span (Option.some.inj h)

end Parent

namespace Propagation.Processor

open SpanMetrics.Span (Footprint footprint_record)

/-! ## Footprints -/

theorem footprint_markRoot (parent : Parent) (s : Span) :
    Footprint [Key.isLocalRoot] s (markRoot parent s) :=
  footprint_record s _ _

theorem footprint_markBelowCall (parent s : Span) :
    Footprint [Key.sdkDescendant] s (markBelowCall parent s) := by
  unfold markBelowCall
  split
  · exact footprint_record s _ _
  · exact .refl _ s

theorem footprint_copy (parent s : Span) (key : String) :
    Footprint [key] s (copy parent s key) := by
  unfold copy
  split
  · exact footprint_record s _ _
  · exact .refl _ s

theorem footprint_foldl_copy (parent : Span) (keys : List String) (s : Span) :
    Footprint keys s (keys.foldl (copy parent) s) := by
  -- the span changes along the list, so the induction is over every span
  induction keys generalizing s with
  | nil => exact .refl _ s
  | cons key keys ih => exact (footprint_copy parent s key).trans (ih _)

theorem footprint_copyKeys (p : Processor) (parent s : Span) :
    Footprint p.keys s (p.copyKeys parent s) := by
  unfold copyKeys
  split
  · exact footprint_foldl_copy parent p.keys s
  · exact .refl _ s

theorem footprint_markPair (parent s : Span) :
    Footprint [Key.consumerParentKind] s (markPair parent s) := by
  unfold markPair
  split
  · exact footprint_record s _ _
  · exact .refl _ s

theorem footprint_inherit (p : Processor) (parent s : Span) :
    Footprint (Key.sdkDescendant :: (p.keys ++ [Key.consumerParentKind])) s
      (p.inherit parent s) :=
  (footprint_markBelowCall parent s).trans
    ((footprint_copyKeys p parent _).trans (footprint_markPair parent _))

/-- The span with everything that it is given at its start, except the data. -/
def given (p : Processor) (parent : Parent) (s : Span) : Span :=
  (parent.span?.map (p.inherit · (markRoot parent s))).getD (markRoot parent s)

/-- Under no span of the process a span is given the flag alone. -/
theorem given_of_no_span {p : Processor} {parent : Parent} {s : Span}
    (hparent : parent.span? = none) : p.given parent s = markRoot parent s := by
  unfold given
  rw [hparent]
  rfl

/-- The keys that are written at a start, except the key of the data. -/
def givenKeys (p : Processor) : List String :=
  Key.isLocalRoot :: Key.sdkDescendant :: (p.keys ++ [Key.consumerParentKind])

theorem length_givenKeys (p : Processor) : p.givenKeys.length = p.keys.length + 3 := by
  simp [givenKeys]

theorem footprint_given (p : Processor) (parent : Parent) (s : Span) :
    Footprint p.givenKeys s (p.given parent s) := by
  unfold given
  cases parent.span? with
  | none => exact (footprint_markRoot parent s).trans (.refl _ _)
  | some above => exact (footprint_markRoot parent s).trans (footprint_inherit p above _)

theorem value_onStart (p : Processor) (parent : Parent) (s : Span) :
    (p.onStart parent s).value =
      ((p.data parent.span? (p.given parent s)).value.map ((p.given parent s).record p.key)).getD
        (p.given parent s) :=
  rfl

/-- The data comes last. -/
theorem footprint_data (p : Processor) (parent : Parent) (s : Span) :
    Footprint [p.key] (p.given parent s) (p.onStart parent s).value := by
  rw [value_onStart]
  cases (p.data parent.span? (p.given parent s)).value with
  | none => exact .refl _ _
  | some value => exact footprint_record _ _ _

/-- A start writes the flag of local roots, the two marks, the copied keys and the key of the data,
and nothing else. -/
theorem footprint_onStart (p : Processor) (parent : Parent) (s : Span) :
    Footprint (p.givenKeys ++ [p.key]) s (p.onStart parent s).value :=
  (footprint_given p parent s).trans (footprint_data p parent s)

/-! ## The flag of local roots -/

theorem get?_isLocalRoot_markRoot {parent : Parent} {s : Span} (hs : s.parentId = parent.id?)
    (hroom : s.attributes.hasRoom Key.isLocalRoot = true) :
    (markRoot parent s).attributes.get? Key.isLocalRoot = some (.bool !parent.isLocal) := by
  unfold markRoot
  -- the flag is written from the parent id and the context, which say the same
  rw [hs, Parent.isNone_id?_or]
  exact s.attributes.get?_record_self (by decide) rfl hroom

theorem get?_given_of_notMem (p : Processor) (parent : Parent) (s : Span) {key : String}
    (hkey : key ≠ Key.sdkDescendant) (hpair : key ≠ Key.consumerParentKind) (hp : key ∉ p.keys) :
    (p.given parent s).attributes.get? key = (markRoot parent s).attributes.get? key := by
  unfold given
  cases parent.span? with
  | none => rfl
  | some above => exact (footprint_inherit p above _).get?_eq key (by simp [hkey, hp, hpair])

/-- The flag says whether the parent is in this process, if the span takes it. -/
theorem get?_isLocalRoot_given {p : Processor} (hp : Key.isLocalRoot ∉ p.keys) {parent : Parent}
    {s : Span} (hs : s.parentId = parent.id?)
    (hroom : s.attributes.hasRoom Key.isLocalRoot = true) :
    (p.given parent s).attributes.get? Key.isLocalRoot = some (.bool !parent.isLocal) := by
  rw [get?_given_of_notMem p parent s (by decide) (by decide) hp]
  exact get?_isLocalRoot_markRoot hs hroom

/-! ## The mark of a pair of consumers -/

/-- A consumer below a consumer is marked, if there is room for the mark after all that is written
before it. -/
theorem get?_pair_given {p : Processor} {parent : Parent} {above s : Span}
    (hparent : parent.span? = some above) (hs : s.kind = .consumer) (habove : above.kind = .consumer)
    (hroom : s.attributes.size + p.keys.length + 2 < Attributes.limit) :
    (p.given parent s).attributes.get? Key.consumerParentKind =
      some (.string Kind.consumer.name) := by
  -- what is written before the mark: the flag, the other mark and the copied keys
  have hfoot := (footprint_markRoot parent s).trans
    ((footprint_markBelowCall above _).trans (footprint_copyKeys p above _))
  have hkind := hfoot.sameSpan.kind_eq.trans hs
  have hsize := hfoot.size_le
  simp only [List.length_append, List.length_singleton] at hsize
  have hgiven : p.given parent s =
      (p.copyKeys above (markBelowCall above (markRoot parent s))).record Key.consumerParentKind
        (.string Kind.consumer.name) := by
    unfold given
    rw [hparent]
    exact if_pos ⟨hkind, habove⟩
  rw [hgiven]
  refine Attributes.get?_record_self _ (by decide) rfl ?_
  exact Attributes.hasRoom_iff.2 (.inr (by omega))

/-- Another span is not marked. -/
theorem get?_pair_given_of_not {p : Processor} (hp : Key.consumerParentKind ∉ p.keys)
    {parent : Parent} {s : Span}
    (hnot : ∀ above, parent.span? = some above → ¬ (s.kind = .consumer ∧ above.kind = .consumer)) :
    (p.given parent s).attributes.get? Key.consumerParentKind =
      s.attributes.get? Key.consumerParentKind := by
  have hmark := (footprint_markRoot parent s).get?_eq Key.consumerParentKind (by decide)
  unfold given
  cases habove : parent.span? with
  | none => exact hmark
  | some above =>
    have hfoot := (footprint_markRoot parent s).trans
      ((footprint_markBelowCall above _).trans (footprint_copyKeys p above _))
    -- the two are not a pair, so nothing is written after the copied keys
    have hgiven : p.inherit above (markRoot parent s) =
        p.copyKeys above (markBelowCall above (markRoot parent s)) := by
      refine if_neg ?_
      rw [hfoot.sameSpan.kind_eq]
      exact hnot above habove
    change (p.inherit above (markRoot parent s)).attributes.get? _ = _
    rw [hgiven]
    refine hfoot.get?_eq _ ?_
    simp only [List.mem_append, List.mem_singleton, not_or]
    exact ⟨by decide, by decide, hp⟩

/-! ## The data -/

/-- A local root gives its own data, unless it serves a request. -/
theorem value_data_of_root (p : Processor) (parent? : Option Span) {s : Span}
    (hs : s.isLocalRoot = true) (hk : s.kind ≠ .server) :
    (p.data parent? s).value = (p.extract s).value := by
  simp [data, hs, hk]

/-- Another span is given the data of its parent: taken from it now if it serves a request, and what
it carries if it does not. -/
theorem value_data_of_child (p : Processor) (parent : Span) {s : Span}
    (hs : s.isLocalRoot = false) :
    (p.data (some parent) s).value =
      if parent.kind = .server then (p.extract parent).value
      else parent.attributes.get? p.key := by
  by_cases hk : parent.kind = .server <;> simp [data, hs, hk]

/-- The data is read back, if the span takes it. -/
theorem get?_key_onStart {p : Processor} {parent : Parent} {s : Span} {value : Value}
    (hdata : (p.data parent.span? (p.given parent s)).value = some value) (hkey : p.key ≠ "")
    (hvalue : value.recordable = true)
    (hroom : (p.given parent s).attributes.hasRoom p.key = true) :
    (p.onStart parent s).value.attributes.get? p.key = some value := by
  rw [value_onStart, hdata]
  exact (p.given parent s).attributes.get?_record_self hkey hvalue hroom

end Propagation.Processor

end SpanMetrics
