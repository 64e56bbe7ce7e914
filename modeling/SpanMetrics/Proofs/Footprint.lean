import SpanMetrics.Recording
import SpanMetrics.Span.Class

/-!
# SpanMetrics.Proofs.Footprint — what recording attributes changes of a span

Recording leaves the identity of a span alone, and every attribute under another key.

* `Footprint.trans` — footprints compose, so a function that records in several places has the keys
  of all of them as its footprint.
* `Span.isLocalRoot_congr` — which data decides whether a span is a local root.
-/

namespace SpanMetrics

theorem Attributes.hasRoom_iff {attributes : Attributes} {key : String} :
    attributes.hasRoom key = true ↔ attributes.has key = true ∨ attributes.size < limit := by
  simp [hasRoom]

namespace Span

/-- Two readings of one span: what is fixed when a span starts agrees. -/
structure SameSpan (s s' : Span) : Prop where
  id_eq : s.id = s'.id
  kind_eq : s.kind = s'.kind
  parentId_eq : s.parentId = s'.parentId
  scope_eq : s.scope = s'.scope

theorem SameSpan.refl (s : Span) : s.SameSpan s :=
  ⟨rfl, rfl, rfl, rfl⟩

theorem SameSpan.trans {s₁ s₂ s₃ : Span} (h : s₁.SameSpan s₂) (h' : s₂.SameSpan s₃) :
    s₁.SameSpan s₃ :=
  ⟨h.id_eq.trans h'.id_eq, h.kind_eq.trans h'.kind_eq, h.parentId_eq.trans h'.parentId_eq,
    h.scope_eq.trans h'.scope_eq⟩

/-- The span `s'` is the span `s` with attributes recorded under none but the given keys. -/
structure Footprint (keys : List String) (s s' : Span) : Prop where
  sameSpan : s'.SameSpan s
  name_eq : s'.name = s.name
  get?_eq : ∀ key, key ∉ keys → s'.attributes.get? key = s.attributes.get? key
  size_le : s'.attributes.size ≤ s.attributes.size + keys.length

theorem Footprint.refl (keys : List String) (s : Span) : Footprint keys s s :=
  ⟨.refl s, rfl, fun _ _ => rfl, Nat.le_add_right _ _⟩

theorem footprint_record (s : Span) (key : String) (value : Value) :
    Footprint [key] s (s.record key value) where
  sameSpan := ⟨rfl, rfl, rfl, rfl⟩
  name_eq := rfl
  get?_eq k hk := s.attributes.get?_record_of_ne value (by simpa using hk)
  size_le := s.attributes.size_record_le key value

/-- A span without room for a key does not take it. -/
theorem record_of_full {s : Span} {key : String} (h : s.attributes.hasRoom key = false)
    (value : Value) : s.record key value = s := by
  have hsame : s.attributes.record key value = s.attributes := by
    unfold Attributes.record
    exact if_neg (by simp [h])
  unfold record
  rw [hsame]

/-- A span without room for a key does not have it. -/
theorem get?_of_full {s : Span} {key : String} (h : s.attributes.hasRoom key = false) :
    s.attributes.get? key = none := by
  rw [Attributes.hasRoom, Bool.or_eq_false_iff] at h
  simpa [Attributes.has] using h.1

theorem Footprint.trans {keys keys' : List String} {s s' s'' : Span} (h : Footprint keys s s')
    (h' : Footprint keys' s' s'') : Footprint (keys ++ keys') s s'' where
  sameSpan := h'.sameSpan.trans h.sameSpan
  name_eq := h'.name_eq.trans h.name_eq
  get?_eq key hkey := by
    rw [List.mem_append, not_or] at hkey
    rw [h'.get?_eq key hkey.2, h.get?_eq key hkey.1]
  size_le := by
    have hs := h.size_le
    have hs' := h'.size_le
    rw [List.length_append]
    omega

/-- Whether a span is a local root is decided by its flag and its parent id. -/
theorem isLocalRoot_congr {s s' : Span}
    (hflag : s.attributes.get? Key.isLocalRoot = s'.attributes.get? Key.isLocalRoot)
    (hparent : s.parentId = s'.parentId) : s.isLocalRoot = s'.isLocalRoot := by
  simp only [isLocalRoot, localRootFlag?, hflag, hparent]

theorem isLocalRoot_of_flag {s : Span} {b : Bool}
    (hflag : s.attributes.get? Key.isLocalRoot = some (.bool b)) : s.isLocalRoot = b := by
  simp [isLocalRoot, localRootFlag?, hflag]

end Span

end SpanMetrics
