import SpanMetrics.Proofs.Propagation.Copies

/-!
# SpanMetrics.Proofs.Propagation.Gifts — what a span is given when it starts

Everything that a processor writes at a start, except the data of the line, is one list of attributes:
the flag of local roots, the mark below a call, the copies from an internal parent and the mark of a pair,
in this order. If no key serves two purposes, then each key is given one value at most, and it is read
back if there is room for the list.

* `Processor.gifts`, `Processor.attributes_given` — the list, and that it is all that is written.
* `Processor.mem_gifts_iff` — what the list holds, purpose by purpose.
* `Processor.get?_onStart_of_gift` — what is read back after the start.
* `Processor.mem_gifts_call_iff`, `Processor.mem_gifts_pair_iff`, `Processor.mem_gifts_copied_iff` — when
  the key of a purpose is given its value.
-/

namespace SpanMetrics.Propagation.Processor

open SpanMetrics.Attributes (Takes)

variable {p : Processor} {parent : Parent} {above s : Span} {key : String} {value : Value}

/-! ## The list -/

/-- The mark below a call through an AWS client. -/
def callGifts (above : Span) : List (String × Value) :=
  if above.isAwsCall then [(Key.sdkDescendant, .string "true")] else []

/-- The copies from an internal parent. -/
def copyGifts (p : Processor) (above : Span) : List (String × Value) :=
  if above.kind = .internal then
    p.keys.filterMap fun key => (above.attributes.get? key).map (key, ·)
  else []

/-- The mark of a consumer below a consumer. -/
def pairGifts (above s : Span) : List (String × Value) :=
  if s.kind = .consumer ∧ above.kind = .consumer then
    [(Key.consumerParentKind, .string Kind.consumer.name)]
  else []

/-- What a span is given at its start, except the data. -/
def gifts (p : Processor) (parent : Parent) (s : Span) : List (String × Value) :=
  (Key.isLocalRoot, .bool (s.parentId.isNone || !parent.isLocal)) ::
    (parent.span?.map fun above =>
      callGifts above ++ (p.copyGifts above ++ pairGifts above s)).getD []

theorem mem_callGifts_iff :
    (key, value) ∈ callGifts above ↔
      above.isAwsCall = true ∧ key = Key.sdkDescendant ∧ value = .string "true" := by
  unfold callGifts
  split <;> simp_all

theorem mem_copyGifts_iff :
    (key, value) ∈ p.copyGifts above ↔
      above.kind = .internal ∧ key ∈ p.keys ∧ above.attributes.get? key = some value := by
  unfold copyGifts
  split
  · next hkind =>
    rw [List.mem_filterMap]
    constructor
    · rintro ⟨k, hk, he⟩
      obtain ⟨v, hv, he⟩ := Option.map_eq_some_iff.1 he
      cases he
      exact ⟨hkind, hk, hv⟩
    · rintro ⟨-, hk, hv⟩
      exact ⟨key, hk, by rw [hv]; rfl⟩
  · next hkind => simp [hkind]

theorem mem_pairGifts_iff :
    (key, value) ∈ pairGifts above s ↔
      (s.kind = .consumer ∧ above.kind = .consumer) ∧
        key = Key.consumerParentKind ∧ value = .string Kind.consumer.name := by
  unfold pairGifts
  split <;> simp_all

/-- The list holds the flag, and what a span of the process gives for any purpose. -/
theorem mem_gifts_iff :
    (key, value) ∈ p.gifts parent s ↔
      (key = Key.isLocalRoot ∧ value = .bool (s.parentId.isNone || !parent.isLocal)) ∨
        ∃ above, parent.span? = some above ∧
          ((above.isAwsCall = true ∧ key = Key.sdkDescendant ∧ value = .string "true") ∨
            (above.kind = .internal ∧ key ∈ p.keys ∧ above.attributes.get? key = some value) ∨
            ((s.kind = .consumer ∧ above.kind = .consumer) ∧
              key = Key.consumerParentKind ∧ value = .string Kind.consumer.name)) := by
  rw [gifts, List.mem_cons, Prod.mk.injEq]
  cases parent.span? with
  | none => simp
  | some above =>
    simp [mem_callGifts_iff, mem_copyGifts_iff, mem_pairGifts_iff]

/-- A span takes what it is given, if the span above it holds nothing but what a span takes. -/
theorem takes_of_mem_gifts
    (hparent : ∀ above, parent.span? = some above → above.attributes.Recorded)
    (h : (key, value) ∈ p.gifts parent s) : Takes (key, value) := by
  rcases mem_gifts_iff.1 h with ⟨rfl, rfl⟩ | ⟨above, habove, hgift⟩
  · exact ⟨show Key.isLocalRoot ≠ "" by decide, rfl⟩
  · rcases hgift with ⟨-, rfl, rfl⟩ | ⟨-, -, hvalue⟩ | ⟨-, rfl, rfl⟩
    · exact ⟨by decide, rfl⟩
    · exact hparent above habove key value hvalue
    · exact ⟨by decide, rfl⟩

/-! ## All that is written -/

theorem attributes_markBelowCall (above s : Span) :
    (markBelowCall above s).attributes = s.attributes.recordAll (callGifts above) := by
  unfold markBelowCall callGifts
  split <;> rfl

theorem attributes_copyKeys (p : Processor) (above s : Span) :
    (p.copyKeys above s).attributes = s.attributes.recordAll (p.copyGifts above) := by
  unfold copyKeys copyGifts
  split
  · -- on the keys; the span changes along the list
    generalize p.keys = keys
    induction keys generalizing s with
    | nil => rfl
    | cons key keys ih =>
      rw [List.foldl_cons, ih, List.filterMap_cons, copy]
      cases above.attributes.get? key <;> rfl
  · rfl

theorem attributes_markPair (above s : Span) :
    (markPair above s).attributes = s.attributes.recordAll (pairGifts above s) := by
  unfold markPair pairGifts
  split <;> rfl

/-- The mark of a pair depends on the kinds alone. -/
theorem pairGifts_congr {s s' : Span} (h : s.SameSpan s') :
    pairGifts above s = pairGifts above s' := by
  unfold pairGifts
  rw [h.kind_eq]

/-- What a span is given is recorded in order, and nothing else is. -/
theorem attributes_given (p : Processor) (parent : Parent) (s : Span) :
    (p.given parent s).attributes = s.attributes.recordAll (p.gifts parent s) := by
  unfold given gifts
  cases parent.span? with
  | none => rfl
  | some above =>
    -- the mark of a pair looks at the span after the other writes, which leave its kind alone
    have hfoot := (footprint_markRoot parent s).trans
      ((footprint_markBelowCall above _).trans (footprint_copyKeys p above _))
    rw [Option.map_some, Option.getD_some, Option.map_some, Option.getD_some, inherit,
      attributes_markPair, attributes_copyKeys, attributes_markBelowCall,
      pairGifts_congr hfoot.sameSpan, Attributes.recordAll_cons, Attributes.recordAll_append,
      Attributes.recordAll_append]
    rfl

/-! ## What is read back -/

/-- A key that is given one value at most has it then, and otherwise what it had before. -/
theorem get?_given_of_gift
    (hparent : ∀ above, parent.span? = some above → above.attributes.Recorded)
    (hroom : s.attributes.HasRoomFor (p.gifts parent s)) {gift? : Option Value}
    (hgift : ∀ value, (key, value) ∈ p.gifts parent s ↔ gift? = some value) :
    (p.given parent s).attributes.get? key = gift?.or (s.attributes.get? key) := by
  rw [attributes_given]
  cases gift? with
  | none =>
    rw [Option.none_or]
    apply Attributes.get?_recordAll_of_notMem
    intro hmem
    obtain ⟨⟨k, value⟩, he, rfl⟩ := List.mem_map.1 hmem
    cases (hgift value).1 he
  | some value =>
    have hmem : (key, value) ∈ p.gifts parent s := (hgift value).2 rfl
    rw [Option.some_or]
    apply Attributes.get?_recordAll_of_mem hroom hmem (takes_of_mem_gifts hparent hmem)
    intro value' hmem'
    exact (Option.some.inj ((hgift value').1 hmem')).symm

/-- The data is written under its own key. -/
theorem get?_onStart_of_gift
    (hparent : ∀ above, parent.span? = some above → above.attributes.Recorded)
    (hroom : s.attributes.HasRoomFor (p.gifts parent s)) {gift? : Option Value}
    (hgift : ∀ value, (key, value) ∈ p.gifts parent s ↔ gift? = some value)
    (hdata : key ≠ p.key) :
    (p.onStart parent s).value.attributes.get? key = gift?.or (s.attributes.get? key) := by
  rw [(footprint_data p parent s).get?_eq key (by simpa using hdata)]
  exact get?_given_of_gift hparent hroom hgift

/-- No key serves two purposes. -/
structure KeysApart (p : Processor) : Prop where
  key_notMem_reserved : p.key ∉ reservedKeys
  key_notMem_keys : p.key ∉ p.keys
  keys_notMem_reserved : ∀ key ∈ p.keys, key ∉ reservedKeys

namespace KeysApart

/-- A span below a call through an AWS client is marked, and no other span is. -/
theorem mem_gifts_call_iff (hkeys : p.KeysApart) :
    (Key.sdkDescendant, value) ∈ p.gifts parent s ↔
      (if parent.span?.any Span.isAwsCall then some (.string "true") else none) = some value := by
  have hmem : Key.sdkDescendant ∉ p.keys := by
    intro hmem
    exact hkeys.keys_notMem_reserved _ hmem (by decide)
  have hflag : Key.sdkDescendant ≠ Key.isLocalRoot := by decide
  have hpair : Key.sdkDescendant ≠ Key.consumerParentKind := by decide
  rw [mem_gifts_iff]
  cases parent.span? with
  | none => simp [hflag]
  | some above =>
    by_cases hcall : above.isAwsCall = true <;>
      simp [hmem, hflag, hpair, hcall, @eq_comm _ value]

/-- A consumer below a consumer is marked, and no other span is. -/
theorem mem_gifts_pair_iff (hkeys : p.KeysApart) :
    (Key.consumerParentKind, value) ∈ p.gifts parent s ↔
      (if s.kind = .consumer ∧ parent.span?.any (·.kind == .consumer) then
        some (.string "CONSUMER") else none) = some value := by
  have hmem : Key.consumerParentKind ∉ p.keys := by
    intro hmem
    exact hkeys.keys_notMem_reserved _ hmem (by decide)
  have hflag : Key.consumerParentKind ≠ Key.isLocalRoot := by decide
  have hcall : Key.consumerParentKind ≠ Key.sdkDescendant := by decide
  rw [mem_gifts_iff]
  cases parent.span? with
  | none => simp [hflag]
  | some above =>
    by_cases hkinds : s.kind = .consumer ∧ above.kind = .consumer <;>
      simp [hmem, hflag, hcall, hkinds, Kind.name, @eq_comm _ value]

/-- An attribute that is copied is the one of an internal parent. -/
theorem mem_gifts_copied_iff (hkeys : p.KeysApart) (hmem : key ∈ p.keys) :
    (key, value) ∈ p.gifts parent s ↔
      ((parent.span?.filter (·.kind == .internal)).bind (·.attributes.get? key)) =
        some value := by
  obtain ⟨hflag, hcall, hpair⟩ := notMem_reservedKeys_iff.1 (hkeys.keys_notMem_reserved key hmem)
  rw [mem_gifts_iff]
  cases parent.span? with
  | none => simp [hflag]
  | some above =>
    by_cases hkind : above.kind = .internal <;>
      simp [hmem, hflag, hcall, hpair, hkind, Option.filter]

end KeysApart

end SpanMetrics.Propagation.Processor
