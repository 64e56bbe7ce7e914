import SpanMetrics.Proofs.Recording
import SpanMetrics.Proofs.Tracer.Parentage

/-!
# SpanMetrics.Proofs.Propagation.Copies — attributes that internal spans hand down

When a span starts below an internal one, the chosen attributes of that one are copied, over those
that the new span was given itself. So along internal spans the value of the topmost one wins, and a
span of any other kind lets nothing through.

* `Processor.get?_copyKeys` — one copy: the parent comes first, and the span itself second.
* `Birth.get?_initial_of_copies` — one start.
* `Line.first_start_value_wins` — which value the last span of a line has, and from which span.
-/

namespace SpanMetrics

namespace Attributes

/-- Attributes that differ under certain keys alone are no more than these keys make them. -/
theorem size_le_of_get?_eq {attributes attributes' : Attributes} {keys : List String}
    (h : ∀ key, key ∉ keys → attributes'.get? key = attributes.get? key) :
    attributes'.size ≤ attributes.size + keys.dedup.length := by
  have hsub : attributes'.entries.map (·.1) ⊆ attributes.entries.map (·.1) ++ keys.dedup := by
    intro key hkey
    rw [List.mem_append, List.mem_dedup]
    by_cases hmem : key ∈ keys
    · exact .inr hmem
    · -- a key that was not written was there before
      left
      rw [mem_keys_iff] at hkey ⊢
      change (attributes'.get? key).isSome = true at hkey
      rw [h key hmem] at hkey
      exact hkey
  have hle := (List.subperm_of_subset attributes'.nodup hsub).length_le
  simpa [size] using hle

end Attributes

namespace Propagation.Processor

/-! ## Copying -/

variable {p : Processor} {parent s : Span} {key : String}

/-- What is the parent's already stays so. -/
theorem get?_copy_of_eq (h : s.attributes.get? key = parent.attributes.get? key) (k : String) :
    (copy parent s k).attributes.get? key = parent.attributes.get? key := by
  unfold copy
  split
  · next value hvalue =>
    by_cases hk : key = k
    · subst hk
      -- recorded again or not, the value is the same
      change (s.attributes.record key value).get? key = _
      unfold Attributes.record
      split
      · simp [hvalue]
      · exact h
    · exact (s.attributes.get?_record_of_ne value hk).trans h
  · exact h

theorem get?_foldl_copy_of_eq (keys : List String)
    (h : s.attributes.get? key = parent.attributes.get? key) :
    (keys.foldl (copy parent) s).attributes.get? key = parent.attributes.get? key := by
  induction keys generalizing s with
  | nil => exact h
  | cons k keys ih => exact ih (get?_copy_of_eq h k)

/-- A key that the parent lacks is not copied. -/
theorem get?_foldl_copy_of_none (keys : List String) (h : parent.attributes.get? key = none) :
    (keys.foldl (copy parent) s).attributes.get? key = s.attributes.get? key := by
  induction keys generalizing s with
  | nil => rfl
  | cons k keys ih =>
    rw [List.foldl_cons, ih]
    by_cases hk : key = k
    · subst hk
      simp [copy, h]
    · exact (footprint_copy parent s k).get?_eq key (by simpa using hk)

/-- A key that the parent has is copied, if there is room for all the keys. -/
theorem get?_foldl_copy_of_some {keys : List String} (hmem : key ∈ keys) (hkey : key ≠ "")
    {value : Value} (hvalue : value.recordable = true)
    (h : parent.attributes.get? key = some value)
    (hroom : s.attributes.size + keys.dedup.length < Attributes.limit) :
    (keys.foldl (copy parent) s).attributes.get? key = some value := by
  obtain ⟨before, after, rfl⟩ := List.append_of_mem hmem
  -- the span when the key comes up, with the keys before it copied
  have hsize : (before.foldl (copy parent) s).attributes.size < Attributes.limit := by
    have hfoot := footprint_foldl_copy parent before s
    have hle := Attributes.size_le_of_get?_eq hfoot.get?_eq
    have hbefore : before.dedup.length ≤ (before ++ key :: after).dedup.length := by
      refine (List.subperm_of_subset (List.nodup_dedup before) ?_).length_le
      intro k hk
      rw [List.mem_dedup] at hk ⊢
      exact List.mem_append_left _ hk
    omega
  have htaken : (copy parent (before.foldl (copy parent) s) key).attributes.get? key =
      parent.attributes.get? key := by
    rw [h]
    unfold copy
    rw [h]
    exact Attributes.get?_record_self _ hkey hvalue (Attributes.hasRoom_iff.2 (.inr hsize))
  rw [List.foldl_append, List.foldl_cons, get?_foldl_copy_of_eq after htaken, h]

/-- One copy: the parent comes first if it is internal, and the span itself second. -/
theorem get?_copyKeys (hmem : key ∈ p.keys) (hkey : key ≠ "")
    (hparent : ∀ value, parent.attributes.get? key = some value → value.recordable = true)
    (hroom : s.attributes.size + p.keys.dedup.length < Attributes.limit) :
    (p.copyKeys parent s).attributes.get? key =
      if parent.kind = .internal then (parent.attributes.get? key).or (s.attributes.get? key)
      else s.attributes.get? key := by
  unfold copyKeys
  by_cases hkind : parent.kind = .internal
  · rw [if_pos hkind, if_pos hkind]
    cases h : parent.attributes.get? key with
    | none => rw [get?_foldl_copy_of_none p.keys h, Option.none_or]
    | some value =>
      rw [get?_foldl_copy_of_some hmem hkey (hparent value h) h hroom, Option.some_or]
  · rw [if_neg hkind, if_neg hkind]

/-! ## One start -/

/-- The keys that a start writes for purposes of its own. -/
def reservedKeys : List String :=
  [Key.isLocalRoot, Key.sdkDescendant, Key.consumerParentKind]

theorem notMem_reservedKeys_iff :
    key ∉ reservedKeys ↔
      key ≠ Key.isLocalRoot ∧ key ≠ Key.sdkDescendant ∧ key ≠ Key.consumerParentKind := by
  simp [reservedKeys]

/-- A span that is started under no span of the process is given nothing under other keys. -/
theorem get?_onStart_of_no_span {above : Parent} (habove : above.span? = none)
    (hreserved : key ∉ reservedKeys) (hdata : key ≠ p.key) :
    (p.onStart above s).value.attributes.get? key = s.attributes.get? key := by
  obtain ⟨hflag, -, -⟩ := notMem_reservedKeys_iff.1 hreserved
  rw [(footprint_data p above s).get?_eq key (by simpa using hdata), given_of_no_span habove]
  exact (footprint_markRoot above s).get?_eq key (by simpa using hflag)

/-- A span below another starts with the value of that one if it is internal and has one, and
otherwise with its own. -/
theorem get?_onStart_of_span (hmem : key ∈ p.keys) (hkey : key ≠ "")
    (hreserved : key ∉ reservedKeys) (hdata : key ≠ p.key)
    (hparent : ∀ value, parent.attributes.get? key = some value → value.recordable = true)
    (hroom : s.attributes.size + 4 + p.keys.dedup.length ≤ Attributes.limit) :
    (p.onStart (.span parent) s).value.attributes.get? key =
      if parent.kind = .internal then (parent.attributes.get? key).or (s.attributes.get? key)
      else s.attributes.get? key := by
  obtain ⟨hflag, hbelow, hpair⟩ := notMem_reservedKeys_iff.1 hreserved
  -- what is written before the copies: the flag and the mark of a call
  have hbefore := (footprint_markRoot (.span parent) s).trans
    (footprint_markBelowCall parent (markRoot (.span parent) s))
  have hsize := hbefore.size_le
  rw [List.length_append, List.length_singleton, List.length_singleton] at hsize
  have hroom' : (markBelowCall parent (markRoot (.span parent) s)).attributes.size +
      p.keys.dedup.length < Attributes.limit := by
    omega
  have hcopy := get?_copyKeys hmem hkey hparent hroom'
  rw [hbefore.get?_eq key (by simp [hflag, hbelow])] at hcopy
  -- what is written after them: the mark of a pair and the data
  rw [(footprint_data p (.span parent) s).get?_eq key (by simpa using hdata)]
  change (markPair parent (p.copyKeys parent _)).attributes.get? key = _
  rw [(footprint_markPair parent _).get?_eq key (by simpa using hpair)]
  exact hcopy

end Propagation.Processor

open Propagation

namespace Run.Birth

variable [Runtime] {r : Run} {b above : Birth r} {key : String}

/-- The span can be given an attribute that is copied: its processor copies the key, for no purpose
of its own, and the start attributes that the span took leave room for all that the processor
writes. -/
structure Copies (b : Birth r) (key : String) : Prop where
  key_mem : key ∈ b.processor.keys
  key_ne_empty : key ≠ ""
  key_ne_data : key ≠ b.processor.key
  key_notMem_reserved : key ∉ Processor.reservedKeys
  room : b.fresh.attributes.size + 4 + b.processor.keys.dedup.length ≤ Attributes.limit

/-- The value that the span takes from its own start attributes. -/
def startValue? (b : Birth r) (key : String) : Option Value :=
  b.fresh.attributes.get? key

theorem recordable_startValue? {value : Value} (h : b.startValue? key = some value) :
    value.recordable = true :=
  (Attributes.recorded_empty.recordAll b.start.attributes key value h).2

/-- A span that is started under no span of the process starts with its own value. -/
theorem get?_initial_of_no_span (h : b.Copies key) (hparent : b.parent.span? = none) :
    b.initial.attributes.get? key = b.startValue? key :=
  Processor.get?_onStart_of_no_span hparent h.key_notMem_reserved h.key_ne_data

/-- A child starts with the value of its parent if that is internal and has one, and otherwise with
its own. -/
theorem get?_initial_of_copies (h : b.Copies key) (hchild : b.ChildOf above)
    (hkey : above.Unwritten key b.position)
    (habove : ∀ value, above.initial.attributes.get? key = some value → value.recordable = true) :
    b.initial.attributes.get? key =
      if above.start.kind = .internal then
        (above.initial.attributes.get? key).or (b.startValue? key)
      else b.startValue? key := by
  obtain ⟨s, hparent, hs⟩ := hchild.exists_span
  have hkind : s.kind = above.start.kind := (sameSpan_of_span? hchild.named hs).kind_eq
  -- the parent still has under the key what it started with
  have hget := get?_of_unwritten hchild.named hkey hs
  have hstart := Processor.get?_onStart_of_span h.key_mem h.key_ne_empty h.key_notMem_reserved
    h.key_ne_data (hget ▸ habove) h.room
  unfold initial
  rw [hparent, hstart, hkind, hget]
  rfl

end Run.Birth

/-! ## A line of starts -/

namespace Line

section

variable [Runtime] {r : Run} {n m : Nat} {key : String}

/-- The value of the first span, from the `m`-th on, that has one of its own. -/
def firstStartValue? (l : Line r n) (key : String) (m count : Nat) : Option Value :=
  (List.range' m count).findSome? fun i => (l.birth i).startValue? key

theorem firstStartValue?_succ (l : Line r n) (key : String) (m count : Nat) :
    l.firstStartValue? key m (count + 1) =
      (l.firstStartValue? key m count).or ((l.birth (m + count)).startValue? key) := by
  unfold firstStartValue?
  rw [List.range'_concat, List.findSome?_append, Nat.one_mul]
  simp

theorem exists_of_firstStartValue? {l : Line r n} {count : Nat} {value : Value}
    (h : l.firstStartValue? key m count = some value) :
    ∃ i, m ≤ i ∧ i < m + count ∧ (l.birth i).startValue? key = some value := by
  obtain ⟨i, hi, hvalue⟩ := List.exists_of_findSome?_eq_some h
  obtain ⟨hmi, hlt⟩ := List.mem_range'_1.1 hi
  exact ⟨i, hmi, hlt, hvalue⟩

/-- The line starts under no span of the process, and its spans can be given the attribute; no step
writes it on a span before the line goes on below. -/
structure CopiesDown (l : Line r n) (key : String) : Prop where
  first : (l.birth 0).parent.span? = none
  copies : ∀ i ≤ n, (l.birth i).Copies key
  unwritten : ∀ i < n, (l.birth i).Unwritten key (l.birth (i + 1)).position

/-- The spans from the `m`-th on, up to the last but one, are internal, and the run of them does not
begin earlier. -/
structure InternalFrom (l : Line r n) (m : Nat) : Prop where
  internal : ∀ i, m ≤ i → i < n → (l.birth i).start.kind = .internal
  least : ∀ j, (∀ i, j ≤ i → i < n → (l.birth i).start.kind = .internal) → m ≤ j

namespace InternalFrom

variable {l : Line r n}

theorem le (h : l.InternalFrom m) : m ≤ n :=
  h.least n fun _ hni hin => absurd hin (Nat.not_lt.2 hni)

/-- The span before the run, if there is one, is not internal. -/
theorem kind_before (h : l.InternalFrom (m + 1)) : (l.birth m).start.kind ≠ .internal := by
  intro hkind
  have hle : m + 1 ≤ m := by
    refine h.least m ?_
    intro i hmi hin
    rcases Nat.eq_or_lt_of_le hmi with rfl | hlt
    · exact hkind
    · exact h.internal i hlt hin
  omega

end InternalFrom

namespace CopiesDown

variable {l : Line r n}

/-- Whatever a span of the line has under the key, the next one can take it. -/
theorem recordable_initial (h : l.CopiesDown key) {i : Nat} (hin : i ≤ n) :
    ∀ value, (l.birth i).initial.attributes.get? key = some value → value.recordable = true := by
  induction i with
  | zero =>
    intro value hvalue
    rw [Run.Birth.get?_initial_of_no_span (h.copies 0 hin) h.first] at hvalue
    exact Run.Birth.recordable_startValue? hvalue
  | succ i ih =>
    have habove := ih (Nat.le_of_lt hin)
    intro value hvalue
    rw [Run.Birth.get?_initial_of_copies (h.copies (i + 1) hin) (l.child i hin)
      (h.unwritten i hin) habove] at hvalue
    split at hvalue
    · -- the value is the parent's or the span's own
      rcases Option.or_eq_some_iff.1 hvalue with hparent | ⟨-, hown⟩
      · exact habove value hparent
      · exact Run.Birth.recordable_startValue? hown
    · exact Run.Birth.recordable_startValue? hvalue

/-- One start down the line. -/
theorem get?_initial_succ (h : l.CopiesDown key) {i : Nat} (hin : i < n) :
    (l.birth (i + 1)).initial.attributes.get? key =
      if (l.birth i).start.kind = .internal then
        ((l.birth i).initial.attributes.get? key).or ((l.birth (i + 1)).startValue? key)
      else (l.birth (i + 1)).startValue? key :=
  Run.Birth.get?_initial_of_copies (h.copies (i + 1) hin) (l.child i hin) (h.unwritten i hin)
    (h.recordable_initial (Nat.le_of_lt hin))

/-- Where the internal spans begin, nothing is handed down. -/
theorem get?_initial_of_internalFrom (h : l.CopiesDown key) (hm : l.InternalFrom m) :
    (l.birth m).initial.attributes.get? key = (l.birth m).startValue? key := by
  cases m with
  | zero => exact Run.Birth.get?_initial_of_no_span (h.copies 0 (Nat.zero_le n)) h.first
  | succ m => rw [h.get?_initial_succ hm.le, if_neg hm.kind_before]

/-- Down the internal spans, each span has the first value from where they begin. -/
theorem get?_initial_eq_firstStartValue? (h : l.CopiesDown key) (hm : l.InternalFrom m)
    {count : Nat} (hle : m + count ≤ n) :
    (l.birth (m + count)).initial.attributes.get? key =
      l.firstStartValue? key m (count + 1) := by
  -- on the number of spans since the first of the internal ones
  induction count with
  | zero =>
    have hnone : l.firstStartValue? key m 0 = none := rfl
    rw [firstStartValue?_succ, hnone, Option.none_or]
    exact h.get?_initial_of_internalFrom hm
  | succ count ih =>
    have hlt : m + count < n := hle
    rw [firstStartValue?_succ, ← ih (Nat.le_of_lt hlt)]
    change (l.birth (m + count + 1)).initial.attributes.get? key = _
    rw [h.get?_initial_succ hlt, if_pos (hm.internal _ (Nat.le_add_right m count) hlt)]
    rfl

end CopiesDown

/-- The topmost of the internal spans above a span, and the spans between, come before the span
itself: it has the first value that one of them took from its own start attributes, and none if none
of them took one. So nothing of the spans from one that is not internal upwards gets below it. -/
theorem first_start_value_wins (l : Line r n) (h : l.CopiesDown key) (hm : l.InternalFrom m) :
    ∃ last, (l.birth n).span? ((l.birth n).position + 1) = some last ∧
      last.attributes.get? key = l.firstStartValue? key m (n + 1 - m) ∧
      ∀ j < n, (l.birth j).start.kind ≠ .internal → ∀ value,
        last.attributes.get? key = some value →
          ∃ i, j < i ∧ i ≤ n ∧ (l.birth i).startValue? key = some value := by
  have hle := hm.le
  have hcount : m + (n - m) ≤ n := by omega
  have hfirst := h.get?_initial_eq_firstStartValue? hm hcount
  rw [Nat.add_sub_cancel' hle, show n - m + 1 = n + 1 - m by omega] at hfirst
  refine ⟨(l.birth n).initial, (l.birth n).span?_succ_position, hfirst, ?_⟩
  intro j hj hkind value hvalue
  rw [hfirst] at hvalue
  obtain ⟨i, hmi, hlt, hown⟩ := exists_of_firstStartValue? hvalue
  -- a span that is not internal stands above the run
  have hjm : j < m := by
    by_contra hmj
    exact hkind (hm.internal j (Nat.le_of_not_lt hmj) hj)
  exact ⟨i, by omega, by omega, hown⟩

end

/-- A request of one tenant, below which the work of another calls out on behalf of a third. -/
def tenancy : Run where
  origin := .new "shop"
  steps :=
    [.install .name "app.operation" ["app.tenant", "app.plan", "app.tenant"],
     .start ⟨"request", "POST", .server, [("app.tenant", .string "gold")], .none, false⟩,
     .start ⟨"work", "price", .internal, [], .span "request", false⟩,
     .setAttribute "work" "app.plan" (.string "trial"),
     .start ⟨"step", "quote", .internal, [("app.tenant", .string "blue")], .span "work", false⟩,
     .start ⟨"call", "GET", .client, [("app.tenant", .string "red")], .span "step", false⟩]

def tenancyLine : Line tenancy 3 where
  birth
    | 0 => (tenancy.birthAt? 1).get (by decide)
    | 1 => (tenancy.birthAt? 2).get (by decide)
    | 2 => (tenancy.birthAt? 4).get (by decide)
    | _ => (tenancy.birthAt? 5).get (by decide)
  child
    | 0, _ => ⟨by decide, by rfl, Run.Birth.named_of_distinct (by decide) _ (by decide)⟩
    | 1, _ => ⟨by decide, by rfl, Run.Birth.named_of_distinct (by decide) _ (by decide)⟩
    | 2, _ => ⟨by decide, by rfl, Run.Birth.named_of_distinct (by decide) _ (by decide)⟩

/-- In `tenancy` the call carries the tenant of the step above it: neither its own nor the one of the
request. -/
theorem first_start_value_wins_tenancy :
    ∃ last, (tenancyLine.birth 3).span? 6 = some last ∧
      last.attributes.get? "app.tenant" = some (.string "blue") := by
  have hcopies : ∀ i ≤ 3, (tenancyLine.birth i).Copies "app.tenant"
    | 0, _ => ⟨by decide, by decide, by decide, by decide, by decide⟩
    | 1, _ => ⟨by decide, by decide, by decide, by decide, by decide⟩
    | 2, _ => ⟨by decide, by decide, by decide, by decide, by decide⟩
    | 3, _ => ⟨by decide, by decide, by decide, by decide, by decide⟩
  have hdown : tenancyLine.CopiesDown "app.tenant" := by
    refine ⟨rfl, hcopies, ?_⟩
    intro i _
    exact Run.Birth.unwritten_of_spares (by decide) _ _
  have hinternal : tenancyLine.InternalFrom 1 := by
    constructor
    · intro i hi hin
      have hcases : i = 1 ∨ i = 2 := by omega
      rcases hcases with rfl | rfl <;> rfl
    · intro j hall
      by_contra hj
      have hserver := hall 0 (by omega) (by decide)
      revert hserver
      decide
  obtain ⟨last, hlast, hvalue, -⟩ := first_start_value_wins tenancyLine hdown hinternal
  exact ⟨last, hlast, hvalue.trans rfl⟩

end Line

end SpanMetrics
