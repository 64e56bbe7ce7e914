import SpanMetrics.Proofs.Text.Fields
import SpanMetrics.Route

/-!
# SpanMetrics.Proofs.Route — the route of a request target

* `ofTarget_slash` — the route of a path is its first segment.
* `ofTarget_append` — what follows the path does not count.
* `ofTarget_query` — but the query of a target without a slash is taken for its first segment.
-/

namespace SpanMetrics.Route

open Text (head?_splitOnP two_le_length_splitOnP)

/-- The route of a path is its first segment. -/
theorem ofTarget_slash (rest : List Char) :
    ofTarget (.ofList ('/' :: rest)) = "/" ++ .ofList (rest.takeWhile (!endsSegment ·)) := by
  have hends : endsSegment '/' = true := by decide
  have hhead := head?_splitOnP endsSegment rest
  obtain ⟨first, others, hsplit⟩ := List.exists_cons_of_ne_nil
    (List.splitOnP_ne_nil endsSegment rest)
  rw [hsplit, List.head?_cons, Option.some.injEq] at hhead
  have hsegments : ('/' :: rest).splitOnP endsSegment = [] :: first :: others := by
    rw [List.splitOnP_cons_eq_if_modifyHead, if_pos hends, hsplit]
  simp [ofTarget, segment?, hsegments, hhead]

/-- What follows the path does not count. -/
theorem ofTarget_append {path tail : String} (hpath : path.toList.head? = some '/')
    (htail : ∀ c, tail.toList.head? = some c → endsSegment c = true) :
    ofTarget (path ++ tail) = ofTarget path := by
  obtain ⟨rest, hrest⟩ := List.head?_eq_some_iff.1 hpath
  have hwhole : path ++ tail = .ofList ('/' :: (rest ++ tail.toList)) := by
    rw [← String.toList_inj]
    simp [hrest]
  have hbare : path = .ofList ('/' :: rest) := by
    rw [← hrest, String.ofList_toList]
  have htake : (rest ++ tail.toList).takeWhile (!endsSegment ·) =
      rest.takeWhile (!endsSegment ·) := by
    have hnil : tail.toList.takeWhile (!endsSegment ·) = [] := by
      cases hcs : tail.toList with
      | nil => rfl
      | cons c cs => simp [htail c (by rw [hcs]; rfl)]
    rw [List.takeWhile_append, hnil, List.append_nil]
    split
    · -- no end of a segment in the path: the tail ends it right where it begins
      next hall =>
      exact ((List.takeWhile_prefix _).eq_of_length hall).symm
    · rfl
  rw [hwhole, hbare, ofTarget_slash, ofTarget_slash, htake]

/-! ## Targets without a slash -/

/-- The first segment is the second part of the target. -/
theorem segment?_eq (target : String) :
    segment? target = (target.toList.splitOnP endsSegment)[1]?.map .ofList := by
  unfold segment?
  split
  · next heq => simp [heq]
  · next hnot =>
    cases hsplit : target.toList.splitOnP endsSegment with
    | nil => rfl
    | cons first others =>
      cases others with
      | nil => rfl
      | cons second others => exact absurd hsplit (hnot first second others)

/-- A target in which no segment ends has no first segment. -/
theorem segment?_of_forall {target : String} (h : ∀ c ∈ target.toList, endsSegment c = false) :
    segment? target = none := by
  rw [segment?_eq, List.splitOnP_eq_singleton h]
  rfl

/-- What follows an end of a segment is the first segment just if no segment ends before. -/
theorem segment?_append {c : Char} (hc : endsSegment c = true) (target rest : String) :
    segment? (target ++ String.singleton c ++ rest) =
      if target.toList.any endsSegment then segment? target
      else some (.ofList (rest.toList.takeWhile (!endsSegment ·))) := by
  have hsplit : (target ++ String.singleton c ++ rest).toList.splitOnP endsSegment =
      target.toList.splitOnP endsSegment ++ rest.toList.splitOnP endsSegment := by
    rw [← List.splitOnP_append_cons target.toList rest.toList hc]
    simp
  rw [segment?_eq, hsplit]
  split
  · next hany =>
    obtain ⟨d, hmem, hd⟩ := List.any_eq_true.1 hany
    rw [List.getElem?_append_left (two_le_length_splitOnP hmem hd), segment?_eq]
  · next hany =>
    have hnone : ∀ d ∈ target.toList, endsSegment d = false := by
      simpa using hany
    rw [List.splitOnP_eq_singleton hnone, List.singleton_append, List.getElem?_cons_succ,
      ← List.head?_eq_getElem?, head?_splitOnP]
    rfl

/-- The first segment ends at the query and at the fragment, but the query of a target without a slash is
taken for its first segment: it counts unless it is empty. -/
theorem ofTarget_query {c : Char} (hc : c = '?' ∨ c = '#') (target rest : String) :
    (ofTarget (target ++ String.singleton c ++ rest) =
      if target.toList.any endsSegment then ofTarget target
      else "/" ++ .ofList (rest.toList.takeWhile (!endsSegment ·))) ∧
    (ofTarget (target ++ String.singleton c ++ rest) = ofTarget target ↔
      (∃ d ∈ target.toList, endsSegment d = true) ∨
        ∀ d, rest.toList.head? = some d → endsSegment d = true) := by
  have hends : endsSegment c = true := by
    rcases hc with rfl | rfl <;> decide
  have hsegment := segment?_append hends target rest
  by_cases hany : target.toList.any endsSegment = true
  · rw [if_pos hany] at hsegment ⊢
    have hroute : ofTarget (target ++ String.singleton c ++ rest) = ofTarget target := by
      rw [ofTarget, ofTarget, hsegment]
    exact ⟨hroute, iff_of_true hroute (.inl (List.any_eq_true.1 hany))⟩
  · have hnone : ∀ d ∈ target.toList, endsSegment d = false := by
      simpa using hany
    rw [if_neg hany] at hsegment ⊢
    have hroute : ofTarget (target ++ String.singleton c ++ rest) =
        "/" ++ .ofList (rest.toList.takeWhile (!endsSegment ·)) := by
      rw [ofTarget, hsegment]
      rfl
    have hbare : ofTarget target = "/" ++ .ofList [] := by
      rw [ofTarget, segment?_of_forall hnone]
      rfl
    have hnot : ¬ ∃ d ∈ target.toList, endsSegment d = true := by
      simpa using hnone
    refine ⟨hroute, ?_⟩
    rw [hroute, hbare, String.append_right_inj, String.ofList_inj]
    cases rest.toList with
    | nil => simp
    | cons d ds => cases hd : endsSegment d <;> simp [hd, hnot]

/-- The query of a request for a relative path is reported in place of the route. -/
theorem ofTarget_query_payment :
    ofTarget "payment?id=1" = "/id=1" ∧ ofTarget "payment" = "/" ∧
      ofTarget "payment?id=1" ≠ ofTarget "payment" := by
  have hquery := @ofTarget_query '?' (.inl rfl) "payment" "id=1"
  have htarget : "payment" ++ String.singleton '?' ++ "id=1" = "payment?id=1" := by decide
  rw [htarget] at hquery
  have hpath : "payment".toList.any endsSegment = false := by decide
  have hfirst : endsSegment 'i' = false := by decide
  refine ⟨hquery.1.trans (by decide), by decide, ?_⟩
  rw [Ne, hquery.2]
  rintro (hends | hempty)
  · rw [List.any_eq_true.2 hends] at hpath
    cases hpath
  · have hends := hempty 'i' rfl
    rw [hfirst] at hends
    cases hends

end SpanMetrics.Route
