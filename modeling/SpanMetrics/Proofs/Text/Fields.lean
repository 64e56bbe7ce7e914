/-!
# SpanMetrics.Proofs.Text.Fields — texts between separators

A text that is cut at every separator falls into fields. The fields are the only texts without a
separator that give the text when they are joined again.

* `head?_splitOnP`, `two_le_length_splitOnP` — the first field, and when there is a second one.
* `of_mem_splitOnP` — what stands between two separators holds none.
* `splitOn_eq_iff`, `splitOn_toList_eq_iff` — cutting is undone by joining, and nothing else is.
* `not_infix_of_splitOn` — where separators stand side by side, an empty field is between them.
* `exists_fields` — every text is joined of fields.
* `intercalate_append` — the last fields may be joined before the others.
-/

namespace SpanMetrics.Text

/-- The first field reaches to the first separator. -/
theorem head?_splitOnP (p : Char → Bool) (cs : List Char) :
    (cs.splitOnP p).head? = some (cs.takeWhile (!p ·)) := by
  induction cs with
  | nil => rfl
  | cons c cs ih =>
    rw [List.splitOnP_cons_eq_if_modifyHead]
    by_cases hc : p c = true
    · simp [hc]
    · obtain ⟨first, others, hsplit⟩ := List.exists_cons_of_ne_nil (List.splitOnP_ne_nil p cs)
      rw [hsplit, List.head?_cons, Option.some.injEq] at ih
      simp [hc, hsplit, ih]

/-- A text with a separator has at least two fields. -/
theorem two_le_length_splitOnP {p : Char → Bool} {c : Char} {cs : List Char} (hmem : c ∈ cs)
    (hc : p c = true) : 2 ≤ (cs.splitOnP p).length := by
  obtain ⟨front, back, rfl⟩ := List.append_of_mem hmem
  have hfront := List.length_pos_iff.2 (List.splitOnP_ne_nil p front)
  have hback := List.length_pos_iff.2 (List.splitOnP_ne_nil p back)
  rw [List.splitOnP_append_cons front back hc, List.length_append]
  omega

/-- What stands between two separators is part of the text and holds no separator. -/
theorem of_mem_splitOnP {p : Char → Bool} {cs field : List Char} (h : field ∈ cs.splitOnP p) :
    ∀ c ∈ field, c ∈ cs ∧ p c = false := by
  induction cs generalizing field with
  | nil =>
    rw [List.splitOnP_nil, List.mem_singleton] at h
    simp [h]
  | cons d ds ih =>
    intro c hc
    rw [List.splitOnP_cons_eq_if_modifyHead] at h
    by_cases hd : p d = true
    · rw [if_pos hd, List.mem_cons] at h
      rcases h with rfl | h
      · cases hc
      · exact ⟨List.mem_cons_of_mem d (ih h c hc).1, (ih h c hc).2⟩
    · -- the character joins the first field; the other fields stay as they are
      rw [if_neg hd] at h
      obtain ⟨first, others, hsplit⟩ := List.exists_cons_of_ne_nil (List.splitOnP_ne_nil p ds)
      rw [hsplit, List.modifyHead_cons, List.mem_cons] at h
      rw [hsplit] at ih
      rcases h with rfl | h
      · rcases List.mem_cons.1 hc with rfl | hc
        · exact ⟨List.mem_cons_self, by simpa using hd⟩
        · obtain ⟨hmem, hp⟩ := ih List.mem_cons_self c hc
          exact ⟨List.mem_cons_of_mem d hmem, hp⟩
      · obtain ⟨hmem, hp⟩ := ih (List.mem_cons_of_mem first h) c hc
        exact ⟨List.mem_cons_of_mem d hmem, hp⟩

/-- The fields of a text hold no separator and give the text when they are joined; no other texts
do both. -/
theorem splitOn_eq_iff {sep : Char} {cs : List Char} {fields : List (List Char)} :
    cs.splitOn sep = fields ↔
      fields ≠ [] ∧ (∀ field ∈ fields, sep ∉ field) ∧ cs = [sep].intercalate fields := by
  constructor
  · rintro rfl
    refine ⟨List.splitOn_ne_nil sep cs, ?_, (List.intercalate_splitOn sep).symm⟩
    intro field hfield hsep
    rw [List.splitOn_eq_splitOnP] at hfield
    obtain ⟨-, hfree⟩ := of_mem_splitOnP hfield sep hsep
    simp at hfree
  · rintro ⟨hne, hfree, rfl⟩
    exact List.splitOn_intercalate sep hfree hne

/-- The same for fields that are strings. -/
theorem splitOn_toList_eq_iff {sep : Char} {s : String} {fields : List String} :
    s.toList.splitOn sep = fields.map String.toList ↔
      fields ≠ [] ∧ (∀ field ∈ fields, sep ∉ field.toList) ∧
        s = (String.singleton sep).intercalate fields := by
  rw [splitOn_eq_iff, Ne, List.map_eq_nil_iff, List.forall_mem_map, ← String.toList_inj,
    String.toList_intercalate, String.toList_singleton]

/-- Separators do not stand side by side if only the first field may be empty. -/
theorem not_infix_of_splitOn {sep : Char} {cs first : List Char} {others : List (List Char)}
    (h : cs.splitOn sep = first :: others) (hne : [] ∉ others) : ¬ [sep, sep] <:+: cs := by
  rintro ⟨front, back, rfl⟩
  have hsplit : (front ++ [sep, sep] ++ back).splitOn sep =
      front.splitOn sep ++ ([] :: back.splitOn sep) := by
    have hcons : front ++ [sep, sep] ++ back = front ++ sep :: ([] ++ sep :: back) := by simp
    rw [hcons, List.splitOn_append_cons_self, List.splitOn_append_cons_self, List.splitOn_nil,
      List.singleton_append]
  rw [hsplit] at h
  -- the empty field between the two is not the first one
  obtain ⟨field, fields, hfront⟩ := List.exists_cons_of_ne_nil (List.splitOn_ne_nil sep front)
  rw [hfront, List.cons_append, List.cons.injEq] at h
  apply hne
  rw [← h.2]
  simp

/-- Every text is joined of fields. -/
theorem exists_fields (sep : Char) (s : String) :
    ∃ fields : List String, fields ≠ [] ∧ (∀ field ∈ fields, sep ∉ field.toList) ∧
      s = (String.singleton sep).intercalate fields := by
  refine ⟨(s.toList.splitOn sep).map String.ofList, splitOn_toList_eq_iff.1 ?_⟩
  rw [List.map_map]
  simp

/-- The last fields may be joined before the others. -/
theorem intercalate_append (sep : String) (front : List String) {back : List String}
    (hback : back ≠ []) :
    sep.intercalate (front ++ back) = sep.intercalate (front ++ [sep.intercalate back]) := by
  induction front with
  | nil => simp
  | cons field front ih =>
    rw [List.cons_append, List.cons_append, String.intercalate_cons_of_ne_nil (by simp [hback]),
      String.intercalate_cons_of_ne_nil (by simp), ih]

end SpanMetrics.Text
