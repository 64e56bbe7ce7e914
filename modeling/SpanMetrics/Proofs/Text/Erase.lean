import SpanMetrics.Text.Erase

/-!
# SpanMetrics.Proofs.Text.Erase — a text without a phrase

* `without_erase`, `Without.unique` — erasing leaves what is to be left, and nothing else is.
* `erase_append_of_notMem` — a beginning in which no occurrence begins stays.
-/

namespace SpanMetrics.Text

/-- What is left of a text when every occurrence of a phrase is removed: the leftmost one, then the
leftmost of those behind it, and so on. What stands between them stays. -/
inductive Without (phrase : List Char) : List Char → List Char → Prop where
  /-- There is no occurrence. -/
  | free {cs : List Char} (none : ¬ phrase <:+: cs) : Without phrase cs cs
  /-- No occurrence begins before the one behind the gap. -/
  | removed {gap rest left : List Char}
      (leftmost : ∀ front back, gap ++ (phrase ++ rest) = front ++ (phrase ++ back) →
        gap.length ≤ front.length)
      (others : Without phrase rest left) : Without phrase (gap ++ (phrase ++ rest)) (gap ++ left)

variable {phrase : List Char}

/-- A character that does not begin an occurrence stays. -/
theorem Without.cons {c : Char} {cs left : List Char} (h : Without phrase cs left)
    (hnot : ¬ phrase <+: c :: cs) : Without phrase (c :: cs) (c :: left) := by
  cases h with
  | free none =>
    refine .free ?_
    intro hinfix
    rcases List.infix_cons_iff.1 hinfix with hprefix | hinfix
    · exact hnot hprefix
    · exact none hinfix
  | @removed gap rest left leftmost others =>
    -- the gap grows by the character
    change Without phrase ((c :: gap) ++ (phrase ++ rest)) ((c :: gap) ++ left)
    refine .removed ?_ others
    intro front back heq
    cases front with
    | nil => exact absurd ⟨back, heq.symm⟩ hnot
    | cons d front =>
      have hle := leftmost front back (List.cons.inj heq).2
      simp only [List.length_cons]
      omega

/-- There is only one text that can be left. -/
theorem Without.unique {cs left left' : List Char} (h : Without phrase cs left)
    (h' : Without phrase cs left') : left = left' := by
  induction h generalizing left' with
  | free none =>
    cases h' with
    | free _ => rfl
    | @removed gap rest _ _ _ => exact absurd ⟨gap, rest, by simp⟩ none
  | @removed gap rest left leftmost _ ih =>
    generalize htext : gap ++ (phrase ++ rest) = text at h'
    cases h' with
    | free none => exact absurd ⟨gap, rest, by simp [htext]⟩ none
    | @removed gap' rest' left' leftmost' others' =>
      -- both gaps reach to the leftmost occurrence
      have hle := leftmost gap' rest' htext
      have hge := leftmost' gap rest htext.symm
      obtain ⟨rfl, hrest⟩ := List.append_inj htext (Nat.le_antisymm hle hge)
      obtain rfl := List.append_cancel_left hrest
      rw [ih others']

/-- Erasing removes every occurrence. -/
theorem without_erase (p : Char) (ps cs : List Char) : Without (p :: ps) cs (erase p ps cs) := by
  induction hn : cs.length using Nat.strongRecOn generalizing cs with
  | ind n ih =>
    subst hn
    cases cs with
    | nil => exact .free (by simp)
    | cons c cs =>
      by_cases hbegins : c = p ∧ ps.isPrefixOf cs = true
      · obtain ⟨rfl, hprefix⟩ := hbegins
        obtain ⟨rest, rfl⟩ := List.isPrefixOf_iff_prefix.1 hprefix
        rw [erase_phrase_append]
        have hshorter : rest.length < (c :: (ps ++ rest)).length := by
          simp only [List.length_cons, List.length_append]
          omega
        have hrest := ih rest.length hshorter rest rfl
        -- nothing can begin before the beginning of the text
        change Without (c :: ps) ([] ++ (c :: ps ++ rest)) ([] ++ erase c ps rest)
        exact .removed (fun _ _ _ => Nat.zero_le _) hrest
      · rw [erase_cons_of_not hbegins]
        refine (ih cs.length (by simp) cs rfl).cons ?_
        intro hprefix
        obtain ⟨rfl, hrest⟩ := List.cons_prefix_cons.1 hprefix
        exact hbegins ⟨rfl, List.isPrefixOf_iff_prefix.2 hrest⟩

theorem without_iff {p : Char} {ps cs left : List Char} :
    Without (p :: ps) cs left ↔ left = erase p ps cs := by
  constructor
  · intro h
    exact h.unique (without_erase p ps cs)
  · rintro rfl
    exact without_erase p ps cs

/-- A text without the phrase stays as it is. -/
theorem erase_eq_self {p : Char} {ps cs : List Char} (h : ¬ (p :: ps) <:+: cs) :
    erase p ps cs = cs :=
  (without_iff.1 (.free h)).symm

/-- A beginning in which no occurrence begins stays. -/
theorem erase_append_of_notMem {p : Char} {front : List Char} (h : p ∉ front) (ps cs : List Char) :
    erase p ps (front ++ cs) = front ++ erase p ps cs := by
  induction front with
  | nil => rfl
  | cons c front ih =>
    rw [List.mem_cons, not_or] at h
    have hnot : ¬ (c = p ∧ ps.isPrefixOf (front ++ cs) = true) := fun hbegins => h.1 hbegins.1.symm
    rw [List.cons_append, erase_cons_of_not hnot, ih h.2, List.cons_append]

end SpanMetrics.Text
