import Mathlib.Data.List.DropRight
import SpanMetrics.Text.Blank

/-!
# SpanMetrics.Proofs.Text.Trim — a text without the white space around it

* `trimsTo_trim` — trimming takes white space away and leaves none at the ends.
* `TrimsTo.eq_trim` — no other text is left by that.
-/

namespace SpanMetrics.Text

/-- The text is the core with white space around it, and the core neither starts nor ends in white
space. -/
structure TrimsTo (cs core : List Char) : Prop where
  around : ∃ front back, cs = front ++ (core ++ back) ∧ front.all isBlank = true ∧
    back.all isBlank = true
  starts : ∀ c, core.head? = some c → isBlank c = false
  ends : ∀ c, core.getLast? = some c → isBlank c = false

theorem isBlank_of_head?_dropWhile {cs : List Char} {c : Char}
    (h : (cs.dropWhile isBlank).head? = some c) : isBlank c = false := by
  have hfirst := List.head?_dropWhile_not isBlank cs
  rwa [h] at hfirst

/-- Trimming takes white space away and leaves none at the ends. -/
theorem trimsTo_trim (cs : List Char) : TrimsTo cs (trim cs) := by
  have hback : trim cs ++ (trimStart cs).rtakeWhile isBlank = trimStart cs :=
    List.rdropWhile_append_rtakeWhile
  refine ⟨⟨cs.takeWhile isBlank, (trimStart cs).rtakeWhile isBlank, ?_, ?_, ?_⟩, ?_, ?_⟩
  · rw [hback]
    exact List.takeWhile_append_dropWhile.symm
  · exact List.all_takeWhile
  · rw [List.all_eq_true]
    intro c hc
    exact List.mem_rtakeWhile_imp hc
  · -- what is left starts like the text without the white space in front
    intro c hc
    obtain ⟨rest, hrest⟩ := List.head?_eq_some_iff.1 hc
    have hstart : (trimStart cs).head? = some c := by
      rw [← hback, hrest]
      rfl
    exact isBlank_of_head?_dropWhile hstart
  · intro c hc
    unfold trim dropEnd at hc
    rw [List.getLast?_reverse] at hc
    exact isBlank_of_head?_dropWhile hc

/-- White space in front of something else is dropped, and no more. -/
theorem dropWhile_isBlank_append {front rest : List Char} (hfront : front.all isBlank = true)
    (hrest : ∀ c, rest.head? = some c → isBlank c = false) :
    (front ++ rest).dropWhile isBlank = rest := by
  rw [List.dropWhile_append_of_pos (List.all_eq_true.1 hfront)]
  cases rest with
  | nil => rfl
  | cons c cs => simp [hrest c rfl]

/-- What trimming leaves of a text is the only text that it can leave. -/
theorem TrimsTo.eq_trim {cs core : List Char} (h : TrimsTo cs core) : core = trim cs := by
  obtain ⟨front, back, rfl, hfront, hback⟩ := h.around
  by_cases hnil : core = []
  · have hblank : trimStart back = [] := by
      simpa [trimStart] using hback
    rw [hnil, List.nil_append, trim, trimStart_append hfront, hblank]
    rfl
  · have hstart : trimStart (front ++ (core ++ back)) = core ++ back := by
      refine dropWhile_isBlank_append hfront ?_
      intro c hc
      rw [List.head?_append_of_ne_nil _ hnil] at hc
      exact h.starts c hc
    have hend : (core ++ back).reverse.dropWhile isBlank = core.reverse := by
      rw [List.reverse_append]
      refine dropWhile_isBlank_append (by simpa using hback) ?_
      intro c hc
      rw [List.head?_reverse] at hc
      exact h.ends c hc
    rw [trim, hstart, dropEnd, hend, List.reverse_reverse]

end SpanMetrics.Text
