/-!
# SpanMetrics.Text.Erase — removing every occurrence of a phrase

Occurrences are removed from left to right. A text that becomes an occurrence only because another
one was removed from between its parts stays.

* `erase_phrase_append`, `erase_cons_of_not` — one step of the scan.
-/

namespace SpanMetrics.Text

/-- Drops a number of characters, which belong to an occurrence of the phrase `p :: ps`, and removes
every occurrence from the rest. -/
def eraseAfter (p : Char) (ps : List Char) : Nat → List Char → List Char
  | _, [] => []
  | skip + 1, _ :: cs => eraseAfter p ps skip cs
  | 0, c :: cs =>
    if c = p ∧ ps.isPrefixOf cs then eraseAfter p ps ps.length cs else c :: eraseAfter p ps 0 cs

/-- Removes every occurrence of the phrase `p :: ps`. -/
def erase (p : Char) (ps cs : List Char) : List Char :=
  eraseAfter p ps 0 cs

theorem eraseAfter_eq (p : Char) (ps : List Char) (skip : Nat) (cs : List Char) :
    eraseAfter p ps skip cs = erase p ps (cs.drop skip) := by
  induction cs generalizing skip with
  | nil => cases skip <;> rfl
  | cons c cs ih =>
    cases skip with
    | zero => rfl
    | succ skip => exact ih skip

@[simp] theorem erase_nil (p : Char) (ps : List Char) : erase p ps [] = [] := rfl

/-- One step of the scan. -/
theorem erase_cons (p : Char) (ps : List Char) (c : Char) (cs : List Char) :
    erase p ps (c :: cs) =
      if c = p ∧ ps.isPrefixOf cs then erase p ps (cs.drop ps.length) else c :: erase p ps cs := by
  rw [← eraseAfter_eq p ps ps.length cs]
  rfl

/-- An occurrence in front is removed. -/
theorem erase_phrase_append (p : Char) (ps cs : List Char) :
    erase p ps (p :: (ps ++ cs)) = erase p ps cs := by
  rw [erase_cons, if_pos ⟨rfl, by simp⟩, List.drop_left]

/-- A character that does not begin an occurrence stays. -/
theorem erase_cons_of_not {p c : Char} {ps cs : List Char}
    (h : ¬ (c = p ∧ ps.isPrefixOf cs = true)) : erase p ps (c :: cs) = c :: erase p ps cs := by
  rw [erase_cons, if_neg h]

end SpanMetrics.Text
