import Mathlib.Data.List.DropRight
import SpanMetrics.Url.Basic

/-!
# SpanMetrics.Proofs.Url.Clean — the characters of a URL that count

Control characters and spaces are trimmed from the ends of a URL, and line breaks are dropped
everywhere. A beginning that neither starts nor ends in a blank shields what it holds: behind it
only the end of the rest is trimmed.

* `clean_append` — the two parts of a URL are cleaned one by one.
-/

namespace SpanMetrics.Url

/-- A text without tabs and ends of lines. -/
def unbroken (cs : List Char) : List Char :=
  cs.filter (!isLineBlank ·)

/-- A text without the control characters and spaces at its end. -/
def trimEnd (cs : List Char) : List Char :=
  cs.rdropWhile isEndBlank

theorem clean_eq (cs : List Char) : clean cs = unbroken (trimEnd (cs.dropWhile isEndBlank)) := rfl

@[simp] theorem unbroken_nil : unbroken [] = [] := rfl

@[simp] theorem unbroken_append (as bs : List Char) :
    unbroken (as ++ bs) = unbroken as ++ unbroken bs :=
  List.filter_append ..

theorem mem_of_mem_unbroken {c : Char} {cs : List Char} (h : c ∈ unbroken cs) : c ∈ cs :=
  List.mem_of_mem_filter h

/-- What is dropped everywhere is trimmed as well. -/
theorem isLineBlank_of_not_isEndBlank {c : Char} (h : isEndBlank c = false) :
    isLineBlank c = false := by
  unfold isLineBlank
  simp only [Bool.or_eq_false_iff, beq_eq_false_iff_ne]
  refine ⟨⟨?_, ?_⟩, ?_⟩ <;> rintro rfl <;> revert h <;> decide

theorem unbroken_cons_of_not_isEndBlank {c : Char} (h : isEndBlank c = false) (cs : List Char) :
    unbroken (c :: cs) = c :: unbroken cs := by
  simp [unbroken, isLineBlank_of_not_isEndBlank h]

@[simp] theorem trimEnd_nil : trimEnd [] = [] := rfl

/-- Trimming stops at a character that is no blank. -/
theorem trimEnd_append {as : List Char} (h : ∀ c, as.getLast? = some c → isEndBlank c = false)
    (bs : List Char) : trimEnd (as ++ bs) = as ++ trimEnd bs := by
  rcases List.eq_nil_or_concat as with rfl | ⟨front, c, rfl⟩
  · rfl
  · have hc : isEndBlank c = false := h c (by simp)
    have hback : (front ++ [c] ++ bs).reverse.dropWhile isEndBlank =
        bs.reverse.dropWhile isEndBlank ++ (front ++ [c]).reverse := by
      rw [List.reverse_append, List.dropWhile_append]
      split
      · next hempty =>
        rw [List.isEmpty_iff.1 hempty]
        simp [hc]
      · rfl
    unfold trimEnd List.rdropWhile
    rw [List.concat_eq_append, hback, List.reverse_append, List.reverse_reverse]

/-- The first character of a text stays the first one if it is no blank. -/
theorem head?_unbroken {cs : List Char} (h : ∀ c, cs.head? = some c → isEndBlank c = false) :
    (unbroken cs).head? = cs.head? := by
  cases cs with
  | nil => rfl
  | cons c cs => rw [unbroken_cons_of_not_isEndBlank (h c rfl), List.head?_cons, List.head?_cons]

theorem head?_trimEnd {cs : List Char} (h : ∀ c, cs.head? = some c → isEndBlank c = false) :
    (trimEnd cs).head? = cs.head? := by
  cases cs with
  | nil => rfl
  | cons c cs =>
    have htrim : trimEnd ([c] ++ cs) = [c] ++ trimEnd cs :=
      trimEnd_append (by simpa using h c rfl) cs
    rw [List.singleton_append] at htrim
    rw [htrim]
    rfl

/-- A text that starts with no blank still does when it is cleaned at its end. -/
theorem head?_unbroken_trimEnd {cs : List Char}
    (h : ∀ c, cs.head? = some c → isEndBlank c = false) :
    (unbroken (trimEnd cs)).head? = cs.head? := by
  have htrim := head?_trimEnd h
  rw [head?_unbroken fun c hc => h c (htrim ▸ hc), htrim]

/-- A text ends in no blank if what follows one of its characters does not, nor does it itself. -/
theorem isEndBlank_getLast?_append {bs : List Char} {a : Char} (ha : isEndBlank a = false)
    (h : ∀ c, bs.getLast? = some c → isEndBlank c = false) (as : List Char) :
    ∀ c, (as ++ a :: bs).getLast? = some c → isEndBlank c = false := by
  intro c hc
  rw [List.getLast?_append, List.getLast?_cons, Option.some_or, Option.some.injEq] at hc
  cases hbs : bs.getLast? with
  | none =>
    rw [hbs, Option.getD_none] at hc
    exact hc ▸ ha
  | some d =>
    rw [hbs, Option.getD_some] at hc
    exact hc ▸ h d hbs

/-- A text that ends in no blank is not dropped as a whole. -/
theorem unbroken_ne_nil {cs : List Char} (hne : cs ≠ [])
    (h : ∀ c, cs.getLast? = some c → isEndBlank c = false) : unbroken cs ≠ [] := by
  have hlast := List.getLast?_eq_some_getLast hne
  have hmem : cs.getLast hne ∈ unbroken cs := by
    simp [unbroken, isLineBlank_of_not_isEndBlank (h _ hlast)]
  exact List.ne_nil_of_mem hmem

/-- A beginning that starts and ends in no blank is cleaned by itself, and the rest only at its
end. -/
theorem clean_append {as : List Char} {a : Char} (hhead : as.head? = some a)
    (ha : isEndBlank a = false) (hlast : ∀ c, as.getLast? = some c → isEndBlank c = false)
    (bs : List Char) : clean (as ++ bs) = unbroken as ++ unbroken (trimEnd bs) := by
  have hstart : (as ++ bs).dropWhile isEndBlank = as ++ bs := by
    rcases List.head?_eq_some_iff.1 hhead with ⟨rest, rfl⟩
    simp [ha]
  rw [clean_eq, hstart, trimEnd_append hlast, unbroken_append]

end SpanMetrics.Url
