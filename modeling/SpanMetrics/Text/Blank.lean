/-!
# SpanMetrics.Text.Blank — white space at the ends of a text

The class holds the controls from tab to carriage return, the space separators, the line and
paragraph separators and the byte order mark. `U+0085`, `U+180E` and `U+200B` are not in it.

* `trimStart_append` — white space in front of a text changes nothing.
-/

namespace SpanMetrics.Text

/-- The character is white space. -/
def isBlank (c : Char) : Bool :=
  let n := c.toNat
  (0x09 ≤ n && n ≤ 0x0D) || n == 0x20 || n == 0xA0 || n == 0x1680 || (0x2000 ≤ n && n ≤ 0x200A)
    || n == 0x2028 || n == 0x2029 || n == 0x202F || n == 0x205F || n == 0x3000 || n == 0xFEFF

/-- Drops the characters of a class from the end. -/
def dropEnd (p : Char → Bool) (cs : List Char) : List Char :=
  (cs.reverse.dropWhile p).reverse

/-- Drops white space from the start. -/
def trimStart (cs : List Char) : List Char :=
  cs.dropWhile isBlank

/-- Drops white space from both ends. -/
def trim (cs : List Char) : List Char :=
  dropEnd isBlank (trimStart cs)

@[simp] theorem trimStart_nil : trimStart [] = [] := rfl

theorem trimStart_cons (c : Char) (cs : List Char) :
    trimStart (c :: cs) = if isBlank c then trimStart cs else c :: cs := by
  simp only [trimStart, List.dropWhile_cons]

/-- White space in front changes nothing. -/
theorem trimStart_append {ws : List Char} (h : ws.all isBlank = true) (cs : List Char) :
    trimStart (ws ++ cs) = trimStart cs := by
  induction ws with
  | nil => rfl
  | cons w ws ih =>
    simp only [List.all_cons, Bool.and_eq_true] at h
    simp only [List.cons_append, trimStart_cons, h.1, if_true, ih h.2]

end SpanMetrics.Text
