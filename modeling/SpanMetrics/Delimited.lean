/-!
# SpanMetrics.Delimited — identifiers of several parts

An identifier is one or more parts joined by a bar. Inside a part a caret stands in front of every
bar and every caret, so the parts can be told apart again.

* `pieces_encode` — a written part is read back as one part.
* `pieces_join_encode` — a written part in front of a delimiter is read back as the first part.
-/

namespace SpanMetrics.Delimited

/-- The escape character. -/
def caret : Char := '^'

/-- The delimiter between the parts. -/
def bar : Char := '|'

/-- A character as it is written inside a part. -/
def escape (c : Char) : List Char :=
  if c = caret ∨ c = bar then [caret, c] else [c]

/-- A part as it is written. -/
def escapeAll (cs : List Char) : List Char :=
  cs.flatMap escape

/-- A part as it is written. -/
def encode (s : String) : String :=
  .ofList (escapeAll s.toList)

/-- Two written parts with a delimiter between them. -/
def join (left right : String) : String :=
  left ++ String.singleton bar ++ right

/-- Cuts a written identifier at its unescaped bars and removes the escapes. The flag says that a
caret stands directly before; a caret with nothing behind it is dropped. -/
def cut : Bool → List Char → List (List Char)
  | _, [] => [[]]
  | true, c :: cs => (cut false cs).modifyHead (c :: ·)
  | false, c :: cs =>
    if c = bar then [] :: cut false cs
    else if c = caret then cut true cs
    else (cut false cs).modifyHead (c :: ·)

/-- The parts of a written identifier. -/
def pieces (s : String) : List String :=
  (cut false s.toList).map .ofList

/-! ## What the writer wrote is read back -/

/-- A written character is read back as that character. -/
theorem cut_escape_append (c : Char) (rest : List Char) :
    cut false (escape c ++ rest) = (cut false rest).modifyHead (c :: ·) := by
  unfold escape
  split
  · simp [cut, caret, bar]
  · next h =>
    simp only [not_or] at h
    simp [cut, h.1, h.2]

/-- A written part is read back in front of the first part of what follows. -/
theorem cut_escapeAll_append (cs rest : List Char) :
    cut false (escapeAll cs ++ rest) = (cut false rest).modifyHead (cs ++ ·) := by
  induction cs with
  | nil => cases h : cut false rest <;> simp [escapeAll, h]
  | cons c cs ih =>
    simp only [escapeAll, List.flatMap_cons, List.append_assoc] at ih ⊢
    rw [cut_escape_append, ih]
    cases cut false rest <;> simp

/-- A written part is read back as one part. -/
theorem pieces_encode (s : String) : pieces (encode s) = [s] := by
  have h := cut_escapeAll_append s.toList []
  simp only [List.append_nil] at h
  simp [pieces, encode, h, cut]

/-- A written part in front of a delimiter is read back as the first part. -/
theorem pieces_join_encode (s t : String) : pieces (join (encode s) t) = s :: pieces t := by
  have h := cut_escapeAll_append s.toList (bar :: t.toList)
  have hbar : cut false (bar :: t.toList) = [] :: cut false t.toList := by simp [cut]
  simp [pieces, join, encode, h, hbar]

end SpanMetrics.Delimited
