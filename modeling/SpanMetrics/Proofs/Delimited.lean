import SpanMetrics.Delimited
import SpanMetrics.Value

/-!
# SpanMetrics.Proofs.Delimited — what becomes of a text that is not escaped

* `escapeAll_eq_passes` — carets are escaped before bars.
* `pieces_eq_singleton_iff` — a text that is written as it is comes back as one part just if it has
  neither bars nor carets.
* `Value.isPlain_text` — the string form of a number or a truth value has neither.
-/

namespace SpanMetrics

namespace Delimited

/-- A text with a mark in front of every occurrence of a character. -/
def mark (c : Char) (cs : List Char) : List Char :=
  cs.flatMap fun d => if d = c then [caret, d] else [d]

/-- Escaping comes to marking the carets first, and the bars behind them. -/
theorem escapeAll_eq_passes (cs : List Char) : escapeAll cs = mark bar (mark caret cs) := by
  have hcaret : caret ≠ bar := by decide
  induction cs with
  | nil => rfl
  | cons c cs ih =>
    have hrest : escapeAll (c :: cs) = escape c ++ escapeAll cs := rfl
    rw [hrest, ih]
    by_cases hc : c = caret
    · simp [mark, escape, hc, hcaret]
    · simp [mark, escape, hc]

/-- The text has neither bars nor carets. -/
def IsPlain (s : String) : Prop :=
  ∀ c ∈ s.toList, c ≠ bar ∧ c ≠ caret

instance (s : String) : Decidable (IsPlain s) :=
  List.decidableBAll (fun c => c ≠ bar ∧ c ≠ caret) s.toList

/-- Cutting loses the bars and the escapes and adds nothing. -/
theorem flatten_cut_sublist (escaped : Bool) (cs : List Char) :
    (cut escaped cs).flatten.Sublist cs := by
  fun_induction cut escaped cs with
  | case1 => simp
  | case2 c cs ih =>
    cases h : cut false cs with
    | nil => simp
    | cons => simpa [h] using ih
  | case3 cs ih => simpa using ih.cons bar
  | case4 cs hbar ih => exact ih.cons caret
  | case5 c cs hbar hcaret ih =>
    cases h : cut false cs with
    | nil => simp
    | cons => simpa [h] using ih

theorem cut_eq_singleton_iff (cs : List Char) :
    cut false cs = [cs] ↔ ∀ c ∈ cs, c ≠ bar ∧ c ≠ caret := by
  induction cs with
  | nil => simp [cut]
  | cons c cs ih =>
    by_cases hbar : c = bar
    · simp [cut, hbar]
    · by_cases hcaret : c = caret
      · -- what follows a caret has no room for the caret itself
        subst hcaret
        have hcut : cut false (caret :: cs) = cut true cs := by simp [cut, hbar]
        have hne : cut true cs ≠ [caret :: cs] := by
          intro h
          have hlength := (flatten_cut_sublist true cs).length_le
          simp only [h, List.flatten_singleton, List.length_cons] at hlength
          omega
        simp [hcut, hne]
      · have hcons : cut false (c :: cs) = [c :: cs] ↔ cut false cs = [cs] := by
          cases h : cut false cs <;> simp [cut, hbar, hcaret, h]
        rw [hcons, ih]
        simp [hbar, hcaret]

/-- A text that is written as it is comes back as one part just if it has neither bars nor
carets. -/
theorem pieces_eq_singleton_iff (s : String) : pieces s = [s] ↔ IsPlain s := by
  rw [IsPlain, ← cut_eq_singleton_iff]
  constructor
  · intro h
    have hmap := congrArg (List.map String.toList) h
    simpa [pieces] using hmap
  · intro h
    simp [pieces, h]

end Delimited

namespace Number

/-- A character of a written number. -/
def isNumeral (c : Char) : Bool :=
  c.isDigit || c == '.' || c == 'e' || c == '+' || c == '-'

theorem isNumeral_of_isDigit {c : Char} (h : c.isDigit = true) : isNumeral c = true := by
  simp [isNumeral, h]

theorem isNumeral_of_mem_toDigits {n : Nat} {c : Char} (h : c ∈ Nat.toDigits 10 n) :
    isNumeral c = true :=
  isNumeral_of_isDigit (Nat.isDigit_of_mem_toDigits (by decide) (by decide) h)

theorem isNumeral_of_mem_layout {digits : List Char} (h : ∀ c ∈ digits, isNumeral c = true)
    (point : Int) : ∀ c ∈ layout digits point, isNumeral c = true := by
  have hzeros : ∀ n, ∀ c ∈ List.replicate n '0', isNumeral c = true := by
    intro n c hc
    rw [List.eq_of_mem_replicate hc]
    decide
  have htake : ∀ n, ∀ c ∈ digits.take n, isNumeral c = true :=
    fun n c hc => h c (List.mem_of_mem_take hc)
  have hdrop : ∀ n, ∀ c ∈ digits.drop n, isNumeral c = true :=
    fun n c hc => h c (List.mem_of_mem_drop hc)
  have hexponent : ∀ n, ∀ c ∈ Nat.toDigits 10 n, isNumeral c = true :=
    fun n c => isNumeral_of_mem_toDigits
  simp only [layout]
  split
  · exact List.forall_mem_append.2 ⟨h, hzeros _⟩
  split
  · exact List.forall_mem_append.2 ⟨htake _, List.forall_mem_cons.2 ⟨by decide, hdrop _⟩⟩
  split
  · refine List.forall_mem_cons.2 ⟨by decide, List.forall_mem_cons.2 ⟨by decide, ?_⟩⟩
    exact List.forall_mem_append.2 ⟨hzeros _, h⟩
  · -- the exponent, behind one digit and perhaps a fraction
    refine List.forall_mem_append.2 ⟨List.forall_mem_append.2 ⟨htake _, ?_⟩, ?_⟩
    · split
      · simp
      · exact List.forall_mem_cons.2 ⟨by decide, hdrop _⟩
    · refine List.forall_mem_cons.2 ⟨by decide, List.forall_mem_cons.2 ⟨?_, hexponent _⟩⟩
      split <;> decide

/-- A number is written without bars and carets. -/
theorem isPlain_text (n : Number) : Delimited.IsPlain n.text := by
  cases n with
  | nan => decide
  | infinite negative => cases negative <;> decide
  | finite d =>
    have hdigits : ∀ c ∈ Nat.toDigits 10 d.digits, isNumeral c = true :=
      fun _ => isNumeral_of_mem_toDigits
    have hbody := isNumeral_of_mem_layout hdigits ((Nat.toDigits 10 d.digits).length + d.exponent)
    simp only [text]
    split
    · decide
    · intro c hc
      have hnumeral : isNumeral c = true := by
        rw [String.toList_ofList] at hc
        split at hc
        · rcases List.mem_cons.1 hc with rfl | hc
          · decide
          · exact hbody c hc
        · exact hbody c hc
      constructor
      · rintro rfl
        exact absurd hnumeral (by decide)
      · rintro rfl
        exact absurd hnumeral (by decide)

end Number

/-- No value but a string has bars or carets in its string form. -/
theorem Value.isPlain_text {v : Value} (hv : v.string? = none) {text : String}
    (ht : v.text? = some text) : Delimited.IsPlain text := by
  cases v with
  | string s => simp [string?] at hv
  | bool b =>
    simp only [text?, Option.some.injEq] at ht
    subst ht
    cases b <;> decide
  | number n =>
    simp only [text?, Option.some.injEq] at ht
    subst ht
    exact n.isPlain_text
  | null => simp [text?] at ht
  | list items => simp [text?] at ht

end SpanMetrics
