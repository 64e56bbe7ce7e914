import SpanMetrics.Text.Blank
import SpanMetrics.Text.Case
import SpanMetrics.Text.Units

/-!
# SpanMetrics.Proofs.Text.Ascii — properties of ASCII characters

There are few ASCII characters, so a property of all of them is checked one by one. Capitals are made
of ASCII letters only: what holds of a letter in both cases holds of every character.

* `ascii_forall`, `lower_forall` — properties of all ASCII characters and of all small letters.
* `eq_toUpper` — what does not see the case of an ASCII letter does not see the case of a character.
* `SameButCase.upper_takeUnits_trimStart` — the case of ASCII letters does not count in capitals.
* `prefix_lower_iff` — what a text starts with in small letters, it starts with in any case.
-/

namespace SpanMetrics.Text

/-- A property of all ASCII characters, checked one by one. -/
theorem ascii_forall {P : Char → Prop} (h : ∀ n < 128, P (Char.ofNat n)) {c : Char}
    (hc : c.toNat < 128) : P c := by
  have hn := h c.toNat hc
  rwa [Char.ofNat_toNat] at hn

theorem toNat_lt_of_isAlphanum {c : Char} (h : c.isAlphanum = true) : c.toNat < 128 := by
  change (decide (65 ≤ c.val ∧ c.val ≤ 90) || (decide (97 ≤ c.val) && decide (c.val ≤ 122)) ||
    (decide (48 ≤ c.val) && decide (c.val ≤ 57))) = true at h
  simp only [Bool.or_eq_true, Bool.and_eq_true, decide_eq_true_eq, UInt32.le_iff_toNat_le] at h
  change ((65 ≤ c.toNat ∧ c.toNat ≤ 90) ∨ (97 ≤ c.toNat ∧ c.toNat ≤ 122)) ∨
    (48 ≤ c.toNat ∧ c.toNat ≤ 57) at h
  omega

/-- A property of all small letters. -/
theorem lower_forall {P : Char → Prop}
    (h : ∀ n < 128, (Char.ofNat n).isLower = true → P (Char.ofNat n)) {c : Char}
    (hc : c.isLower = true) : P c := by
  have halphanum : (c.isUpper || c.isLower || c.isDigit) = true := by simp [hc]
  have hascii : c.toNat < 128 := toNat_lt_of_isAlphanum halphanum
  exact ascii_forall (P := fun c => c.isLower = true → P c) h hascii hc

/-! ## Letter case -/

/-- A character outside ASCII is its own capital. -/
theorem toUpper_of_le {c : Char} (hc : 128 ≤ c.toNat) : c.toUpper = c := by
  have hnot : ¬ (97 ≤ c.toNat ∧ c.toNat ≤ 122) := by omega
  unfold Char.toUpper
  rw [dif_neg]
  rw [UInt32.le_iff_toNat_le, UInt32.le_iff_toNat_le]
  exact hnot

/-- What does not see the case of an ASCII letter does not see the case of a character. -/
theorem eq_toUpper {α : Type} {f : Char → α}
    (h : ∀ n < 128, f (Char.ofNat n).toUpper = f (Char.ofNat n)) (c : Char) :
    f c.toUpper = f c := by
  by_cases hc : c.toNat < 128
  · exact ascii_forall (P := fun c => f c.toUpper = f c) h hc
  · rw [toUpper_of_le (Nat.le_of_not_lt hc)]

variable (cs ds : List Char) (n : Nat)

theorem trimStart_map_toUpper :
    trimStart (cs.map Char.toUpper) = (trimStart cs).map Char.toUpper := by
  have hblank : isBlank ∘ Char.toUpper = isBlank := by
    funext c
    exact eq_toUpper (f := isBlank) (by decide +kernel) c
  unfold trimStart
  rw [List.dropWhile_map, hblank]

theorem takeUnits_map_toUpper :
    takeUnits n (cs.map Char.toUpper) = (takeUnits n cs).map Char.toUpper := by
  induction cs generalizing n with
  | nil => rfl
  | cons c cs ih =>
    have hunits : unitsOf c.toUpper = unitsOf c := eq_toUpper (f := unitsOf) (by decide +kernel) c
    rw [List.map_cons, takeUnits, takeUnits, hunits, ih]
    split <;> rfl

theorem upper_map_toUpper : upper (cs.map Char.toUpper) = upper cs := by
  induction cs with
  | nil => rfl
  | cons c cs ih =>
    have hupper : upperChar c.toUpper = upperChar c :=
      eq_toUpper (f := upperChar) (by decide +kernel) c
    rw [List.map_cons, upper_cons, upper_cons, hupper, ih]

/-- The two texts differ at most in the case of ASCII letters. -/
def SameButCase : Prop :=
  cs.map Char.toUpper = ds.map Char.toUpper

instance : Decidable (SameButCase cs ds) :=
  inferInstanceAs (Decidable (cs.map Char.toUpper = ds.map Char.toUpper))

variable {cs ds}

/-- The case of ASCII letters does not count where a text is trimmed, cut and capitalised. -/
theorem SameButCase.upper_takeUnits_trimStart (h : SameButCase cs ds) :
    upper (takeUnits n (trimStart cs)) = upper (takeUnits n (trimStart ds)) := by
  have hcapitals : ∀ es : List Char,
      upper (takeUnits n (trimStart es)) =
        upper (takeUnits n (trimStart (es.map Char.toUpper))) := by
    intro es
    rw [trimStart_map_toUpper, takeUnits_map_toUpper, upper_map_toUpper]
  rw [hcapitals cs, h, ← hcapitals ds]

/-! ## Small forms -/

/-- An ASCII letter has the small form `d` just if it has the capital form of `d`. -/
theorem toLower_eq_iff {c d : Char} (hc : c.toNat < 128) (hd : d.isLower = true) :
    c.toLower = d ↔ c.toUpper = d.toUpper := by
  have hcapital : c.toLower.toUpper = c.toUpper :=
    ascii_forall (P := fun c => c.toLower.toUpper = c.toUpper) (by decide +kernel) hc
  have hsmall : c.toUpper.toLower = c.toLower :=
    ascii_forall (P := fun c => c.toUpper.toLower = c.toLower) (by decide +kernel) hc
  have hself : d.toUpper.toLower = d :=
    lower_forall (P := fun d => d.toUpper.toLower = d) (by decide +kernel) hd
  constructor
  · rintro rfl
    exact hcapital.symm
  · intro h
    rw [← hsmall, h, hself]

/-- Outside ASCII only `i` and `k` begin the small form of another character. -/
theorem exists_lowerChar_eq_cons {c : Char} (hc : 128 ≤ c.toNat) :
    ∃ d ds, lowerChar c = d :: ds ∧ (d = 'i' ∨ d = 'k' ∨ d = c) := by
  have hnot : ¬ c.toNat < 0x80 := by omega
  rw [lowerChar, if_neg hnot, wideSmalls]
  by_cases hi : c = '\u0130'
  · subst hi
    exact ⟨'i', ['\u0307'], rfl, .inl rfl⟩
  · by_cases hk : c = '\u212A'
    · subst hk
      exact ⟨'k', [], rfl, .inr (.inl rfl)⟩
    · have hi' : (c == '\u0130') = false := by simpa using hi
      have hk' : (c == '\u212A') = false := by simpa using hk
      exact ⟨c, [], by simp [List.lookup_cons, hi', hk'], .inr (.inr rfl)⟩

/-- A small letter other than `i` and `k` begins the small form of its own two cases and of no other
character. -/
theorem cons_prefix_lowerChar_append_iff {d : Char} (hd : d.isLower = true) (hi : d ≠ 'i')
    (hk : d ≠ 'k') {c : Char} {ds cs : List Char} :
    d :: ds <+: lowerChar c ++ cs ↔ c.toUpper = d.toUpper ∧ ds <+: cs := by
  by_cases hc : c.toNat < 128
  · have hlower : lowerChar c = [c.toLower] := if_pos hc
    rw [hlower, List.singleton_append, List.cons_prefix_cons, eq_comm, toLower_eq_iff hc hd]
  · -- the small form begins with another character
    have hle : 128 ≤ c.toNat := Nat.le_of_not_lt hc
    have hascii : d.toNat < 128 ∧ d.toUpper.toNat < 128 :=
      lower_forall (P := fun d => d.toNat < 128 ∧ d.toUpper.toNat < 128) (by decide +kernel) hd
    obtain ⟨e, es, hform, he⟩ := exists_lowerChar_eq_cons hle
    rw [hform, List.cons_append, List.cons_prefix_cons, toUpper_of_le hle]
    constructor
    · rintro ⟨rfl, -⟩
      rcases he with rfl | rfl | rfl
      · exact absurd rfl hi
      · exact absurd rfl hk
      · omega
    · rintro ⟨rfl, -⟩
      omega

variable {word cs : List Char}

/-- A text starts in small letters with a word without `i` and `k` just if it starts with that word in
any case. -/
theorem prefix_lower_iff (hword : ∀ d ∈ word, d.isLower = true ∧ d ≠ 'i' ∧ d ≠ 'k') :
    word <+: lower cs ↔ SameButCase (cs.take word.length) word := by
  induction word generalizing cs with
  | nil => simp [SameButCase]
  | cons d word ih =>
    rw [List.forall_mem_cons] at hword
    cases cs with
    | nil => simp [SameButCase]
    | cons c cs =>
      rw [lower_cons, cons_prefix_lowerChar_append_iff hword.1.1 hword.1.2.1 hword.1.2.2,
        ih hword.2]
      simp [SameButCase]

end SpanMetrics.Text
