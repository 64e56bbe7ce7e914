import Mathlib.Data.List.Basic
import Mathlib.Data.List.Find
import SpanMetrics.Proofs.Sql.LongestKeyword

/-!
# SpanMetrics.Proofs.Sql.WholeStatement — the beginning of a statement is enough

Only the beginning of a statement is put in capitals and looked at. Capitals never shorten a text, so
the beginning still holds more characters than the longest keyword: neither a keyword nor the end of the
word behind it can lie past the cut. Nor does it matter which capitals the letters outside ASCII have, as
long as those that turn into ASCII letters do.

* `exists_takeUnits_append_of_length` — how little a cut can leave.
* `IsCapitals`, `takeWhile_isAscii_flatMap` — full conversions into capitals agree as far as ASCII reaches.
* `leadingKeyword?_append`, `leadingKeyword?_takeWhile_isAscii` — what a keyword can depend on.
* `Remote.statementOperation_whole` — the operation is the one of the whole statement.
-/

namespace SpanMetrics

namespace Text

variable {n : Nat} {cs : List Char}

/-! ## What a cut leaves -/

theorem unitsOf_le_two (c : Char) : unitsOf c ≤ 2 := by
  unfold unitsOf
  split <;> omega

theorem units_le (cs : List Char) : units cs ≤ 2 * cs.length := by
  induction cs with
  | nil => simp
  | cons c cs ih =>
    have hc := unitsOf_le_two c
    simp only [units_cons, List.length_cons]
    omega

/-- A text is cut only where no room is left for one more character. -/
theorem exists_takeUnits_append (n : Nat) (cs : List Char) :
    ∃ rest, cs = takeUnits n cs ++ rest ∧ (rest = [] ∨ n ≤ units (takeUnits n cs) + 1) := by
  induction cs generalizing n with
  | nil => exact ⟨[], rfl, .inl rfl⟩
  | cons c cs ih =>
    have hc := unitsOf_le_two c
    rw [takeUnits]
    split
    · next hroom =>
      obtain ⟨rest, hrest, hcut⟩ := ih (n - unitsOf c)
      refine ⟨rest, by rw [List.cons_append, ← hrest], ?_⟩
      rcases hcut with hnil | hfull
      · exact .inl hnil
      · right
        rw [units_cons]
        omega
    · next hroom =>
      refine ⟨c :: cs, rfl, .inr ?_⟩
      rw [units_nil]
      omega

/-- A text that is cut keeps at least half as many characters as there is room for units. -/
theorem exists_takeUnits_append_of_length (n : Nat) (cs : List Char) :
    ∃ rest, cs = takeUnits n cs ++ rest ∧ (rest = [] ∨ n ≤ 2 * (takeUnits n cs).length + 1) := by
  obtain ⟨rest, hrest, hcut⟩ := exists_takeUnits_append n cs
  have hunits := units_le (takeUnits n cs)
  refine ⟨rest, hrest, ?_⟩
  rcases hcut with hnil | hfull
  · exact .inl hnil
  · right
    omega

/-! ## Capitals -/

/-- The character is one of ASCII. -/
def isAscii (c : Char) : Bool :=
  decide (c.toNat < 128)

/-- The capital form of the character holds an ASCII character. -/
def HasAsciiCapital (c : Char) : Prop :=
  c.toNat < 128 ∨ c ∈ wideCapitals.map (·.1)

/-- A full conversion into capitals. Every character has a capital form, and the forms that hold ASCII
characters are known. -/
structure IsCapitals (capital : Char → List Char) : Prop where
  known : ∀ c, HasAsciiCapital c → capital c = upperChar c
  ne_nil : ∀ c, ¬ HasAsciiCapital c → capital c ≠ []
  not_ascii : ∀ c, ¬ HasAsciiCapital c → ∀ d ∈ capital c, isAscii d = false

theorem upperChar_of_not {c : Char} (hc : ¬ HasAsciiCapital c) : upperChar c = [c] := by
  rw [HasAsciiCapital, not_or] at hc
  have hlookup : wideCapitals.lookup c = none := by
    refine List.lookup_eq_none_iff.2 ?_
    intro entry hentry
    rw [bne_iff_ne]
    rintro rfl
    exact hc.2 (List.mem_map_of_mem hentry)
  rw [upperChar, if_neg hc.1, hlookup]
  rfl

/-- The conversion that leaves all other characters as they are is one. -/
theorem isCapitals_upperChar : IsCapitals upperChar := by
  refine ⟨fun _ _ => rfl, ?_, ?_⟩
  · intro c hc
    rw [upperChar_of_not hc]
    exact List.cons_ne_nil c []
  · intro c hc d hd
    rw [upperChar_of_not hc, List.mem_singleton] at hd
    rw [HasAsciiCapital, not_or] at hc
    simp [isAscii, hd, hc.1]

variable {capital : Char → List Char}

/-- ASCII ends where a character has a capital form outside ASCII. -/
theorem IsCapitals.takeWhile_isAscii_append (h : IsCapitals capital) {c : Char}
    (hc : ¬ HasAsciiCapital c) (rest : List Char) :
    (capital c ++ rest).takeWhile isAscii = [] := by
  have hnot := h.not_ascii c hc
  obtain ⟨d, ds, hform⟩ := List.exists_cons_of_ne_nil (h.ne_nil c hc)
  rw [hform, List.forall_mem_cons] at hnot
  rw [hform, List.cons_append, List.takeWhile_cons, hnot.1]
  rfl

/-- Full conversions agree as far as ASCII reaches. -/
theorem IsCapitals.takeWhile_isAscii_flatMap (h : IsCapitals capital) (cs : List Char) :
    (cs.flatMap capital).takeWhile isAscii = (upper cs).takeWhile isAscii := by
  induction cs with
  | nil => rfl
  | cons c cs ih =>
    rw [List.flatMap_cons, upper_cons]
    by_cases hc : HasAsciiCapital c
    · rw [h.known c hc, List.takeWhile_append, List.takeWhile_append, ih]
    · rw [h.takeWhile_isAscii_append hc, isCapitals_upperChar.takeWhile_isAscii_append hc]

theorem upperChar_ne_nil (c : Char) : upperChar c ≠ [] := by
  have hforms : ∀ entry ∈ wideCapitals, entry.2 ≠ [] := by decide
  unfold upperChar
  split
  · exact List.cons_ne_nil _ _
  · cases hlookup : wideCapitals.lookup c with
    | none => exact List.cons_ne_nil _ _
    | some form =>
      obtain ⟨before, after, htable, -⟩ := List.lookup_eq_some_iff.1 hlookup
      exact hforms (c, form) (by simp [htable])

/-- Capitals never shorten a text. -/
theorem length_le_upper (cs : List Char) : cs.length ≤ (upper cs).length := by
  induction cs with
  | nil => simp
  | cons c cs ih =>
    have hform : 0 < (upperChar c).length := List.length_pos_iff.2 (upperChar_ne_nil c)
    rw [upper_cons, List.length_append, List.length_cons]
    omega

end Text

namespace Sql

open Text (isAscii IsCapitals takeUnits trimStart upper)

variable {keyword : String} {cs front : List Char}

/-! ## What a keyword can depend on -/

/-- Keywords are short and have ASCII characters only. -/
theorem bounds_of_mem_keywords :
    ∀ k ∈ keywords, k.length ≤ 25 ∧ k.toList.all isAscii = true := by
  decide +kernel

theorem isAscii_of_isWordChar {c : Char} (h : isWordChar c = true) : isAscii c = true := by
  rw [isWordChar, Bool.or_eq_true, beq_iff_eq] at h
  rcases h with hletter | rfl
  · exact decide_eq_true (Text.toNat_lt_of_isAlphanum hletter)
  · decide

theorem leadingKeyword?_congr {ds : List Char}
    (h : ∀ k ∈ keywords, Opens k cs ↔ Opens k ds) : leadingKeyword? cs = leadingKeyword? ds := by
  unfold leadingKeyword?
  refine List.find?_congr ?_
  intro k hk
  rw [Bool.eq_iff_iff, startsWith_iff, startsWith_iff]
  exact h k ((mem_longestFirst k).1 hk)

/-- A keyword that is shorter than the beginning of a text opens the text just if it opens that
beginning: the character behind it, too, belongs to the beginning. -/
theorem opens_append_iff (h : keyword.length < front.length) (back : List Char) :
    Opens keyword (front ++ back) ↔ Opens keyword front := by
  rw [← String.length_toList] at h
  constructor
  · rintro ⟨rest, heq, hend⟩
    rcases List.append_eq_append_iff.1 heq with ⟨more, hkeyword, -⟩ | ⟨middle, hfront, hrest⟩
    · have hlength := congrArg List.length hkeyword
      rw [List.length_append] at hlength
      omega
    · refine ⟨middle, hfront, ?_⟩
      intro c hc
      refine hend c ?_
      rw [hrest, List.head?_append, hc]
      rfl
  · rintro ⟨middle, rfl, hend⟩
    have hmiddle : middle ≠ [] := by
      rintro rfl
      simp at h
    refine ⟨middle ++ back, by simp, ?_⟩
    intro c hc
    rw [List.head?_append_of_ne_nil _ hmiddle] at hc
    exact hend c hc

/-- Whether a keyword of ASCII characters opens a text is decided before any other character. -/
theorem opens_takeWhile_isAscii_iff (h : ∀ c ∈ keyword.toList, isAscii c = true) :
    Opens keyword (cs.takeWhile isAscii) ↔ Opens keyword cs := by
  constructor
  · rintro ⟨rest, heq, hend⟩
    refine ⟨rest ++ cs.dropWhile isAscii, ?_, ?_⟩
    · rw [← List.append_assoc, ← heq, List.takeWhile_append_dropWhile]
    · intro c hc
      cases rest with
      | nil =>
        -- the character behind the keyword is not one of ASCII
        have hnot := List.head?_dropWhile_not isAscii cs
        rw [List.nil_append] at hc
        rw [hc] at hnot
        change isAscii c = false at hnot
        by_contra hword
        rw [Bool.not_eq_false] at hword
        rw [isAscii_of_isWordChar hword] at hnot
        cases hnot
      | cons d rest => exact hend c hc
  · rintro ⟨rest, rfl, hend⟩
    rw [List.takeWhile_append_of_pos h]
    refine ⟨rest.takeWhile isAscii, rfl, ?_⟩
    intro c hc
    rw [List.head?_takeWhile] at hc
    exact hend c (Option.filter_eq_some_iff.1 hc).1

theorem leadingKeyword?_append (h : 25 < front.length) (back : List Char) :
    leadingKeyword? (front ++ back) = leadingKeyword? front := by
  refine leadingKeyword?_congr ?_
  intro k hk
  have hlength := (bounds_of_mem_keywords k hk).1
  exact opens_append_iff (by omega) back

theorem leadingKeyword?_takeWhile_isAscii (cs : List Char) :
    leadingKeyword? (cs.takeWhile isAscii) = leadingKeyword? cs := by
  refine leadingKeyword?_congr ?_
  intro k hk
  exact opens_takeWhile_isAscii_iff (List.all_eq_true.1 (bounds_of_mem_keywords k hk).2)

/-! ## Statements -/

variable {capital : Char → List Char}

/-- The keyword of a text is the same in all capitals. -/
theorem leadingKeyword?_flatMap (h : IsCapitals capital) (cs : List Char) :
    leadingKeyword? (cs.flatMap capital) = leadingKeyword? (upper cs) := by
  rw [← leadingKeyword?_takeWhile_isAscii, h.takeWhile_isAscii_flatMap,
    leadingKeyword?_takeWhile_isAscii]

/-- The keyword of a text is the one of its beginning. -/
theorem leadingKeyword?_upper_takeUnits (cs : List Char) :
    leadingKeyword? (upper (takeUnits headLimit cs)) = leadingKeyword? (upper cs) := by
  obtain ⟨rest, hwhole, hcut⟩ := Text.exists_takeUnits_append_of_length headLimit cs
  rcases hcut with rfl | hlong
  · rw [List.append_nil] at hwhole
    rw [← hwhole]
  · have hupper := Text.length_le_upper (takeUnits headLimit cs)
    have hlimit : headLimit = 80 := rfl
    have hwholeUpper : upper cs = upper (takeUnits headLimit cs) ++ upper rest := by
      rw [← Text.upper_append, ← hwhole]
    rw [hwholeUpper, leadingKeyword?_append (by omega)]

end Sql

namespace Remote

open Sql (headLimit leadingKeyword?)
open Text (IsCapitals takeUnits trimStart upper)

/-- The operation of a statement is the keyword that the whole statement starts with, although only its
beginning is looked at: the cut changes nothing, in whatever capitals the beginning and the whole are
written. -/
theorem statementOperation_whole {s : Span} {key statement : String}
    (h : s.string? key = some statement) :
    statementOperation s key =
        (leadingKeyword? (upper (trimStart statement.toList))).getD unknownOperation ∧
      ∀ capital : Char → List Char, IsCapitals capital →
        leadingKeyword? ((takeUnits headLimit (trimStart statement.toList)).flatMap capital) =
            leadingKeyword? ((trimStart statement.toList).flatMap capital) ∧
          statementOperation s key =
            (leadingKeyword? ((trimStart statement.toList).flatMap capital)).getD
              unknownOperation := by
  have hcut := Sql.leadingKeyword?_upper_takeUnits (trimStart statement.toList)
  have hwhole : statementOperation s key =
      (leadingKeyword? (upper (trimStart statement.toList))).getD unknownOperation := by
    rw [← hcut, statementOperation, h]
    rfl
  refine ⟨hwhole, ?_⟩
  intro capital hcapital
  constructor
  · rw [Sql.leadingKeyword?_flatMap hcapital, Sql.leadingKeyword?_flatMap hcapital, hcut]
  · rw [Sql.leadingKeyword?_flatMap hcapital, hwhole]

/-- Capitals in which a Greek letter with two marks becomes three characters. -/
def greekCapital (c : Char) : List Char :=
  if c = '\u0390' then ['\u0399', '\u0308', '\u0301'] else Text.upperChar c

theorem isCapitals_greekCapital : IsCapitals greekCapital := by
  have hother := Text.isCapitals_upperChar
  refine ⟨?_, ?_, ?_⟩
  · intro c hc
    have hne : c ≠ '\u0390' := by
      rintro rfl
      revert hc
      simp [Text.HasAsciiCapital, Text.wideCapitals]
    exact if_neg hne
  · intro c hc
    unfold greekCapital
    split
    · exact List.cons_ne_nil _ _
    · exact hother.ne_nil c hc
  · intro c hc
    unfold greekCapital
    split
    · simp [Text.isAscii]
    · exact hother.not_ascii c hc

/-- A statement of which the cut falls into the middle of a character: seventy-nine units stand before
it, and it counts twice. -/
def sweepStatement : String :=
  " \tdrop view view_\u0390" ++ String.ofList (List.replicate 63 'x') ++ "😀 cascade"

def sweep : Span where
  id := "9"
  name := "sweep"
  kind := .client
  parentId := none
  attributes := .ofList [("db.system", .string "mysql"), ("db.statement", .string sweepStatement)]
  scope := none

/-- The keyword is found, although the cut takes a character apart and the capitals are longer. -/
theorem statementOperation_whole_sweep :
    takeUnits headLimit (trimStart sweepStatement.toList) =
        (trimStart sweepStatement.toList).take 79 ∧
      leadingKeyword? ((trimStart sweepStatement.toList).flatMap greekCapital) = some "DROP VIEW" ∧
      statementOperation sweep Key.dbStatement = "DROP VIEW" := by
  have hstatement : sweep.string? Key.dbStatement = some sweepStatement := by decide
  have hfound : leadingKeyword? ((trimStart sweepStatement.toList).flatMap greekCapital) =
      some "DROP VIEW" := Sql.leadingKeyword?_eq_some_iff.2 (by decide +kernel)
  obtain ⟨-, hcapitals⟩ := statementOperation_whole hstatement
  have hwhole := (hcapitals greekCapital isCapitals_greekCapital).2
  refine ⟨by decide +kernel, hfound, ?_⟩
  rw [hwhole, hfound]
  rfl

end Remote

end SpanMetrics
