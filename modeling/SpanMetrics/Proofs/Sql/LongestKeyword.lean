import SpanMetrics.Proofs.Text.Ascii
import SpanMetrics.Remote.Source

/-!
# SpanMetrics.Proofs.Sql.LongestKeyword — the operation of a statement is its longest keyword

Keywords are tried one after the other, and the first one that fits is taken. Because no keyword comes
behind a shorter one, it is the longest of all that fit, and it is the only one of its length.

* `startsWith_iff` — a keyword opens a text if no character behind it continues the word.
* `leadingKeyword?_eq_some_iff`, `leadingKeyword?_eq_none_iff` — which keyword is found, and when none is.
* `head_append`, `head_congr` — white space in front of a statement and letter case do not count.
* `Remote.statementOperation_longest` — the operation of the statement of a span.
-/

namespace SpanMetrics

namespace Sql

/-- The text starts with the keyword, and no character behind it continues the word. -/
def Opens (keyword : String) (cs : List Char) : Prop :=
  ∃ rest, cs = keyword.toList ++ rest ∧ ∀ c, rest.head? = some c → isWordChar c = false

/-- The longest of all keywords that open the text. -/
structure IsLongest (keyword : String) (cs : List Char) : Prop where
  mem : keyword ∈ keywords
  opens : Opens keyword cs
  longest : ∀ other ∈ keywords, Opens other cs → other.length ≤ keyword.length

variable {keyword : String} {cs : List Char}

theorem atWordEnd_iff : atWordEnd cs = true ↔ ∀ c, cs.head? = some c → isWordChar c = false := by
  cases cs <;> simp [atWordEnd]

theorem startsWith_iff : startsWith cs keyword = true ↔ Opens keyword cs := by
  unfold startsWith Opens
  rw [Bool.and_eq_true, List.isPrefixOf_iff_prefix, atWordEnd_iff]
  constructor
  · rintro ⟨⟨rest, rfl⟩, hend⟩
    rw [List.drop_left] at hend
    exact ⟨rest, rfl, hend⟩
  · rintro ⟨rest, rfl, hend⟩
    rw [List.drop_left]
    exact ⟨List.prefix_append _ _, hend⟩

theorem isLongest_iff :
    IsLongest keyword cs ↔ keyword ∈ keywords ∧ startsWith cs keyword = true ∧
      ∀ other ∈ keywords, startsWith cs other = true → other.length ≤ keyword.length := by
  simp only [startsWith_iff]
  constructor
  · rintro ⟨hmem, hopens, hlongest⟩
    exact ⟨hmem, hopens, hlongest⟩
  · rintro ⟨hmem, hopens, hlongest⟩
    exact ⟨hmem, hopens, hlongest⟩

instance : Decidable (IsLongest keyword cs) :=
  decidable_of_iff _ isLongest_iff.symm

/-- Keywords of one length that open one text are the same. -/
theorem Opens.eq_of_length_eq {other : String} (h : Opens keyword cs) (h' : Opens other cs)
    (hlength : keyword.length = other.length) : keyword = other := by
  obtain ⟨rest, rfl, -⟩ := h
  obtain ⟨rest', heq, -⟩ := h'
  rw [← String.length_toList, ← String.length_toList] at hlength
  exact String.toList_inj.1 (List.append_inj heq hlength).1

/-- There is only one longest keyword. -/
theorem IsLongest.eq {other : String} (h : IsLongest keyword cs) (h' : IsLongest other cs) :
    keyword = other := by
  have hle := h'.longest keyword h.mem h.opens
  have hge := h.longest other h'.mem h'.opens
  exact h.opens.eq_of_length_eq h'.opens (Nat.le_antisymm hle hge)

/-- The keyword that is found is the longest: those that come before it do not open the text, and those
that come behind it are not longer. -/
theorem isLongest_of_leadingKeyword? (h : leadingKeyword? cs = some keyword) :
    IsLongest keyword cs := by
  obtain ⟨hstarts, before, after, horder, hbefore⟩ := List.find?_eq_some_iff_append.1 h
  have hmem : keyword ∈ longestFirst := by simp [horder]
  have hsorted := pairwise_longestFirst
  rw [horder, List.pairwise_append, List.pairwise_cons] at hsorted
  obtain ⟨-, ⟨hafter, -⟩, -⟩ := hsorted
  refine ⟨(mem_longestFirst keyword).1 hmem, startsWith_iff.1 hstarts, ?_⟩
  intro other hother hopens
  rw [← mem_longestFirst, horder, List.mem_append, List.mem_cons] at hother
  rcases hother with hother | rfl | hother
  · have hnot := hbefore other hother
    rw [startsWith_iff.2 hopens] at hnot
    cases hnot
  · exact Nat.le_refl _
  · exact hafter other hother

/-- No keyword is found just if none opens the text. -/
theorem leadingKeyword?_eq_none_iff :
    leadingKeyword? cs = none ↔ ∀ k ∈ keywords, ¬ Opens k cs := by
  unfold leadingKeyword?
  simp only [List.find?_eq_none, mem_longestFirst, startsWith_iff]

/-- The keyword that is found is the longest that opens the text. -/
theorem leadingKeyword?_eq_some_iff :
    leadingKeyword? cs = some keyword ↔ IsLongest keyword cs := by
  constructor
  · exact isLongest_of_leadingKeyword?
  · intro h
    cases hfound : leadingKeyword? cs with
    | none => exact absurd h.opens (leadingKeyword?_eq_none_iff.1 hfound keyword h.mem)
    | some found => rw [(isLongest_of_leadingKeyword? hfound).eq h]

/-! ## Statements -/

/-- White space in front of a statement does not count. -/
theorem head_append {blanks statement : String} (h : ∀ c ∈ blanks.toList, Text.isBlank c = true) :
    head (blanks ++ statement) = head statement := by
  unfold head
  rw [String.toList_append, Text.trimStart_append (List.all_eq_true.2 h)]

/-- The case of ASCII letters does not count. -/
theorem head_congr {statement statement' : String}
    (h : Text.SameButCase statement.toList statement'.toList) : head statement = head statement' :=
  h.upper_takeUnits_trimStart headLimit

end Sql

namespace Remote

open Sql (keywords head Opens IsLongest)

/-- The operation of a statement is the longest keyword that opens it. A statement that no keyword opens
has no known operation; a longer keyword that goes on as another word stands in the way of none. White
space in front of the statement and the case of ASCII letters do not count. -/
theorem statementOperation_longest {s : Span} {key statement : String}
    (h : s.string? key = some statement) :
    (∀ keyword ∈ keywords, Opens keyword (head statement) →
      IsLongest (statementOperation s key) (head statement)) ∧
    (statementOperation s key = unknownOperation ↔
      ∀ keyword ∈ keywords, ¬ Opens keyword (head statement)) ∧
    ∀ (s' : Span) (key' statement' : String), s'.string? key' = some statement' →
      ((∃ blanks : String, (∀ c ∈ blanks.toList, Text.isBlank c = true) ∧
          statement' = blanks ++ statement) ∨
        Text.SameButCase statement'.toList statement.toList) →
      statementOperation s' key' = statementOperation s key := by
  have hvalue : ∀ (s : Span) (key statement : String), s.string? key = some statement →
      statementOperation s key = (Sql.leadingKeyword? (head statement)).getD unknownOperation := by
    intro s key statement h
    rw [statementOperation, h]
    rfl
  have hunknown : unknownOperation ∉ keywords := by decide
  refine ⟨?_, ?_, ?_⟩
  · intro keyword hmem hopens
    rw [hvalue s key statement h]
    cases hfound : Sql.leadingKeyword? (head statement) with
    | none => exact absurd hopens (Sql.leadingKeyword?_eq_none_iff.1 hfound keyword hmem)
    | some found => exact Sql.leadingKeyword?_eq_some_iff.1 hfound
  · rw [hvalue s key statement h, ← Sql.leadingKeyword?_eq_none_iff]
    cases hfound : Sql.leadingKeyword? (head statement) with
    | none => simp
    | some found =>
      have hmem := (Sql.leadingKeyword?_eq_some_iff.1 hfound).mem
      have hne : found ≠ unknownOperation := fun heq => hunknown (heq ▸ hmem)
      simp [hne]
  · intro s' key' statement' h' hsame
    have hhead : head statement' = head statement := by
      rcases hsame with ⟨blanks, hblank, rfl⟩ | hcase
      · exact Sql.head_append hblank
      · exact Sql.head_congr hcase
    rw [hvalue s' key' statement' h', hvalue s key statement h, hhead]

/-- A query that drops a table whose name starts like the word for a view. -/
def cleanup : Span where
  id := "9"
  name := "cleanup"
  kind := .client
  parentId := none
  attributes := .ofList [("db.system", .string "mysql"), ("db.statement", .string "\n Drop viewers;")]
  scope := none

/-- The same statement in capitals. -/
def cleanupInCapitals : Span where
  id := "9"
  name := "cleanup"
  kind := .client
  parentId := none
  attributes := .ofList [("db.system", .string "mysql"), ("db.statement", .string "\n DROP VIEWERS;")]
  scope := none

/-- The longer keyword goes on as another word, and the shorter one is found. -/
theorem statementOperation_longest_cleanup :
    IsLongest (statementOperation cleanup Key.dbStatement) "DROP VIEWERS;".toList ∧
      statementOperation cleanup Key.dbStatement = "DROP" ∧
      statementOperation cleanupInCapitals Key.dbStatement = "DROP" := by
  have hhead : head "\n Drop viewers;" = "DROP VIEWERS;".toList := by decide
  have hopens : Opens "DROP" "DROP VIEWERS;".toList := Sql.startsWith_iff.1 (by decide)
  have hdrop : IsLongest "DROP" "DROP VIEWERS;".toList := by decide +kernel
  have hstatement : cleanup.string? Key.dbStatement = some "\n Drop viewers;" := by decide
  obtain ⟨hlongest, -, hcase⟩ := statementOperation_longest hstatement
  rw [hhead] at hlongest
  have hfound := hlongest "DROP" (by decide) hopens
  have hvalue : statementOperation cleanup Key.dbStatement = "DROP" := hfound.eq hdrop
  refine ⟨hfound, hvalue, ?_⟩
  rw [← hvalue]
  exact hcase cleanupInCapitals Key.dbStatement "\n DROP VIEWERS;" (by decide) (.inr (by decide))

end Remote

end SpanMetrics
