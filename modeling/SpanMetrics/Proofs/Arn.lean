import SpanMetrics.Arn
import SpanMetrics.Proofs.Text.Fields

/-!
# SpanMetrics.Proofs.Arn — reading and writing resource names

A resource name is read just if it is written as it should be: `arn`, three fields and an account
number, each with a colon behind it, and then the resource, which may hold any number of colons. What
was read is written as it stood, and what is written is read back.

* `parse?_eq_some_iff` — a resource name is read from its own text and from no other.
* `text_eq`, `text_eq_append` — the text of a resource name.
* `written_read_back` — reading and writing undo each other.
-/

namespace SpanMetrics.Arn

open Text (IsDigits)

/-- The text can stand between two colons: it holds none. -/
def IsField (s : String) : Prop :=
  ':' ∉ s.toList

instance (s : String) : Decidable (IsField s) :=
  inferInstanceAs (Decidable (':' ∉ s.toList))

/-- The parts of the resource name can be told apart in writing, and its account is a number. -/
structure WellFormed (arn : Arn) : Prop where
  partition : IsField arn.partition
  service : IsField arn.service
  region : IsField arn.region
  account : IsDigits arn.account
  resource : ∀ part ∈ arn.resource, IsField part

variable {s : String} {arn : Arn}

/-- An account number holds no colon. -/
theorem isField_of_isDigits (h : IsDigits s) : IsField s := by
  intro hcolon
  have hdigit := h.2 ':' hcolon
  simp at hdigit

theorem wellFormed_iff :
    arn.WellFormed ↔ (∀ part ∈ arn.parts, IsField part) ∧ IsDigits arn.account := by
  have hscheme : IsField (.ofList scheme) := by decide
  simp only [parts, List.forall_mem_cons, hscheme, true_and]
  constructor
  · rintro ⟨hpartition, hservice, hregion, haccount, hresource⟩
    exact ⟨⟨hpartition, hservice, hregion, isField_of_isDigits haccount, hresource⟩, haccount⟩
  · rintro ⟨⟨hpartition, hservice, hregion, -, hresource⟩, haccount⟩
    exact ⟨hpartition, hservice, hregion, haccount, hresource⟩

/-! ## The text of a resource name -/

theorem text_eq (arn : Arn) :
    arn.text = ":".intercalate ("arn" :: arn.partition :: arn.service :: arn.region ::
      arn.account :: arn.resource) := by
  have hscheme : String.ofList scheme = "arn" := rfl
  have hcolon : ":".toList = [':'] := rfl
  rw [text, ← String.toList_inj, String.toList_ofList, String.toList_intercalate, hcolon, parts,
    hscheme]

/-- The resource is the rest of the text. -/
theorem text_eq_append (arn : Arn) :
    arn.text = "arn:" ++ arn.partition ++ ":" ++ arn.service ++ ":" ++ arn.region ++ ":" ++
      arn.account ++ ":" ++ ":".intercalate arn.resource := by
  have hfront := Text.intercalate_append ":"
    ["arn", arn.partition, arn.service, arn.region, arn.account] arn.resource_ne
  have hcolon : "arn:" = "arn" ++ ":" := rfl
  simp only [List.cons_append, List.nil_append] at hfront
  rw [text_eq, hfront, hcolon]
  simp only [String.intercalate_cons_cons, String.intercalate_singleton, String.append_assoc]

/-! ## Reading -/

/-- What is read are the fields of the text. -/
theorem parse?_eq_some_iff_splitOn :
    parse? s = some arn ↔
      s.toList.splitOn ':' = arn.parts.map String.toList ∧ IsDigits arn.account := by
  unfold parse?
  constructor
  · intro h
    split at h
    · next hfields =>
      split at h
      · next hvalid =>
        obtain ⟨rfl, hdigits⟩ := hvalid
        cases h
        refine ⟨?_, (Text.allDigits_toList_iff _).1 (by simpa using hdigits)⟩
        simp [parts, hfields]
      · cases h
    · cases h
  · rintro ⟨hfields, hdigits⟩
    obtain ⟨partition, service, region, account, resource, hne⟩ := arn
    obtain ⟨part, others, rfl⟩ := List.exists_cons_of_ne_nil hne
    have hvalid : Text.allDigits account.toList = true := (Text.allDigits_toList_iff _).2 hdigits
    rw [hfields]
    simp [parts, hvalid]

/-- A resource name is read from its own text and from no other. -/
theorem parse?_eq_some_iff : parse? s = some arn ↔ arn.WellFormed ∧ s = arn.text := by
  have hne : arn.parts ≠ [] := List.cons_ne_nil _ _
  have htext : arn.text = (String.singleton ':').intercalate arn.parts := by
    rw [text_eq]
    rfl
  rw [parse?_eq_some_iff_splitOn, Text.splitOn_toList_eq_iff, wellFormed_iff, htext]
  constructor
  · rintro ⟨⟨-, hfields, htext⟩, hdigits⟩
    exact ⟨⟨hfields, hdigits⟩, htext⟩
  · rintro ⟨⟨hfields, hdigits⟩, htext⟩
    exact ⟨⟨hne, hfields, htext⟩, hdigits⟩

/-- Only a string holds a resource name. -/
theorem ofValue?_eq_some_iff {v : Value} :
    ofValue? v = some arn ↔ arn.WellFormed ∧ v = .string arn.text := by
  simp only [ofValue?, Option.bind_eq_some_iff, Value.string?_eq_some_iff, parse?_eq_some_iff]
  constructor
  · rintro ⟨_, rfl, hwell, rfl⟩
    exact ⟨hwell, rfl⟩
  · rintro ⟨hwell, rfl⟩
    exact ⟨_, rfl, hwell, rfl⟩

/-- Reading and writing undo each other. A value holds a resource name just if it is written as one;
the parts that were read, with colons between them, are the value again; and whatever parts are
written, these parts are read back, the last of the resource as the name. -/
theorem written_read_back :
    (∀ v : Value, (ofValue? v).isSome = true ↔
      ∃ partition service region account rest : String,
        IsField partition ∧ IsField service ∧ IsField region ∧ IsDigits account ∧
          v = .string ("arn:" ++ partition ++ ":" ++ service ++ ":" ++ region ++ ":" ++
            account ++ ":" ++ rest)) ∧
    (∀ (v : Value) (arn : Arn), ofValue? v = some arn →
      arn.WellFormed ∧
        v = .string (":".intercalate ("arn" :: arn.partition :: arn.service :: arn.region ::
          arn.account :: arn.resource))) ∧
    ∀ (partition service region account : String) (resource : List String) (hne : resource ≠ []),
      IsField partition → IsField service → IsField region → IsDigits account →
        (∀ part ∈ resource, IsField part) →
          ofValue? (.string (":".intercalate
              ("arn" :: partition :: service :: region :: account :: resource))) =
            some ⟨partition, service, region, account, resource, hne⟩ ∧
          (ofValue? (.string (":".intercalate
              ("arn" :: partition :: service :: region :: account :: resource)))).map name =
            some (resource.getLast hne) := by
  refine ⟨?_, ?_, ?_⟩
  · intro v
    rw [Option.isSome_iff_exists]
    constructor
    · rintro ⟨arn, harn⟩
      obtain ⟨hwell, rfl⟩ := ofValue?_eq_some_iff.1 harn
      exact ⟨arn.partition, arn.service, arn.region, arn.account, ":".intercalate arn.resource,
        hwell.partition, hwell.service, hwell.region, hwell.account, by rw [text_eq_append]⟩
    · rintro ⟨partition, service, region, account, rest, hpartition, hservice, hregion, haccount,
        rfl⟩
      -- the rest is cut at its colons: these are the parts of the resource
      obtain ⟨resource, hne, hresource, rfl⟩ := Text.exists_fields ':' rest
      refine ⟨⟨partition, service, region, account, resource, hne⟩, ofValue?_eq_some_iff.2 ?_⟩
      refine ⟨⟨hpartition, hservice, hregion, haccount, hresource⟩, ?_⟩
      rw [text_eq_append]
      rfl
  · intro v arn harn
    obtain ⟨hwell, rfl⟩ := ofValue?_eq_some_iff.1 harn
    exact ⟨hwell, by rw [text_eq]⟩
  · intro partition service region account resource hne hpartition hservice hregion haccount
      hresource
    have hread : ofValue? (.string (":".intercalate
        ("arn" :: partition :: service :: region :: account :: resource))) =
          some ⟨partition, service, region, account, resource, hne⟩ := by
      refine ofValue?_eq_some_iff.2 ⟨⟨hpartition, hservice, hregion, haccount, hresource⟩, ?_⟩
      rw [text_eq]
    rw [hread]
    exact ⟨rfl, rfl⟩

/-- The name of a layer in no region, which ends in a colon, is read from its text: the last part of
the resource is empty. -/
theorem written_read_back_layer :
    ∃ arn, ofValue? (.string "arn:aws:lambda::000000000042:layer:tools:") = some arn ∧
      arn.WellFormed ∧ arn.region = "" ∧ arn.resource = ["layer", "tools", ""] ∧ arn.name = "" := by
  have haccount : IsDigits "000000000042" := (Text.allDigits_toList_iff _).1 (by decide)
  obtain ⟨-, hwritten, hback⟩ := written_read_back
  have hread := hback "aws" "lambda" "" "000000000042" ["layer", "tools", ""] (by simp) (by decide)
    (by decide) (by decide) haccount (by decide)
  have htext : ":".intercalate ("arn" :: "aws" :: "lambda" :: "" :: "000000000042" ::
      ["layer", "tools", ""]) = "arn:aws:lambda::000000000042:layer:tools:" := by decide
  rw [htext] at hread
  exact ⟨_, hread.1, (hwritten _ _ hread.1).1, rfl, rfl, rfl⟩

/-- Digits of other scripts make no account number. -/
example : parse? "arn:aws:s3:eu-west-1:\u0661\u0662\u0663:bucket" = none := by decide

end SpanMetrics.Arn
