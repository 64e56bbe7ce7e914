import SpanMetrics.Proofs.Text.Ascii
import SpanMetrics.Proofs.Text.Fields
import SpanMetrics.Proofs.Url.Special

/-!
# SpanMetrics.Proofs.Url.Plain — URLs that are read as they are written

A host of small letters is a domain name. A path of unreserved characters holds no dot segment and
nothing that is escaped, so it is written as it was read.

* `authority?_plain` — such a host is read as a domain name.
* `text_ofText_plain` — such a path is written as it was read.
* `pathname_parse?_plain` — the path of the URL of a plain request.
-/

namespace SpanMetrics.Url

open SpanMetrics.Text (ascii_forall lower_forall of_mem_splitOnP toNat_lt_of_isAlphanum)

/-! ## Characters -/

/-- A character that stands in a path as it is and has no meaning there. -/
def isPathChar (c : Char) : Bool :=
  c.isAlphanum || c == '-' || c == '_' || c == '~'

/-- A property of all characters that stand in a path as they are. -/
theorem pathChar_forall {P : Char → Prop}
    (h : ∀ n < 128, isPathChar (Char.ofNat n) = true → P (Char.ofNat n)) {c : Char}
    (hc : isPathChar c = true) : P c := by
  have hascii : c.toNat < 128 := by
    simp only [isPathChar, Bool.or_eq_true, beq_iff_eq] at hc
    rcases hc with ((hc | rfl) | rfl) | rfl
    · exact toNat_lt_of_isAlphanum hc
    · decide
    · decide
    · decide
  exact ascii_forall (P := fun c => isPathChar c = true → P c) h hascii hc

/-! ## Hosts -/

section
variable {host : List Char} (hlower : ∀ c ∈ host, c.isLower = true)
include hlower

theorem splitPort_plain : splitPort false host = (host, none) := by
  induction host with
  | nil => rfl
  | cons c cs ih =>
    rw [List.forall_mem_cons] at hlower
    have hc : c ≠ ':' ∧ c ≠ '[' ∧ c ≠ ']' :=
      lower_forall (P := fun c => c ≠ ':' ∧ c ≠ '[' ∧ c ≠ ']') (by decide +kernel) hlower.1
    simp [splitPort, hc, ih hlower.2]

theorem lower_plain : Text.lower host = host := by
  induction host with
  | nil => rfl
  | cons c cs ih =>
    rw [List.forall_mem_cons] at hlower
    have hc : Text.lowerChar c = [c] :=
      lower_forall (P := fun c => Text.lowerChar c = [c]) (by decide +kernel) hlower.1
    rw [Text.lower_cons, hc, ih hlower.2, List.singleton_append]

/-- A name of letters has one label. -/
theorem splitOn_plain : host.splitOn '.' = [host] := by
  have hdot : ∀ c ∈ host, (c == '.') = false := by
    intro c hc
    exact lower_forall (P := fun c => (c == '.') = false) (by decide +kernel) (hlower c hc)
  rw [List.splitOn_eq_splitOnP, List.splitOnP_eq_singleton hdot]

/-- A name of letters is its own ASCII form, since the mark of such a form has hyphens. -/
theorem toAscii?_plain [Runtime] : Host.toAscii? host = some host := by
  have hascii : ∀ c ∈ host, c.toNat < 0x80 := by
    intro c hc
    exact lower_forall (P := fun c => c.toNat < 0x80) (by decide +kernel) (hlower c hc)
  have hmark : Host.asciiFormMark.isPrefixOf host = false := by
    rw [Bool.eq_false_iff, ne_eq, List.isPrefixOf_iff_prefix]
    intro hbegins
    exact absurd (hlower '-' (hbegins.subset (by decide))) (by decide)
  have hname : Host.isAsciiName host = true := by
    simpa [Host.isAsciiName, splitOn_plain hlower, lower_plain hlower, hmark] using hascii
  rw [Host.toAscii?, if_pos hname, lower_plain hlower]

/-- A name of letters is no IPv4 address. -/
theorem endsInNumber_plain (hne : host ≠ []) : IPv4.endsInNumber host = false := by
  obtain ⟨c, cs, rfl⟩ := List.exists_cons_of_ne_nil hne
  -- there is one label, and its first character is no digit
  have hlabels : IPv4.labels (c :: cs) = [c :: cs] := by
    simp [IPv4.labels, splitOn_plain hlower]
  have hc : c ≠ '0' ∧ c.isDigit = false ∧ digitValue? 10 c = none :=
    lower_forall (P := fun c => c ≠ '0' ∧ c.isDigit = false ∧ digitValue? 10 c = none)
      (by decide +kernel) (hlower c List.mem_cons_self)
  have hnumber : IPv4.number? (c :: cs) = none := by
    unfold IPv4.number?
    split
    · rfl
    · next h => exact absurd (List.cons.inj h).1 hc.1
    · next h => exact absurd (List.cons.inj h).1 hc.1
    · next h => exact absurd (List.cons.inj h).1 hc.1
    · simp [IPv4.ofDigits?, hc.2.2]
  simp [IPv4.endsInNumber, hlabels, hnumber, Text.allDigits, hc.2.1]

/-- A host of small letters is a domain name. -/
theorem parseSpecial?_plain [Runtime] (hne : host ≠ []) :
    Host.parseSpecial? host = some (.domain host) := by
  have hbracket : Host.bracketed? host = none := by
    unfold Host.bracketed?
    split
    · exact absurd (hlower '[' List.mem_cons_self) (by decide)
    · rfl
  have hallowed : ∀ c ∈ host, Host.isForbiddenInDomain c = false := by
    intro c hc
    exact lower_forall (P := fun c => Host.isForbiddenInDomain c = false) (by decide +kernel)
      (hlower c hc)
  have hescape : '%' ∉ host := by
    intro hmem
    exact absurd (hlower '%' hmem) (by decide)
  simpa [Host.parseSpecial?, hbracket, percentDecode?_of_notMem hescape, toAscii?_plain hlower,
    endsInNumber_plain hlower hne, hne] using hallowed

theorem authority?_plain [Runtime] (hne : host ≠ []) (port : Nat) :
    authority? (some port) host = some (.domain host, none) := by
  have hat : '@' ∉ host := by
    intro hmem
    exact absurd (hlower '@' hmem) (by decide)
  simp [authority?, withoutCredentials?_of_notMem hat, splitPort_plain hlower,
    parseSpecial?_plain hlower hne, hne, port?]

end

/-! ## Paths -/

namespace Path

/-- A segment of characters that stand in a path as they are is kept as it is. -/
theorem extend_plain (last : Bool) (above : List (List Char)) {segment : List Char}
    (h : ∀ c ∈ segment, isPathChar c = true) : extend false last above segment = segment :: above := by
  have hdot : afterDot? segment = none := by
    unfold afterDot?
    split
    · exact absurd (h '.' List.mem_cons_self) (by decide)
    · exact absurd (h '%' List.mem_cons_self) (by decide)
    · exact absurd (h '%' List.mem_cons_self) (by decide)
    · rfl
  have hencode : percentEncode inPathSet segment = segment := by
    refine percentEncode_eq_self ?_
    intro c hc
    exact pathChar_forall (P := fun c => inPathSet c = false) (by decide +kernel) (h c hc)
  simp [extend, isDoubleDot, isDot, hdot, kept, hencode]

theorem resolve_plain (above : List (List Char)) {segments : List (List Char)}
    (h : ∀ segment ∈ segments, ∀ c ∈ segment, isPathChar c = true) :
    resolve false above segments = segments.reverse ++ above := by
  fun_induction resolve false above segments with
  | case1 above => rfl
  | case2 above segment =>
    rw [extend_plain true above (h segment List.mem_cons_self)]
    rfl
  | case3 above segment more hmore ih =>
    rw [List.forall_mem_cons] at h
    rw [ih h.2, extend_plain false above h.1]
    simp

/-- Segments that are put together again are the text from which they were read. -/
theorem flatMap_splitOnP {cs : List Char} (h : ∀ c ∈ cs, isSlash c = true → c = '/') :
    (cs.splitOnP isSlash).flatMap ('/' :: ·) = '/' :: cs := by
  induction cs with
  | nil => rfl
  | cons c cs ih =>
    rw [List.forall_mem_cons] at h
    rw [List.splitOnP_cons_eq_if_modifyHead]
    by_cases hc : isSlash c = true
    · -- the slash that ends a segment is written in front of the next one
      rw [if_pos hc, List.flatMap_cons, ih h.2, h.1 hc]
      rfl
    · obtain ⟨first, others, hsplit⟩ := List.exists_cons_of_ne_nil (List.splitOnP_ne_nil isSlash cs)
      rw [hsplit, List.flatMap_cons, List.cons_append, List.cons.injEq] at ih
      rw [if_neg hc, hsplit, List.modifyHead_cons, List.flatMap_cons, List.cons_append,
        List.cons_append, (ih h.2).2]

/-- A path of characters that stand in it as they are is written as it was read. -/
theorem text_ofText_plain {cs : List Char} (h : ∀ c ∈ cs, c = '/' ∨ isPathChar c = true) :
    (ofText false isSlash cs).text = '/' :: cs := by
  have hnotSlash : ∀ c, isPathChar c = true → isSlash c = false := by
    intro c hc
    exact pathChar_forall (P := fun c => isSlash c = false) (by decide +kernel) hc
  have hsegments : ∀ segment ∈ cs.splitOnP isSlash, ∀ c ∈ segment, isPathChar c = true := by
    intro segment hsegment c hc
    obtain ⟨hmem, hslash⟩ := of_mem_splitOnP hsegment c hc
    rcases h c hmem with rfl | hplain
    · exact absurd hslash (by decide)
    · exact hplain
  unfold ofText text
  rw [resolve_plain [] hsegments, List.append_nil, List.reverse_reverse]
  refine flatMap_splitOnP ?_
  intro c hc hslash
  rcases h c hc with rfl | hplain
  · rfl
  · rw [hnotSlash c hplain] at hslash
    cases hslash

end Path

/-- The path of the URL of a plain request is the one that stands in it. -/
theorem pathname_parse?_plain [Runtime] {host path tail : List Char} (hne : host ≠ [])
    (hlower : ∀ c ∈ host, c.isLower = true) (hstart : path.head? = some '/')
    (hpath : ∀ c ∈ path, c = '/' ∨ isPathChar c = true)
    (htail : ∀ c, tail.head? = some c → endsPath c = true) :
    (parse? (webText "http".toList (host ++ path ++ tail))).map pathname = some (.ofList path) := by
  have hhost : ∀ c ∈ host, isSlash c = false ∧ endsPath c = false ∧ isEndBlank c = false := by
    intro c hc
    exact lower_forall
      (P := fun c => isSlash c = false ∧ endsPath c = false ∧ isEndBlank c = false)
      (by decide +kernel) (hlower c hc)
  have hpath' : ∀ c ∈ path, endsPath c = false ∧ isEndBlank c = false := by
    intro c hc
    rcases hpath c hc with rfl | hplain
    · decide
    · exact pathChar_forall (P := fun c => endsPath c = false ∧ isEndBlank c = false)
        (by decide +kernel) hplain
  have hfront : Front host path := by
    refine ⟨hne, fun c hc => ⟨(hhost c hc).1, (hhost c hc).2.1⟩, ?_, ?_, fun c hc => (hpath' c hc).1,
      ?_⟩
    · intro c hc
      exact (hhost c (List.mem_of_getLast? hc)).2.2
    · intro c hc
      exact (Option.some.inj (hstart.symm.trans hc)).symm
    · intro c hc
      exact (hpath' c (List.mem_of_getLast? hc)).2
  have hunbroken : ∀ cs : List Char, (∀ c ∈ cs, isEndBlank c = false) → unbroken cs = cs := by
    intro cs hcs
    refine List.filter_eq_self.2 ?_
    intro c hc
    rw [isLineBlank_of_not_isEndBlank (hcs c hc)]
    rfl
  obtain ⟨rest, rfl⟩ := List.head?_eq_some_iff.1 hstart
  have hweb : ("http".toList, 80) ∈ webSchemes := List.mem_cons_self
  have hslash : withoutSlash ('/' :: rest) = rest := by
    simp [withoutSlash, isSlash]
  have htext := Path.text_ofText_plain fun c hc => hpath c (List.mem_cons_of_mem '/' hc)
  rw [parse?_special hweb hfront htail,
    hunbroken host fun c hc => (hhost c hc).2.2, hunbroken _ fun c hc => (hpath' c hc).2,
    authority?_plain hlower hne, hslash]
  simp [pathname, htext]

end SpanMetrics.Url
