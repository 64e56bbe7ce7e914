import SpanMetrics.Proofs.Url.Authority

/-!
# SpanMetrics.Proofs.Url.Special — what is read of the URL of a request

The URL of a request has one of the schemes of the web. It is put together from an authority, a path,
and a query or a fragment, and only the first two are read.

* `parse?_special` — host and port come from the authority, and the path from the path.
* `parse?_credentials` — user name and password do not count.
* `parse?_tail` — query and fragment do not count.
-/

namespace SpanMetrics.Url

/-- The schemes of the web, each with the port that goes without saying. -/
def webSchemes : List (List Char × Nat) :=
  [("http".toList, 80), ("https".toList, 443)]

/-- The text of a URL of the web. -/
def webText (scheme rest : List Char) : String :=
  .ofList (scheme ++ ':' :: '/' :: '/' :: rest)

theorem append_eq_webText (scheme rest : String) :
    scheme ++ "://" ++ rest = webText scheme.toList rest.toList := by
  rw [← String.toList_inj]
  simp [webText]

variable {scheme : List Char} {port : Nat}

/-- What makes up a URL in front of its query and its fragment: an authority that is not empty and a
path that is empty or starts with a slash, which both end in no blank. -/
structure Front (authority path : List Char) : Prop where
  authority_ne : authority ≠ []
  authority_inside : ∀ c ∈ authority, isSlash c = false ∧ endsPath c = false
  authority_last : ∀ c, authority.getLast? = some c → isEndBlank c = false
  path_head : ∀ c, path.head? = some c → c = '/'
  path_inside : ∀ c ∈ path, endsPath c = false
  path_last : ∀ c, path.getLast? = some c → isEndBlank c = false

variable {authority path : List Char}

/-- A character that neither ends an authority nor begins the query or the fragment. -/
theorem inside_of_ne {c : Char} (hslash : c ≠ '/') (hbackslash : c ≠ '\\') (hquery : c ≠ '?')
    (hfragment : c ≠ '#') : isSlash c = false ∧ endsPath c = false := by
  simp [isSlash, endsPath, hslash, hbackslash, hquery, hfragment]

/-- Authority and path of a special scheme are told apart by the first slash. -/
theorem special?_append [Runtime] (scheme : List Char) (port : Nat) (hne : authority ≠ [])
    (hauthority : ∀ c ∈ authority, isSlash c = false)
    (hpath : ∀ c, path.head? = some c → isSlash c = true) :
    special? scheme port ('/' :: '/' :: (authority ++ path)) =
      (authority? (some port) authority).map fun (host, port) =>
        ⟨scheme, host, port, .ofText false isSlash (withoutSlash path)⟩ := by
  -- the slashes behind the scheme are skipped, and the authority starts with none
  have hrest : ('/' :: '/' :: (authority ++ path)).dropWhile isSlash = authority ++ path := by
    have hslash : isSlash '/' = true := by decide
    obtain ⟨c, cs, rfl⟩ := List.exists_cons_of_ne_nil hne
    have hc := hauthority c List.mem_cons_self
    simp [hslash, hc]
  have htake : (authority ++ path).takeWhile (!isSlash ·) = authority :=
    takeWhile_append_of_head? (by simpa using hauthority) (by simpa using hpath)
  have hdrop : (authority ++ path).dropWhile (!isSlash ·) = path := by
    have hsplit := List.takeWhile_append_dropWhile (p := (!isSlash ·)) (l := authority ++ path)
    rw [htake] at hsplit
    exact List.append_cancel_left hsplit
  simp only [special?, hrest, htake, hdrop]
  cases authority? (some port) authority <;> rfl

/-- A scheme of the web, and how the rest is read. -/
theorem ofClean?_web [Runtime] (hscheme : (scheme, port) ∈ webSchemes) (rest : List Char) :
    ofClean? (scheme ++ ':' :: rest) = special? scheme port (rest.takeWhile (!endsPath ·)) := by
  simp only [webSchemes, List.mem_cons, Prod.mk.injEq, List.not_mem_nil, or_false] at hscheme
  rcases hscheme with ⟨rfl, rfl⟩ | ⟨rfl, rfl⟩ <;> rfl

/-- A URL of the web without the characters that do not count. -/
theorem clean_web (hscheme : (scheme, port) ∈ webSchemes) (hfront : Front authority path)
    (tail : List Char) :
    clean (scheme ++ ':' :: '/' :: '/' :: (authority ++ path ++ tail)) =
      scheme ++ ':' :: '/' :: '/' ::
        (unbroken authority ++ unbroken path ++ unbroken (trimEnd tail)) := by
  -- the front ends in no blank, so that trimming stops there if it gets through the tail
  have hlast : ∀ c, (scheme ++ ':' :: '/' :: '/' :: (authority ++ path)).getLast? = some c →
      isEndBlank c = false := by
    have hslash : isEndBlank '/' = false := by decide
    refine isEndBlank_getLast?_append (a := ':') (by decide) ?_ scheme
    refine isEndBlank_getLast?_append hslash ?_ ['/']
    intro c hc
    rw [List.getLast?_append] at hc
    cases hpath : path.getLast? with
    | none =>
      rw [hpath, Option.none_or] at hc
      exact hfront.authority_last c hc
    | some d =>
      rw [hpath, Option.some_or, Option.some.injEq] at hc
      exact hc ▸ hfront.path_last d hpath
  have hassoc : scheme ++ ':' :: '/' :: '/' :: (authority ++ path ++ tail) =
      (scheme ++ ':' :: '/' :: '/' :: (authority ++ path)) ++ tail := by
    simp
  have hsplit : unbroken (scheme ++ ':' :: '/' :: '/' :: (authority ++ path)) =
      unbroken (scheme ++ [':', '/', '/']) ++ (unbroken authority ++ unbroken path) := by
    rw [← unbroken_append, ← unbroken_append]
    simp
  simp only [webSchemes, List.mem_cons, Prod.mk.injEq, List.not_mem_nil, or_false] at hscheme
  rw [hassoc]
  rcases hscheme with ⟨rfl, rfl⟩ | ⟨rfl, rfl⟩
  · rw [clean_append (a := 'h') rfl (by decide) hlast, hsplit]
    simp [unbroken, isLineBlank]
  · rw [clean_append (a := 'h') rfl (by decide) hlast, hsplit]
    simp [unbroken, isLineBlank]

/-- Of a URL of the web the authority gives host and port, and the path gives the path; what follows
does not count. -/
theorem parse?_special [Runtime] (hscheme : (scheme, port) ∈ webSchemes)
    (hfront : Front authority path) {tail : List Char}
    (htail : ∀ c, tail.head? = some c → endsPath c = true) :
    parse? (webText scheme (authority ++ path ++ tail)) =
      (authority? (some port) (unbroken authority)).map fun (host, port) =>
        ⟨scheme, host, port, .ofText false isSlash (withoutSlash (unbroken path))⟩ := by
  have hblank : ∀ c, endsPath c = true → isEndBlank c = false := by
    intro c hc
    rw [endsPath, Bool.or_eq_true, beq_iff_eq, beq_iff_eq] at hc
    rcases hc with rfl | rfl <;> decide
  -- the query or the fragment still begins where it did
  have htail' : ∀ c, (unbroken (trimEnd tail)).head? = some c → endsPath c = true := by
    rw [head?_unbroken_trimEnd fun c hc => hblank c (htail c hc)]
    exact htail
  have hinside : ∀ c ∈ '/' :: '/' :: (unbroken authority ++ unbroken path),
      (!endsPath c) = true := by
    intro c hc
    simp only [List.mem_cons, List.mem_append] at hc
    rcases hc with rfl | rfl | hc | hc
    · decide
    · decide
    · simp [(hfront.authority_inside c (mem_of_mem_unbroken hc)).2]
    · simp [hfront.path_inside c (mem_of_mem_unbroken hc)]
  have hbody : ('/' :: '/' :: (unbroken authority ++ unbroken path ++
        unbroken (trimEnd tail))).takeWhile (!endsPath ·) =
      '/' :: '/' :: (unbroken authority ++ unbroken path) :=
    takeWhile_append_of_head? hinside (by simpa using htail')
  have hpath : ∀ c, (unbroken path).head? = some c → isSlash c = true := by
    have hslash : ∀ c, path.head? = some c → isEndBlank c = false := by
      intro c hc
      rw [hfront.path_head c hc]
      decide
    rw [head?_unbroken hslash]
    intro c hc
    rw [hfront.path_head c hc]
    decide
  rw [parse?, webText, String.toList_ofList, clean_web hscheme hfront, ofClean?_web hscheme, hbody]
  exact special?_append scheme port (unbroken_ne_nil hfront.authority_ne hfront.authority_last)
    (fun c hc => (hfront.authority_inside c (mem_of_mem_unbroken hc)).1) hpath

/-- User name and password do not count. -/
theorem parse?_credentials [Runtime] (hscheme : (scheme, port) ∈ webSchemes)
    (hfront : Front authority path) (hat : '@' ∉ authority) {credentials : List Char}
    (hcredentials : ∀ c ∈ credentials, isSlash c = false ∧ endsPath c = false) :
    parse? (webText scheme (credentials ++ '@' :: authority ++ path)) =
      parse? (webText scheme (authority ++ path)) := by
  -- with the credentials the authority ends as it did, whatever blanks they hold
  have hfront' : Front (credentials ++ '@' :: authority) path := by
    refine { hfront with authority_ne := by simp, authority_inside := ?_, authority_last := ?_ }
    · intro c hc
      rcases List.mem_append.1 hc with hc | hc
      · exact hcredentials c hc
      · rcases List.mem_cons.1 hc with rfl | hc
        · decide
        · exact hfront.authority_inside c hc
    · exact isEndBlank_getLast?_append (by decide) hfront.authority_last credentials
  have hnil : ∀ c, ([] : List Char).head? = some c → endsPath c = true := by simp
  have hfull := parse?_special hscheme hfront' hnil
  have hbare := parse?_special hscheme hfront hnil
  rw [List.append_nil] at hfull hbare
  have hat' : '@' ∉ unbroken authority := fun h => hat (mem_of_mem_unbroken h)
  rw [hfull, hbare, unbroken_append, unbroken_cons_of_not_isEndBlank (by decide),
    authority?_credentials _ _ hat' (unbroken_ne_nil hfront.authority_ne hfront.authority_last)]

/-- Query and fragment do not count. -/
theorem parse?_tail [Runtime] (hscheme : (scheme, port) ∈ webSchemes)
    (hfront : Front authority path) {tail : List Char}
    (htail : ∀ c, tail.head? = some c → endsPath c = true) :
    parse? (webText scheme (authority ++ path ++ tail)) =
      parse? (webText scheme (authority ++ path)) := by
  have hnil : ∀ c, ([] : List Char).head? = some c → endsPath c = true := by simp
  have hbare := parse?_special hscheme hfront hnil
  rw [List.append_nil] at hbare
  rw [parse?_special hscheme hfront htail, hbare]

end SpanMetrics.Url
