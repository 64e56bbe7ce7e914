import SpanMetrics.Proofs.Url.Clean

/-!
# SpanMetrics.Proofs.Url.Authority — where the host and the port of a URL are read

The authority stands between the two slashes behind the scheme and the path, and what stands up to
its last `@` does not count.

* `authority?_credentials` — user name and password do not count.
* `location_ofClean?` — the authority alone decides about host and port.
-/

namespace SpanMetrics.Url

/-! ## User names and passwords -/

theorem afterLastAt?_of_notMem {cs : List Char} (h : '@' ∉ cs) : afterLastAt? cs = none := by
  induction cs with
  | nil => rfl
  | cons c cs ih =>
    rw [List.mem_cons, not_or] at h
    have hc : ¬ c = '@' := fun hc => h.1 hc.symm
    simp [afterLastAt?, ih h.2, hc]

/-- The last `@` is found, whatever stands before it. -/
theorem afterLastAt?_append (as : List Char) {bs : List Char} (h : '@' ∉ bs) :
    afterLastAt? (as ++ '@' :: bs) = some bs := by
  induction as with
  | nil => simp [afterLastAt?, afterLastAt?_of_notMem h]
  | cons a as ih => simp [afterLastAt?, ih]

theorem withoutCredentials?_of_notMem {cs : List Char} (h : '@' ∉ cs) :
    withoutCredentials? cs = some cs := by
  simp [withoutCredentials?, afterLastAt?_of_notMem h]

theorem withoutCredentials?_append (as : List Char) {bs : List Char} (h : '@' ∉ bs) :
    withoutCredentials? (as ++ '@' :: bs) = if bs.isEmpty then none else some bs := by
  simp [withoutCredentials?, afterLastAt?_append as h]

variable (default? : Option Nat)

/-- User name and password do not count. -/
theorem authority?_credentials [Runtime] (as : List Char) {bs : List Char} (h : '@' ∉ bs)
    (hne : bs ≠ []) :
    authority? default? (as ++ '@' :: bs) = authority? default? bs := by
  have hempty : bs.isEmpty = false := by simpa using hne
  unfold authority?
  rw [withoutCredentials?_append as h, withoutCredentials?_of_notMem h, hempty]
  rfl

/-- Behind user name and password something has to follow. -/
theorem authority?_credentials_nil [Runtime] (as : List Char) :
    authority? default? (as ++ ['@']) = none := by
  unfold authority?
  rw [withoutCredentials?_append as List.not_mem_nil]
  rfl

/-! ## Schemes and authorities -/

/-- A scheme ends at the first colon. -/
theorem splitScheme?_append {scheme : List Char} {c : Char} (hhead : scheme.head? = some c)
    (hc : c.isAlpha = true) (hscheme : ∀ d ∈ scheme, isSchemeChar d = true) (rest : List Char) :
    splitScheme? (scheme ++ ':' :: rest) = some (scheme.map Char.toLower, rest) := by
  have hcolon : isSchemeChar ':' = false := by decide
  have hdrop : (scheme ++ ':' :: rest).dropWhile isSchemeChar = ':' :: rest := by
    rw [List.dropWhile_append_of_pos hscheme]
    simp [hcolon]
  have htake : (scheme ++ ':' :: rest).takeWhile isSchemeChar = scheme := by
    rw [List.takeWhile_append_of_pos hscheme]
    simp [hcolon]
  rcases List.head?_eq_some_iff.1 hhead with ⟨tail, rfl⟩
  rw [List.cons_append] at hdrop htake
  simp only [List.cons_append, splitScheme?, hdrop, htake, hc, if_true]

/-- The host and the port. -/
def location (url : Url) : Host × Option Nat :=
  (url.host, url.port)

/-- A character that ends the authority of a URL whose scheme is not special. -/
def endsAuthority (c : Char) : Bool :=
  isPlainSlash c || endsPath c

theorem endsAuthority_iff (c : Char) : endsAuthority c = true ↔ c = '/' ∨ c = '?' ∨ c = '#' := by
  simp [endsAuthority, isPlainSlash, endsPath]

/-- What ends an authority is never trimmed. -/
theorem endsAuthority_head? {tail : List Char}
    (htail : ∀ c, tail.head? = some c → endsAuthority c = true) :
    ∀ c, (unbroken (trimEnd tail)).head? = some c → endsAuthority c = true := by
  have hblank : ∀ c, tail.head? = some c → isEndBlank c = false := by
    intro c hc
    rcases (endsAuthority_iff c).1 (htail c hc) with rfl | rfl | rfl <;> decide
  rw [head?_unbroken_trimEnd hblank]
  exact htail

/-- A run ends where something follows that does not belong to it. -/
theorem takeWhile_append_of_head? {p : Char → Bool} {as bs : List Char}
    (has : ∀ c ∈ as, p c = true) (hbs : ∀ c, bs.head? = some c → p c = false) :
    (as ++ bs).takeWhile p = as := by
  rw [List.takeWhile_append_of_pos has]
  cases bs with
  | nil => simp
  | cons b bs => simp [hbs b rfl]

/-- The authority reaches to the first slash. -/
theorem location_other? [Runtime] (scheme : List Char) {authority path : List Char}
    (hauthority : ∀ c ∈ authority, isPlainSlash c = false)
    (hpath : ∀ c, path.head? = some c → isPlainSlash c = true) :
    (other? scheme ('/' :: '/' :: (authority ++ path))).map location =
      authority? none authority := by
  have htake : (authority ++ path).takeWhile (!isPlainSlash ·) = authority :=
    takeWhile_append_of_head? (by simpa using hauthority) (by simpa using hpath)
  rw [other?, htake]
  cases authority? none authority <;> rfl

/-- The authority alone decides about host and port, whatever path, query and fragment follow. -/
theorem location_ofClean? [Runtime] {scheme : List Char} {c : Char} (hhead : scheme.head? = some c)
    (hc : c.isAlpha = true) (hscheme : ∀ d ∈ scheme, isSchemeChar d = true)
    (hstyle : styleOf (scheme.map Char.toLower) = .other) {authority tail : List Char}
    (hauthority : ∀ d ∈ authority, endsAuthority d = false)
    (htail : ∀ d, tail.head? = some d → endsAuthority d = true) :
    (ofClean? (scheme ++ ':' :: '/' :: '/' :: (authority ++ tail))).map location =
      authority? none authority := by
  have hplain : ∀ d ∈ authority, isPlainSlash d = false ∧ endsPath d = false := by
    intro d hd
    simpa [endsAuthority] using hauthority d hd
  have hbody : ('/' :: '/' :: (authority ++ tail)).takeWhile (!endsPath ·) =
      '/' :: '/' :: (authority ++ tail.takeWhile (!endsPath ·)) := by
    have hslash : endsPath '/' = false := by decide
    simp only [List.takeWhile_cons, hslash, Bool.not_false, if_true]
    rw [List.takeWhile_append_of_pos]
    intro d hd
    simp [(hplain d hd).2]
  -- of what ends the authority, only a slash is left once the query and the fragment are cut off
  have hpath : ∀ d, (tail.takeWhile (!endsPath ·)).head? = some d → isPlainSlash d = true := by
    intro d hd
    cases tail with
    | nil => simp at hd
    | cons t ts =>
      have ht := htail t rfl
      by_cases hends : endsPath t = true
      · simp [hends] at hd
      · have htd : t = d := by simpa [hends] using hd
        subst htd
        simpa [endsAuthority, hends] using ht
  unfold ofClean?
  rw [splitScheme?_append hhead hc hscheme]
  simp only [Option.bind_eq_bind, Option.bind_some, hbody, hstyle]
  exact location_other? _ (fun d hd => (hplain d hd).1) hpath

end SpanMetrics.Url
