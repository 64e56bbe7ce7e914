import SpanMetrics.Proofs.Remote.Connection
import SpanMetrics.Proofs.Span.Insert
import SpanMetrics.Proofs.Url.Authority

/-!
# SpanMetrics.Proofs.Remote.ConnectionString — what is told of a connection string

A connection string holds a user name and a password, and a path, a query and a fragment. Only its
host and its port reach the identifier.

* `value_ofConnection_append` — host and port are read from the authority.
* `connection_hides_credentials` — all else does not count.
-/

namespace SpanMetrics.Remote

namespace Endpoint

/-! ## The authority of a connection string -/

theorem schemeEnd_eq : schemeEnd = [':', '/', '/'] := by
  decide

/-- No occurrence of `://` begins within a text that holds none and reaches into one behind it. -/
theorem isPrefixOf_schemeEnd_append {c : Char} {cs : List Char} (h : ¬ schemeEnd <:+: c :: cs)
    (rest : List Char) : schemeEnd.isPrefixOf (c :: (cs ++ (schemeEnd ++ rest))) = false := by
  rw [schemeEnd_eq] at h ⊢
  match cs with
  | [] => simp [List.isPrefixOf]
  | [d] => simp [List.isPrefixOf]
  | d :: e :: cs =>
    by_contra hprefix
    simp only [Bool.not_eq_false, List.isPrefixOf_iff_prefix, List.cons_append,
      List.cons_prefix_cons, List.nil_prefix, and_true] at hprefix
    rcases hprefix with ⟨rfl, rfl, rfl⟩
    exact h (List.prefix_append [':', '/', '/'] cs).isInfix

/-- The scheme of a connection string ends where `://` is read first. -/
theorem fromSchemeEnd?_append {scheme : List Char} (h : ¬ schemeEnd <:+: scheme)
    (rest : List Char) :
    fromSchemeEnd? (scheme ++ (schemeEnd ++ rest)) = some (schemeEnd ++ rest) := by
  induction scheme with
  | nil => simp [fromSchemeEnd?, schemeEnd_eq]
  | cons c cs ih =>
    have hcs : ¬ schemeEnd <:+: cs := fun hinfix => h (List.infix_cons hinfix)
    rw [List.cons_append, fromSchemeEnd?, isPrefixOf_schemeEnd_append h rest]
    exact ih hcs

/-- In a connection string one word stands for the scheme. -/
theorem urlText_append {scheme : List Char} (h : ¬ schemeEnd <:+: scheme) (rest : List Char) :
    urlText (.ofList (scheme ++ (schemeEnd ++ rest))) =
      .ofList (plainScheme ++ (schemeEnd ++ rest)) := by
  simp only [urlText, String.toList_ofList, fromSchemeEnd?_append h]

/-- The endpoint at a host and a port. -/
def ofLocation? (location : Url.Host × Option Nat) : Option Endpoint :=
  if String.ofList location.1.text = "" then none
  else some ⟨.ofList location.1.text, location.2.map fun n => .ofList (Nat.toDigits 10 n)⟩

theorem value_ofConnection [Runtime] (connection : String) :
    (ofConnection connection).value =
      ((Url.parse? (urlText connection)).map Url.location).bind ofLocation? := by
  unfold ofConnection
  cases Url.parse? (urlText connection) <;> rfl

/-- Host and port of a connection string are those of the authority. -/
theorem location_parse?_plain [Runtime] {authority tail : List Char}
    (hauthority : ∀ c ∈ authority, Url.endsAuthority c = false)
    (hlast : ∀ c, authority.getLast? = some c → Url.isEndBlank c = false)
    (htail : ∀ c, tail.head? = some c → Url.endsAuthority c = true) :
    (Url.parse? (.ofList (plainScheme ++ (schemeEnd ++ (authority ++ tail))))).map Url.location =
      Url.authority? none (Url.unbroken authority) := by
  have hclean : Url.clean (plainScheme ++ (schemeEnd ++ (authority ++ tail))) =
      plainScheme ++ ':' :: '/' :: '/' ::
        (Url.unbroken authority ++ Url.unbroken (Url.trimEnd tail)) := by
    have hfront : Url.clean ((plainScheme ++ schemeEnd) ++ (authority ++ tail)) =
        Url.unbroken (plainScheme ++ schemeEnd) ++ Url.unbroken (Url.trimEnd (authority ++ tail)) :=
      Url.clean_append (a := 'd') (by decide) (by decide) (by simp [schemeEnd_eq, Url.isEndBlank]) _
    have hunbroken : Url.unbroken (plainScheme ++ schemeEnd) = plainScheme ++ [':', '/', '/'] := by
      decide
    rw [List.append_assoc, hunbroken, Url.trimEnd_append hlast, Url.unbroken_append] at hfront
    simpa using hfront
  unfold Url.parse?
  rw [String.toList_ofList, hclean]
  refine Url.location_ofClean? (c := 'd') (by decide) (by decide)
    (List.all_eq_true.1 (by decide)) (by decide) ?_ (Url.endsAuthority_head? htail)
  intro c hc
  exact hauthority c (Url.mem_of_mem_unbroken hc)

/-- Host and port come from the authority, whatever scheme stands before it and whatever path, query
and fragment follow it. -/
theorem value_ofConnection_append [Runtime] {scheme authority tail : List Char}
    (hscheme : ¬ schemeEnd <:+: scheme)
    (hauthority : ∀ c ∈ authority, Url.endsAuthority c = false)
    (hlast : ∀ c, authority.getLast? = some c → Url.isEndBlank c = false)
    (htail : ∀ c, tail.head? = some c → Url.endsAuthority c = true) :
    (ofConnection (.ofList (scheme ++ (schemeEnd ++ (authority ++ tail))))).value =
      (Url.authority? none (Url.unbroken authority)).bind ofLocation? := by
  rw [value_ofConnection, urlText_append hscheme, location_parse?_plain hauthority hlast htail]

/-- User name, password and all that stands behind host and port do not count. -/
theorem value_ofConnection_credentials [Runtime] {scheme credentials host tail : List Char}
    (hscheme : ¬ schemeEnd <:+: scheme)
    (hcredentials : ∀ c ∈ credentials, Url.endsAuthority c = false)
    (hhost : ∀ c ∈ host, Url.endsAuthority c = false) (hat : '@' ∉ host)
    (hlast : ∀ c, host.getLast? = some c → Url.isEndBlank c = false)
    (htail : ∀ c, tail.head? = some c → Url.endsAuthority c = true) :
    (ofConnection (.ofList (scheme ++ (schemeEnd ++ (credentials ++ '@' :: host ++ tail))))).value =
      (ofConnection (.ofList (scheme ++ (schemeEnd ++ (host ++ []))))).value := by
  have hauthority : ∀ c ∈ credentials ++ '@' :: host, Url.endsAuthority c = false := by
    intro c hc
    rcases List.mem_append.1 hc with hc | hc
    · exact hcredentials c hc
    · rcases List.mem_cons.1 hc with rfl | hc
      · decide
      · exact hhost c hc
  have hauthorityLast := Url.isEndBlank_getLast?_append (a := '@') (by decide) hlast credentials
  rw [value_ofConnection_append hscheme hauthority hauthorityLast htail,
    value_ofConnection_append hscheme hhost hlast (by simp), Url.unbroken_append,
    Url.unbroken_cons_of_not_isEndBlank (by decide)]
  by_cases hne : host = []
  · -- without a host, the credentials make the URL malformed; without both, it has no host
    subst hne
    rw [Url.unbroken_nil, Url.authority?_credentials_nil]
    rfl
  · have hat' : '@' ∉ Url.unbroken host := fun h => hat (Url.mem_of_mem_unbroken h)
    rw [Url.authority?_credentials none _ hat' (Url.unbroken_ne_nil hne hlast)]

end Endpoint

/-! ## Two connection strings, one identifier -/

/-- The connection string is read if no address is present. -/
theorem value_connection_insert [Runtime] {s : Span} (haddress : s.has Key.serverAddress = false)
    (hname : s.has Key.netPeerName = false) (hsocket : s.has Key.serverSocketAddress = false)
    (text : String) :
    (connection (s.insert Key.dbConnectionString (.string text))).value =
      (Endpoint.ofConnection text).value.map (Endpoint.under (s.text? Key.dbName)) := by
  have hkeys : Endpoint.keys? (s.insert Key.dbConnectionString (.string text)) = none := by
    have hother : ∀ key, key ≠ Key.dbConnectionString → s.has key = false →
        (s.insert Key.dbConnectionString (.string text)).has key = false :=
      fun key hne hkey => (Span.has_insert_of_ne _ hne).trans hkey
    simp [Endpoint.keys?, Endpoint.keys, hother _ (by decide) haddress,
      hother _ (by decide) hname, hother _ (by decide) hsocket]
  rw [value_connection, Span.text?_insert_of_ne _ (by decide), Endpoint.ofSpan, hkeys]
  simp only [Span.text?_insert_self, Value.text?]

/-- Of a connection string the identifier tells host and port alone: user name, password, path,
query and fragment do not count. -/
theorem connection_hides_credentials [Runtime] {s : Span}
    (haddress : s.has Key.serverAddress = false) (hname : s.has Key.netPeerName = false)
    (hsocket : s.has Key.serverSocketAddress = false)
    {scheme credentials host tail : String} (hscheme : ¬ "://".toList <:+: scheme.toList)
    (hcredentials : ∀ c ∈ credentials.toList, c ≠ '/' ∧ c ≠ '?' ∧ c ≠ '#')
    (hhost : ∀ c ∈ host.toList, c ≠ '/' ∧ c ≠ '?' ∧ c ≠ '#' ∧ c ≠ '@')
    (hend : ∀ c, host.toList.getLast? = some c → 0x20 < c.toNat)
    (htail : ∀ c, tail.toList.head? = some c → c = '/' ∨ c = '?' ∨ c = '#') :
    (connection (s.insert Key.dbConnectionString
        (.string (scheme ++ "://" ++ credentials ++ "@" ++ host ++ tail)))).value =
      (connection (s.insert Key.dbConnectionString (.string (scheme ++ "://" ++ host)))).value := by
  rw [value_connection_insert haddress hname hsocket,
    value_connection_insert haddress hname hsocket]
  have hfull : scheme ++ "://" ++ credentials ++ "@" ++ host ++ tail =
      .ofList (scheme.toList ++ (Endpoint.schemeEnd ++
        (credentials.toList ++ '@' :: host.toList ++ tail.toList))) := by
    rw [← String.toList_inj]
    simp [Endpoint.schemeEnd]
  have hbare : scheme ++ "://" ++ host =
      .ofList (scheme.toList ++ (Endpoint.schemeEnd ++ (host.toList ++ []))) := by
    rw [← String.toList_inj]
    simp [Endpoint.schemeEnd]
  have hinside : ∀ c : Char, c ≠ '/' → c ≠ '?' → c ≠ '#' → Url.endsAuthority c = false := by
    intro c hslash hquery hfragment
    simpa [hslash, hquery, hfragment] using Url.endsAuthority_iff c
  rw [hfull, hbare]
  refine congrArg (Option.map _) (Endpoint.value_ofConnection_credentials hscheme ?_ ?_ ?_ ?_ ?_)
  · intro c hc
    rcases hcredentials c hc with ⟨hslash, hquery, hfragment⟩
    exact hinside c hslash hquery hfragment
  · intro c hc
    rcases hhost c hc with ⟨hslash, hquery, hfragment, -⟩
    exact hinside c hslash hquery hfragment
  · intro hat
    exact (hhost '@' hat).2.2.2 rfl
  · intro c hc
    simpa [Url.isEndBlank] using hend c hc
  · intro c hc
    exact (Url.endsAuthority_iff c).2 (htail c hc)

/-- A query of a database that is known by its connection string alone. -/
def query : Span where
  id := "9"
  name := "SELECT orders"
  kind := .client
  parentId := none
  attributes := .ofList [("db.system", .string "postgresql"), ("db.name", .string "orders")]
  scope := none

/-- A password with an `@`, a line break and an escape stays hidden. -/
theorem connection_hides_credentials_query :
    (connection (query.insert Key.dbConnectionString (.string ("jdbc:postgresql" ++ "://" ++
        "ann:p@ss\n:%40" ++ "@" ++ "db.Example.com:5432" ++ "/orders?user=root#1")))).value =
      some "orders|db.Example.com|5432" := by
  have hvalue : (connection (query.insert Key.dbConnectionString
      (.string ("jdbc:postgresql" ++ "://" ++ "db.Example.com:5432")))).value =
      some "orders|db.Example.com|5432" := by
    decide +kernel
  rw [← hvalue]
  exact connection_hides_credentials (by decide) (by decide) (by decide) (by decide +kernel)
    (by simp) (by simp) (by simp) (by simp)

end SpanMetrics.Remote
