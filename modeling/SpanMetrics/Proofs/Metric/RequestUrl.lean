import SpanMetrics.Proofs.Metric.Measure
import SpanMetrics.Proofs.Remote.Reads
import SpanMetrics.Proofs.Url.Special

/-!
# SpanMetrics.Proofs.Metric.RequestUrl — what metrics tell of the URL of a request

The URL of a request may hold a user name, a password, a query and a fragment. None of them reaches
a metric: spans that differ in the URL alone have the same metrics if their URLs parse to the same.

* `value_ofSpan_congr` — of the URL of a request, only what it parses to counts.
* `metrics_hide_secrets` — user name, password, query and fragment do not count.
-/

namespace SpanMetrics

open SpanMetrics.Span (AgreeOff)

variable {s s' : Span}

namespace Metric

variable [Runtime]

/-- The name of the service is read from the resource alone. -/
theorem value_service (resource : Attributes) (s : Span) :
    (service resource s).value =
      ((resource.get? Key.serviceName).filter (!·.isString Runtime.defaultService)).getD
        (.string unknownService) := by
  unfold service
  cases (resource.get? Key.serviceName).filter (!·.isString Runtime.defaultService) <;> rfl

variable (configured : Option String) (resource : Attributes)

theorem ServiceMetric.value_ofSpan_congr (h : s.AgreeOff Span.urlKeys s')
    (hurl : s.requestUrl.value = s'.requestUrl.value) :
    (ofSpan resource s).value = (ofSpan resource s').value := by
  rw [value_ofSpan, value_ofSpan, value_service, value_service,
    h.value_ingressOperation_congr hurl, h.isLocalRoot_congr (by decide), h.sameSpan.kind_eq]

/-- The parts of a dependency metric. -/
theorem DependencyMetric.value_ofSpan (s : Span) :
    (ofSpan configured resource s).value =
      { service := (Metric.service resource s).value
        operation := s.egressOperation?.getD Span.unknownOperation
        environment := if s.isInvocation then some (Environment.ofFunctions configured) else none
        call := (Remote.call s).value
        resource := (Remote.resource s).value.map fun r => ⟨r, Remote.Owner.ofSpan? s⟩
        kind := s.kind
        dbUser := if s.isDbCall then s.attributes.get? Key.dbUser else none } := by
  rw [← value_callerOperation]
  rfl

theorem DependencyMetric.value_ofSpan_congr (h : s.AgreeOff Span.urlKeys s')
    (hurl : s.requestUrl.value = s'.requestUrl.value) :
    (ofSpan configured resource s).value = (ofSpan configured resource s').value := by
  have haws : s.isAwsCall = s'.isAwsCall := Span.isAwsCall_congr (h.on (by decide))
  have hinvocation := Span.isInvocation_congr haws (h.on (by decide))
  have hdb : s.isDbCall = s'.isDbCall := Span.isDbCall_congr (h.on (by decide))
  have hoperation : s.egressOperation? = s'.egressOperation? := by
    simp only [Span.egressOperation?, h.isInternalRoot_congr (by decide), Span.text?,
      Attributes.text?, h.get?_eq Key.localOperation (by decide)]
  -- no rule and no source reads the URL of the request
  have hrules : ∀ rule ∈ Remote.Rule.all, ∀ key ∈ rule.conditionKeys ++ rule.resourceKeys,
      key ∉ Span.urlKeys := by
    decide +kernel
  have hsources : ∀ source ∈ Remote.Source.all, ∀ key ∈ source.callKeys, key ∉ Span.urlKeys := by
    decide +kernel
  have hresource : (Remote.resource s).value = (Remote.resource s').value := by
    refine Remote.value_resource_congr haws ?_ ?_
    · intro rule hrule
      exact h.on fun key hkey => hrules rule hrule key (List.mem_append_left _ hkey)
    · intro rule hrule
      exact h.on fun key hkey => hrules rule hrule key (List.mem_append_right _ hkey)
  have howner : Remote.Owner.ofSpan? s = Remote.Owner.ofSpan? s' :=
    Remote.Owner.ofSpan?_congr (h.on (by decide))
  have hcall : (Remote.call s).value = (Remote.call s').value := by
    refine Remote.value_call_congr (Remote.namedCall_congr haws ?_ (h.on (by decide)))
      (h.on (by decide)) h.httpMethod?_congr hurl
    intro source hsource
    exact h.on (hsources source hsource)
  rw [value_ofSpan, value_ofSpan, value_service, value_service, hoperation, hinvocation, hcall,
    hresource, howner, h.sameSpan.kind_eq, hdb, h.get?_eq Key.dbUser (by decide)]

end Metric

namespace Metrics

variable (configured : Option String) (resource : Attributes)

/-- Spans that differ in the URL of the request alone have the same metrics if their URLs parse to
the same. -/
theorem value_ofSpan_congr [Runtime] (h : s.AgreeOff Span.urlKeys s')
    (hurl : s.requestUrl.value = s'.requestUrl.value) :
    (ofSpan configured resource s).value = (ofSpan configured resource s').value := by
  have hservice :
      (ofSpan configured resource s).value.service =
        (ofSpan configured resource s').value.service := by
    rw [value_service, value_service, h.describesService_congr (by decide),
      Metric.ServiceMetric.value_ofSpan_congr resource h hurl]
  have hdependency :
      (ofSpan configured resource s).value.dependency =
        (ofSpan configured resource s').value.dependency := by
    rw [value_dependency, value_dependency, h.describesDependency_congr (by decide),
      Metric.DependencyMetric.value_ofSpan_congr configured resource h hurl]
  calc (ofSpan configured resource s).value
      = ⟨(ofSpan configured resource s).value.service,
          (ofSpan configured resource s).value.dependency⟩ := rfl
    _ = (ofSpan configured resource s').value := by rw [hservice, hdependency]

/-- The metrics of a span whose request has a URL under a key. -/
def withUrl [Runtime] (s : Span) (key text : String) : Metrics :=
  (ofSpan configured resource (s.insert key (.string text))).value

/-- URLs that parse to the same give the same metrics. -/
theorem withUrl_congr [Runtime] (s : Span) {key : String} (hkey : key ∈ Span.urlKeys)
    {text text' : String} (h : Url.parse? text = Url.parse? text') :
    withUrl configured resource s key text = withUrl configured resource s key text' :=
  value_ofSpan_congr configured resource (s.agreeOff_insert hkey _ _)
    (s.value_requestUrl_insert hkey h)

section
variable {configured resource}

variable {scheme authority path : String} {port : Nat} {key : String}
  (hkey : key ∈ Span.urlKeys) (hscheme : (scheme.toList, port) ∈ Url.webSchemes)
  (hfront : Url.Front authority.toList path.toList)
include hkey hscheme hfront

theorem withUrl_credentials [Runtime] (hat : '@' ∉ authority.toList) {credentials : String}
    (hcredentials : ∀ c ∈ credentials.toList, Url.isSlash c = false ∧ Url.endsPath c = false) :
    withUrl configured resource s key
        (scheme ++ "://" ++ (credentials ++ "@" ++ authority ++ path)) =
      withUrl configured resource s key (scheme ++ "://" ++ (authority ++ path)) := by
  apply withUrl_congr configured resource s hkey
  have hfull : (credentials ++ "@" ++ authority ++ path).toList =
      credentials.toList ++ '@' :: authority.toList ++ path.toList := by
    simp
  rw [Url.append_eq_webText, Url.append_eq_webText, hfull, String.toList_append]
  exact Url.parse?_credentials hscheme hfront hat hcredentials

theorem withUrl_tail [Runtime] {tail : String}
    (htail : ∀ c, tail.toList.head? = some c → Url.endsPath c = true) :
    withUrl configured resource s key (scheme ++ "://" ++ (authority ++ path ++ tail)) =
      withUrl configured resource s key (scheme ++ "://" ++ (authority ++ path)) := by
  apply withUrl_congr configured resource s hkey
  rw [Url.append_eq_webText, Url.append_eq_webText, String.toList_append, String.toList_append]
  exact Url.parse?_tail hscheme hfront htail

end

/-- Of the URL of a request, the user name, the password, the query and the fragment never reach a
metric: with them and without them the metrics of a span are the same. -/
theorem metrics_hide_secrets [Runtime] (s : Span) {key : String}
    (hkey : key ∈ [Key.httpUrl, Key.urlFull]) {scheme : String}
    (hscheme : scheme = "http" ∨ scheme = "https")
    {authority path credentials : String} (hne : authority ≠ "")
    (hauthority : ∀ c ∈ authority.toList,
      c ≠ '/' ∧ c ≠ '\\' ∧ c ≠ '?' ∧ c ≠ '#' ∧ c ≠ '@' ∧ 0x20 < c.toNat)
    (hstart : ∀ c, path.toList.head? = some c → c = '/')
    (hpath : ∀ c ∈ path.toList, c ≠ '?' ∧ c ≠ '#')
    (hend : ∀ c, path.toList.getLast? = some c → 0x20 < c.toNat)
    (hcredentials : ∀ c ∈ credentials.toList, c ≠ '/' ∧ c ≠ '\\' ∧ c ≠ '?' ∧ c ≠ '#')
    (hidden : String) :
    withUrl configured resource s key
        (scheme ++ "://" ++ credentials ++ "@" ++ authority ++ path) =
      withUrl configured resource s key (scheme ++ "://" ++ authority ++ path) ∧
    withUrl configured resource s key (scheme ++ "://" ++ authority ++ path ++ "?" ++ hidden) =
      withUrl configured resource s key (scheme ++ "://" ++ authority ++ path) ∧
    withUrl configured resource s key (scheme ++ "://" ++ authority ++ path ++ "#" ++ hidden) =
      withUrl configured resource s key (scheme ++ "://" ++ authority ++ path) := by
  have hweb : ∃ port, (scheme.toList, port) ∈ Url.webSchemes := by
    rcases hscheme with rfl | rfl
    · exact ⟨80, List.mem_cons_self⟩
    · exact ⟨443, List.mem_cons_of_mem _ List.mem_cons_self⟩
  obtain ⟨port, hweb⟩ := hweb
  have hfront : Url.Front authority.toList path.toList := by
    refine ⟨by simpa using hne, ?_, ?_, hstart, ?_, ?_⟩
    · intro c hc
      obtain ⟨hslash, hbackslash, hquery, hfragment, -, -⟩ := hauthority c hc
      exact Url.inside_of_ne hslash hbackslash hquery hfragment
    · intro c hc
      obtain ⟨-, -, -, -, -, hvisible⟩ := hauthority c (List.mem_of_getLast? hc)
      simpa [Url.isEndBlank] using hvisible
    · intro c hc
      obtain ⟨hquery, hfragment⟩ := hpath c hc
      simp [Url.endsPath, hquery, hfragment]
    · intro c hc
      simpa [Url.isEndBlank] using hend c hc
  have hat : '@' ∉ authority.toList := by
    intro hmem
    exact (hauthority '@' hmem).2.2.2.2.1 rfl
  have hbareText : scheme ++ "://" ++ authority ++ path = scheme ++ "://" ++ (authority ++ path) :=
    String.append_assoc
  have hcredentialsText : scheme ++ "://" ++ credentials ++ "@" ++ authority ++ path =
      scheme ++ "://" ++ (credentials ++ "@" ++ authority ++ path) := by
    simp only [String.append_assoc]
  have htailText : ∀ mark : String, scheme ++ "://" ++ authority ++ path ++ mark ++ hidden =
      scheme ++ "://" ++ (authority ++ path ++ (mark ++ hidden)) := by
    intro mark
    simp only [String.append_assoc]
  rw [hcredentialsText, htailText, htailText, hbareText]
  refine ⟨?_, ?_, ?_⟩
  · refine withUrl_credentials hkey hweb hfront hat ?_
    intro c hc
    obtain ⟨hslash, hbackslash, hquery, hfragment⟩ := hcredentials c hc
    exact Url.inside_of_ne hslash hbackslash hquery hfragment
  · exact withUrl_tail hkey hweb hfront (by simp [Url.endsPath])
  · exact withUrl_tail hkey hweb hfront (by simp [Url.endsPath])

/-- A request that is sent on behalf of a page. -/
def request : Span where
  id := "9"
  name := "GET"
  kind := .client
  parentId := some "1"
  attributes := .ofList [("aws.is.local.root", .bool false), ("http.method", .string "GET"),
    ("url.full", .string "http://localhost/")]
  scope := none

/-- A password with an `@`, a line break and a colon stays hidden, and so does a query with a second
URL in it. -/
theorem metrics_hide_secrets_request :
    (withUrl none .empty request Key.httpUrl
        ("https" ++ "://" ++ "ann:p@ss\n:%40" ++ "@" ++ "Shop.example.com:8443" ++
          "/a/../orders/@7")).dependency.map (·.call) =
      some ⟨"shop.example.com:8443", "GET /orders"⟩ ∧
    (withUrl none .empty request Key.httpUrl
        ("https" ++ "://" ++ "Shop.example.com:8443" ++ "/a/../orders/@7" ++ "?" ++
          "back=http://ann:pw@shop/ \n")).dependency.map (·.call) =
      some ⟨"shop.example.com:8443", "GET /orders"⟩ := by
  have hbare : (withUrl none .empty request Key.httpUrl
      ("https" ++ "://" ++ "Shop.example.com:8443" ++ "/a/../orders/@7")).dependency.map (·.call) =
      some ⟨"shop.example.com:8443", "GET /orders"⟩ := by
    decide +kernel
  have hkey : Key.httpUrl ∈ [Key.httpUrl, Key.urlFull] := by decide
  have hpassword : ∀ c ∈ "ann:p@ss\n:%40".toList, c ≠ '/' ∧ c ≠ '\\' ∧ c ≠ '?' ∧ c ≠ '#' := by
    simp
  constructor
  · rw [(metrics_hide_secrets none .empty request hkey (.inr rfl) (by decide) (by simp) (by simp)
      (by simp) (by simp) hpassword "").1]
    exact hbare
  · rw [(metrics_hide_secrets none .empty request hkey (.inr rfl) (by decide) (by simp) (by simp)
      (by simp) (by simp) hpassword "back=http://ann:pw@shop/ \n").2.1]
    exact hbare

end Metrics

end SpanMetrics
