import SpanMetrics.Proofs.Metric.RequestUrl
import SpanMetrics.Proofs.Route
import SpanMetrics.Proofs.Url.Plain

/-!
# SpanMetrics.Proofs.Metric.RequestOperation — one request, seen from both of its ends

The side that sends a request knows its URL, and the side that serves it knows its target. Both
report the method and the first segment of the path.

* `remoteOperation_eq_localOperation` — what the sending side reports as the remote operation is what
  the serving side reports as its own.
-/

namespace SpanMetrics

theorem Attributes.firstText?_of_get? {attributes : Attributes} {key text : String}
    {keys : List String} (h : attributes.get? key = some (.string text)) :
    attributes.firstText? (key :: keys) = some text := by
  simp [firstText?, first?, h, Value.text?]

namespace Span

/-- The span sends a request, and nothing else names the remote side. -/
structure Sends (s : Span) (method url : String) : Prop where
  kind_eq : s.kind = .client
  method_eq : s.attributes.get? Key.httpMethod = some (.string method)
  url_eq : s.attributes.get? Key.httpUrl = some (.string url)
  unnamed : ∀ source ∈ Remote.Source.all, ∀ key ∈ source.keys, s.has key = false

/-- The span serves a request, and has no name of its own. -/
structure Serves (s : Span) (method target : String) : Prop where
  kind_eq : s.kind = .server
  method_eq : s.attributes.get? Key.httpMethod = some (.string method)
  target_eq : s.attributes.get? Key.httpTarget = some (.string target)
  unnamed : s.name = "" ∨ s.name = unknownOperation ∨ s.name = method

variable {s : Span} {method : String}

/-- A span that serves a request enters the service under the method and the route. -/
theorem Serves.ingressOperation_eq [Runtime] {target : String} (h : s.Serves method target) :
    s.ingressOperation.value = method ++ " " ++ Route.ofTarget target := by
  have hmethod : s.httpMethod? = some method := Attributes.firstText?_of_get? h.method_eq
  have htarget : s.httpTarget? = some target := Attributes.firstText?_of_get? h.target_eq
  have hroot : s.isInternalRoot = false := by simp [isInternalRoot, h.kind_eq]
  have hnamed : s.isNamed = false := by
    unfold isNamed
    rcases h.unnamed with hname | hname | hname <;> simp [hname, hmethod]
  rw [value_ingressOperation, value_requestOperation, value_requestPath, hroot, hnamed, hmethod,
    htarget]
  rfl

/-- A span that sends a request calls the method and the route of the path of the URL. -/
theorem Sends.operation_call [Runtime] {url : String} (h : s.Sends method url) {path : String}
    (hpath : (Url.parse? url).map Url.pathname = some path) :
    (Remote.call s).value.operation = method ++ " " ++ Route.ofTarget path := by
  have hmethod : s.httpMethod? = some method := Attributes.firstText?_of_get? h.method_eq
  have hurl : s.httpUrl? = some url := Attributes.firstText?_of_get? h.url_eq
  -- no source names the operation, so it is made up from the request
  have hnamed : (Remote.namedCall s).operation = Remote.unknownOperation := by
    rw [Remote.operation_namedCall, Remote.sourcedCall, (Remote.source?_eq_none_iff s).2 h.unnamed]
  obtain ⟨parsed, hparse, rfl⟩ := Option.map_eq_some_iff.1 hpath
  rw [Remote.value_call]
  simp only [hnamed, if_true]
  rw [Remote.value_requestOperation, value_requestUrl, hurl, Option.bind_some, hparse, hmethod]
  rfl

end Span

namespace Metrics

/-- The side that sends a request and the side that serves it report one operation: the method and
the first segment of the path, whatever query follows. -/
theorem remoteOperation_eq_localOperation [Runtime] {host path query method : String}
    (hne : host ≠ "") (hhost : ∀ c ∈ host.toList, c.isLower = true)
    (hstart : path.toList.head? = some '/')
    (hpath : ∀ c ∈ path.toList,
      c = '/' ∨ c.isAlphanum = true ∨ c = '-' ∨ c = '_' ∨ c = '~')
    (hquery : ∀ c, query.toList.head? = some c → c = '?') {client server : Span}
    (hclient : client.Sends method ("http://" ++ host ++ path ++ query))
    (hserver : server.Serves method (path ++ query)) (configured configured' : Option String)
    (resource resource' : Attributes) :
    ∃ dependency service,
      (ofSpan configured resource client).value.dependency = some dependency ∧
      (ofSpan configured' resource' server).value.service = some service ∧
      dependency.get? Key.remoteOperation = service.get? Key.localOperation ∧
      service.get? Key.localOperation =
        some (.string (method ++ " " ++ Route.ofTarget path)) := by
  have hdescribesDependency : client.describesDependency = true := by
    simp [Span.describesDependency, hclient.kind_eq]
  have hdescribesService : server.describesService = true := by
    simp [Span.describesService, hserver.kind_eq]
  have hroute : Route.ofTarget (path ++ query) = Route.ofTarget path := by
    refine Route.ofTarget_append hstart ?_
    intro c hc
    rw [hquery c hc]
    decide
  have hpathname : (Url.parse? ("http://" ++ host ++ path ++ query)).map Url.pathname =
      some path := by
    have htext : "http://" ++ host ++ path ++ query =
        Url.webText "http".toList (host.toList ++ path.toList ++ query.toList) := by
      rw [← String.toList_inj]
      simp [Url.webText]
    rw [htext, Url.pathname_parse?_plain (by simpa using hne) hhost hstart ?_ ?_,
      String.ofList_toList]
    · intro c hc
      simpa [Url.isPathChar, or_assoc] using hpath c hc
    · intro c hc
      rw [hquery c hc]
      decide
  refine ⟨_, _, dependency_eq_some_iff.2 ⟨hdescribesDependency, rfl⟩,
    service_eq_some_iff.2 ⟨hdescribesService, rfl⟩, ?_⟩
  have hoperation :
      (Metric.DependencyMetric.ofSpan configured resource client).value.call.operation =
        method ++ " " ++ Route.ofTarget path := by
    rw [Metric.DependencyMetric.value_ofSpan]
    exact hclient.operation_call hpathname
  rw [Metric.DependencyMetric.get?_remoteOperation, hoperation,
    Metric.ServiceMetric.get?_localOperation, Metric.ServiceMetric.value_ofSpan,
    hserver.ingressOperation_eq, hroute]
  exact ⟨rfl, rfl⟩

/-- A request for a payment, as the shop sends it. -/
def sentPayment : Span where
  id := "7"
  name := "HTTP POST"
  kind := .client
  parentId := some "1"
  attributes := .ofList [("aws.is.local.root", .bool false), ("net.peer.name", .string "10.0.0.7"),
    ("http.method", .string "POST"),
    ("http.url", .string "http://payments//~ann/a-b_c?to=http://x/y/..#z ")]
  scope := none

/-- The same request, as the service for payments serves it. -/
def servedPayment : Span where
  id := "8"
  name := "POST"
  kind := .server
  parentId := some "7"
  attributes := .ofList [("aws.is.local.root", .bool true), ("http.method", .string "POST"),
    ("http.target", .string "//~ann/a-b_c?to=http://x/y/..#z "),
    ("http.url", .string "http://payments/other")]
  scope := none

/-- An empty first segment stays the first one on both sides. -/
theorem remoteOperation_eq_localOperation_payment :
    ∃ dependency service,
      (ofSpan none .empty sentPayment).value.dependency = some dependency ∧
      (ofSpan none .empty servedPayment).value.service = some service ∧
      dependency.get? Key.remoteOperation = some (.string "POST /") ∧
      service.get? Key.localOperation = some (.string "POST /") := by
  have hsends : sentPayment.Sends "POST"
      ("http://" ++ "payments" ++ "//~ann/a-b_c" ++ "?to=http://x/y/..#z ") :=
    ⟨rfl, rfl, rfl, by decide⟩
  have hserves : servedPayment.Serves "POST" ("//~ann/a-b_c" ++ "?to=http://x/y/..#z ") :=
    ⟨rfl, rfl, rfl, by decide⟩
  obtain ⟨dependency, service, hdependency, hservice, heq, hvalue⟩ :=
    remoteOperation_eq_localOperation (by decide) (by simp) (by simp) (by simp) (by simp) hsends
      hserves none none .empty .empty
  have hroute : Route.ofTarget "//~ann/a-b_c" = "/" := by decide
  rw [hroute] at hvalue
  exact ⟨dependency, service, hdependency, hservice, heq.trans hvalue, hvalue⟩

end Metrics

end SpanMetrics
