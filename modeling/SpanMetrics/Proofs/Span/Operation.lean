import SpanMetrics.Proofs.Span.Agreement

/-!
# SpanMetrics.Proofs.Span.Operation — the operation under which a span enters the service

* `value_ingressOperation` — what decides about the operation.
* `AgreeOff.value_ingressOperation_congr` — of the URL of the request, only what it parses to counts.
-/

namespace SpanMetrics.Span

variable (s : Span)

/-- The URL of a request is the one that its text parses to. -/
theorem value_requestUrl [Runtime] : s.requestUrl.value = s.httpUrl?.bind Url.parse? := by
  unfold requestUrl
  cases s.httpUrl? with
  | none => rfl
  | some text =>
    simp only [Option.bind_some]
    cases Url.parse? text <;> rfl

/-- The target of a request comes before its URL. -/
theorem value_requestPath [Runtime] :
    s.requestPath.value = s.httpTarget?.or (s.requestUrl.value.map Url.pathname) := by
  unfold requestPath
  cases s.httpTarget? <;> rfl

theorem value_requestOperation [Runtime] :
    s.requestOperation.value = s.httpMethod?.bind fun method =>
      s.requestPath.value.map fun path => method ++ " " ++ Route.ofTarget path := by
  unfold requestOperation
  cases s.httpMethod? <;> rfl

/-- The name of a span that serves a request is its operation, or else the method and the route. -/
theorem value_ingressOperation [Runtime] :
    s.ingressOperation.value =
      if s.isInternalRoot then internalOperation
      else if s.isNamed then s.name
      else s.requestOperation.value.getD
        (if s.isLocalRoot then internalOperation else unknownOperation) := by
  unfold ingressOperation
  rw [Logged.value_bind, value_internalRoot]
  split
  · rfl
  · split
    · rfl
    · rw [Logged.value_bind]
      cases s.requestOperation.value <;> rfl

/-! ## Spans that differ in the URL of the request -/

/-- The keys of the URL of a request. -/
def urlKeys : List String :=
  [Key.httpUrl, Key.urlFull]

/-- Texts that parse to one URL are one URL to the span, under each of the keys. -/
theorem value_requestUrl_insert [Runtime] {key : String} (hkey : key ∈ urlKeys)
    {text text' : String} (h : Url.parse? text = Url.parse? text') :
    (s.insert key (.string text)).requestUrl.value =
      (s.insert key (.string text')).requestUrl.value := by
  have hne : Key.httpUrl ≠ Key.urlFull := by decide
  simp only [urlKeys, List.mem_cons, List.not_mem_nil, or_false] at hkey
  rw [value_requestUrl, value_requestUrl]
  rcases hkey with rfl | rfl
  · simp [httpUrl?, Attributes.firstText?, Attributes.first?, insert, Value.text?, h]
  · -- a URL under the first key hides the one under the second
    cases hfirst : s.attributes.get? Key.httpUrl <;>
      simp [httpUrl?, Attributes.firstText?, Attributes.first?, insert, Value.text?, h, hne, hfirst]

variable {s} {s' : Span}

theorem AgreeOff.httpMethod?_congr (h : AgreeOff urlKeys s s') : s.httpMethod? = s'.httpMethod? :=
  (h.on (by decide)).firstText?

/-- Of the URL of the request, only what it parses to counts. -/
theorem AgreeOff.value_ingressOperation_congr [Runtime] (h : AgreeOff urlKeys s s')
    (hurl : s.requestUrl.value = s'.requestUrl.value) :
    s.ingressOperation.value = s'.ingressOperation.value := by
  have htarget : s.httpTarget? = s'.httpTarget? := (h.on (by decide)).firstText?
  have hnamed : s.isNamed = s'.isNamed := by
    simp only [isNamed, h.name_eq, h.httpMethod?_congr]
  simp only [value_ingressOperation, value_requestOperation, value_requestPath,
    h.isInternalRoot_congr (by decide), h.isLocalRoot_congr (by decide), hnamed, h.name_eq,
    h.httpMethod?_congr, htarget, hurl]

end SpanMetrics.Span
