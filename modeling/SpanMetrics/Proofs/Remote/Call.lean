import SpanMetrics.Proofs.Span.Operation
import SpanMetrics.Remote.Call

/-!
# SpanMetrics.Proofs.Remote.Call — the remote service and operation

* `Source.isOn_eq_any` — the keys that turn a source on.
* `value_call` — attributes name the remote side, and what they leave open is made up from the peer
  and from the URL of the request.
-/

namespace SpanMetrics.Remote

/-! ## Sources -/

/-- The keys of which one has to be present. -/
def Source.keys : Source → List String
  | .pair service operation | .clientPair service operation => [service, operation]
  | .database => Span.dbCallKeys
  | .query => [Key.graphqlOperationType]

variable (s : Span)

/-- A source is on just if one of its keys is present. -/
theorem Source.isOn_eq_any (source : Source) : source.isOn s = source.keys.any s.has := by
  cases source <;> simp [isOn, keys, Span.isDbCall, Span.dbCallKeys, Bool.or_assoc]

/-- Nothing names the remote side of a call just if no key of a source is present. -/
theorem source?_eq_none_iff :
    source? s = none ↔ ∀ source ∈ Source.all, ∀ key ∈ source.keys, s.has key = false := by
  simp [source?, List.find?_eq_none, Source.isOn_eq_any]

/-- The name of the peer does not overrule the operation. -/
theorem operation_namedCall : (namedCall s).operation = (sourcedCall s).operation := by
  unfold namedCall
  split <;> rfl

/-! ## What is made up -/

/-- The host and the port of a URL, if it has a host. -/
def hostAndPort? (url : Url) : Option String :=
  if url.hostname = "" then none else some (withPort url.hostname url.portText?)

theorem value_peerService [Runtime] :
    (peerService s).value =
      if s.has Key.netPeerName then
        withPort (serviceAt s Key.netPeerName) (s.text? Key.netPeerPort)
      else if s.has Key.netSockPeerAddr then
        withPort (serviceAt s Key.netSockPeerAddr) (s.text? Key.netSockPeerPort)
      else (s.requestUrl.value.bind hostAndPort?).getD unknownService := by
  have hurl : (urlService s).value = s.requestUrl.value.bind hostAndPort? := rfl
  unfold peerService
  split
  · rfl
  · split
    · rfl
    · rw [Logged.value_bind, hurl]
      split <;> rfl

/-- The method, if it is known, and the route of a URL. -/
def methodAndRoute (method : Option String) (url : Url) : String :=
  match method with
  | some method => method ++ " " ++ Route.ofTarget url.pathname
  | none => Route.ofTarget url.pathname

theorem value_requestOperation [Runtime] :
    (requestOperation s).value =
      (s.requestUrl.value.map (methodAndRoute s.httpMethod?)).getD unknownOperation := by
  have hurl : (urlOperation s).value = s.requestUrl.value.map (methodAndRoute s.httpMethod?) := rfl
  unfold requestOperation
  rw [Logged.value_bind, hurl]
  split <;> rfl

/-- Attributes name the remote side, and what they leave open is made up. -/
theorem value_call [Runtime] :
    (call s).value =
      ⟨if (namedCall s).service = unknownService then (peerService s).value
        else (namedCall s).service,
       if (namedCall s).operation = unknownOperation then (requestOperation s).value
        else (namedCall s).operation⟩ := by
  unfold call
  by_cases hservice : (namedCall s).service = unknownService <;>
    by_cases hoperation : (namedCall s).operation = unknownOperation <;>
      simp [hservice, hoperation]

end SpanMetrics.Remote
