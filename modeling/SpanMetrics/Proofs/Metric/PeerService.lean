import SpanMetrics.Proofs.Metric.Missing
import SpanMetrics.Proofs.Metric.RemoteService

/-!
# SpanMetrics.Proofs.Metric.PeerService — the service of a call that nothing names

The host of the remote side stands in for a service that no attribute names: the host of the peer, or else
that of the URL of the request. A call without a host is one to an unknown service, and is reported as
such. But a key for a host decides as soon as it is present; a value without a string form then puts the
port behind the mark for an unknown service, and nothing is reported.

* `Remote.KnownHost` — the host that a span tells of the remote side.
* `Metrics.service_of_unnamed` — the service of a call that nothing names, and when it is reported.
-/

namespace SpanMetrics

namespace Remote

variable [Runtime] {s : Span} {host : String} {port : Option String}

/-- The host that a span tells of the remote side, and the port. The first key for a host that is present
decides, with the port of its own family; the URL of the request counts only if none is. -/
inductive KnownHost (s : Span) : String → Option String → Prop where
  | peer {address port host : String} (hkeys : hostKeys? s = some (address, port))
    (hhost : s.text? address = some host) : KnownHost s host (s.text? port)
  | url {url : Url} (hkeys : hostKeys? s = none) (hurl : s.requestUrl.value = some url)
    (hhost : url.hostname ≠ "") : KnownHost s url.hostname url.portText?

/-- The service that is made up is the host, with the port. -/
theorem KnownHost.value_peerService (h : KnownHost s host port) :
    (peerService s).value = withPort host port := by
  cases h with
  | peer hkeys hhost =>
    rw [peerService_of_hostKeys? hkeys, Logged.value_pure, serviceAt, hhost, Option.getD_some]
  | url hkeys hurl hhost =>
    rw [value_peerService_of_hostKeys?_eq_none hkeys, hurl, Option.bind_some, hostAndPort?,
      if_neg hhost, Option.getD_some]

/-- A call to a known host is not reported. -/
theorem KnownHost.not_misses (h : KnownHost s host port) :
    ¬ (peerService s).Misses s Key.remoteService := by
  rw [misses_peerService_iff]
  rintro ⟨hnone, hopen⟩
  cases h with
  | peer hkeys => simp [hkeys] at hnone
  | url _ hurl hhost => simp [hurl, hostAndPort?, hhost] at hopen

/-- Without a key for a host, an unknown host is reported. -/
theorem bind_hostAndPort?_eq_none (hkeys : hostKeys? s = none)
    (hunknown : ∀ host port, ¬ KnownHost s host port) :
    s.requestUrl.value.bind hostAndPort? = none := by
  refine Option.bind_eq_none_iff.2 ?_
  intro url hurl
  unfold hostAndPort?
  split
  · rfl
  · next hhost => exact absurd (.url hkeys hurl hhost) (hunknown _ _)

end Remote

namespace Metrics

open SpanMetrics.Metric (DependencyMetric)

variable {configured : Option String} {resource : Attributes} {s : Span} {m : DependencyMetric}

/-- The metric of a call that nothing names has the service that is made up. -/
theorem remoteService_of_unnamed [Runtime]
    (hm : (ofSpan configured resource s).value.dependency = some m)
    (hopen : (Remote.namedCall s).service = Remote.unknownService) :
    m.get? Key.remoteService = some (.string (Remote.peerService s).value) := by
  rw [(names_of_dependency hm).1, Remote.value_call, if_pos hopen]

/-- The metrics of such a call report that it has no service just if none could be made up. -/
theorem misses_of_unnamed [Runtime] (hm : (ofSpan configured resource s).value.dependency = some m)
    (hopen : (Remote.namedCall s).service = Remote.unknownService) :
    (ofSpan configured resource s).Misses s Key.remoteService ↔
      (Remote.peerService s).Misses s Key.remoteService := by
  simp [misses_remoteService_iff, Remote.misses_call_iff, hopen, (dependency_eq_some_iff.1 hm).1]

/-- The service of a call that neither a source nor the name of the peer names: a known host, with its
port, and nothing is reported; or the bare mark for an unknown service, and it is reported. But if the
key for a host that decides is present without a string form, then the port is put behind the mark, and
nothing is reported. -/
theorem service_of_unnamed [Runtime] (hm : (ofSpan configured resource s).value.dependency = some m)
    (hopen : (Remote.namedCall s).service = Remote.unknownService) :
    (∀ host port, Remote.KnownHost s host port →
      m.get? Key.remoteService = some (.string (Remote.withPort host port)) ∧
        ¬ (ofSpan configured resource s).Misses s Key.remoteService) ∧
    (Remote.hostKeys? s = none → (∀ host port, ¬ Remote.KnownHost s host port) →
      m.get? Key.remoteService = some (.string "UnknownRemoteService") ∧
        ∃ notice ∈ (ofSpan configured resource s).ofLevel .verbose, notice.message =
          "No valid aws.remote.service value found for " ++ s.kind.name ++ " span " ++ s.id) ∧
    ∀ address port, Remote.hostKeys? s = some (address, port) → s.text? address = none →
      m.get? Key.remoteService =
          some (.string (Remote.withPort "UnknownRemoteService" (s.text? port))) ∧
        ¬ (ofSpan configured resource s).Misses s Key.remoteService := by
  rw [remoteService_of_unnamed hm hopen, misses_of_unnamed hm hopen]
  refine ⟨?_, ?_, ?_⟩
  · intro host port hknown
    rw [hknown.value_peerService]
    exact ⟨rfl, hknown.not_misses⟩
  · intro hkeys hunknown
    have hurl := Remote.bind_hostAndPort?_eq_none hkeys hunknown
    have hmisses : (ofSpan configured resource s).Misses s Key.remoteService :=
      (misses_of_unnamed hm hopen).2 (Remote.misses_peerService_iff.2 ⟨hkeys, hurl⟩)
    rw [Remote.value_peerService_of_hostKeys?_eq_none hkeys, hurl]
    exact ⟨rfl, hmisses.exists_message⟩
  · intro address port hkeys htext
    rw [Remote.peerService_of_hostKeys? hkeys, Logged.value_pure, Remote.serviceAt, htext]
    exact ⟨rfl, Logged.not_misses_pure _⟩

/-- A call whose peer has a list of names. -/
def listedPeer : Span where
  id := "0000000000000009"
  name := "connect"
  kind := .client
  parentId := some "0000000000000001"
  attributes := .ofList [("aws.is.local.root", .bool false),
    ("net.peer.name", .list [.string "10.0.0.7"]),
    ("net.peer.port", .number (.ofInt 443))]
  scope := some "Scope name"

/-- The port of the peer is put behind the mark for an unknown service. Nothing but the operations is
reported. -/
theorem service_of_unnamed_listedPeer :
    ∃ m, (ofSpan none (.ofList [("service.name", .string "shop")]) listedPeer).value.dependency =
        some m ∧
      m.get? Key.remoteService = some (.string "UnknownRemoteService:443") ∧
      ((ofSpan none (.ofList [("service.name", .string "shop")]) listedPeer).ofLevel
          .verbose).map Notice.message =
        ["No valid aws.local.operation value found for CLIENT span 0000000000000009",
          "No valid aws.remote.operation value found for CLIENT span 0000000000000009"] := by
  have hm : (ofSpan none (.ofList [("service.name", .string "shop")]) listedPeer).value.dependency =
      some (DependencyMetric.ofSpan none (.ofList [("service.name", .string "shop")])
        listedPeer).value :=
    dependency_eq_some_iff.2 ⟨by decide, rfl⟩
  have hservice := (service_of_unnamed hm (by decide)).2.2 Key.netPeerName Key.netPeerPort
    (by decide) (by decide)
  have hname : Remote.withPort "UnknownRemoteService" (listedPeer.text? Key.netPeerPort) =
      "UnknownRemoteService:443" := by
    decide +kernel
  rw [hname] at hservice
  exact ⟨_, hm, hservice.1, by decide +kernel⟩

end Metrics

end SpanMetrics
