import SpanMetrics.Proofs.Metric.Measure
import SpanMetrics.Proofs.Remote.Reads

/-!
# SpanMetrics.Proofs.Metric.RemoteService — who decides about the name of the remote side

What a user sets by hand comes before all else: the names of the remote service and operation, and then
the name of the peer. What no attribute names is made up from the peer and the URL, but not for a call
through an AWS client that leaves its service open: the mark for an unknown service passes for a name
there, and is reported as one of an AWS service.

* `Remote.value_call_of_explicit`, `Remote.service_call_of_peer` — names that are set by hand.
* `Remote.service_call_of_open` — a service that the deciding source leaves open.
* `Metrics.explicit_names_win` — names that are set by hand are those of the metric.
* `Metrics.unknown_reported_as_aws_service` — the metric of a call that leaves its service open.
-/

namespace SpanMetrics

theorem Span.has_of_text? {s : Span} {key text : String} (h : s.text? key = some text) :
    s.has key = true := by
  obtain ⟨value, hvalue, -⟩ := Option.bind_eq_some_iff.1 h
  simp [has, Attributes.has, hvalue]

namespace Remote

variable {s : Span} {service operation peer : String}

/-! ## Names that are set by hand -/

/-- The names of the remote side come before all other sources. -/
theorem source?_of_remoteService (h : s.has Key.remoteService = true) :
    source? s = some (.pair Key.remoteService Key.remoteOperation) := by
  have hon : Source.isOn s (.pair Key.remoteService Key.remoteOperation) = true := by
    simp [Source.isOn, h]
  exact List.find?_cons_of_pos hon

/-- Known names of the remote side are taken as they are. -/
theorem value_call_of_explicit [Runtime] (hservice : s.text? Key.remoteService = some service)
    (hoperation : s.text? Key.remoteOperation = some operation)
    (hknown : service ≠ unknownService) (hknown' : operation ≠ unknownOperation) :
    (call s).value = ⟨service, operation⟩ := by
  have hhas := Span.has_of_text? hservice
  have hnamed : namedCall s = ⟨service, operation⟩ := by
    simp [namedCall, sourcedCall, source?_of_remoteService hhas, Source.call, serviceAt, operationAt,
      hhas, hservice, hoperation]
  rw [value_call, hnamed]
  simp only [hknown, hknown', if_false]

/-- A known name of the peer is taken as it is, unless a user names the remote service. -/
theorem service_call_of_peer [Runtime] (hservice : s.has Key.remoteService = false)
    (hpeer : s.text? Key.peerService = some peer) (hknown : peer ≠ unknownService) :
    (call s).value.service = peer := by
  have hnamed : (namedCall s).service = peer := by
    simp [namedCall, Span.has_of_text? hpeer, hservice, serviceAt, hpeer]
  rw [value_call, hnamed]
  exact if_neg hknown

/-- The name of the peer says nothing about the operation. -/
theorem operation_call_erase_peerService [Runtime] (s : Span) :
    (call (s.erase Key.peerService)).value.operation = (call s).value.operation := by
  have h := s.agreeOff_erase Key.peerService
  -- no source reads the name of the peer
  have hsources : ∀ source ∈ Source.all, ∀ key ∈ source.callKeys, key ∉ [Key.peerService] := by
    decide +kernel
  have haws : (s.erase Key.peerService).isAwsCall = s.isAwsCall :=
    Span.isAwsCall_congr (h.on (by decide))
  have hsourced : sourcedCall (s.erase Key.peerService) = sourcedCall s := by
    refine sourcedCall_congr haws ?_
    intro source hsource
    exact h.on (hsources source hsource)
  have hmethod : (s.erase Key.peerService).httpMethod? = s.httpMethod? :=
    (h.on (by decide)).firstText?
  have hurl : (s.erase Key.peerService).httpUrl? = s.httpUrl? := (h.on (by decide)).firstText?
  simp only [value_call, operation_namedCall, hsourced, value_requestOperation,
    Span.value_requestUrl, hmethod, hurl]

/-! ## Services that are left open -/

/-- In an AWS client the mark for an unknown service is a name like any other. -/
theorem reportedName_unknownService (s : Span) :
    reportedName s unknownService =
      if s.isAwsCall then awsName unknownService else unknownService := by
  have hfunction : unknownService ≠ functionClient := by decide
  have hlookup : reportedNames.lookup unknownService = none := by decide
  unfold reportedName
  cases s.isAwsCall <;> simp [hfunction, hlookup]

/-- A service that the deciding source leaves open is made up from the peer, unless the call goes through
an AWS client. -/
theorem service_call_of_open [Runtime] (hsource : source? s = some (.clientPair service operation))
    (hopen : s.text? service = none) (hpeer : s.has Key.peerService = false) :
    (call s).value.service =
      if s.isAwsCall then awsName unknownService else (peerService s).value := by
  have hnamed : (namedCall s).service = reportedName s unknownService := by
    simp [namedCall, sourcedCall, hsource, hpeer, Source.call, serviceAt, hopen]
  have hname : awsName unknownService ≠ unknownService := by decide
  rw [value_call, hnamed, reportedName_unknownService]
  cases s.isAwsCall <;> simp [hname]

end Remote

namespace Metrics

open SpanMetrics.Metric (DependencyMetric)

variable {configured configured' : Option String} {resource resource' : Attributes} {s : Span}
  {m : DependencyMetric}

/-- The metric of a call has the names of its remote side. -/
theorem names_of_dependency [Runtime]
    (hm : (ofSpan configured resource s).value.dependency = some m) :
    m.get? Key.remoteService = some (.string (Remote.call s).value.service) ∧
      m.get? Key.remoteOperation = some (.string (Remote.call s).value.operation) := by
  obtain ⟨-, rfl⟩ := dependency_eq_some_iff.1 hm
  rw [DependencyMetric.get?_remoteService, DependencyMetric.get?_remoteOperation,
    DependencyMetric.call_ofSpan]
  exact ⟨rfl, rfl⟩

/-- Names that a user sets by hand are those of the metric: for the remote service and operation, whatever
else two spans carry that agree on them; and for the peer, if the user names no remote service. The name
of the peer does not change the operation. -/
theorem explicit_names_win [Runtime] :
    (∀ (s s' : Span) (m m' : DependencyMetric) (service operation : String),
      (ofSpan configured resource s).value.dependency = some m →
      (ofSpan configured' resource' s').value.dependency = some m' →
      s.AgreeOn [Key.remoteService, Key.remoteOperation] s' →
      s.text? Key.remoteService = some service → service ≠ Remote.unknownService →
      s.text? Key.remoteOperation = some operation → operation ≠ Remote.unknownOperation →
      (m.get? Key.remoteService = some (.string service) ∧
        m.get? Key.remoteOperation = some (.string operation)) ∧
      (m'.get? Key.remoteService = some (.string service) ∧
        m'.get? Key.remoteOperation = some (.string operation))) ∧
    ∀ (s : Span) (m : DependencyMetric) (peer : String),
      (ofSpan configured resource s).value.dependency = some m →
      s.has Key.remoteService = false →
      s.text? Key.peerService = some peer → peer ≠ Remote.unknownService →
      m.get? Key.remoteService = some (.string peer) ∧
        ∃ m', (ofSpan configured resource (s.erase Key.peerService)).value.dependency = some m' ∧
          m'.get? Key.remoteOperation = m.get? Key.remoteOperation := by
  constructor
  · intro s s' m m' service operation hm hm' hagree hservice hknown hoperation hknown'
    have hservice' : s'.text? Key.remoteService = some service := by
      rw [← hagree.text? (by decide), hservice]
    have hoperation' : s'.text? Key.remoteOperation = some operation := by
      rw [← hagree.text? (by decide), hoperation]
    have hnames := names_of_dependency hm
    have hnames' := names_of_dependency hm'
    rw [Remote.value_call_of_explicit hservice hoperation hknown hknown'] at hnames
    rw [Remote.value_call_of_explicit hservice' hoperation' hknown hknown'] at hnames'
    exact ⟨hnames, hnames'⟩
  · intro s m peer hm hservice hpeer hknown
    have hnames := names_of_dependency hm
    rw [Remote.service_call_of_peer hservice hpeer hknown] at hnames
    have hdescribes : (s.erase Key.peerService).describesDependency = true := by
      rw [(s.agreeOff_erase Key.peerService).describesDependency_congr (by decide)]
      exact (dependency_eq_some_iff.1 hm).1
    have herased : (ofSpan configured resource (s.erase Key.peerService)).value.dependency = some _ :=
      dependency_eq_some_iff.2 ⟨hdescribes, rfl⟩
    refine ⟨hnames.1, _, herased, ?_⟩
    rw [(names_of_dependency herased).2, hnames.2, Remote.operation_call_erase_peerService]

/-- A call to which a user gives the names of the remote side, with attributes of every other kind. -/
def bookedInvocation : Span where
  id := "7"
  name := "POST"
  kind := .client
  parentId := some "1"
  attributes := .ofList [("aws.is.local.root", .bool false), ("aws.remote.service", .string "ledger"),
    ("aws.remote.operation", .string "Book"), ("rpc.system", .string "aws-api"),
    ("rpc.service", .string "Lambda"), ("rpc.method", .string "Invoke"),
    ("peer.service", .string "bank"), ("net.peer.name", .string "10.0.0.7")]
  scope := none

/-- A query with the same names. -/
def bookedQuery : Span where
  id := "8"
  name := "SELECT"
  kind := .client
  parentId := some "1"
  attributes := .ofList [("aws.is.local.root", .bool false), ("db.system", .string "mysql"),
    ("aws.remote.operation", .string "Book"), ("aws.remote.service", .string "ledger")]
  scope := none

/-- A call through an AWS client to a peer with a name. -/
def upload : Span where
  id := "9"
  name := "PUT"
  kind := .client
  parentId := some "1"
  attributes := .ofList [("aws.is.local.root", .bool false), ("rpc.system", .string "aws-api"),
    ("rpc.service", .string "S3"), ("rpc.method", .string "PutObject"),
    ("peer.service", .string "archive")]
  scope := none

/-- The ledger is the remote side of both the invocation and the query, and the archive that of the upload,
which stays an upload without the name. -/
theorem explicit_names_win_upload :
    (∃ m m', (ofSpan none .empty bookedInvocation).value.dependency = some m ∧
      (ofSpan none .empty bookedQuery).value.dependency = some m' ∧
      m.get? Key.remoteService = some (.string "ledger") ∧
      m'.get? Key.remoteService = some (.string "ledger") ∧
      m'.get? Key.remoteOperation = some (.string "Book")) ∧
    ∃ m m', (ofSpan none .empty upload).value.dependency = some m ∧
      (ofSpan none .empty (upload.erase Key.peerService)).value.dependency = some m' ∧
      m.get? Key.remoteService = some (.string "archive") ∧
      m.get? Key.remoteOperation = some (.string "PutObject") ∧
      m'.get? Key.remoteOperation = some (.string "PutObject") := by
  have hdependency : ∀ s : Span, s.describesDependency = true →
      (ofSpan none .empty s).value.dependency = some (DependencyMetric.ofSpan none .empty s).value := by
    intro s hs
    exact dependency_eq_some_iff.2 ⟨hs, rfl⟩
  have hagree : bookedInvocation.AgreeOn [Key.remoteService, Key.remoteOperation] bookedQuery := by
    intro key hkey
    simp only [List.mem_cons, List.not_mem_nil, or_false] at hkey
    rcases hkey with rfl | rfl <;> rfl
  obtain ⟨hexplicit, hpeer⟩ := @explicit_names_win none none .empty .empty .plain
  constructor
  · have h := hexplicit _ _ _ _ "ledger" "Book" (hdependency bookedInvocation (by decide))
      (hdependency bookedQuery (by decide)) hagree (by decide) (by decide) (by decide) (by decide)
    exact ⟨_, _, hdependency _ (by decide), hdependency _ (by decide), h.1.1, h.2⟩
  · obtain ⟨hservice, m', herased, hoperation⟩ := hpeer upload _ "archive"
      (hdependency upload (by decide)) (by decide) (by decide) (by decide)
    have hupload : (DependencyMetric.ofSpan none .empty upload).value.get? Key.remoteOperation =
        some (.string "PutObject") := by
      rfl
    exact ⟨_, m', hdependency upload (by decide), herased, hservice, hupload,
      hoperation.trans hupload⟩

/-- A call whose deciding source leaves the service open is reported under the host of the peer, unless it
goes through an AWS client: then the mark for an unknown service is reported as an AWS service, whatever
is known of the peer. -/
theorem unknown_reported_as_aws_service [Runtime] {service operation : String}
    (hm : (ofSpan configured resource s).value.dependency = some m)
    (hsource : Remote.source? s = some (.clientPair service operation))
    (hopen : s.text? service = none) (hpeer : s.has Key.peerService = false) :
    m.get? Key.remoteService =
      some (.string (if s.isAwsCall then "AWS::UnknownRemoteService"
        else (Remote.peerService s).value)) := by
  rw [(names_of_dependency hm).1, Remote.service_call_of_open hsource hopen hpeer]
  rfl

/-- A call through an AWS client that names its method and its peer, and no service. -/
def getItem : Span where
  id := "0000000000000009"
  name := "DynamoDB.GetItem"
  kind := .client
  parentId := some "0000000000000001"
  attributes := .ofList [("aws.is.local.root", .bool false), ("rpc.system", .string "aws-api"),
    ("rpc.method", .string "GetItem"),
    ("net.peer.name", .string "dynamodb.us-east-1.amazonaws.com"),
    ("net.peer.port", .number (.finite ⟨false, 443, 0, by decide⟩))]
  scope := some "Scope name"

/-- The host of the peer does not become the service of `getItem`. -/
theorem unknown_reported_as_aws_service_getItem :
    ∃ m, (ofSpan none (.ofList [("service.name", .string "shop")]) getItem).value.dependency =
        some m ∧
      m.get? Key.remoteService = some (.string "AWS::UnknownRemoteService") ∧
      (Remote.peerService getItem).value = "dynamodb.us-east-1.amazonaws.com:443" := by
  have hm : (ofSpan none (.ofList [("service.name", .string "shop")]) getItem).value.dependency =
      some (DependencyMetric.ofSpan none (.ofList [("service.name", .string "shop")]) getItem).value :=
    dependency_eq_some_iff.2 ⟨by decide, rfl⟩
  have hsource : Remote.source? getItem = some (.clientPair Key.rpcService Key.rpcMethod) := by
    decide
  have hservice := unknown_reported_as_aws_service hm hsource (by decide) (by decide)
  refine ⟨_, hm, hservice, ?_⟩
  rw [Remote.value_peerService]
  decide +kernel

end Metrics

end SpanMetrics
