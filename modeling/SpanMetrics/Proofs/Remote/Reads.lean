import Mathlib.Data.List.Find
import SpanMetrics.Proofs.Remote.Call
import SpanMetrics.Proofs.Remote.Owner

/-!
# SpanMetrics.Proofs.Remote.Reads — what is read for the remote side of a call

The keys from which the resource, its owner and the remote service and operation are read. Spans
that agree on them, and on the class of the call, have the same remote side.

* `rule?_congr`, `Rule.resource_congr` — what decides about the resource.
* `Owner.ofSpan?_congr` — what decides about its owner.
* `sourcedCall_congr`, `namedCall_congr`, `value_call_congr` — what decides about service and operation.
-/

namespace SpanMetrics.Remote

open SpanMetrics.Span (AgreeOn)

variable {s s' : Span}

/-! ## Resources -/

namespace Naming

/-- The keys from which the name is read. -/
def nameKeys : Naming → List String
  | .uninvoked key => key :: Span.invocationKeys
  | naming => [naming.key]

variable {naming : Naming}

theorem key_mem_nameKeys (naming : Naming) : naming.key ∈ naming.nameKeys := by
  cases naming <;> exact List.mem_cons_self

theorem name?_congr (haws : s.isAwsCall = s'.isAwsCall) (h : AgreeOn naming.nameKeys s s') :
    naming.name? s = naming.name? s' := by
  have hkey := naming.key_mem_nameKeys
  cases naming with
  | string key => exact h.string? hkey
  | only key => exact congrArg (·.bind onlyString?) (h key hkey)
  | uninvoked key =>
    have hinvocation := Span.isInvocation_congr haws (h.mono (List.subset_cons_self _ _))
    have hstring : s.string? key = s'.string? key := h.string? hkey
    simp only [name?, hinvocation, hstring]
  | arn key label => simp only [name?, h key hkey]
  | queue key => simp only [name?, h key hkey]

theorem isOn_congr (h : AgreeOn [naming.key] s s') : naming.isOn s = naming.isOn s' := by
  have hkey : naming.key ∈ [naming.key] := List.mem_singleton_self _
  cases naming with
  | only key => simp only [isOn, name?, h key hkey]
  | string key | uninvoked key | arn key label | queue key => exact h.has hkey

end Naming

namespace Primary

/-- The keys from which it is read what the type is registered under. -/
def keys : Primary → List String
  | .name => []
  | .string key | .under key => [key]

theorem identifier_congr {primary : Primary} (h : AgreeOn primary.keys s s') (name : String) :
    primary.identifier s name = primary.identifier s' name := by
  cases primary with
  | name => rfl
  | string key | under key => simp only [identifier, h.string? (List.mem_singleton_self key)]

end Primary

namespace Endpoint

/-- The keys from which the endpoint of a connection is read. -/
def readKeys : List String :=
  keys.map (·.1) ++ keys.map (·.2) ++ [Key.dbConnectionString]

theorem ofSpan_congr [Runtime] (h : AgreeOn readKeys s s') : ofSpan s = ofSpan s' := by
  have haddress : ∀ e ∈ keys, e.1 ∈ readKeys ∧ e.2 ∈ readKeys := by decide
  have hkeys : keys? s = keys? s' := List.find?_congr fun e he => h.has (haddress e he).1
  have hconnection : s.text? Key.dbConnectionString = s'.text? Key.dbConnectionString :=
    h.text? (by decide)
  unfold ofSpan
  rw [hkeys]
  cases hfind : keys? s' with
  | none => simp only [hconnection]
  | some e =>
    obtain ⟨haddress, hport⟩ := haddress e (List.mem_of_find?_eq_some hfind)
    simp only [ofKeys?, h.text? haddress, h.text? hport]

end Endpoint

/-- The keys from which the identifier of a connection is read. -/
def connectionKeys : List String :=
  Key.dbName :: Endpoint.readKeys

theorem connection_congr [Runtime] (h : AgreeOn connectionKeys s s') :
    connection s = connection s' := by
  have hendpoint := Endpoint.ofSpan_congr (h.mono (List.subset_cons_self _ _))
  have hname : s.text? Key.dbName = s'.text? Key.dbName := h.text? List.mem_cons_self
  simp only [connection, hendpoint, hname]

namespace Rule

/-- The keys from which it is read whether the rule claims a span. -/
def conditionKeys : Rule → List String
  | .aws _ _ naming _ => [naming.key]
  | .connection => Span.dbCallKeys

/-- The keys from which the rule reads the resource. -/
def resourceKeys : Rule → List String
  | .aws _ _ naming primary => naming.nameKeys ++ primary.keys
  | .connection => connectionKeys

variable {rule : Rule}

theorem claims_congr (haws : s.isAwsCall = s'.isAwsCall) (h : AgreeOn rule.conditionKeys s s') :
    rule.claims s = rule.claims s' := by
  cases rule with
  | aws service kind naming primary => simp only [claims, haws, Naming.isOn_congr h]
  | connection => simp only [claims, haws, Span.isDbCall_congr h]

theorem resource_congr [Runtime] (haws : s.isAwsCall = s'.isAwsCall)
    (h : AgreeOn rule.resourceKeys s s') :
    rule.resource s = rule.resource s' := by
  cases rule with
  | aws service kind naming primary =>
    have hname := Naming.name?_congr haws (h.mono (List.subset_append_left _ _))
    have hprimary := Primary.identifier_congr (h.mono (List.subset_append_right _ _))
    simp only [resource, hname, hprimary]
  | connection => simp only [resource, connection_congr h]

end Rule

/-- The same rule decides about spans that agree on what the rules claim spans by. -/
theorem rule?_congr (haws : s.isAwsCall = s'.isAwsCall)
    (h : ∀ rule ∈ Rule.all, AgreeOn rule.conditionKeys s s') : rule? s = rule? s' :=
  List.find?_congr fun rule hrule => Rule.claims_congr haws (h rule hrule)

theorem value_resource_congr [Runtime] (haws : s.isAwsCall = s'.isAwsCall)
    (hcondition : ∀ rule ∈ Rule.all, AgreeOn rule.conditionKeys s s')
    (hresource : ∀ rule ∈ Rule.all, AgreeOn rule.resourceKeys s s') :
    (resource s).value = (resource s').value := by
  rw [value_resource, value_resource, rule?_congr haws hcondition]
  cases hrule : rule? s' with
  | none => rfl
  | some rule =>
    simp only [Option.bind_some,
      Rule.resource_congr haws (hresource rule (mem_all_of_rule? hrule))]

/-- The keys from which the owner of a resource is read. -/
def Owner.readKeys : List String :=
  keys ++ [Key.authAccessKey, Key.authRegion]

theorem Owner.ofSpan?_congr (h : AgreeOn readKeys s s') : ofSpan? s = ofSpan? s' := by
  have hlocated : located? s = located? s' := by
    have harns : AgreeOn arnKeys s s' := h.mono (by decide)
    simp only [located?, h Key.queueUrl (by decide), harns.first?]
  have hsigned : signed? s = signed? s' := by
    have hkey : s.text? Key.authAccessKey = s'.text? Key.authAccessKey := h.text? (by decide)
    have hregion : s.text? Key.authRegion = s'.text? Key.authRegion := h.text? (by decide)
    simp only [signed?, hkey, hregion]
  rw [ofSpan?, ofSpan?, hlocated, hsigned]

/-! ## Service and operation -/

namespace Source

/-- The keys from which the remote side is read. -/
def callKeys : Source → List String
  | .clientPair service operation =>
    service :: operation :: Key.functionName :: Span.invocationKeys
  | source => source.keys

variable {source : Source}

theorem keys_subset_callKeys (source : Source) : source.keys ⊆ source.callKeys := by
  cases source with
  | clientPair service operation => simp [keys, callKeys]
  | pair service operation | database | query => exact List.Subset.refl _

theorem isOn_congr (h : AgreeOn source.keys s s') : source.isOn s = source.isOn s' := by
  cases source with
  | pair service operation | clientPair service operation =>
    have hservice : s.has service = s'.has service := h.has (by simp [keys])
    have hoperation : s.has operation = s'.has operation := h.has (by simp [keys])
    simp only [isOn, hservice, hoperation]
  | database => exact Span.isDbCall_congr h
  | query => exact h.has (by simp [keys])

theorem call_congr (haws : s.isAwsCall = s'.isAwsCall) (h : AgreeOn source.callKeys s s') :
    source.call s = source.call s' := by
  have hservice : ∀ key ∈ source.callKeys, serviceAt s key = serviceAt s' key := by
    intro key hkey
    rw [serviceAt, serviceAt, h.text? hkey]
  have hoperation : ∀ key ∈ source.callKeys, operationAt s key = operationAt s' key := by
    intro key hkey
    rw [operationAt, operationAt, h.text? hkey]
  cases source with
  | pair service operation =>
    simp only [call, hservice service (by simp [callKeys, keys]),
      hoperation operation (by simp [callKeys, keys])]
  | clientPair service operation =>
    have hinvocation : s.isInvocation = s'.isInvocation := by
      refine Span.isInvocation_congr haws (h.mono ?_)
      intro key hkey
      simp [callKeys, hkey]
    simp only [call, reportedName, haws, hinvocation, hservice service (by simp [callKeys]),
      hservice Key.functionName (by simp [callKeys]),
      hoperation operation (by simp [callKeys])]
  | database =>
    have hstatement : statementOperation s Key.dbStatement =
        statementOperation s' Key.dbStatement := by
      rw [statementOperation, statementOperation, h.string? (by decide)]
    have hpresent : s.has Key.dbOperation = s'.has Key.dbOperation := h.has (by decide)
    simp only [call, hservice Key.dbSystem (by decide), hpresent,
      hoperation Key.dbOperation (by decide), hstatement]
  | query => simp only [call, hoperation Key.graphqlOperationType (by decide)]

end Source

/-- The same source decides about spans that agree on the keys of all sources. -/
theorem source?_congr (h : ∀ source ∈ Source.all, AgreeOn source.keys s s') :
    source? s = source? s' :=
  List.find?_congr fun source hsource => Source.isOn_congr (h source hsource)

/-- What is read of the sources decides about the remote side as they name it. -/
theorem sourcedCall_congr (haws : s.isAwsCall = s'.isAwsCall)
    (hcall : ∀ source ∈ Source.all, AgreeOn source.callKeys s s') :
    sourcedCall s = sourcedCall s' := by
  have hsource : ∀ source ∈ Source.all, AgreeOn source.keys s s' := by
    intro source hmem
    exact (hcall source hmem).mono source.keys_subset_callKeys
  unfold sourcedCall
  rw [source?_congr hsource]
  cases hfind : source? s' with
  | none => rfl
  | some source =>
    exact Source.call_congr haws (hcall source (List.mem_of_find?_eq_some hfind))

/-- What is read of the sources and of the name of the peer decides about the remote side, as far as
attributes name it. -/
theorem namedCall_congr (haws : s.isAwsCall = s'.isAwsCall)
    (hcall : ∀ source ∈ Source.all, AgreeOn source.callKeys s s')
    (hpeer : AgreeOn [Key.peerService, Key.remoteService] s s') :
    namedCall s = namedCall s' := by
  have hsourced := sourcedCall_congr haws hcall
  have hname : Key.peerService ∈ [Key.peerService, Key.remoteService] := by decide
  have hservice : Key.remoteService ∈ [Key.peerService, Key.remoteService] := by decide
  simp only [namedCall, hsourced, serviceAt, hpeer.has hname, hpeer.has hservice, hpeer.text? hname]

/-- The keys of the host and the port of the peer. -/
def peerKeys : List String :=
  [Key.netPeerName, Key.netPeerPort, Key.netSockPeerAddr, Key.netSockPeerPort]

/-- Of the URL of the request, only what it parses to counts. -/
theorem value_peerService_congr [Runtime] (h : AgreeOn peerKeys s s')
    (hurl : s.requestUrl.value = s'.requestUrl.value) :
    (peerService s).value = (peerService s').value := by
  have hname : Key.netPeerName ∈ peerKeys := by decide
  have hport : Key.netPeerPort ∈ peerKeys := by decide
  have haddress : Key.netSockPeerAddr ∈ peerKeys := by decide
  have haddressPort : Key.netSockPeerPort ∈ peerKeys := by decide
  simp only [value_peerService, serviceAt, h.has hname, h.text? hname, h.text? hport,
    h.has haddress, h.text? haddress, h.text? haddressPort, hurl]

/-- The remote side is what attributes name, and what is made up from the peer and the URL. -/
theorem value_call_congr [Runtime] (hnamed : namedCall s = namedCall s')
    (hpeer : AgreeOn peerKeys s s') (hmethod : s.httpMethod? = s'.httpMethod?)
    (hurl : s.requestUrl.value = s'.requestUrl.value) : (call s).value = (call s').value := by
  rw [value_call, value_call, hnamed, value_peerService_congr hpeer hurl,
    value_requestOperation, value_requestOperation, hmethod, hurl]

end SpanMetrics.Remote
