import SpanMetrics.Proofs.Metric.RemoteService
import SpanMetrics.Proofs.Metric.Schema
import SpanMetrics.Proofs.Remote.Precedence
import SpanMetrics.Proofs.Text.Trim

/-!
# SpanMetrics.Proofs.Metric.Invocation — invoked functions are services

A function that is invoked is another service, with an environment that is configured. It is never a
resource, and its name keeps later rules from reporting one.

* `Environment.exists_trimsTo` — the environment of invoked functions.
* `Remote.firstClaim_function` — the name of a function claims a call, unless a table or a stream does.
* `Remote.value_resource_of_invocation` — such an invocation has no resource.
* `Remote.value_call_of_invocation` — the remote side of an invocation is the function.
* `Metrics.invocation_is_service` — the metric of an invocation.
-/

namespace SpanMetrics

theorem Span.isInvocation_iff {s : Span} :
    s.isInvocation = true ↔ s.isAwsCall = true ∧ s.string? Key.rpcService = some "Lambda" ∧
      s.string? Key.rpcMethod = some "Invoke" := by
  simp [isInvocation, holds, Attributes.holds, string?, and_assoc]

theorem Span.text?_of_string? {s : Span} {key text : String} (h : s.string? key = some text) :
    s.text? key = some text := by
  obtain ⟨value, hvalue, hstring⟩ := Option.bind_eq_some_iff.1 h
  exact Option.bind_eq_some_iff.2 ⟨value, hvalue, Value.text?_of_string? hstring⟩

/-- The environment of invoked functions is the configured one without the white space around it. -/
theorem Environment.exists_trimsTo (configured : Option String) :
    ∃ core, Text.TrimsTo (configured.getD "").toList core ∧
      ofFunctions configured = "lambda:" ++ if core = [] then "default" else .ofList core := by
  refine ⟨Text.trim (configured.getD "").toList, Text.trimsTo_trim _, ?_⟩
  simp [ofFunctions]

namespace Remote

variable {s : Span}

/-! ## Functions as resources -/

/-- The rule for functions. -/
def Rule.function : Rule :=
  .aws "Lambda" "Function" (.uninvoked Key.functionName) (.string Key.functionArn)

theorem Rule.eq_function_of_type : ∀ rule ∈ Rule.all, rule.type = "AWS::Lambda::Function" →
    rule = .function := by
  decide

/-- An invocation has no function as a resource. -/
theorem Rule.value_resource_function [Runtime] (h : s.isInvocation = true) :
    (Rule.function.resource s).value = none := by
  simp [Rule.function, Rule.resource, Naming.name?, h]

theorem type_resource_of_invocation [Runtime] (h : s.isInvocation = true) {r : Resource}
    (hr : (resource s).value = some r) : r.type ≠ "AWS::Lambda::Function" := by
  obtain ⟨rule, hrule, hfound⟩ := exists_rule_of_resource hr
  intro htype
  rw [Rule.type_of_resource hfound] at htype
  obtain rfl := Rule.eq_function_of_type rule (mem_all_of_rule? hrule) htype
  rw [Rule.value_resource_function h] at hfound
  cases hfound

/-- The rules before the one for functions are those for tables and streams. -/
theorem Rule.type_of_mem_take : ∀ rule ∈ Rule.all.take 4,
    rule ∈ Rule.all ∧ (rule.type = "AWS::DynamoDB::Table" ∨ rule.type = "AWS::Kinesis::Stream") := by
  decide

/-- The name of a function claims a call, unless a table or a stream does. -/
theorem firstClaim_function (haws : s.isAwsCall = true) (hname : s.has Key.functionName = true)
    (hother : ∀ rule ∈ Rule.all,
      rule.type = "AWS::DynamoDB::Table" ∨ rule.type = "AWS::Kinesis::Stream" →
        rule.claims s = false) : FirstClaim s 4 .function where
  place_eq := rfl
  claims := by
    rw [Rule.function, Rule.claims, haws, Bool.true_and]
    exact hname
  before := by
    intro i earlier hi hearlier
    obtain ⟨hmem, htype⟩ := Rule.type_of_mem_take earlier (Rule.mem_take_of_getElem? hi hearlier)
    exact hother earlier hmem htype

/-- A function with a name leaves an invocation without a resource, unless a table or a stream claims
the call. -/
theorem value_resource_of_invocation [Runtime] (h : s.isInvocation = true)
    (hname : s.has Key.functionName = true)
    (hother : ∀ rule ∈ Rule.all,
      rule.type = "AWS::DynamoDB::Table" ∨ rule.type = "AWS::Kinesis::Stream" →
        rule.claims s = false) : (resource s).value = none := by
  have haws := (Span.isInvocation_iff.1 h).1
  rw [(firstClaim_function haws hname hother).value_resource, Rule.value_resource_function h]

/-! ## Functions as services -/

/-- The names of an invocation are those that the client gives, unless a user names the remote side. -/
theorem source?_of_invocation (h : s.isInvocation = true)
    (hservice : s.has Key.remoteService = false) (hoperation : s.has Key.remoteOperation = false) :
    source? s = some (.clientPair Key.rpcService Key.rpcMethod) := by
  obtain ⟨-, hrpcService, -⟩ := Span.isInvocation_iff.1 h
  have hhas : s.has Key.rpcService = true := Span.has_of_text? (Span.text?_of_string? hrpcService)
  have hoff : ¬ Source.isOn s (.pair Key.remoteService Key.remoteOperation) = true := by
    simp [Source.isOn, hservice, hoperation]
  have hon : Source.isOn s (.clientPair Key.rpcService Key.rpcMethod) = true := by
    simp [Source.isOn, hhas]
  unfold source? Source.all
  rw [List.find?_cons_of_neg hoff, List.find?_cons_of_pos hon]

/-- The remote side of an invocation is the function, unless a user names another one. -/
theorem value_call_of_invocation [Runtime] (h : s.isInvocation = true)
    (hservice : s.has Key.remoteService = false) (hoperation : s.has Key.remoteOperation = false)
    (hpeer : s.has Key.peerService = false) {name : String}
    (hname : s.text? Key.functionName = some name) (hknown : name ≠ unknownService) :
    (call s).value = ⟨name, "Invoke"⟩ := by
  obtain ⟨haws, hrpcService, hrpcMethod⟩ := Span.isInvocation_iff.1 h
  have hsource := source?_of_invocation h hservice hoperation
  have hclient : serviceAt s Key.rpcService = functionClient := by
    rw [serviceAt, Span.text?_of_string? hrpcService]
    rfl
  have hmethod : operationAt s Key.rpcMethod = "Invoke" := by
    rw [operationAt, Span.text?_of_string? hrpcMethod]
    rfl
  have hreported : reportedName s functionClient = name := by
    simp [reportedName, haws, h, serviceAt, hname]
  have hnamed : namedCall s = ⟨name, "Invoke"⟩ := by
    simp [namedCall, sourcedCall, hsource, hpeer, Source.call, hclient, hreported, hmethod]
  have hinvoke : "Invoke" ≠ unknownOperation := by decide
  rw [value_call, hnamed]
  simp only [hknown, hinvoke, if_false]

end Remote

namespace Metric.DependencyMetric

theorem get?_remoteEnvironment (m : DependencyMetric) :
    m.get? Key.remoteEnvironment = m.environment.map Value.string := by
  unfold get? toList
  rcases m.environment with _ | e <;> rcases m.resource with _ | ⟨r, _ | ⟨_ | _⟩⟩ <;>
    rcases m.dbUser with _ | user <;> rfl

theorem get?_resourceType (m : DependencyMetric) :
    m.get? Key.resourceType = m.resource.map fun r => .string r.resource.type := by
  unfold get? toList
  rcases m.environment with _ | e <;> rcases m.resource with _ | ⟨r, _ | ⟨_ | _⟩⟩ <;>
    rcases m.dbUser with _ | user <;> rfl

end Metric.DependencyMetric

namespace Metrics

open SpanMetrics.Metric (DependencyMetric)

variable {configured : Option String} {resource : Attributes} {s : Span} {m : DependencyMetric}

/-- What is true of the metric of a span that invokes a function. -/
structure DescribesInvocation (configured : Option String) (s : Span) (m : DependencyMetric) :
    Prop where
  /-- The environment is the configured one, without the white space around it. -/
  environment : ∃ core, Text.TrimsTo (configured.getD "").toList core ∧
    m.get? Key.remoteEnvironment =
      some (.string ("lambda:" ++ if core = [] then "default" else .ofList core))
  notFunction : m.get? Key.resourceType ≠ some (.string "AWS::Lambda::Function")
  /-- A function with a name leaves no room for a resource, unless it is a table or a stream. -/
  noResource : s.has Key.functionName = true →
    (∀ rule ∈ Remote.Rule.all,
      rule.type = "AWS::DynamoDB::Table" ∨ rule.type = "AWS::Kinesis::Stream" →
        rule.claims s = false) →
    ∀ key ∈ DependencyMetric.resourceKeys ++ DependencyMetric.ownerKeys, m.get? key = none
  /-- The function is the remote service, unless a user names another one. -/
  remoteSide : ∀ name, s.text? Key.functionName = some name → name ≠ Remote.unknownService →
    s.has Key.remoteService = false → s.has Key.remoteOperation = false →
    s.has Key.peerService = false →
      m.get? Key.remoteService = some (.string name) ∧
        m.get? Key.remoteOperation = some (.string "Invoke")

/-- The metric of a span with an invoked function describes the function as a service and not as a
resource; the metric of any other span has no environment. -/
theorem invocation_is_service [Runtime]
    (hm : (ofSpan configured resource s).value.dependency = some m) :
    (s.isInvocation = true → DescribesInvocation configured s m) ∧
      (s.isInvocation = false → m.get? Key.remoteEnvironment = none) := by
  have hschema := dependencySchema hm
  have hnames := names_of_dependency hm
  obtain ⟨-, rfl⟩ := dependency_eq_some_iff.1 hm
  have henvironment := DependencyMetric.environment_ofSpan configured resource s
  have hresource := DependencyMetric.resource_ofSpan configured resource s
  constructor
  · intro h
    refine ⟨?_, ?_, ?_, ?_⟩
    · obtain ⟨core, htrims, hcore⟩ := Environment.exists_trimsTo configured
      refine ⟨core, htrims, ?_⟩
      rw [DependencyMetric.get?_remoteEnvironment, henvironment, if_pos h, hcore]
      rfl
    · intro htype
      rw [DependencyMetric.get?_resourceType, hresource, Option.map_map] at htype
      obtain ⟨r, hr, htype⟩ := Option.map_eq_some_iff.1 htype
      exact Remote.type_resource_of_invocation h hr (Value.string.inj htype)
    · intro hname hother key hkey
      have hnone := Remote.value_resource_of_invocation h hname hother
      have hnot : ¬ (DependencyMetric.ofSpan configured resource s).value.Has Key.resourceType := by
        rw [DependencyMetric.has_iff_of_mem_resourceKeys (by decide), hresource, hnone]
        simp
      rw [← Option.not_isSome_iff_eq_none]
      intro hhas
      rcases List.mem_append.1 hkey with hkey | hkey
      · exact hnot (hschema.together key hkey Key.resourceType (by decide) hhas)
      · exact hschema.beside hnot key hkey hhas
    · intro name hname hknown hservice hoperation hpeer
      rw [Remote.value_call_of_invocation h hservice hoperation hpeer hname hknown] at hnames
      exact hnames
  · intro h
    rw [DependencyMetric.get?_remoteEnvironment, henvironment, h]
    rfl

/-- An invocation that writes to a bucket, with the access key by which the call was signed. -/
def thumbnail : Span where
  id := "9"
  name := "Lambda.Invoke"
  kind := .client
  parentId := some "1"
  attributes := .ofList [("aws.is.local.root", .bool false), ("rpc.system", .string "aws-api"),
    ("rpc.service", .string "Lambda"), ("rpc.method", .string "Invoke"),
    ("aws.lambda.function.name", .string "resize"), ("aws.s3.bucket", .string "thumbnails"),
    ("aws.auth.account.access_key", .string "AKIA"), ("aws.auth.region", .string "eu-west-1"),
    ("net.peer.name", .string "lambda.eu-west-1.amazonaws.com")]
  scope := none

/-- The function is the service; neither the bucket nor the access key is reported. -/
theorem invocation_is_service_thumbnail :
    ∃ m, (ofSpan (some "\tprod \n") .empty thumbnail).value.dependency = some m ∧
      m.get? Key.remoteEnvironment = some (.string "lambda:prod") ∧
      m.get? Key.remoteService = some (.string "resize") ∧
      m.get? Key.remoteOperation = some (.string "Invoke") ∧
      m.get? Key.resourceType = none ∧ m.get? Key.resourceAccessKey = none := by
  have hm : (ofSpan (some "\tprod \n") .empty thumbnail).value.dependency =
      some (DependencyMetric.ofSpan (some "\tprod \n") .empty thumbnail).value :=
    dependency_eq_some_iff.2 ⟨by decide, rfl⟩
  obtain ⟨⟨core, htrims, henvironment⟩, -, hnone, hside⟩ :=
    (invocation_is_service hm).1 (by decide)
  have hcore : core = "prod".toList := htrims.eq_trim.trans (by decide)
  have hother : ∀ rule ∈ Remote.Rule.all,
      rule.type = "AWS::DynamoDB::Table" ∨ rule.type = "AWS::Kinesis::Stream" →
        rule.claims thumbnail = false := by
    decide
  have hkeys := hnone (by decide) hother
  obtain ⟨hservice, hoperation⟩ :=
    hside "resize" (by decide) (by decide) (by decide) (by decide) (by decide)
  refine ⟨_, hm, ?_, hservice, hoperation, hkeys _ (by decide), hkeys _ (by decide)⟩
  rw [henvironment, hcore]
  rfl

end Metrics

end SpanMetrics
