import SpanMetrics.Arn
import SpanMetrics.QueueUrl
import SpanMetrics.Remote.Connection
import SpanMetrics.Remote.ServiceName

/-!
# SpanMetrics.Remote.Resource — remote resources

The resource that a call uses, found by rules. The first rule that claims a span decides: if it
finds no name, no resource is reported, whatever a later rule would find.
-/

namespace SpanMetrics.Remote

/-- A resource, identified by its name and by what its type is registered under. -/
structure Resource where
  type : String
  identifier : String
  primaryIdentifier : String
deriving DecidableEq, Repr

/-! ## Names -/

/-- Where a rule finds the name of a resource. -/
inductive Naming where
  /-- A string. -/
  | string (key : String)
  /-- A string, or a list of one string. -/
  | only (key : String)
  /-- A string, unless the call is an invocation. -/
  | uninvoked (key : String)
  /-- The name in an ARN, without a label. -/
  | arn (key label : String)
  /-- The queue in a queue URL. -/
  | queue (key : String)
deriving DecidableEq, Repr

namespace Naming

/-- The key under which the name is found. -/
def key : Naming → String
  | .string key | .only key | .uninvoked key | .arn key _ | .queue key => key

/-- The string that a value or a list of one value holds. -/
def onlyString? : Value → Option String
  | .list [v] => v.string?
  | v => v.string?

/-- The name. -/
def name? (s : Span) : Naming → Option String
  | .string key => s.string? key
  | .only key => (s.attributes.get? key).bind onlyString?
  | .uninvoked key => if s.isInvocation then none else s.string? key
  | .arn key label =>
    ((s.attributes.get? key).bind Arn.ofValue?).map fun arn => Arn.unlabelled label arn.name
  | .queue key => ((s.attributes.get? key).bind QueueUrl.ofValue?).map QueueUrl.queue

/-- The key is present; a list counts only if it gives a name. -/
def isOn (s : Span) : Naming → Bool
  | .only key => (Naming.only key).name? s |>.isSome
  | naming => s.has naming.key

end Naming

/-- What the type of a resource is registered under. -/
inductive Primary where
  /-- The name. -/
  | name
  /-- A string under a key, or the name if there is none. -/
  | string (key : String)
  /-- A string under a key, if there is one, and the name as two parts. -/
  | under (key : String)
deriving DecidableEq, Repr

/-- What the type is registered under, given the name. -/
def Primary.identifier (s : Span) (name : String) : Primary → String
  | .name => Delimited.encode name
  | .string key => Delimited.encode ((s.string? key).getD name)
  | .under key => Delimited.join (Delimited.encode ((s.string? key).getD ""))
    (Delimited.encode name)

/-! ## Rules -/

/-- A rule for one type of resource. -/
inductive Rule where
  /-- A resource of an AWS service. -/
  | aws (service kind : String) (naming : Naming) (primary : Primary)
  /-- The connection of a database call. -/
  | connection
deriving DecidableEq, Repr

namespace Rule

/-- The type of the resource. -/
def type : Rule → String
  | .aws service kind _ _ => awsName service ++ "::" ++ kind
  | .connection => "DB::Connection"

/-- The rule claims the span. -/
def claims (s : Span) : Rule → Bool
  | .aws _ _ naming _ => s.isAwsCall && naming.isOn s
  | .connection => !s.isAwsCall && s.isDbCall

/-- The resource, if its name is found. -/
def resource [Runtime] (s : Span) : Rule → Logged (Option Resource)
  | .aws service kind naming primary =>
    pure ((naming.name? s).map fun name =>
      ⟨(Rule.aws service kind naming primary).type, Delimited.encode name,
        primary.identifier s name⟩)
  | .connection => do
    let identifier? ← Remote.connection s
    pure (identifier?.map fun identifier => ⟨Rule.connection.type, identifier, identifier⟩)

/-- The rules, in the order in which they may claim a span. -/
def all : List Rule :=
  [.aws "DynamoDB" "Table" (.only Key.tableNames) .name,
   .aws "DynamoDB" "Table" (.arn Key.tableArn Arn.tableLabel) .name,
   .aws "Kinesis" "Stream" (.string Key.streamName) .name,
   .aws "Kinesis" "Stream" (.arn Key.streamArn Arn.streamLabel) .name,
   .aws "Lambda" "Function" (.uninvoked Key.functionName) (.string Key.functionArn),
   .aws "Lambda" "EventSourceMapping" (.string Key.resourceMappingId) .name,
   .aws "S3" "Bucket" (.string Key.bucket) .name,
   .aws "SecretsManager" "Secret" (.arn Key.secretArn "") (.string Key.secretArn),
   .aws "SNS" "Topic" (.arn Key.topicArn "") (.string Key.topicArn),
   .aws "SQS" "Queue" (.string Key.queueName) (.string Key.queueUrl),
   .aws "SQS" "Queue" (.queue Key.queueUrl) (.string Key.queueUrl),
   .aws "StepFunctions" "Activity" (.arn Key.activityArn "") (.string Key.activityArn),
   .aws "StepFunctions" "StateMachine" (.arn Key.stateMachineArn "")
     (.string Key.stateMachineArn),
   .aws "Bedrock" "Guardrail" (.string Key.guardrailId) (.string Key.guardrailArn),
   .aws "Bedrock" "Model" (.string Key.requestModel) .name,
   .aws "Bedrock" "Agent" (.string Key.agentId) .name,
   .aws "Bedrock" "DataSource" (.string Key.dataSourceId) (.under Key.knowledgeBaseId),
   .aws "Bedrock" "KnowledgeBase" (.string Key.knowledgeBaseId) .name,
   .connection]

end Rule

/-- The rule that decides about the span. -/
def rule? (s : Span) : Option Rule :=
  Rule.all.find? (Rule.claims s)

/-- The resource that the call uses, with a notice if the deciding rule finds none. -/
def resource [Runtime] (s : Span) : Logged (Option Resource) :=
  match rule? s with
  | none => pure none
  | some rule => do
    let resource? ← rule.resource s
    if resource?.isNone then
      Logged.note (.noIdentifier rule.type s.id)
    pure resource?

end SpanMetrics.Remote
