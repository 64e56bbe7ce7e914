import SpanMetrics.Span.Class

/-!
# SpanMetrics.Remote.ServiceName — names of remote services and operations

AWS services go by several names in the clients that call them; they are reported under the names of
the resource types. A function that is invoked is reported under its own name.
-/

namespace SpanMetrics.Remote

/-- The remote service of a call that nothing names. -/
def unknownService : String := "UnknownRemoteService"

/-- The remote operation of a call that nothing names. -/
def unknownOperation : String := "UnknownRemoteOperation"

/-- The remote service under a key. -/
def serviceAt (s : Span) (key : String) : String :=
  (s.text? key).getD unknownService

/-- The remote operation under a key. -/
def operationAt (s : Span) (key : String) : String :=
  (s.text? key).getD unknownOperation

/-- What the names of AWS services start with. -/
def awsNamespace : String := "AWS::"

/-- The name of functions in clients. -/
def functionClient : String := "Lambda"

/-- The names of services in clients, with the services they stand for. -/
def clientNames : List (String × String) :=
  [("AmazonDynamoDBv2", "DynamoDB"), ("DynamoDB", "DynamoDB"), ("DynamoDb", "DynamoDB"),
   ("AmazonKinesis", "Kinesis"), ("Kinesis", "Kinesis"), ("Amazon S3", "S3"), ("S3", "S3"),
   ("Secrets Manager", "SecretsManager"), ("SecretsManager", "SecretsManager"), ("SNS", "SNS"),
   ("AmazonSQS", "SQS"), ("Sqs", "SQS"), ("SQS", "SQS"), ("SFN", "StepFunctions"),
   ("Bedrock", "Bedrock"), ("Bedrock Agent", "Bedrock"), ("Bedrock Agent Runtime", "Bedrock"),
   ("Bedrock Runtime", "BedrockRuntime")]

/-- The name of an AWS service. -/
def awsName (service : String) : String :=
  awsNamespace ++ service

/-- The names of services in clients, with the names under which they are reported. -/
def reportedNames : List (String × String) :=
  clientNames.map fun (client, service) => (client, awsName service)

/-- The name under which the service of a call is reported. -/
def reportedName (s : Span) (name : String) : String :=
  if !s.isAwsCall then name
  else if name = functionClient then
    if s.isInvocation then serviceAt s Key.functionName else awsName functionClient
  else (reportedNames.lookup name).getD (awsName name)

end SpanMetrics.Remote
