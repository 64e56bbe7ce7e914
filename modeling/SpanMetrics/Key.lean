/-!
# SpanMetrics.Key — attribute keys with a meaning
-/

namespace SpanMetrics.Key

/-! ## Metric attributes -/

def spanKind : String := "aws.span.kind"
def localService : String := "aws.local.service"
def localOperation : String := "aws.local.operation"
def remoteService : String := "aws.remote.service"
def remoteOperation : String := "aws.remote.operation"
def remoteEnvironment : String := "aws.remote.environment"
def resourceType : String := "aws.remote.resource.type"
def resourceIdentifier : String := "aws.remote.resource.identifier"
def primaryIdentifier : String := "aws.remote.resource.cfn.primary.identifier"
def remoteDbUser : String := "aws.remote.db.user"
def resourceAccountId : String := "aws.remote.resource.account.id"
def resourceRegion : String := "aws.remote.resource.region"
def resourceAccessKey : String := "aws.remote.resource.account.access_key"

/-! ## Credentials of a signed call -/

def authAccessKey : String := "aws.auth.account.access_key"
def authRegion : String := "aws.auth.region"

/-! ## Written when a span starts -/

def sdkDescendant : String := "aws.sdk.descendant"
def consumerParentKind : String := "aws.consumer.parent.span.kind"
def isLocalRoot : String := "aws.is.local.root"

/-! ## Calls made through an AWS client -/

def awsService : String := "aws.service"
def awsOperation : String := "aws.operation"
def rpcSystem : String := "rpc.system"
def rpcService : String := "rpc.service"
def rpcMethod : String := "rpc.method"

/-! ## AWS resources -/

def tableNames : String := "aws.dynamodb.table_names"
def tableArn : String := "aws.dynamodb.table.arn"
def streamName : String := "aws.kinesis.stream.name"
def streamArn : String := "aws.kinesis.stream.arn"
def functionName : String := "aws.lambda.function.name"
def functionArn : String := "aws.lambda.function.arn"
def resourceMappingId : String := "aws.lambda.resource_mapping.id"
def bucket : String := "aws.s3.bucket"
def secretArn : String := "aws.secretsmanager.secret.arn"
def topicArn : String := "aws.sns.topic.arn"
def queueUrl : String := "aws.sqs.queue.url"
def queueName : String := "aws.sqs.queue.name"
def activityArn : String := "aws.stepfunctions.activity.arn"
def stateMachineArn : String := "aws.stepfunctions.state_machine.arn"
def guardrailId : String := "aws.bedrock.guardrail.id"
def guardrailArn : String := "aws.bedrock.guardrail.arn"
def agentId : String := "aws.bedrock.agent.id"
def knowledgeBaseId : String := "aws.bedrock.knowledge_base.id"
def dataSourceId : String := "aws.bedrock.data_source.id"
def requestModel : String := "gen_ai.request.model"

/-! ## Databases -/

def dbSystem : String := "db.system"
def dbOperation : String := "db.operation"
def dbStatement : String := "db.statement"
def dbName : String := "db.name"
def dbUser : String := "db.user"
def dbConnectionString : String := "db.connection_string"

/-! ## HTTP -/

def httpMethod : String := "http.method"
def httpRequestMethod : String := "http.request.method"
def httpTarget : String := "http.target"
def urlPath : String := "url.path"
def httpUrl : String := "http.url"
def urlFull : String := "url.full"

/-! ## Functions, messages, queries -/

def faasInvokedName : String := "faas.invoked_name"
def faasTrigger : String := "faas.trigger"
def messagingSystem : String := "messaging.system"
def messagingOperation : String := "messaging.operation"
def graphqlOperationType : String := "graphql.operation.type"

/-! ## Peers and addresses -/

def peerService : String := "peer.service"
def netPeerName : String := "net.peer.name"
def netPeerPort : String := "net.peer.port"
def netSockPeerAddr : String := "net.sock.peer.addr"
def netSockPeerPort : String := "net.sock.peer.port"
def serverAddress : String := "server.address"
def serverPort : String := "server.port"
def serverSocketAddress : String := "server.socket.address"
def serverSocketPort : String := "server.socket.port"

/-! ## Resource attributes -/

def serviceName : String := "service.name"

end SpanMetrics.Key
