import SpanMetrics.Remote.ServiceName
import SpanMetrics.Sql.Keyword

/-!
# SpanMetrics.Remote.Source — attributes that name the remote side of a call

The first source with a key on the span decides. What a user sets by hand comes first, then the
conventions for calls, AWS clients, databases, functions, messages and queries.
-/

namespace SpanMetrics.Remote

/-- The remote side of a call. -/
structure Call where
  service : String
  operation : String
deriving DecidableEq, Repr

/-- A family of attributes that names the remote side of a call. -/
inductive Source where
  /-- One key for the service and one for the operation. -/
  | pair (service operation : String)
  /-- A pair whose service is a name in an AWS client, if the call goes through one. -/
  | clientPair (service operation : String)
  /-- A database call, whose statement stands in for a missing operation. -/
  | database
  /-- A query, whose service is always the query language. -/
  | query
deriving DecidableEq, Repr

/-- The service of a query. -/
def queryService : String := "graphql"

/-- The operation of the statement under a key; only a string holds a statement. -/
def statementOperation (s : Span) (key : String) : String :=
  ((s.string? key).bind Sql.operation?).getD unknownOperation

namespace Source

/-- The sources, the most telling first. -/
def all : List Source :=
  [.pair Key.remoteService Key.remoteOperation,
   .clientPair Key.rpcService Key.rpcMethod,
   .clientPair Key.awsService Key.awsOperation,
   .database,
   .pair Key.faasInvokedName Key.faasTrigger,
   .pair Key.messagingSystem Key.messagingOperation,
   .query]

/-- A key of the source is present. -/
def isOn (s : Span) : Source → Bool
  | .pair service operation | .clientPair service operation => s.has service || s.has operation
  | .database => s.isDbCall
  | .query => s.has Key.graphqlOperationType

/-- The remote side as the source names it. -/
def call (s : Span) : Source → Call
  | .pair service operation => ⟨serviceAt s service, operationAt s operation⟩
  | .clientPair service operation =>
    ⟨reportedName s (serviceAt s service), operationAt s operation⟩
  | .database =>
    ⟨serviceAt s Key.dbSystem,
     if s.has Key.dbOperation then operationAt s Key.dbOperation
     else statementOperation s Key.dbStatement⟩
  | .query => ⟨queryService, operationAt s Key.graphqlOperationType⟩

end Source

/-- The first source with a key on the span. -/
def source? (s : Span) : Option Source :=
  Source.all.find? (Source.isOn s)

/-- The remote side as the deciding source names it. -/
def sourcedCall (s : Span) : Call :=
  match source? s with
  | some source => source.call s
  | none => ⟨unknownService, unknownOperation⟩

end SpanMetrics.Remote
