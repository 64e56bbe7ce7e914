import SpanMetrics.Span.Operation

/-!
# SpanMetrics.Span.Classification — everything that is said about a span by itself
-/

namespace SpanMetrics

/-- The classes and operations of a span. -/
structure Classification where
  isLocalRoot : Bool
  isAwsCall : Bool
  isDbCall : Bool
  isConsumerProcess : Bool
  isInvocation : Bool
  isInternalRoot : Bool
  describesService : Bool
  describesDependency : Bool
  ingressOperation : String
  egressOperation : Option String
  httpMethod : Option String
  httpUrl : Option String
deriving DecidableEq, Repr

/-- Classifies a span. -/
def Classification.ofSpan [Runtime] (s : Span) : Logged Classification := do
  let isLocalRoot ← s.localRoot
  let isInternalRoot ← s.internalRoot
  let describesService ← s.serviceDescribed
  let describesDependency ← s.dependencyDescribed
  let ingressOperation ← s.ingressOperation
  let egressOperation ← s.egressOperation
  pure {
    isLocalRoot
    isAwsCall := s.isAwsCall
    isDbCall := s.isDbCall
    isConsumerProcess := s.isConsumerProcess
    isInvocation := s.isInvocation
    isInternalRoot
    describesService
    describesDependency
    ingressOperation
    egressOperation
    httpMethod := s.httpMethod?
    httpUrl := s.httpUrl? }

end SpanMetrics
