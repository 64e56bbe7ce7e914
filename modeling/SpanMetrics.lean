import SpanMetrics.Metric.Basic
import SpanMetrics.Proofs.Arn
import SpanMetrics.Proofs.Footprint
import SpanMetrics.Proofs.Metric.ConsumerPair
import SpanMetrics.Proofs.Metric.LocalOperation
import SpanMetrics.Proofs.Metric.LocalRoot
import SpanMetrics.Proofs.Metric.PeerService
import SpanMetrics.Proofs.Metric.RemoteService
import SpanMetrics.Proofs.Metric.RequestOperation
import SpanMetrics.Proofs.Metric.ResourceOwner
import SpanMetrics.Proofs.Metric.Schema
import SpanMetrics.Proofs.QueueUrl
import SpanMetrics.Proofs.Propagation.Copies
import SpanMetrics.Proofs.Propagation.Descent
import SpanMetrics.Proofs.Propagation.Ids
import SpanMetrics.Proofs.Propagation.Start
import SpanMetrics.Proofs.Propagation.Written
import SpanMetrics.Proofs.Remote.Connection
import SpanMetrics.Proofs.Remote.ConnectionString
import SpanMetrics.Proofs.Remote.FirstAddress
import SpanMetrics.Proofs.Remote.Identifier
import SpanMetrics.Proofs.Remote.Located
import SpanMetrics.Proofs.Span.Ingress
import SpanMetrics.Proofs.Tracer.Building
import SpanMetrics.Proofs.Tracer.KeyLists
import SpanMetrics.Proofs.Tracer.Locality
import SpanMetrics.Proofs.Tracer.Parentage
import SpanMetrics.Proofs.Tracer.Settings
import SpanMetrics.Proofs.Tracer.Timeline
import SpanMetrics.Proofs.Url.Authority
import SpanMetrics.Propagation.Builder
import SpanMetrics.Remote.Resource
import SpanMetrics.Span.Classification
import SpanMetrics.Tracer.Step
import SpanMetrics.Url.Basic
import SpanMetrics.Proofs.Sql.LongestKeyword
import SpanMetrics.Proofs.Metric.Invocation
import SpanMetrics.Proofs.Sql.WholeStatement
