/-!
# SpanMetrics.Runtime — what the program is given by its runtime

Two answers come neither from spans nor from the resource they belong to: how a domain name of another script
is written in ASCII, for which the runtime has tables, and the name of a service that nobody configured,
which tells the process. Whatever rests on them is said for every runtime.
-/

namespace SpanMetrics

/-- What the program is given by its runtime. -/
class Runtime where
  /-- The ASCII form of a domain name that is not ASCII or has a label in an ASCII form already; `none` if the
  name is not valid. -/
  domainToAscii? : List Char → Option (List Char)
  /-- The name of a service that nobody configured. -/
  defaultService : String

/-- A runtime without tables for other scripts, whose process is called `node`. Runs on fixed inputs take
it. -/
instance Runtime.plain : Runtime where
  domainToAscii? _ := none
  defaultService := "unknown_service:node"

end SpanMetrics
