import SpanMetrics.Text.Blank

/-!
# SpanMetrics.Environment — the environment of invoked functions

A span does not show in which environment a function runs that it invokes; the environment is
configured.
-/

namespace SpanMetrics.Environment

/-- The variable that names the environment. -/
def variableName : String := "LAMBDA_APPLICATION_SIGNALS_REMOTE_ENVIRONMENT"

/-- The environment of invoked functions, given the value of the variable. -/
def ofFunctions (configured : Option String) : String :=
  let name := Text.trim (configured.getD "").toList
  "lambda:" ++ (if name.isEmpty then "default" else .ofList name)

end SpanMetrics.Environment
