import SpanMetrics.Propagation.Processor

/-!
# SpanMetrics.Propagation.Builder — building processors

A builder starts with the default settings. A setting that is given nothing is refused, and the
builder stays as it was.
-/

namespace SpanMetrics.Propagation

/-- The settings of a processor. -/
inductive Setting where
  | extractor
  | key
  | keys
deriving DecidableEq, Repr

/-- The setting in the wording of errors. -/
def Setting.name : Setting → String
  | .extractor => "propagationDataExtractor"
  | .key => "propagationDataKey"
  | .keys => "attributesKeysToPropagate"

/-- Why a setting is refused. -/
inductive BuilderError where
  /-- Nothing was given. -/
  | missing (setting : Setting)
deriving DecidableEq, Repr

/-- The wording of an error. -/
def BuilderError.message : BuilderError → String
  | .missing setting => setting.name ++ " must not be null"

/-- The settings for a processor to come. -/
structure Builder where
  extract : Extraction
  key : String
  keys : List String

namespace Builder

/-- The ingress operation is handed down as the local operation, and the remote service and
operation are copied from internal spans. -/
def default [Runtime] : Builder :=
  ⟨Extractor.ingress.take, Key.localOperation, [Key.remoteService, Key.remoteOperation]⟩

/-- Something given, or an error that names the setting. -/
def required {α : Type} (setting : Setting) : Option α → Except BuilderError α
  | some a => .ok a
  | none => .error (.missing setting)

/-- Sets the extractor. -/
def setExtractor (b : Builder) (extract? : Option Extraction) : Except BuilderError Builder := do
  return { b with extract := ← required .extractor extract? }

/-- Sets the key of the data. -/
def setKey (b : Builder) (key? : Option String) : Except BuilderError Builder := do
  return { b with key := ← required .key key? }

/-- Sets the keys of the attributes that are copied. -/
def setKeys (b : Builder) (keys? : Option (List String)) : Except BuilderError Builder := do
  return { b with keys := ← required .keys keys? }

/-- The processor with the settings. -/
def build (b : Builder) : Processor :=
  ⟨b.extract, b.key, b.keys⟩

end Builder

namespace Processor

variable [Runtime]

/-- The processor with the default settings. -/
def default : Processor :=
  Builder.default.build

@[simp] theorem key_default : default.key = Key.localOperation := rfl

@[simp] theorem keys_default : default.keys = [Key.remoteService, Key.remoteOperation] := rfl

end Processor

end SpanMetrics.Propagation
