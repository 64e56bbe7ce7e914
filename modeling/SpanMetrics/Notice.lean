import SpanMetrics.Kind

/-!
# SpanMetrics.Notice — what an answer could not determine

Answers come with notices, in the order in which the causes were met. `Logged` carries both, and
composing two logged answers joins their notices.
-/

namespace SpanMetrics

/-- How much attention a notice asks for. -/
inductive Level where
  | verbose
  | debug
deriving DecidableEq, Repr

/-- A cause for a default or missing value. -/
inductive Notice where
  /-- No attribute gave a value for a metric attribute. -/
  | noValue (key : String) (kind : Kind) (spanId : String)
  /-- The rule for a type of resource claimed the span, and found no identifier. -/
  | noIdentifier (type : String) (spanId : String)
  /-- The URL of a request does not parse. -/
  | malformedUrl (url : String)
  /-- The connection string of a database does not parse. -/
  | malformedConnection (connection : String)
  /-- The span carries no local-root flag, and its parent id decides. -/
  | noLocalRootFlag
deriving DecidableEq, Repr

namespace Notice

def level : Notice → Level
  | .noLocalRootFlag => .debug
  | _ => .verbose

/-- The wording of a notice. -/
def message : Notice → String
  | .noValue key kind spanId =>
    "No valid " ++ key ++ " value found for " ++ kind.name ++ " span " ++ spanId
  | .noIdentifier type spanId => "No valid " ++ type ++ " identifier found for span " ++ spanId
  | .malformedUrl url => "invalid http.url attribute: " ++ url
  | .malformedConnection connection => "invalid DB ConnectionString: " ++ connection
  | .noLocalRootFlag =>
    "isLocalRoot for span has not been precalculated. Falling back to the parent span id."

end Notice

/-- An answer with its notices. -/
structure Logged (α : Type) where
  /-- The answer. -/
  value : α
  /-- The notices, in order. -/
  notices : List Notice

namespace Logged

/-- An answer without notices. -/
protected def pure {α : Type} (a : α) : Logged α := ⟨a, []⟩

/-- The answer to a question that depends on an earlier answer. -/
protected def bind {α β : Type} (x : Logged α) (f : α → Logged β) : Logged β :=
  ⟨(f x.value).value, x.notices ++ (f x.value).notices⟩

instance : Monad Logged where
  pure := Logged.pure
  bind := Logged.bind

/-- A notice by itself. -/
def note (n : Notice) : Logged Unit := ⟨(), [n]⟩

/-- The notices of a level, in order. -/
def ofLevel {α : Type} (x : Logged α) (level : Level) : List Notice :=
  x.notices.filter (·.level == level)

variable {α β : Type}

@[simp] theorem value_pure (a : α) : (pure a : Logged α).value = a := rfl

@[simp] theorem notices_pure (a : α) : (pure a : Logged α).notices = [] := rfl

@[simp] theorem value_bind (x : Logged α) (f : α → Logged β) :
    (x >>= f).value = (f x.value).value := rfl

@[simp] theorem notices_bind (x : Logged α) (f : α → Logged β) :
    (x >>= f).notices = x.notices ++ (f x.value).notices := rfl

@[simp] theorem value_map (f : α → β) (x : Logged α) : (f <$> x).value = f x.value := rfl

@[simp] theorem value_note (n : Notice) : (note n).value = () := rfl

@[simp] theorem notices_note (n : Notice) : (note n).notices = [n] := rfl

@[ext] theorem ext {x y : Logged α} (hv : x.value = y.value) (hn : x.notices = y.notices) :
    x = y := by
  cases x; cases y; simp_all

instance : LawfulMonad Logged :=
  LawfulMonad.mk' Logged
    (fun x => by apply ext <;> simp [Functor.map, Logged.bind, Logged.pure])
    (fun a f => by apply ext <;> simp)
    (fun x f g => by apply ext <;> simp [List.append_assoc])

end Logged

end SpanMetrics
