import SpanMetrics.Proofs.Tracer.Timeline

/-!
# SpanMetrics.Proofs.Tracer.Settings — steps about spans and steps about processors

Most steps are about one span, some about builders and processors, and the others leave no trace in
either.

* `Tracer.find?_step_of_subject?_ne` — a step leaves the spans alone that it is not about.
* `Tracer.settings_step`, `Tracer.settings_step_of_not` — what becomes of the settings of a tracer is
  decided by them and by the steps about them.
* `Tracer.builder_step` — a builder takes what it is given, and leaves the settings alone for which it is
  given nothing.
* `Tracer.builder_run` — a builder has of each setting what it was given last.
* `Tracer.processor_step` — a processor keeps its settings until another one takes over, but for the keys
  that are added to its list.
* `Tracer.step_unset` — a setting that is given nothing is refused, and nothing changes.
-/

namespace SpanMetrics

/-! ## What a step is about -/

namespace Step

/-- The handle of the span that the step is about. -/
def subject? : Step → Option String
  | .start new => some new.handle
  | .setAttribute handle _ _ | .rename handle _ | .finish handle => some handle
  | .inspect handle | .classify handle | .measure handle _ => some handle
  | _ => none

/-- The step is about builders and processors. -/
def isSetting : Step → Bool
  | .newBuilder | .setExtractor _ | .setKey _ | .setKeys _ | .pushKey _ => true
  | .build | .install _ _ _ => true
  | _ => false

variable {handle : String} {s : Step}

/-- A step has no effect on a span that it is not about. -/
theorem effect_of_subject?_ne (h : s.subject? ≠ some handle) (live : LiveSpan) :
    s.effect handle live = live := by
  cases s <;> simp_all [effect, subject?]

/-- A step about settings is about no span. -/
theorem subject?_of_isSetting (h : s.isSetting = true) : s.subject? = none := by
  cases s <;> simp_all [isSetting, subject?]

end Step

namespace Tracer

/-- A step leaves the spans alone that it is not about. -/
theorem find?_step_of_subject?_ne [Runtime] (t : Tracer) {handle : String} {s : Step}
    (h : s.subject? ≠ some handle) : (t.step s).1.find? handle = t.find? handle := by
  have hstart : ∀ start parent, s = .start start → t.parent? start = some parent →
      start.handle ≠ handle := by
    rintro start parent rfl - he
    exact h (congrArg some he)
  rw [t.find?_step s handle hstart, funext (Step.effect_of_subject?_ne h)]
  exact Option.map_id'

end Tracer

/-! ## What a builder is given -/

namespace Step

/-- The extraction that the builder is given. -/
def extraction? [Runtime] : Step → Option Propagation.Extraction
  | .setExtractor extractor? => extractor?.map Propagation.Extractor.take
  | _ => none

/-- The key of the data that the builder is given. -/
def dataKey? : Step → Option String
  | .setKey key? => key?
  | _ => none

/-- The keys that the builder is given. -/
def copiedKeys? : Step → Option (List String)
  | .setKeys keys? => keys?
  | _ => none

/-- What is given by the last of the steps that give any. -/
def lastGiven {α : Type} (given? : Step → Option α) (before : α) (steps : List Step) : α :=
  (steps.filterMap given?).getLast?.getD before

theorem lastGiven_cons {α : Type} (given? : Step → Option α) (before : α) (s : Step)
    (steps : List Step) :
    lastGiven given? before (s :: steps) = lastGiven given? ((given? s).getD before) steps := by
  unfold lastGiven
  cases hgiven : given? s with
  | none => rw [List.filterMap_cons_none hgiven, Option.getD_none]
  | some a => rw [List.filterMap_cons_some hgiven, List.getLast?_cons, Option.getD_some,
      Option.getD_some]

/-- Gives nothing for a setting of the builder. -/
def unset : Propagation.Setting → Step
  | .extractor => .setExtractor none
  | .key => .setKey none
  | .keys => .setKeys none

end Step

/-- The builder after the steps: of each setting it has what it was given last. -/
def Propagation.Builder.given [Runtime] (builder : Propagation.Builder) (steps : List Step) :
    Propagation.Builder where
  extract := Step.lastGiven Step.extraction? builder.extract steps
  key := Step.lastGiven Step.dataKey? builder.key steps
  keys := Step.lastGiven Step.copiedKeys? builder.keys steps

theorem Propagation.Builder.given_cons [Runtime] (builder : Propagation.Builder) (s : Step)
    (steps : List Step) : builder.given (s :: steps) = (builder.given [s]).given steps := by
  simp only [given, Step.lastGiven_cons]
  rfl

namespace Tracer

/-- A setting of the builder, if it is clear what the builder becomes when it takes the setting and when
it does not. -/
theorem set_eq {t : Tracer}
    {setting : Propagation.Builder → Except Propagation.BuilderError Propagation.Builder}
    {f : Propagation.Builder → Propagation.Builder}
    (h : ∀ builder, setting builder = .ok (f builder) ∨
      (∃ error, setting builder = .error error) ∧ f builder = builder) :
    (t.set setting).1 = { t with builder := t.builder.map f } := by
  obtain ⟨scope, spans, started, processor, sharesKeys, handedKeys, builder?, environment⟩ := t
  cases builder? with
  | none => rfl
  | some builder =>
    rcases h builder with hok | ⟨⟨error, herror⟩, hsame⟩
    · simp [set, hok]
    · simp [set, herror, hsame]

theorem step_setExtractor [Runtime] (t : Tracer) (extractor? : Option Propagation.Extractor) :
    (t.step (.setExtractor extractor?)).1 =
      { t with builder := t.builder.map (·.given [.setExtractor extractor?]) } := by
  apply set_eq
  intro builder
  cases extractor? with
  | none => exact .inr ⟨⟨_, rfl⟩, rfl⟩
  | some extractor => exact .inl rfl

theorem step_setKey [Runtime] (t : Tracer) (key? : Option String) :
    (t.step (.setKey key?)).1 =
      { t with builder := t.builder.map (·.given [.setKey key?]) } := by
  apply set_eq
  intro builder
  cases key? with
  | none => exact .inr ⟨⟨_, rfl⟩, rfl⟩
  | some key => exact .inl rfl

/-- A list is handed over, whether there is a builder that takes it or not. -/
theorem step_setKeys [Runtime] (t : Tracer) (keys? : Option (List String)) :
    (t.step (.setKeys keys?)).1 =
      { t with
        builder := t.builder.map (·.given [.setKeys keys?])
        handedKeys := keys?.getD t.handedKeys
        sharesKeys := keys?.isNone && t.sharesKeys } := by
  have hset : (t.set (·.setKeys keys?)).1 =
      { t with builder := t.builder.map (·.given [.setKeys keys?]) } := by
    apply set_eq
    intro builder
    cases keys? with
    | none => exact .inr ⟨⟨_, rfl⟩, rfl⟩
    | some keys => exact .inl rfl
  change (keys?.map ((t.set (·.setKeys keys?)).1.handOver · false)).getD
    (t.set (·.setKeys keys?)).1 = _
  rw [hset]
  cases keys? <;> rfl

/-! ## Settings -/

/-- The tracer without its spans: what is left are its settings. -/
def settings (t : Tracer) : Tracer :=
  { t with spans := [], started := 0, environment := none }

/-- A step about settings reads nothing else. -/
theorem settings_step [Runtime] (t : Tracer) {s : Step} (h : s.isSetting = true) :
    (t.step s).1.settings = (t.settings.step s).1 := by
  cases s with
  | setExtractor extractor? =>
    rw [t.step_setExtractor, t.settings.step_setExtractor]
    rfl
  | setKey key? =>
    rw [t.step_setKey, t.settings.step_setKey]
    rfl
  | setKeys keys? =>
    rw [t.step_setKeys, t.settings.step_setKeys]
    rfl
  | build =>
    cases hbuilder : t.builder <;> simp [step, settings, hbuilder]
  | newBuilder => rfl
  | pushKey key => rfl
  | install extractor key keys => rfl
  | _ => cases h

/-- A step that is not about settings leaves them alone. -/
theorem settings_step_of_not [Runtime] (t : Tracer) {s : Step} (h : s.isSetting = false) :
    (t.step s).1.settings = t.settings := by
  cases s with
  | start start =>
    change (t.startStep start).1.settings = _
    unfold startStep
    split <;> rfl
  | setAttribute handle key value => rfl
  | rename handle name => rfl
  | finish handle => rfl
  | inspect handle => rfl
  | classify handle => rfl
  | measure handle resource => rfl
  | configure environment => rfl
  | flush => rfl
  | shutdown => rfl
  | _ => cases h

variable {t t' : Tracer}

theorem processor_eq_of_settings_eq (h : t.settings = t'.settings) :
    t.processor = t'.processor := by
  change t.settings.processor = t'.settings.processor
  rw [h]

theorem builder_eq_of_settings_eq (h : t.settings = t'.settings) : t.builder = t'.builder := by
  change t.settings.builder = t'.settings.builder
  rw [h]

/-! ## Builders -/

/-- A builder takes what it is given, and leaves the settings alone for which it is given nothing. -/
theorem builder_step [Runtime] (t : Tracer) {s : Step} (hs : s ≠ .newBuilder) :
    (t.step s).1.builder = t.builder.map (·.given [s]) := by
  have unchanged : t.builder = t.builder.map id := by simp
  cases s with
  | newBuilder => exact absurd rfl hs
  | setExtractor extractor? => rw [t.step_setExtractor]
  | setKey key? => rw [t.step_setKey]
  | setKeys keys? => rw [t.step_setKeys]
  | build =>
    cases hbuilder : t.builder with
    | none => simp only [step, hbuilder, Option.map_none]
    | some builder =>
      simp only [step, hbuilder, Option.map_some]
      rfl
  | pushKey key => exact unchanged
  | install extractor key keys => exact unchanged
  | _ => exact (builder_eq_of_settings_eq (t.settings_step_of_not rfl)).trans unchanged

/-- A builder has of each setting what it was given last. -/
theorem builder_run [Runtime] (t : Tracer) {steps : List Step}
    (hsteps : ∀ s ∈ steps, s ≠ .newBuilder) :
    (t.run steps).1.builder = t.builder.map (·.given steps) := by
  induction steps generalizing t with
  | nil => exact Option.map_id'.symm
  | cons s steps ih =>
    have hrest := ih (t.step s).1 fun s' hs' => hsteps s' (List.mem_cons_of_mem s hs')
    rw [run_cons, hrest, t.builder_step (hsteps s List.mem_cons_self), Option.map_map]
    congr 1
    funext builder
    exact (builder.given_cons s steps).symm

/-- A setting that is given nothing is refused, and the tracer with its builder stays as it was. -/
theorem step_unset [Runtime] {t : Tracer} {builder : Propagation.Builder}
    (h : t.builder = some builder) (setting : Propagation.Setting) :
    t.step (.unset setting) = (t, pure (.refused (.missing setting))) := by
  cases setting <;> simp only [Step.unset, step, set, h] <;> rfl

end Tracer

/-! ## Processors -/

/-- The step makes another processor. -/
def Step.makes (t : Tracer) : Step → Bool
  | .build => t.builder.isSome
  | .install _ _ _ => true
  | _ => false

namespace Tracer

/-- A step that makes no processor leaves the one there is alone, but for the keys that it reads. -/
theorem processor_step [Runtime] (t : Tracer) {s : Step} (hs : s.makes t = false) :
    (t.step s).1.processor = { t.processor with keys := (t.step s).1.processor.keys } := by
  have same : ∀ t' : Tracer, t'.processor = t.processor →
      t'.processor = { t.processor with keys := t'.processor.keys } := by
    intro t' h
    rw [h]
  cases s with
  | setExtractor extractor? => exact same _ (by rw [t.step_setExtractor])
  | setKey key? => exact same _ (by rw [t.step_setKey])
  | setKeys keys? => exact same _ (by rw [t.step_setKeys])
  | pushKey key =>
    -- the one step that may add to what the processor reads
    change (t.pushKey key).processor = { t.processor with keys := (t.pushKey key).processor.keys }
    unfold pushKey
    split <;> rfl
  | build =>
    have hbuilder : t.builder = none := Option.isNone_iff_eq_none.1 (Option.isSome_eq_false_iff.1 hs)
    apply same
    simp only [step, hbuilder]
  | install extractor key keys => cases hs
  | newBuilder => rfl
  | _ => exact same _ (processor_eq_of_settings_eq (t.settings_step_of_not rfl))

end Tracer

end SpanMetrics
