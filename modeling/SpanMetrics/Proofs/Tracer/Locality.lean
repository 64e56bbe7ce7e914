import SpanMetrics.Proofs.Propagation.Ids
import SpanMetrics.Proofs.Tracer.Settings

/-!
# SpanMetrics.Proofs.Tracer.Locality — what a span depends on

A span depends on the steps that are about it, on those about the spans above it, and on the steps
that make processors. The other steps of a run can be left out: the span is the same without them,
though the spans of the shorter run have other ids.

* `Tracer.Alike.step`, `Tracer.Alike.skip` — two tracers that are alike for some spans stay so when
  both do the same step, and when one of them does a step that does not count for these spans.
* `Run.state?_only_lineage` — the state of a span without the steps that do not count for it.
-/

namespace SpanMetrics

/-- The handle of the span that a new one is started under. -/
def Start.above? (start : Start) : Option String :=
  if start.detached then none
  else
    match start.parent with
    | .span handle => some handle
    | _ => none

/-- The step counts for the spans with the handles: it is about one of them, or about builders and
processors. -/
def Step.countsFor (handles : String → Prop) [DecidablePred handles] (s : Step) : Bool :=
  s.isSetting || s.subject?.any (handles ·)

namespace Tracer

variable {t t' : Tracer} {handles : String → Prop}

/-! ## Tracers that ignore ids -/

/-- Neither the processor nor the builder takes data by ids. -/
structure IgnoresIds (t : Tracer) : Prop where
  processor : Propagation.IgnoresIds t.processor.extract
  builder : ∀ builder, t.builder = some builder → Propagation.IgnoresIds builder.extract

namespace IgnoresIds

theorem new [Runtime] (scope : String) : (Tracer.new scope).IgnoresIds := by
  constructor
  · exact Propagation.Extractor.ignoresIds_take .ingress
  · intro builder hbuilder
    cases hbuilder

/-- Nothing that a builder is given takes data by ids. -/
theorem given [Runtime] {builder : Propagation.Builder}
    (h : Propagation.IgnoresIds builder.extract) (s : Step) :
    Propagation.IgnoresIds (builder.given [s]).extract := by
  cases s with
  | setExtractor extractor? =>
    cases extractor? with
    | none => exact h
    | some extractor => exact extractor.ignoresIds_take
  | _ => exact h

theorem step [Runtime] (ht : t.IgnoresIds) (s : Step) : (t.step s).1.IgnoresIds := by
  constructor
  · cases hmakes : s.makes t with
    | false =>
      rw [t.processor_step hmakes]
      exact ht.processor
    | true =>
      cases s with
      | build =>
        obtain ⟨builder, hbuilder⟩ := Option.isSome_iff_exists.1 hmakes
        simp only [Tracer.step, hbuilder]
        exact ht.builder builder hbuilder
      | install extractor key keys => exact extractor.ignoresIds_take
      | _ => cases hmakes
  · intro builder hbuilder
    by_cases hs : s = .newBuilder
    · subst hs
      cases hbuilder
      exact Propagation.Extractor.ignoresIds_take .ingress
    · rw [t.builder_step hs] at hbuilder
      obtain ⟨before, hbefore, rfl⟩ := Option.map_eq_some_iff.1 hbuilder
      exact given (ht.builder before hbefore) s

end IgnoresIds

end Tracer

/-! ## Tracers that are alike for some spans -/

theorem rel_map {α β γ δ : Type} {r : α → β → Prop} {q : γ → δ → Prop} {f : α → γ} {g : β → δ}
    (h : ∀ a b, r a b → q (f a) (g b)) {a? : Option α} {b? : Option β} (hrel : Option.Rel r a? b?) :
    Option.Rel q (a?.map f) (b?.map g) := by
  cases hrel with
  | none => exact .none
  | some hab => exact .some (h _ _ hab)

/-- Two readings of a span that differ in ids alone. -/
structure LiveSpan.Alike (live live' : LiveSpan) : Prop where
  span : live.span.Alike live'.span
  ended_eq : live.ended = live'.ended

/-- A step does the same to spans that differ in ids alone. -/
theorem Step.alike_effect (handle : String) (s : Step) {live live' : LiveSpan}
    (h : live.Alike live') : (s.effect handle live).Alike (s.effect handle live') := by
  have hchange : ∀ f : Span → Span, (∀ s s', s.Alike s' → (f s).Alike (f s')) →
      (live.change f).Alike (live'.change f) := by
    intro f hf
    unfold LiveSpan.change
    rw [← h.ended_eq]
    split
    · exact h
    · exact ⟨hf _ _ h.span, rfl⟩
  cases s with
  | setAttribute other key value =>
    by_cases hother : other = handle
    · simp only [effect, hother, if_true]
      exact hchange _ fun s s' hs => hs.record key value
    · simpa only [effect, hother, if_false, id] using h
  | rename other name =>
    by_cases hother : other = handle
    · simp only [effect, hother, if_true]
      exact hchange _ fun s s' hs => hs.rename name
    · simpa only [effect, hother, if_false, id] using h
  | finish other =>
    by_cases hother : other = handle
    · simp only [effect, hother, if_true]
      exact ⟨h.span, rfl⟩
    · simpa only [effect, hother, if_false, id] using h
  | _ => exact h

namespace Tracer

variable {t t' : Tracer} {handles : String → Prop}

/-- Two tracers with the same settings, in which each of the handles names spans that differ in ids
alone, or names none. -/
structure Alike (handles : String → Prop) (t t' : Tracer) : Prop where
  settings_eq : t.settings = t'.settings
  find?_rel : ∀ handle, handles handle →
    Option.Rel LiveSpan.Alike (t.find? handle) (t'.find? handle)

namespace Alike

/-- A start is under parents that differ in ids alone, if it is under one of the spans. -/
theorem parent?_rel (h : Alike handles t t') {start : Start}
    (habove : ∀ handle, start.above? = some handle → handles handle) :
    Option.Rel Parent.Alike (t.parent? start) (t'.parent? start) := by
  unfold Tracer.parent?
  unfold Start.above? at habove
  split
  · exact .some .none
  · next hattached =>
    rw [if_neg hattached] at habove
    cases hparent : start.parent with
    | none => exact .some .none
    | context c => exact .some (.context c)
    | span handle =>
      rw [hparent] at habove
      change Option.Rel _ (Option.map _ _) (Option.map _ _)
      refine rel_map ?_ (h.find?_rel handle (habove handle rfl))
      intro live live' hlive
      exact Parent.Alike.span hlive.span

/-- A span is started alike under parents that differ in ids alone. -/
theorem alike_startSpan (h : t.settings = t'.settings) (ht : t.IgnoresIds) (start : Start)
    {parent parent' : Parent} (hparent : parent.Alike parent') :
    (t.startSpan start parent).value.Alike (t'.startSpan start parent').value := by
  have hscope : t.scope = t'.scope := by
    change t.settings.scope = t'.settings.scope
    rw [h]
  have hfresh : (t.fresh start parent).Alike (t'.fresh start parent') := by
    refine ⟨rfl, rfl, ?_, rfl, congrArg some hscope⟩
    cases hparent <;> rfl
  unfold startSpan
  rw [← processor_eq_of_settings_eq h]
  exact Propagation.Processor.alike_onStart ht.processor hparent hfresh

/-- Tracers that are alike for some spans stay so when both start a span under the same parent, if that
is one of the spans. -/
theorem find?_rel_startStep (h : Alike handles t t') (ht : t.IgnoresIds) {start : Start}
    (habove : ∀ handle, start.above? = some handle → handles handle) {handle : String}
    (hhandle : handles handle) :
    Option.Rel LiveSpan.Alike ((t.startStep start).1.find? handle)
      ((t'.startStep start).1.find? handle) := by
  have hrel := h.find?_rel handle hhandle
  have hparents := h.parent?_rel habove
  rw [find?_startStep, find?_startStep]
  revert hparents
  generalize t.parent? start = parent?
  generalize t'.parent? start = parent?'
  intro hparents
  cases hparents with
  | none => exact hrel
  | some hparent =>
    change Option.Rel _ (if _ then _ else _) (if _ then _ else _)
    split
    · exact .some ⟨alike_startSpan h.settings_eq ht start hparent, rfl⟩
    · exact hrel

/-- Tracers that are alike for some spans stay so when both do the same. A span that they start has to
be under none or under one of the spans. -/
theorem step [Runtime] (h : Alike handles t t') (ht : t.IgnoresIds) {s : Step}
    (habove : ∀ start handle, s = .start start → start.above? = some handle → handles handle) :
    Alike handles (t.step s).1 (t'.step s).1 := by
  constructor
  · by_cases hs : s.isSetting = true
    · rw [t.settings_step hs, t'.settings_step hs, h.settings_eq]
    · rw [Bool.not_eq_true] at hs
      rw [t.settings_step_of_not hs, t'.settings_step_of_not hs, h.settings_eq]
  · intro handle hhandle
    by_cases hstart : ∃ start, s = .start start
    · obtain ⟨start, rfl⟩ := hstart
      exact h.find?_rel_startStep ht (fun _ => habove start _ rfl) hhandle
    · -- any other step has its effect on what the handle names
      have hnot : ∀ (u : Tracer) start parent, s = .start start → u.parent? start = some parent →
          start.handle ≠ handle := by
        intro u start parent hs
        exact absurd ⟨start, hs⟩ hstart
      rw [t.find?_step s handle (hnot t), t'.find?_step s handle (hnot t')]
      refine rel_map ?_ (h.find?_rel handle hhandle)
      intro live live' hlive
      exact s.alike_effect handle hlive

/-- Tracers that are alike for some spans stay so when one of them does a step that does not count for
the spans. -/
theorem skip [Runtime] [DecidablePred handles] (h : Alike handles t t') {s : Step}
    (hs : s.countsFor handles = false) : Alike handles (t.step s).1 t' := by
  unfold Step.countsFor at hs
  rw [Bool.or_eq_false_iff] at hs
  obtain ⟨hsetting, hsubject⟩ := hs
  constructor
  · rw [t.settings_step_of_not hsetting, h.settings_eq]
  · intro handle hhandle
    have hne : s.subject? ≠ some handle := by
      intro he
      rw [he] at hsubject
      simp [hhandle] at hsubject
    rw [t.find?_step_of_subject?_ne hne]
    exact h.find?_rel handle hhandle

/-- Of a run, the steps that count for some spans do the same to these spans as all steps, if the spans
are started under none but each other. -/
theorem run [Runtime] [DecidablePred handles] (h : Alike handles t t') (ht : t.IgnoresIds)
    {steps : List Step} (hclosed : ∀ start handle, .start start ∈ steps → handles start.handle →
      start.above? = some handle → handles handle) :
    Alike handles (t.run steps).1 (t'.run (steps.filter (·.countsFor handles))).1 := by
  -- on the steps; the invariant is that the two tracers are alike for the spans
  induction steps generalizing t t' with
  | nil => exact h
  | cons s steps ih =>
    have hclosed' : ∀ start handle, .start start ∈ steps → handles start.handle →
        start.above? = some handle → handles handle := by
      intro start handle hmem
      exact hclosed start handle (List.mem_cons_of_mem s hmem)
    rw [run_cons]
    by_cases hs : s.countsFor handles = true
    · rw [List.filter_cons_of_pos hs, run_cons]
      refine ih (h.step ht ?_) (ht.step s) hclosed'
      rintro start handle rfl
      -- the new span is one of the spans, since its start counts for them
      have hstart : handles start.handle := by
        simpa [Step.countsFor, Step.isSetting, Step.subject?] using hs
      exact hclosed start handle List.mem_cons_self hstart
    · rw [List.filter_cons_of_neg hs]
      rw [Bool.not_eq_true] at hs
      exact ih (h.skip hs) (ht.step s) hclosed'

end Alike

end Tracer

/-! ## Runs -/

namespace Run

variable {r : Run}

/-- The handles of a span and of the spans above it: starts lead from each to the next. -/
inductive Lineage (r : Run) (handle : String) : String → Prop
  | self : Lineage r handle handle
  | above {start : Start} {other : String} (below : Lineage r handle start.handle)
      (mem : .start start ∈ r.steps) (under : start.above? = some other) : Lineage r handle other

/-- The run with the steps alone that count for the spans with the handles. -/
def only (r : Run) (handles : String → Prop) [DecidablePred handles] : Run :=
  { r with steps := r.steps.filter (·.countsFor handles) }

/-- The name and the attributes that a span has at the end of the run, if the run starts it. -/
def state? [Runtime] (r : Run) (handle : String) : Option (String × Attributes) :=
  ((r.after r.steps.length).find? handle).map fun live => (live.span.name, live.span.attributes)

theorem after_length [Runtime] (r : Run) : r.after r.steps.length = (r.origin.run r.steps).1 := by
  rw [after, List.take_length]

/-- As long as no step is about a span, the span stays as it is. -/
theorem find?_after_of_subject?_ne [Runtime] {handle : String} {m n : Nat} (hmn : m ≤ n)
    (h : ∀ i s, m ≤ i → i < n → r.steps[i]? = some s → s.subject? ≠ some handle) :
    (r.after n).find? handle = (r.after m).find? handle := by
  induction n, hmn using Nat.le_induction with
  | base => rfl
  | succ n hmn ih =>
    rw [← ih fun i s hmi hin => h i s hmi (Nat.lt_succ_of_lt hin)]
    cases hs : r.steps[n]? with
    | none => rw [after_succ_of_none hs]
    | some s =>
      rw [after_succ hs]
      exact (r.after n).find?_step_of_subject?_ne (h n s hmn (Nat.lt_succ_self n) hs)

/-- A span depends on nothing but the steps about it and about the spans above it, and on the making
of processors: without the other steps its name and its attributes at the end are the same. And no step
changes a span but one that is about it. -/
theorem state?_only_lineage [Runtime] {scope : String} (hr : r.origin = .new scope)
    (handle : String) [DecidablePred (r.Lineage handle)] :
    (r.only (r.Lineage handle)).state? handle = r.state? handle ∧
      ∀ m n, m ≤ n →
        (∀ i s, m ≤ i → i < n → r.steps[i]? = some s → s.subject? ≠ some handle) →
        (r.after n).find? handle = (r.after m).find? handle := by
  constructor
  · have hids : r.origin.IgnoresIds := by
      rw [hr]
      exact Tracer.IgnoresIds.new scope
    have horigin : Tracer.Alike (r.Lineage handle) r.origin r.origin := by
      refine ⟨rfl, ?_⟩
      intro other _
      rw [hr]
      exact .none
    have halike : Tracer.Alike (r.Lineage handle) (r.origin.run r.steps).1
        (r.origin.run (r.steps.filter (·.countsFor (r.Lineage handle)))).1 := by
      refine horigin.run hids ?_
      intro start other hmem hstart hunder
      exact .above hstart hmem hunder
    have hrel := halike.find?_rel handle .self
    rw [state?, state?, after_length, after_length]
    change Option.map _ ((r.origin.run (r.steps.filter _)).1.find? handle) = _
    revert hrel
    generalize (r.origin.run r.steps).1.find? handle = live?
    generalize (r.origin.run (r.steps.filter _)).1.find? handle = live?'
    intro hrel
    cases hrel with
    | none => rfl
    | some hlive => simp [hlive.span.name_eq, hlive.span.attributes_eq]
  · intro m n hmn h
    exact find?_after_of_subject?_ne hmn h

/-- A call for a request, among other spans: a request of another trace, and a span beside the call. -/
def bustle : Run where
  origin := .new "shop"
  steps :=
    [.start ⟨"other", "GET", .server, [], .none, false⟩,
     .newBuilder,
     .setKeys (some ["app.tenant"]),
     .build,
     .start ⟨"request", "POST /orders", .server, [], .none, false⟩,
     .start ⟨"work", "price", .internal, [("app.tenant", .string "gold")], .span "request", false⟩,
     .start ⟨"beside", "log", .internal, [("app.tenant", .string "red")], .span "work", false⟩,
     .configure (some "prod"),
     .setAttribute "other" "app.tenant" (.string "blue"),
     .start ⟨"call", "GET", .client, [("app.tenant", .string "none")], .span "work", false⟩,
     .rename "request" "late",
     .setAttribute "work" "app.tenant" (.string "late"),
     .finish "beside",
     .flush]

theorem lineage_bustle (handle : String) :
    bustle.Lineage "call" handle ↔ handle ∈ ["call", "work", "request"] := by
  constructor
  · intro h
    induction h with
    | self => simp
    | above _ hmem hunder ih =>
      simp only [bustle, List.mem_cons, reduceCtorEq, false_or, Step.start.injEq,
        List.not_mem_nil, or_false] at hmem
      rcases hmem with rfl | rfl | rfl | rfl | rfl <;>
        simp_all [Start.above?]
  · intro h
    have hwork : bustle.Lineage "call" "work" :=
      @Lineage.above bustle "call" ⟨"call", "GET", .client, [("app.tenant", .string "none")],
        .span "work", false⟩ "work" .self (by simp [bustle]) rfl
    have hrequest : bustle.Lineage "call" "request" :=
      @Lineage.above bustle "call" ⟨"work", "price", .internal, [("app.tenant", .string "gold")],
        .span "request", false⟩ "request" hwork (by simp [bustle]) rfl
    simp only [List.mem_cons, List.not_mem_nil, or_false] at h
    rcases h with rfl | rfl | rfl
    · exact .self
    · exact hwork
    · exact hrequest

instance : DecidablePred (bustle.Lineage "call") :=
  fun handle => decidable_of_iff _ (lineage_bustle handle).symm

/-- In `bustle`, five steps about spans count for the call. They leave it as it is after all of them: with
the tenant of the work and the name of the request from the time when the call started. -/
theorem state?_only_lineage_bustle :
    (bustle.only (bustle.Lineage "call")).steps.filterMap Step.subject? =
        ["request", "work", "call", "request", "work"] ∧
      ((bustle.only (bustle.Lineage "call")).state? "call").map (fun state =>
        (state.1, state.2.get? "app.tenant", state.2.get? Key.localOperation)) =
        some ("GET", some (.string "gold"), some (.string "POST /orders")) ∧
      (bustle.after 14).find? "call" = (bustle.after 10).find? "call" := by
  have h := state?_only_lineage (r := bustle) rfl "call"
  refine ⟨by decide, ?_, ?_⟩
  · rw [h.1]
    rfl
  · refine h.2 10 14 (by decide) ?_
    intro i s hi hin hs
    have hcases : i = 10 ∨ i = 11 ∨ i = 12 ∨ i = 13 := by omega
    rcases hcases with rfl | rfl | rfl | rfl <;> cases hs <;> decide

end Run

end SpanMetrics
