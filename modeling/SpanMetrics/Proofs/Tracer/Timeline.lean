import Mathlib.Data.Nat.Init
import SpanMetrics.Proofs.Footprint
import SpanMetrics.Tracer.Step

/-!
# SpanMetrics.Proofs.Tracer.Timeline — the spans of a run

A run is a tracer with the steps that are done with it. A handle may be given again, so a span of a
run is known by the step that starts it (`Run.Birth`), and its handle names it until a later span
takes the handle over (`Birth.Named`).

* `Tracer.find?_step` — what a step can do to a span that exists: `Step.effect`, and nothing else.
* `Birth.live?_kept` — what one step keeps of a span, a whole run keeps.
* `Birth.get?_of_unwritten` — an attribute that no step writes stays as the start left it.
* `Birth.span?_of_unchanged` — a span that no step renames or writes to stays as it is.
-/

namespace SpanMetrics

/-! ## One step -/

/-- What a step does to the span that a handle names, unless it starts a span under the handle. -/
def Step.effect (handle : String) : Step → LiveSpan → LiveSpan
  | .setAttribute h key value => if h = handle then LiveSpan.change (·.record key value) else id
  | .rename h name => if h = handle then LiveSpan.change ({ · with name }) else id
  | .finish h => if h = handle then LiveSpan.finish else id
  | _ => id

/-- The handle under which a step starts a span. -/
def Step.handle? : Step → Option String
  | .start new => some new.handle
  | _ => none

/-- The key under which a step writes an attribute. -/
def Step.key? : Step → Option String
  | .setAttribute _ key _ => some key
  | _ => none

/-- The effect of a step on a span: nothing, one attribute recorded, or another name. -/
theorem Step.span_effect (handle : String) (s : Step) (live : LiveSpan) :
    (s.effect handle live).span = live.span ∨
      (∃ key value, s = .setAttribute handle key value ∧
        (s.effect handle live).span = live.span.record key value) ∨
      ∃ name, s = .rename handle name ∧
        (s.effect handle live).span = { live.span with name } := by
  cases s with
  | setAttribute h key value =>
    by_cases hh : h = handle
    · subst hh
      -- a span that has ended takes no attribute and no name any more
      by_cases he : live.ended = true
      · simp [effect, LiveSpan.change, he]
      · exact .inr (.inl ⟨key, value, rfl, by simp [effect, LiveSpan.change, he]⟩)
    · simp [effect, hh]
  | rename h name =>
    by_cases hh : h = handle
    · subst hh
      by_cases he : live.ended = true
      · simp [effect, LiveSpan.change, he]
      · exact .inr (.inr ⟨name, rfl, by simp [effect, LiveSpan.change, he]⟩)
    · simp [effect, hh]
  | finish h =>
    by_cases hh : h = handle <;> simp [effect, LiveSpan.finish, hh]
  | _ => exact .inl rfl

theorem Step.sameSpan_effect (handle : String) (s : Step) (live : LiveSpan) :
    (s.effect handle live).span.SameSpan live.span := by
  rcases s.span_effect handle live with h | ⟨key, value, -, h⟩ | ⟨name, -, h⟩ <;> rw [h]
  · exact .refl _
  · exact ⟨rfl, rfl, rfl, rfl⟩
  · exact ⟨rfl, rfl, rfl, rfl⟩

/-- Only a step that writes a key of a span changes what the span has under the key. -/
theorem Step.get?_effect {handle key : String} {s : Step}
    (hs : ∀ value, s ≠ .setAttribute handle key value) (live : LiveSpan) :
    (s.effect handle live).span.attributes.get? key = live.span.attributes.get? key := by
  rcases s.span_effect handle live with h | ⟨k, value, hk, h⟩ | ⟨name, -, h⟩ <;> rw [h]
  have hne : key ≠ k := by
    rintro rfl
    exact hs value hk
  exact live.span.attributes.get?_record_of_ne value hne

namespace Tracer

theorem lookup_updateSpans (change : LiveSpan → LiveSpan) (h handle : String)
    (spans : List (String × LiveSpan)) :
    (updateSpans change h spans).lookup handle =
      if h = handle then (spans.lookup handle).map change else spans.lookup handle := by
  induction spans with
  | nil => simp [updateSpans]
  | cons e es ih =>
    obtain ⟨a, live⟩ := e
    by_cases ha : a = h
    · -- the first entry under the handle is the one that changes, and the one that is found
      subst ha
      by_cases hh : a = handle
      · simp [updateSpans, hh]
      · have hne : (handle == a) = false := by simpa using fun hc => hh hc.symm
        simp [updateSpans, List.lookup_cons, hh, hne]
    · by_cases hh : handle = a
      · subst hh
        have hne : ¬ h = handle := fun hc => ha hc.symm
        simp [updateSpans, ha, hne]
      · have hne : (handle == a) = false := by simpa using hh
        simp [updateSpans, ha, List.lookup_cons, hne, ih]

@[simp] theorem find?_update (t : Tracer) (h handle : String) (change : LiveSpan → LiveSpan) :
    (t.update h change).find? handle =
      if h = handle then (t.find? handle).map change else t.find? handle :=
  lookup_updateSpans change h handle t.spans

@[simp] theorem find?_add (t : Tracer) (h handle : String) (s : Span) :
    (t.add h s).find? handle = if h = handle then some ⟨s, false⟩ else t.find? handle := by
  by_cases hh : h = handle
  · simp [add, find?, hh]
  · have hne : (handle == h) = false := by simpa using fun hc => hh hc.symm
    simp [add, find?, List.lookup_cons, hh, hne]

/-- A setting of the builder leaves the spans alone. -/
theorem find?_set (t : Tracer)
    (setting : Propagation.Builder → Except Propagation.BuilderError Propagation.Builder)
    (handle : String) : (t.set setting).1.find? handle = t.find? handle := by
  unfold set
  split
  · rfl
  · split <;> rfl

theorem find?_startStep (t : Tracer) (start : Start) (handle : String) :
    (t.startStep start).1.find? handle =
      match t.parent? start with
      | none => t.find? handle
      | some parent =>
        if start.handle = handle then some ⟨(t.startSpan start parent).value, false⟩
        else t.find? handle := by
  unfold startStep
  split <;> simp_all

/-- A step either starts a span under the handle or has its effect on the span that the handle
names. -/
theorem find?_step [Runtime] (t : Tracer) (s : Step) (handle : String)
    (hs : ∀ start parent, s = .start start → t.parent? start = some parent →
      start.handle ≠ handle) :
    (t.step s).1.find? handle = (t.find? handle).map (s.effect handle) := by
  -- the effect of a step that is not about the handle
  have unchanged : t.find? handle = (t.find? handle).map id := by simp
  cases s with
  | setExtractor extractor? => exact (find?_set t _ handle).trans unchanged
  | setKey key? => exact (find?_set t _ handle).trans unchanged
  | setKeys keys? =>
    have hset := find?_set t (·.setKeys keys?) handle
    cases keys? <;> exact hset.trans unchanged
  | build =>
    cases hb : t.builder <;> simp only [step, hb] <;> exact unchanged
  | start start =>
    change (t.startStep start).1.find? handle = (t.find? handle).map id
    rw [find?_startStep]
    split
    · exact unchanged
    · next parent hp =>
      -- the one step that could take the handle over, which `hs` excludes
      rw [if_neg (hs start parent rfl hp)]
      exact unchanged
  | setAttribute h key value =>
    change (t.update h _).find? handle = _
    rw [find?_update]
    by_cases hh : h = handle <;> simp [Step.effect, hh]
  | rename h name =>
    change (t.update h _).find? handle = _
    rw [find?_update]
    by_cases hh : h = handle <;> simp [Step.effect, hh]
  | finish h =>
    change (t.update h _).find? handle = _
    rw [find?_update]
    by_cases hh : h = handle <;> simp [Step.effect, hh]
  | newBuilder => exact unchanged
  | pushKey key => exact unchanged
  | install extractor key keys => exact unchanged
  | inspect h => exact unchanged
  | classify h => exact unchanged
  | measure h resource => exact unchanged
  | configure environment => exact unchanged
  | flush => exact unchanged
  | shutdown => exact unchanged

end Tracer

/-! ## Runs -/

/-- A tracer and the steps that are done with it. -/
structure Run where
  origin : Tracer
  steps : List Step

namespace Run

variable [Runtime]

/-- The tracer after the first steps. -/
def after (r : Run) (n : Nat) : Tracer :=
  (r.origin.run (r.steps.take n)).1

theorem after_succ {r : Run} {n : Nat} {s : Step} (h : r.steps[n]? = some s) :
    r.after (n + 1) = ((r.after n).step s).1 := by
  unfold after
  rw [List.take_add_one, h, Option.toList_some, Tracer.run_append]
  rfl

/-- Past the last step nothing changes. -/
theorem after_succ_of_none {r : Run} {n : Nat} (h : r.steps[n]? = none) :
    r.after (n + 1) = r.after n := by
  unfold after
  rw [List.take_add_one, h, Option.toList_none, List.append_nil]

/-- A span of a run: the step that starts it, and what it is started under. -/
structure Birth (r : Run) where
  /-- The number of steps before the start. -/
  position : Nat
  start : Start
  parent : Parent
  step_eq : r.steps[position]? = some (.start start)
  parent_eq : (r.after position).parent? start = some parent

namespace Birth

variable {r : Run}

/-- The processor that the span is started under. -/
def processor (b : Birth r) : Propagation.Processor :=
  (r.after b.position).processor

/-- The span as it is given to the processor. -/
def fresh (b : Birth r) : Span :=
  (r.after b.position).fresh b.start b.parent

/-- The span as it is right after its start. -/
def initial (b : Birth r) : Span :=
  (b.processor.onStart b.parent b.fresh).value

@[simp] theorem kind_fresh (b : Birth r) : b.fresh.kind = b.start.kind := rfl

@[simp] theorem parentId_fresh (b : Birth r) : b.fresh.parentId = b.parent.id? := rfl

/-- After the first `n` steps the span is started and its handle names it: no later span has taken
the handle over. -/
def Named (b : Birth r) (n : Nat) : Prop :=
  b.position < n ∧
    ∀ later : Birth r, b.position < later.position → later.position < n →
      later.start.handle ≠ b.start.handle

/-- What the handle of the span names after the first `n` steps. -/
def live? (b : Birth r) (n : Nat) : Option LiveSpan :=
  (r.after n).find? b.start.handle

/-- The span that the handle names after the first `n` steps. -/
def span? (b : Birth r) (n : Nat) : Option Span :=
  (b.live? n).map LiveSpan.span

theorem Named.of_le {b : Birth r} {m n : Nat} (h : b.Named n) (hb : b.position < m)
    (hmn : m ≤ n) : b.Named m :=
  ⟨hb, fun later h₁ h₂ => h.2 later h₁ (Nat.lt_of_lt_of_le h₂ hmn)⟩

/-- The start of a span, as the tracer answers for it. -/
theorem live?_succ_position (b : Birth r) :
    b.live? (b.position + 1) = some ⟨b.initial, false⟩ := by
  unfold live?
  rw [after_succ b.step_eq]
  change ((r.after b.position).startStep b.start).1.find? b.start.handle = _
  rw [Tracer.find?_startStep, b.parent_eq]
  exact if_pos rfl

theorem span?_succ_position (b : Birth r) : b.span? (b.position + 1) = some b.initial := by
  rw [span?, live?_succ_position]
  rfl

/-- One step of the run, as it shows in a span that keeps its name. -/
theorem live?_succ {b : Birth r} {n : Nat} {s : Step} (hb : b.position < n)
    (hn : b.Named (n + 1)) (hs : r.steps[n]? = some s) :
    b.live? (n + 1) = (b.live? n).map (s.effect b.start.handle) := by
  unfold live?
  rw [after_succ hs]
  refine Tracer.find?_step _ s _ fun start parent hstart hparent => ?_
  exact hn.2 ⟨n, start, parent, hstart ▸ hs, hparent⟩ hb (Nat.lt_succ_self n)

/-- What holds of a span at some time, and is kept by the effect of every step from then on, holds
of it later. -/
theorem live?_kept {b : Birth r} {m n : Nat} (P : LiveSpan → Prop) (hm : b.position < m)
    (hmn : m ≤ n) (hn : b.Named n) (h₀ : ∃ live, b.live? m = some live ∧ P live)
    (hstep : ∀ i s live, m ≤ i → i < n → r.steps[i]? = some s → P live →
      P (s.effect b.start.handle live)) :
    ∃ live, b.live? n = some live ∧ P live := by
  -- on the number of steps since the `m`-th; the invariant is that the span is there with `P`
  induction n, hmn using Nat.le_induction with
  | base => exact h₀
  | succ n hmn ih =>
    have hn' : b.Named n := hn.of_le (by omega) (Nat.le_succ n)
    have hstep' : ∀ i s live, m ≤ i → i < n → r.steps[i]? = some s → P live →
        P (s.effect b.start.handle live) := by
      intro i s live hmi hin
      exact hstep i s live hmi (Nat.lt_succ_of_lt hin)
    rcases ih hn' hstep' with ⟨live, hlive, hP⟩
    cases hs : r.steps[n]? with
    | none =>
      -- the run is over
      refine ⟨live, ?_, hP⟩
      unfold live? at hlive ⊢
      rw [after_succ_of_none hs, hlive]
    | some s =>
      refine ⟨s.effect b.start.handle live, ?_, hstep n s live hmn (Nat.lt_succ_self n) hs hP⟩
      rw [live?_succ (by omega) hn hs, hlive]
      rfl

/-- A span that has its name is there, and is still the span that was started. -/
theorem exists_span? {b : Birth r} {n : Nat} (hn : b.Named n) :
    ∃ s, b.span? n = some s ∧ s.SameSpan b.initial := by
  have hkept : ∃ live, b.live? n = some live ∧ live.span.SameSpan b.initial := by
    refine live?_kept (fun live => live.span.SameSpan b.initial) (Nat.lt_succ_self _) hn.1 hn
      ⟨_, b.live?_succ_position, .refl _⟩ ?_
    intro i s live _ _ _ h
    exact (s.sameSpan_effect b.start.handle live).trans h
  rcases hkept with ⟨live, hlive, hsame⟩
  exact ⟨live.span, by simp [span?, hlive], hsame⟩

/-- In the first `n` steps none writes the key on the span. -/
def Unwritten (b : Birth r) (key : String) (n : Nat) : Prop :=
  ∀ i value, b.Named i → i < n → r.steps[i]? ≠ some (.setAttribute b.start.handle key value)

/-- From the `m`-th step on, none of the first `n` steps renames the span or sets an attribute of
it. -/
def Unchanged (b : Birth r) (m n : Nat) : Prop :=
  ∀ i, m ≤ i → i < n → b.Named i →
    (∀ name, r.steps[i]? ≠ some (.rename b.start.handle name)) ∧
      ∀ key value, r.steps[i]? ≠ some (.setAttribute b.start.handle key value)

/-- An attribute that no step writes stays as the start left it. -/
theorem get?_of_unwritten {b : Birth r} {n : Nat} {key : String} {s : Span} (hn : b.Named n)
    (hkey : b.Unwritten key n) (hs : b.span? n = some s) :
    s.attributes.get? key = b.initial.attributes.get? key := by
  have hkept : ∃ live, b.live? n = some live ∧
      live.span.attributes.get? key = b.initial.attributes.get? key := by
    refine live?_kept (fun live => live.span.attributes.get? key = b.initial.attributes.get? key)
      (Nat.lt_succ_self _) hn.1 hn ⟨_, b.live?_succ_position, rfl⟩ ?_
    intro i s live hi hin hs h
    have hi' : b.Named i := hn.of_le (by omega) (Nat.le_of_lt hin)
    have hnot : ∀ value, s ≠ .setAttribute b.start.handle key value := by
      rintro value rfl
      exact hkey i value hi' hin hs
    rw [Step.get?_effect hnot, h]
  rcases hkept with ⟨live, hlive, hget⟩
  have hspan : live.span = s := by simpa [span?, hlive] using hs
  rw [← hspan, hget]

/-- A span that no step renames or writes to stays as it is. -/
theorem span?_of_unchanged {b : Birth r} {m n : Nat} (hm : b.position < m) (hmn : m ≤ n)
    (hn : b.Named n) (h : b.Unchanged m n) : b.span? n = b.span? m := by
  rcases exists_span? (hn.of_le hm hmn) with ⟨s, hs, -⟩
  rcases Option.map_eq_some_iff.1 hs with ⟨first, hfirst, rfl⟩
  -- not the whole live span: it may end between the two times
  have hkept : ∃ live, b.live? n = some live ∧ live.span = first.span := by
    refine live?_kept (fun live => live.span = first.span) hm hmn hn ⟨first, hfirst, rfl⟩ ?_
    intro i step live hi hin hstep hlive
    have hi' : b.Named i := hn.of_le (by omega) (Nat.le_of_lt hin)
    rcases step.span_effect b.start.handle live with he | ⟨key, value, rfl, -⟩ | ⟨name, rfl, -⟩
    · rw [he, hlive]
    · exact absurd hstep ((h i hi hin hi').2 key value)
    · exact absurd hstep ((h i hi hin hi').1 name)
  rcases hkept with ⟨live, hlive, hspan⟩
  rw [hs]
  simp [span?, hlive, hspan]

end Birth

/-! ## Runs by their text -/

/-- The span that a step starts, if it starts one. -/
def birthAt? (r : Run) (n : Nat) : Option (Birth r) :=
  match hs : r.steps[n]? with
  | some (.start start) =>
    match hp : (r.after n).parent? start with
    | some parent => some ⟨n, start, parent, hs, hp⟩
    | none => none
  | _ => none

/-- No handle is given twice. -/
def Distinct (r : Run) : Prop :=
  (r.steps.filterMap Step.handle?).Nodup

instance (r : Run) : Decidable r.Distinct :=
  inferInstanceAs (Decidable (List.Nodup _))

/-- No step writes the key on any span. -/
def Spares (r : Run) (key : String) : Prop :=
  ∀ s ∈ r.steps, s.key? ≠ some key

instance (r : Run) (key : String) : Decidable (r.Spares key) :=
  inferInstanceAs (Decidable (∀ s ∈ r.steps, s.key? ≠ some key))

/-- Where no handle is given twice, a span keeps its name. -/
theorem Birth.named_of_distinct {r : Run} (hr : r.Distinct) (b : Birth r) {n : Nat}
    (hn : b.position < n) : b.Named n := by
  refine ⟨hn, ?_⟩
  intro later hlt _ hsame
  -- two starts at different positions give different handles
  have hpairs := List.pairwise_iff_getElem.1 (List.pairwise_filterMap.1 hr)
  rcases List.getElem?_eq_some_iff.1 b.step_eq with ⟨hi, hb⟩
  rcases List.getElem?_eq_some_iff.1 later.step_eq with ⟨hj, hl⟩
  have hne := hpairs b.position later.position hi hj hlt
  rw [hb, hl] at hne
  exact hne _ rfl _ rfl hsame.symm

theorem Birth.unwritten_of_spares {r : Run} {key : String} (hr : r.Spares key) (b : Birth r)
    (n : Nat) : b.Unwritten key n := by
  intro i value _ _ hstep
  exact hr _ (List.mem_of_getElem? hstep) rfl

end Run

end SpanMetrics
