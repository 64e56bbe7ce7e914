import SpanMetrics.Proofs.Tracer.Settings

/-!
# SpanMetrics.Proofs.Tracer.KeyLists — lists of keys as objects

A list of keys is an object to which others refer: whoever handed it over goes on adding keys to it, and
a processor that was installed with it sees them. `KeyLists` has the objects of a run, and who refers to
which. A builder copies what it is given, so it refers to an object that nobody else can change; its
processors refer to the same object. A tracer has no objects, it knows what its lists hold and whether
its processor reads the list that was handed over last.

* `KeyLists.Describes.step` — the tracer knows its lists right, whatever is done.
* `KeyLists.Private.step` — keys are added to the list that was handed over last, to no other.
* `KeyLists.contents_foldl_step` — what a list that was handed over holds later.
-/

namespace SpanMetrics

/-! ## Objects -/

/-- Lists of keys by their places, and the places of those that are referred to. -/
structure KeyLists where
  contents : List (List String)
  /-- The list that was handed over last. -/
  handed : Nat
  /-- The list of the builder. -/
  builder? : Option Nat
  /-- The list of the processor. -/
  processor : Nat

namespace KeyLists

/-- The processor refers to the list of the default keys. No list has been handed over, an empty one
stands for it. -/
def new [Runtime] : KeyLists where
  contents := [Propagation.Builder.default.keys, []]
  handed := 1
  builder? := none
  processor := 0

/-- A list is handed over for a processor. -/
def lend (lists : KeyLists) (keys : List String) : KeyLists :=
  { lists with
    contents := lists.contents ++ [keys]
    handed := lists.contents.length
    processor := lists.contents.length }

/-- A list is handed over to the builder, which makes a copy of it. -/
def copy (lists : KeyLists) (keys : List String) : KeyLists :=
  { lists with
    contents := lists.contents ++ [keys, keys]
    handed := lists.contents.length
    builder? := lists.builder?.map fun _ => lists.contents.length + 1 }

/-- A key is added to the list that was handed over last. -/
def push (lists : KeyLists) (key : String) : KeyLists :=
  { lists with contents := lists.contents.modify lists.handed (· ++ [key]) }

/-- What a step does to the lists. -/
def step (lists : KeyLists) : Step → KeyLists
  | .newBuilder => { lists with builder? := some 0 }
  | .setKeys (some keys) => lists.copy keys
  | .pushKey key => lists.push key
  | .build => { lists with processor := lists.builder?.getD lists.processor }
  | .install _ _ keys => lists.lend keys
  | _ => lists

variable {lists : KeyLists} {place : Nat} {keys : List String}

/-! ## Lists that nobody adds to -/

/-- The list holds the keys, and it is not the one that keys are added to. -/
structure Private (lists : KeyLists) (place : Nat) (keys : List String) : Prop where
  holds : lists.contents[place]? = some keys
  notHanded : place ≠ lists.handed

theorem contents_append (h : lists.contents[place]? = some keys) (more : List (List String)) :
    (lists.contents ++ more)[place]? = some keys := by
  obtain ⟨hlt, -⟩ := List.getElem?_eq_some_iff.1 h
  rw [List.getElem?_append_left hlt, h]

theorem ne_length (h : lists.contents[place]? = some keys) : place ≠ lists.contents.length := by
  obtain ⟨hlt, -⟩ := List.getElem?_eq_some_iff.1 h
  exact Nat.ne_of_lt hlt

/-- A list that was there is not added to after another one was handed over. -/
theorem private_lend (h : lists.contents[place]? = some keys) (more : List String) :
    (lists.lend more).Private place keys :=
  ⟨contents_append h _, ne_length h⟩

theorem private_copy (h : lists.contents[place]? = some keys) (more : List String) :
    (lists.copy more).Private place keys :=
  ⟨contents_append h _, ne_length h⟩

/-- The copy is not the list that was handed over. -/
theorem private_copied (lists : KeyLists) (keys : List String) :
    (lists.copy keys).Private (lists.contents.length + 1) keys := by
  refine ⟨?_, Nat.succ_ne_self _⟩
  change (lists.contents ++ [keys, keys])[lists.contents.length + 1]? = some keys
  rw [List.getElem?_append_right (Nat.le_succ _), Nat.succ_sub (Nat.le_refl _), Nat.sub_self]
  rfl

theorem contents_push_handed (h : lists.contents[lists.handed]? = some keys) (key : String) :
    (lists.push key).contents[lists.handed]? = some (keys ++ [key]) := by
  simp [push, h]

theorem contents_push_of_ne (key : String) (h : place ≠ lists.handed) :
    (lists.push key).contents[place]? = lists.contents[place]? := by
  simp [push, h.symm]

/-- Keys are added to the list that was handed over last, to no other. -/
theorem Private.step (h : lists.Private place keys) (s : Step) :
    (lists.step s).Private place keys := by
  cases s with
  | setKeys keys? =>
    cases keys? with
    | none => exact h
    | some more => exact private_copy h.holds more
  | install extractor key more => exact private_lend h.holds more
  | pushKey key =>
    refine ⟨?_, h.notHanded⟩
    change (lists.push key).contents[place]? = some keys
    rw [contents_push_of_ne key h.notHanded, h.holds]
  | newBuilder => exact ⟨h.holds, h.notHanded⟩
  | build => exact ⟨h.holds, h.notHanded⟩
  | _ => exact h

theorem Private.foldl_step (h : lists.Private place keys) (steps : List Step) :
    (steps.foldl KeyLists.step lists).Private place keys := by
  induction steps generalizing lists with
  | nil => exact h
  | cons s steps ih => exact ih (h.step s)

/-! ## Lists that keys are added to -/

/-- The keys that are added to a list before another one is handed over. -/
def pushed : List Step → List String
  | [] => []
  | .pushKey key :: steps => key :: pushed steps
  | .setKeys (some _) :: _ => []
  | .install _ _ _ :: _ => []
  | _ :: steps => pushed steps

/-- The list that was handed over last holds all keys that are added before another one is handed
over. -/
theorem contents_foldl_step (h : lists.contents[lists.handed]? = some keys) (steps : List Step) :
    (steps.foldl step lists).contents[lists.handed]? = some (keys ++ pushed steps) := by
  -- on the steps; as soon as another list is handed over, the rest of them do not matter
  induction steps generalizing lists keys with
  | nil => simpa [pushed] using h
  | cons s steps ih =>
    cases s with
    | setKeys keys? =>
      cases keys? with
      | none => exact ih h
      | some more =>
        change (steps.foldl step (lists.copy more)).contents[lists.handed]? = some (keys ++ [])
        rw [List.append_nil]
        exact ((private_copy h more).foldl_step steps).holds
    | install extractor key more =>
      change (steps.foldl step (lists.lend more)).contents[lists.handed]? = some (keys ++ [])
      rw [List.append_nil]
      exact ((private_lend h more).foldl_step steps).holds
    | pushKey key =>
      change (steps.foldl step (lists.push key)).contents[(lists.push key).handed]? = _
      rw [ih (contents_push_handed h key), List.append_assoc]
      rfl
    | newBuilder => exact @ih (lists.step .newBuilder) keys h
    | build => exact @ih (lists.step .build) keys h
    | _ => exact ih h

/-! ## What a tracer knows of its lists -/

/-- The tracer knows what its lists hold and whether the processor reads the list that was handed over
last. Nobody adds to the list of the builder or to the default keys. -/
structure Describes [Runtime] (lists : KeyLists) (t : Tracer) : Prop where
  processor : lists.contents[lists.processor]? = some t.processor.keys
  handed : lists.contents[lists.handed]? = some t.handedKeys
  shares_iff : t.sharesKeys = true ↔ lists.processor = lists.handed
  builder : ∀ builder, t.builder = some builder →
    ∃ place, lists.builder? = some place ∧ lists.Private place builder.keys
  noBuilder : t.builder = none → lists.builder? = none
  default : lists.Private 0 Propagation.Builder.default.keys

namespace Describes

variable [Runtime] {t t' : Tracer}

theorem new (scope : String) : KeyLists.new.Describes (.new scope) where
  processor := rfl
  handed := rfl
  shares_iff := by simp [Tracer.new, KeyLists.new]
  builder := by
    intro builder hbuilder
    cases hbuilder
  noBuilder _ := rfl
  default := ⟨rfl, Nat.zero_ne_one⟩

theorem of_settings_eq (h : lists.Describes t) (ht : t.settings = t'.settings) :
    lists.Describes t' := by
  have hhanded : t.handedKeys = t'.handedKeys := by
    change t.settings.handedKeys = t'.settings.handedKeys
    rw [ht]
  have hshares : t.sharesKeys = t'.sharesKeys := by
    change t.settings.sharesKeys = t'.settings.sharesKeys
    rw [ht]
  constructor
  · rw [← Tracer.processor_eq_of_settings_eq ht]
    exact h.processor
  · rw [← hhanded]
    exact h.handed
  · rw [← hshares]
    exact h.shares_iff
  · rw [← Tracer.builder_eq_of_settings_eq ht]
    exact h.builder
  · rw [← Tracer.builder_eq_of_settings_eq ht]
    exact h.noBuilder
  · exact h.default

/-- A setting of the builder that is not about its keys. -/
theorem set (h : lists.Describes t) {f : Propagation.Builder → Propagation.Builder}
    (hf : ∀ builder, (f builder).keys = builder.keys) :
    lists.Describes { t with builder := t.builder.map f } := by
  refine ⟨h.processor, h.handed, h.shares_iff, ?_, ?_, h.default⟩
  · intro builder' hbuilder'
    obtain ⟨builder, hbuilder, rfl⟩ := Option.map_eq_some_iff.1 hbuilder'
    rw [hf]
    exact h.builder builder hbuilder
  · intro hnone
    exact h.noBuilder (Option.map_eq_none_iff.1 hnone)

theorem copy (h : lists.Describes t) (keys : List String) :
    (lists.copy keys).Describes (t.step (.setKeys (some keys))).1 := by
  rw [t.step_setKeys]
  have hprocessor := private_copy h.processor keys
  constructor
  · exact hprocessor.holds
  · simp [KeyLists.copy]
  · exact iff_of_false Bool.false_ne_true hprocessor.notHanded
  · intro builder' hbuilder'
    obtain ⟨builder, hbuilder, rfl⟩ := Option.map_eq_some_iff.1 hbuilder'
    obtain ⟨place, hplace, -⟩ := h.builder builder hbuilder
    exact ⟨_, congrArg (Option.map _) hplace, private_copied lists keys⟩
  · intro hnone
    exact congrArg (Option.map _) (h.noBuilder (Option.map_eq_none_iff.1 hnone))
  · exact private_copy h.default.holds keys

theorem lend (h : lists.Describes t) (extract : Propagation.Extraction) (key : String)
    (keys : List String) :
    (lists.lend keys).Describes
      ({ t with processor := ⟨extract, key, keys⟩ }.handOver keys true) := by
  have hlent : (lists.lend keys).contents[lists.contents.length]? = some keys := by
    simp [KeyLists.lend]
  refine ⟨hlent, hlent, iff_of_true rfl rfl, ?_, h.noBuilder, private_lend h.default.holds keys⟩
  intro builder hbuilder
  obtain ⟨place, hplace, hprivate⟩ := h.builder builder hbuilder
  exact ⟨place, hplace, private_lend hprivate.holds keys⟩

theorem push (h : lists.Describes t) (key : String) :
    (lists.push key).Describes (t.pushKey key) := by
  have hhanded := contents_push_handed h.handed key
  refine ⟨?_, hhanded, h.shares_iff, ?_, h.noBuilder, h.default.step (.pushKey key)⟩
  · change (lists.push key).contents[lists.processor]? =
      some (if t.sharesKeys then { t.processor with keys := t.handedKeys ++ [key] }
        else t.processor).keys
    by_cases hshares : t.sharesKeys = true
    · -- the processor reads the list that the key is added to
      rw [if_pos hshares, h.shares_iff.1 hshares]
      exact hhanded
    · rw [if_neg hshares, contents_push_of_ne key (mt h.shares_iff.2 hshares)]
      exact h.processor
  · intro builder hbuilder
    obtain ⟨place, hplace, hprivate⟩ := h.builder builder hbuilder
    exact ⟨place, hplace, hprivate.step (.pushKey key)⟩

/-- A processor refers to the list of the builder that it comes from. -/
theorem build (h : lists.Describes t) : (lists.step .build).Describes (t.step .build).1 := by
  cases hbuilder : t.builder with
  | none =>
    have hplace : lists.builder?.getD lists.processor = lists.processor := by
      rw [h.noBuilder hbuilder]
      rfl
    have hsame : lists.step .build = lists := by
      change { lists with processor := lists.builder?.getD lists.processor } = lists
      rw [hplace]
    simpa only [Tracer.step, hbuilder, hsame] using h
  | some builder =>
    obtain ⟨place, hplace, hprivate⟩ := h.builder builder hbuilder
    have hstep : lists.step .build = { lists with processor := place } := by
      simp [KeyLists.step, hplace]
    have hdefault := h.default.step .build
    rw [hstep] at hdefault ⊢
    simp only [Tracer.step, hbuilder]
    refine ⟨hprivate.holds, h.handed, ?_, ?_, ?_, hdefault⟩
    · exact iff_of_false Bool.false_ne_true hprivate.notHanded
    · rintro _ ⟨⟩
      exact ⟨place, hplace, hprivate.holds, hprivate.notHanded⟩
    · rintro ⟨⟩

/-- A tracer that knows its lists right goes on doing so, whatever is done. -/
theorem step (h : lists.Describes t) (s : Step) : (lists.step s).Describes (t.step s).1 := by
  cases s with
  | newBuilder =>
    have hdefault := h.default.step .newBuilder
    refine ⟨h.processor, h.handed, h.shares_iff, ?_, ?_, hdefault⟩
    · rintro _ ⟨⟩
      exact ⟨0, rfl, hdefault⟩
    · rintro ⟨⟩
  | setExtractor extractor? =>
    rw [t.step_setExtractor]
    exact h.set fun _ => rfl
  | setKey key? =>
    rw [t.step_setKey]
    exact h.set fun _ => rfl
  | setKeys keys? =>
    cases keys? with
    | none =>
      rw [t.step_setKeys]
      exact h.set fun _ => rfl
    | some keys => exact h.copy keys
  | pushKey key => exact h.push key
  | build => exact h.build
  | install extractor key keys => exact h.lend extractor.take key keys
  | _ => exact h.of_settings_eq (t.settings_step_of_not rfl).symm

/-- A step that makes no processor gives the one there is no other list. -/
theorem processor_step (h : lists.Describes t) {s : Step} (hs : s.makes t = false) :
    (lists.step s).processor = lists.processor := by
  cases s with
  | setKeys keys? => cases keys? <;> rfl
  | build =>
    have hplace := h.noBuilder (Option.isNone_iff_eq_none.1 (Option.isSome_eq_false_iff.1 hs))
    change lists.builder?.getD lists.processor = lists.processor
    rw [hplace]
    rfl
  | install extractor key keys => cases hs
  | _ => rfl

end Describes

end KeyLists

end SpanMetrics
