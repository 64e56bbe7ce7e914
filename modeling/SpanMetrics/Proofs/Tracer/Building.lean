import Mathlib.Data.Nat.Init
import SpanMetrics.Proofs.Tracer.KeyLists

/-!
# SpanMetrics.Proofs.Tracer.Building — processors and the settings that they are made with

A processor that comes from a builder has the settings of the builder from when it was built, and a list
of keys that nobody adds to. A processor that is installed without a builder reads the list that it was
installed with, whatever is added to it.

* `Run.BuilderFrom.builder_eq` — what a builder was given.
* `Run.Builds.private_processor` — the list of a built processor.
* `Run.contents_installed` — the list of an installed processor.
* `Run.built_fixed_installed_shared` — the processors that spans are started under.
-/

namespace SpanMetrics

namespace Run

variable {r : Run} {scope : String} {k m n : Nat}

theorem after_zero [Runtime] (r : Run) : r.after 0 = r.origin := rfl

/-! ## Steps between two others -/

/-- The steps after the `m`-th and before the `n`-th. -/
def between (r : Run) (m n : Nat) : List Step :=
  (r.steps.take n).drop (m + 1)

theorem take_eq_append_between (r : Run) (hmn : m < n) :
    r.steps.take n = r.steps.take (m + 1) ++ r.between m n := by
  have hcut := (r.steps.take n).take_append_drop (m + 1)
  rw [List.take_take, Nat.min_eq_left hmn] at hcut
  exact hcut.symm

theorem after_between [Runtime] (r : Run) (hmn : m < n) :
    r.after n = ((r.after (m + 1)).run (r.between m n)).1 := by
  unfold after
  rw [r.take_eq_append_between hmn, Tracer.run_append]

theorem between_self_succ (r : Run) (m : Nat) : r.between m (m + 1) = [] :=
  List.drop_of_length_le (List.length_take_le _ _)

theorem between_succ (r : Run) (hmn : m < n) :
    r.between m (n + 1) = r.between m n ++ (r.steps[n]?).toList := by
  unfold between
  rw [List.take_add_one]
  cases hs : r.steps[n]? with
  | none => rw [Option.toList_none, List.append_nil, List.append_nil]
  | some s =>
    have hlength : (r.steps.take n).length = n :=
      List.length_take_of_le (Nat.le_of_lt (List.getElem?_eq_some_iff.1 hs).1)
    rw [List.drop_append_of_le_length]
    omega

/-! ## Lists of keys -/

/-- The lists of keys after the first steps. -/
def lists [Runtime] (r : Run) (n : Nat) : KeyLists :=
  (r.steps.take n).foldl KeyLists.step .new

theorem lists_between [Runtime] (r : Run) (hmn : m < n) :
    r.lists n = (r.between m n).foldl KeyLists.step (r.lists (m + 1)) := by
  unfold lists
  rw [r.take_eq_append_between hmn, List.foldl_append]

theorem lists_succ [Runtime] {s : Step} (hs : r.steps[n]? = some s) :
    r.lists (n + 1) = (r.lists n).step s := by
  unfold lists
  rw [List.take_add_one, hs, Option.toList_some, List.foldl_append]
  rfl

theorem lists_succ_of_none [Runtime] (hs : r.steps[n]? = none) : r.lists (n + 1) = r.lists n := by
  unfold lists
  rw [List.take_add_one, hs, Option.toList_none, List.append_nil]

/-- The tracer of a run knows the lists of the run right at any time. -/
theorem describes_lists [Runtime] (hr : r.origin = .new scope) (n : Nat) :
    (r.lists n).Describes (r.after n) := by
  induction n with
  | zero =>
    rw [after_zero, hr]
    exact .new scope
  | succ n ih =>
    cases hs : r.steps[n]? with
    | none =>
      rw [lists_succ_of_none hs, after_succ_of_none hs]
      exact ih
    | some s =>
      rw [lists_succ hs, after_succ hs]
      exact ih.step s

/-! ## Builders -/

/-- After the first `n` steps, the builder is the one that was taken at the `m`-th. -/
structure BuilderFrom (r : Run) (m n : Nat) : Prop where
  taken : r.steps[m]? = some .newBuilder
  before : m < n
  same : ∀ s ∈ r.between m n, s ≠ .newBuilder

/-- What a builder that was taken at the `m`-th step has been given by the `n`-th. -/
def givenBy [Runtime] (r : Run) (m n : Nat) : Propagation.Builder :=
  Propagation.Builder.default.given (r.between m n)

theorem BuilderFrom.builder_eq [Runtime] (h : r.BuilderFrom m n) :
    (r.after n).builder = some (r.givenBy m n) := by
  rw [r.after_between h.before, Tracer.builder_run _ h.same, after_succ h.taken]
  rfl

/-- The builder stays until another one is taken. -/
theorem BuilderFrom.succ (h : r.BuilderFrom m n) (hs : r.steps[n]? ≠ some .newBuilder) :
    r.BuilderFrom m (n + 1) := by
  refine ⟨h.taken, Nat.lt_succ_of_lt h.before, ?_⟩
  intro s hmem
  rw [r.between_succ h.before] at hmem
  rcases List.mem_append.1 hmem with hearlier | hlast
  · exact h.same s hearlier
  · rintro rfl
    exact hs (Option.mem_toList.1 hlast)

/-- Every builder was taken at some step. -/
theorem exists_builderFrom [Runtime] (hr : r.origin = .new scope) {builder : Propagation.Builder}
    (h : (r.after n).builder = some builder) : ∃ m, r.BuilderFrom m n := by
  induction n generalizing builder with
  | zero =>
    rw [after_zero, hr] at h
    cases h
  | succ n ih =>
    by_cases hnew : r.steps[n]? = some .newBuilder
    · refine ⟨n, hnew, Nat.lt_succ_self n, ?_⟩
      rw [r.between_self_succ]
      intro s hmem
      cases hmem
    · have hbefore : ∃ before, (r.after n).builder = some before := by
        cases hs : r.steps[n]? with
        | none =>
          rw [after_succ_of_none hs] at h
          exact ⟨builder, h⟩
        | some s =>
          have hne : s ≠ .newBuilder := by
            rintro rfl
            exact hnew hs
          rw [after_succ hs, Tracer.builder_step _ hne] at h
          obtain ⟨before, hbefore, -⟩ := Option.map_eq_some_iff.1 h
          exact ⟨before, hbefore⟩
      obtain ⟨before, hbefore⟩ := hbefore
      obtain ⟨m, hm⟩ := ih hbefore
      exact ⟨m, hm.succ hnew⟩

/-! ## Processors -/

/-- From the `m`-th step on, none of the first `n` steps makes a processor. -/
def KeepsProcessor [Runtime] (r : Run) (m n : Nat) : Prop :=
  ∀ i s, m ≤ i → i < n → r.steps[i]? = some s → s.makes (r.after i) = false

/-- The processor stays, and reads the same list. -/
theorem KeepsProcessor.processor_eq [Runtime] (h : r.KeepsProcessor m n)
    (hr : r.origin = .new scope) (hmn : m ≤ n) :
    (r.after n).processor =
        { (r.after m).processor with keys := (r.after n).processor.keys } ∧
      (r.lists n).processor = (r.lists m).processor := by
  induction n, hmn using Nat.le_induction with
  | base => exact ⟨rfl, rfl⟩
  | succ n hmn ih =>
    obtain ⟨hprocessor, hlist⟩ := ih fun i s hmi hin => h i s hmi (Nat.lt_succ_of_lt hin)
    cases hs : r.steps[n]? with
    | none =>
      rw [after_succ_of_none hs, lists_succ_of_none hs]
      exact ⟨hprocessor, hlist⟩
    | some s =>
      have hmakes := h n s hmn (Nat.lt_succ_self n) hs
      rw [after_succ hs, lists_succ hs]
      constructor
      · rw [Tracer.processor_step _ hmakes, hprocessor]
      · rw [(describes_lists hr n).processor_step hmakes, hlist]

/-- The span is started under the processor that the `n`-th step made. -/
structure Birth.Under [Runtime] (b : Birth r) (n : Nat) : Prop where
  after : n < b.position
  kept : r.KeepsProcessor (n + 1) b.position

/-- A processor that stays copies the keys that its list holds when a span is started. -/
theorem Birth.processor_eq [Runtime] {b : Birth r} (hr : r.origin = .new scope)
    (hm : m ≤ b.position) (hkept : r.KeepsProcessor m b.position) {p : Propagation.Processor}
    (hmade : (r.after m).processor = p) {keys : List String}
    (hkeys : (r.lists b.position).contents[(r.lists m).processor]? = some keys) :
    b.processor = { p with keys } := by
  obtain ⟨hprocessor, hlist⟩ := hkept.processor_eq hr hm
  have hread := (describes_lists hr b.position).processor
  rw [hlist, hkeys] at hread
  unfold Birth.processor
  rw [hprocessor, ← Option.some.inj hread, hmade]

/-- Before another processor is made, spans are started under the default settings. -/
theorem Birth.processor_default [Runtime] {b : Birth r} (hr : r.origin = .new scope)
    (hkept : r.KeepsProcessor 0 b.position) : b.processor = .default := by
  have hprivate : (r.lists b.position).Private 0 Propagation.Builder.default.keys :=
    (describes_lists hr b.position).default
  have horigin : (r.after 0).processor = .default := by
    rw [after_zero, hr]
    rfl
  exact Birth.processor_eq hr (Nat.zero_le _) hkept horigin hprivate.holds

/-- At the `n`-th step the builder that was taken at the `m`-th makes a processor. -/
structure Builds (r : Run) (m n : Nat) : Prop extends r.BuilderFrom m n where
  built : r.steps[n]? = some .build

namespace Builds

theorem processor_after [Runtime] (h : r.Builds m n) :
    (r.after (n + 1)).processor = (r.givenBy m n).build := by
  rw [after_succ h.built]
  simp only [Tracer.step, h.builder_eq]

/-- Nobody adds to the list of a built processor: it holds what the builder was given. -/
theorem private_processor [Runtime] (h : r.Builds m n) (hr : r.origin = .new scope) (hnk : n < k) :
    (r.lists k).Private (r.lists (n + 1)).processor (r.givenBy m n).keys := by
  obtain ⟨place, hplace, hprivate⟩ := (describes_lists hr n).builder _ h.builder_eq
  have hprocessor : (r.lists (n + 1)).processor = place := by
    rw [lists_succ h.built]
    change (r.lists n).builder?.getD _ = place
    rw [hplace]
    rfl
  rw [hprocessor, r.lists_between hnk, lists_succ h.built]
  exact (hprivate.step .build).foldl_step _

theorem processor_eq [Runtime] (h : r.Builds m n) (hr : r.origin = .new scope) {b : Birth r}
    (hb : b.Under n) : b.processor = (r.givenBy m n).build :=
  Birth.processor_eq hr hb.after hb.kept h.processor_after
    (h.private_processor hr hb.after).holds

end Builds

/-- The list that a processor is installed with holds the keys that are added to it as well. -/
theorem contents_installed [Runtime] {extractor : Propagation.Extractor} {key : String}
    {keys : List String} (h : r.steps[n]? = some (.install extractor key keys)) (hnk : n < k) :
    (r.lists k).contents[(r.lists (n + 1)).processor]? =
      some (keys ++ KeyLists.pushed (r.between n k)) := by
  rw [r.lists_between hnk, lists_succ h]
  refine KeyLists.contents_foldl_step ?_ (r.between n k)
  simp [KeyLists.step, KeyLists.lend]

/-- A built processor has the settings that its builder was given last before, or the defaults, and its
list of keys is one that nobody adds to. A setting that is given nothing is refused, and the builder is as
before. An installed processor copies the keys that it was installed with and those added to that same
list since. What is done with builders, lists and processors changes no span that has been started. -/
theorem built_fixed_installed_shared [Runtime] (hr : r.origin = .new scope) :
    (∀ m n, r.Builds m n →
      (∀ k, n < k →
        (r.lists k).Private (r.lists (n + 1)).processor (r.givenBy m n).keys) ∧
      ∀ b : Birth r, b.Under n → b.processor = (r.givenBy m n).build) ∧
    (∀ n, r.steps[n]? = some .build → (r.after n).builder ≠ none → ∃ m, r.Builds m n) ∧
    (∀ b : Birth r, r.KeepsProcessor 0 b.position → b.processor = .default) ∧
    (∀ n builder setting, (r.after n).builder = some builder →
      (r.after n).step (.unset setting) = (r.after n, pure (.refused (.missing setting)))) ∧
    (∀ n extractor key keys, r.steps[n]? = some (.install extractor key keys) →
      (∀ k, n < k → (r.lists k).contents[(r.lists (n + 1)).processor]? =
        some (keys ++ KeyLists.pushed (r.between n k))) ∧
      ∀ b : Birth r, b.Under n →
        b.processor = ⟨extractor.take, key, keys ++ KeyLists.pushed (r.between n b.position)⟩) ∧
    (∀ n s handle, r.steps[n]? = some s → s.isSetting = true →
      (r.after (n + 1)).find? handle = (r.after n).find? handle) ∧
    ∀ b : Birth r, b.span? (b.position + 1) = some (b.processor.onStart b.parent b.fresh).value := by
  refine ⟨?built, ?taken, ?default, ?refused, ?installed, ?spans, Birth.span?_succ_position⟩
  case built =>
    intro m n h
    exact ⟨fun k hnk => h.private_processor hr hnk, fun b hb => h.processor_eq hr hb⟩
  case taken =>
    intro n hbuilt hbuilder
    obtain ⟨builder, hbuilder⟩ := Option.ne_none_iff_exists'.1 hbuilder
    obtain ⟨m, hm⟩ := exists_builderFrom hr hbuilder
    exact ⟨m, hm, hbuilt⟩
  case default =>
    intro b hkept
    exact b.processor_default hr hkept
  case refused =>
    intro n builder setting hbuilder
    exact Tracer.step_unset hbuilder setting
  case installed =>
    intro n extractor key keys h
    refine ⟨fun k hnk => contents_installed h hnk, ?_⟩
    intro b hb
    have hmade : (r.after (n + 1)).processor = ⟨extractor.take, key, keys⟩ := by
      rw [after_succ h]
      rfl
    exact Birth.processor_eq hr hb.after hb.kept hmade (contents_installed h hb.after)
  case spans =>
    intro n s handle hs hsetting
    rw [after_succ hs]
    apply Tracer.find?_step_of_subject?_ne
    rw [s.subject?_of_isSetting hsetting]
    intro h
    cases h

/-- A builder that is given settings, one of them not taken, whose list is added to and which goes on being
given settings after it has built a processor; then a processor that is installed, and its list added to.
A span is started below the work under each of the two. -/
def workshop : Run where
  origin := .new "shop"
  steps :=
    [.newBuilder,
     .setKeys (some ["app.tenant"]),
     .pushKey "app.user",
     .setKey (some "app.entry"),
     .setKey none,
     .build,
     .pushKey "app.user",
     .setKeys (some ["app.user"]),
     .setKey (some "app.other"),
     .newBuilder,
     .start ⟨"work", "price", .internal,
       [("app.tenant", .string "gold"), ("app.user", .string "ann")], .none, false⟩,
     .start ⟨"call", "GET", .client, [], .span "work", false⟩,
     .install .name "app.entry" ["app.tenant"],
     .pushKey "app.user",
     .setKeys none,
     .start ⟨"late", "GET", .client, [], .span "work", false⟩]

def workshopCall : Birth workshop :=
  (workshop.birthAt? 11).get (by decide)

def workshopLate : Birth workshop :=
  (workshop.birthAt? 15).get (by decide)

/-- In `workshop` the list of the built processor holds the tenant alone to the end, and the call gets
nothing else; the other span gets the user as well. -/
theorem built_fixed_installed_shared_workshop :
    (workshop.lists 16).Private (workshop.lists 6).processor ["app.tenant"] ∧
      workshopCall.processor = ⟨Propagation.Extractor.ingress.take, "app.entry", ["app.tenant"]⟩ ∧
      workshopLate.processor =
        ⟨Propagation.Extractor.name.take, "app.entry", ["app.tenant", "app.user"]⟩ ∧
      (workshop.after 4).step (.setKey none) =
        (workshop.after 4, pure (.refused (.missing .key))) ∧
      (workshop.after 13).find? "call" = (workshop.after 12).find? "call" ∧
      (workshopCall.span? 12).map (·.attributes.get? "app.user") = some none ∧
      (workshopLate.span? 16).map (·.attributes.get? "app.user") = some (some (.string "ann")) := by
  obtain ⟨hbuilt, -, -, hrefused, hinstalled, hspans, hspan⟩ :=
    built_fixed_installed_shared (r := workshop) rfl
  have hbuilds : workshop.Builds 0 5 := by
    refine ⟨⟨rfl, by decide, ?_⟩, rfl⟩
    intro s hs
    have hmem : s ∈ [.setKeys (some ["app.tenant"]), .pushKey "app.user",
      .setKey (some "app.entry"), .setKey none] := hs
    rintro rfl
    simp at hmem
  have hcall : workshopCall.Under 5 := by
    refine ⟨by decide, ?_⟩
    intro i s hi hin hs
    have hlt : i < 11 := hin
    have hcases : i = 6 ∨ i = 7 ∨ i = 8 ∨ i = 9 ∨ i = 10 := by omega
    rcases hcases with rfl | rfl | rfl | rfl | rfl <;> cases hs <;> rfl
  have hlate : workshopLate.Under 12 := by
    refine ⟨by decide, ?_⟩
    intro i s hi hin hs
    have hlt : i < 15 := hin
    have hcases : i = 13 ∨ i = 14 := by omega
    rcases hcases with rfl | rfl <;> cases hs <;> rfl
  have hfirst := hbuilt 0 5 hbuilds
  have hsecond := hinstalled 12 .name "app.entry" ["app.tenant"] rfl
  refine ⟨hfirst.1 16 (by decide), hfirst.2 workshopCall hcall, hsecond.2 workshopLate hlate,
    hrefused 4 _ .key rfl, hspans 12 _ "call" rfl rfl, ?_, ?_⟩
  · have hstart := hspan workshopCall
    rw [hfirst.2 workshopCall hcall] at hstart
    change (workshopCall.span? (workshopCall.position + 1)).map _ = _
    rw [hstart]
    rfl
  · have hstart := hspan workshopLate
    rw [hsecond.2 workshopLate hlate] at hstart
    change (workshopLate.span? (workshopLate.position + 1)).map _ = _
    rw [hstart]
    rfl

end Run

end SpanMetrics
