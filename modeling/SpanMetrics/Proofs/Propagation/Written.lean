import SpanMetrics.Proofs.Propagation.Gifts

/-!
# SpanMetrics.Proofs.Propagation.Written — what a start writes in a run

A start leaves every attribute alone but the flag of local roots, the two marks, the copied ones and the
data; and of these it writes what the span above gives, as that is at the time. A span that is started
under no span of the process gets the flag, and the data if it is a local root that serves no request. The
mark below a call is given by the span above alone, so it goes no further than to its children.

* `Run.recorded_after` — the spans of a run hold nothing but what a span takes.
* `Birth.HasRoom` — there is room for all that the span is given.
* `Birth.get?_sdkDescendant_initial`, `Birth.get?_consumerParentKind_initial`,
  `Birth.get?_copied_initial` — the marks and the copies.
* `Birth.initial_of_no_span` — a start under no span of the process.
* `Birth.start_writes` — all that a start writes.
-/

namespace SpanMetrics

/-! ## What spans hold -/

namespace Propagation.Processor

variable {p : Processor} {parent : Parent} {s : Span}

theorem recorded_onStart (h : s.attributes.Recorded) :
    (p.onStart parent s).value.attributes.Recorded := by
  have hgiven : (p.given parent s).attributes.Recorded := by
    rw [attributes_given]
    exact h.recordAll _
  rw [value_onStart]
  cases (p.data parent.span? (p.given parent s)).value with
  | none => exact hgiven
  | some value => exact hgiven.record p.key value

/-- Under no span of the process, no data is written but for a local root that serves no request. -/
theorem onStart_of_no_span (hparent : parent.span? = none)
    (hflag : (markRoot parent s).isLocalRoot = !parent.isLocal)
    (hdata : parent.isLocal = true ∨ s.kind = .server) :
    (p.onStart parent s).value = markRoot parent s := by
  have hnone : (p.data none (markRoot parent s)).value = none := by
    unfold data
    rw [Logged.value_bind, Span.value_localRoot, hflag]
    rcases hdata with hlocal | hserver
    · rw [hlocal]
      rfl
    · have hkind : (markRoot parent s).kind = .server := hserver
      rw [if_pos hkind]
      split <;> rfl
  rw [value_onStart, given_of_no_span hparent, hparent, hnone]
  rfl

end Propagation.Processor

theorem Step.recorded_effect (handle : String) (s : Step) {live : LiveSpan}
    (h : live.span.attributes.Recorded) :
    (s.effect handle live).span.attributes.Recorded := by
  rcases s.span_effect handle live with heq | ⟨key, value, -, heq⟩ | ⟨name, -, heq⟩ <;> rw [heq]
  · exact h
  · exact h.record key value
  · exact h

namespace Tracer

/-- The spans hold nothing but what a span takes. -/
def Recorded (t : Tracer) : Prop :=
  ∀ handle live, t.find? handle = some live → live.span.attributes.Recorded

theorem recorded_of_no_spans {t : Tracer} (h : t.spans = []) : t.Recorded := by
  intro handle live hlive
  rw [find?, h] at hlive
  cases hlive

theorem Recorded.step [Runtime] {t : Tracer} (h : t.Recorded) (s : Step) :
    (t.step s).1.Recorded := by
  intro handle live hlive
  by_cases hstart : ∃ start parent, s = .start start ∧ t.parent? start = some parent ∧
      start.handle = handle
  · -- the handle names the new span
    obtain ⟨start, parent, rfl, hparent, rfl⟩ := hstart
    change (t.startStep start).1.find? start.handle = some live at hlive
    rw [find?_startStep, hparent] at hlive
    cases (if_pos rfl).symm.trans hlive
    exact Propagation.Processor.recorded_onStart (Attributes.recorded_empty.recordAll _)
  · have hother : ∀ start parent, s = .start start → t.parent? start = some parent →
        start.handle ≠ handle := by
      intro start parent hs hparent heq
      exact hstart ⟨start, parent, hs, hparent, heq⟩
    rw [t.find?_step s handle hother] at hlive
    obtain ⟨before, hbefore, rfl⟩ := Option.map_eq_some_iff.1 hlive
    exact s.recorded_effect handle (h handle before hbefore)

end Tracer

open Propagation

namespace Run

/-- Whatever is done with a tracer, its spans hold nothing but what a span takes. -/
theorem recorded_after [Runtime] {r : Run} (hr : r.origin.spans = []) (n : Nat) :
    (r.after n).Recorded := by
  induction n with
  | zero => exact Tracer.recorded_of_no_spans hr
  | succ n ih =>
    cases hs : r.steps[n]? with
    | none =>
      rw [after_succ_of_none hs]
      exact ih
    | some s =>
      rw [after_succ hs]
      exact ih.step s

namespace Birth

section

variable [Runtime] {r : Run} {b : Birth r} {key : String}

theorem recorded_parent (hr : r.origin.spans = []) (above : Span)
    (h : b.parent.span? = some above) : above.attributes.Recorded := by
  rcases b.parent_cases with ⟨hp, -⟩ | ⟨c, -, -, hp⟩ | ⟨handle, live, -, -, hlive, hp⟩
  · rw [hp] at h
    cases h
  · rw [hp] at h
    cases h
  · rw [hp] at h
    cases h
    exact recorded_after hr b.position handle live hlive

/-! ## One start -/

/-- The start attributes that the span took leave room for all that it is given besides the data. The data
comes last, so it takes the place of nothing. -/
def HasRoom (b : Birth r) : Prop :=
  b.fresh.attributes.HasRoomFor (b.processor.gifts b.parent b.fresh)

instance : Decidable b.HasRoom :=
  inferInstanceAs (Decidable (Attributes.HasRoomFor _ _))

/-- A key that is given one value at most has it after the start, and otherwise its start value. -/
theorem get?_initial_of_gift (hr : r.origin.spans = []) (hroom : b.HasRoom)
    {gift? : Option Value}
    (hgift : ∀ value,
      (key, value) ∈ b.processor.gifts b.parent b.fresh ↔ gift? = some value)
    (hdata : key ≠ b.processor.key) :
    b.initial.attributes.get? key = gift?.or (b.startValue? key) :=
  Processor.get?_onStart_of_gift (recorded_parent hr) hroom hgift hdata

/-- A span is marked just if the span above it is a call through an AWS client when it starts. -/
theorem get?_sdkDescendant_initial (hr : r.origin.spans = []) (hroom : b.HasRoom)
    (hkeys : b.processor.KeysApart) :
    b.initial.attributes.get? Key.sdkDescendant =
      if b.parent.span?.any Span.isAwsCall then some (.string "true")
      else b.startValue? Key.sdkDescendant := by
  have hdata : Key.sdkDescendant ≠ b.processor.key := by
    intro hkey
    exact hkeys.key_notMem_reserved (hkey ▸ by decide)
  rw [get?_initial_of_gift hr hroom (fun value => hkeys.mem_gifts_call_iff) hdata]
  split <;> rfl

/-- A span is marked just if it is a consumer below a consumer. -/
theorem get?_consumerParentKind_initial (hr : r.origin.spans = []) (hroom : b.HasRoom)
    (hkeys : b.processor.KeysApart) :
    b.initial.attributes.get? Key.consumerParentKind =
      if b.start.kind = .consumer ∧ b.parent.span?.any (·.kind == .consumer) then
        some (.string "CONSUMER")
      else b.startValue? Key.consumerParentKind := by
  have hdata : Key.consumerParentKind ≠ b.processor.key := by
    intro hkey
    exact hkeys.key_notMem_reserved (hkey ▸ by decide)
  rw [get?_initial_of_gift hr hroom (fun value => hkeys.mem_gifts_pair_iff) hdata, kind_fresh]
  split <;> rfl

/-- An attribute that is copied is the one of an internal span above, if that has it. -/
theorem get?_copied_initial (hr : r.origin.spans = []) (hroom : b.HasRoom)
    (hkeys : b.processor.KeysApart) (hmem : key ∈ b.processor.keys) :
    b.initial.attributes.get? key =
      ((b.parent.span?.filter (·.kind == .internal)).bind (·.attributes.get? key)).or
        (b.startValue? key) := by
  have hdata : key ≠ b.processor.key := by
    rintro rfl
    exact hkeys.key_notMem_keys hmem
  exact get?_initial_of_gift hr hroom (fun value => hkeys.mem_gifts_copied_iff hmem) hdata

/-! ## Starts under no span of the process -/

/-- The flag of local roots is taken. -/
theorem get?_isLocalRoot_markRoot (hroom : b.HasRoom) :
    (Processor.markRoot b.parent b.fresh).attributes.get? Key.isLocalRoot =
      some (.bool !b.parent.isLocal) := by
  apply Processor.get?_isLocalRoot_markRoot b.parentId_fresh
  -- the flag comes first
  exact @Attributes.HasRoomFor.hasRoom _ [] _ _ hroom

/-- A span that is started under no span of the process has the start attributes that it took, but for the
flag; and but for the data if it is a local root that serves no request. -/
theorem initial_of_no_span (hroom : b.HasRoom) (hparent : b.parent.span? = none) :
    (∀ key, key ≠ Key.isLocalRoot →
      (key = b.processor.key → ¬ b.start.IsRoot ∨ b.start.kind = .server) →
      b.initial.attributes.get? key = b.startValue? key) ∧
    ((b.processor.key = Key.isLocalRoot → ¬ b.start.IsRoot ∨ b.start.kind = .server) →
      b.initial.attributes.get? Key.isLocalRoot = some (.bool !b.parent.isLocal)) := by
  have hflag := get?_isLocalRoot_markRoot hroom
  -- the data is either taken for such a root or not written
  have hread : ∀ key, (key = b.processor.key → ¬ b.start.IsRoot ∨ b.start.kind = .server) →
      b.initial.attributes.get? key =
        (Processor.markRoot b.parent b.fresh).attributes.get? key := by
    intro key hkey
    by_cases hdata : key = b.processor.key
    · have hnot := hkey hdata
      rw [← b.isLocal_parent_eq_true_iff, ← kind_fresh] at hnot
      have hroot := Span.isLocalRoot_of_flag hflag
      exact congrArg (fun s => s.attributes.get? key)
        (Processor.onStart_of_no_span hparent hroot hnot)
    · rw [← Processor.given_of_no_span hparent]
      exact (b.processor.footprint_data b.parent b.fresh).get?_eq key (by simpa using hdata)
  constructor
  · intro key hkey hdata
    rw [hread key hdata]
    exact (Processor.footprint_markRoot b.parent b.fresh).get?_eq key (by simpa using hkey)
  · intro hdata
    exact (hread Key.isLocalRoot fun h => hdata h.symm).trans hflag

/-! ## Every start -/

/-- What a start writes, if there is room for it. Attributes under other keys than the reserved ones, the
key of the data and the copied ones stay as the start attributes made them. If no key serves two purposes,
a span is marked below a call through an AWS client alone, noted as a consumer below a consumer alone, and
takes of the copied attributes those that an internal span above has, all as that span is at the time; so
the mark of a call does not pass from a child of the call to the children of that. A span that is started
under no span of the process has the flag, and the data only if it is a local root that serves no
request. -/
theorem start_writes (hr : r.origin.spans = []) (b : Birth r) (hroom : b.HasRoom) :
    (∀ key, key ∉ Processor.reservedKeys → key ≠ b.processor.key → key ∉ b.processor.keys →
      b.initial.attributes.get? key = b.startValue? key) ∧
    (b.processor.KeysApart →
      b.initial.attributes.get? Key.sdkDescendant =
        (if b.parent.span?.any Span.isAwsCall then some (.string "true")
          else b.startValue? Key.sdkDescendant) ∧
      b.initial.attributes.get? Key.consumerParentKind =
        (if b.start.kind = .consumer ∧ b.parent.span?.any (·.kind == .consumer) then
          some (.string "CONSUMER") else b.startValue? Key.consumerParentKind) ∧
      (∀ key ∈ b.processor.keys, b.initial.attributes.get? key =
        ((b.parent.span?.filter (·.kind == .internal)).bind (·.attributes.get? key)).or
          (b.startValue? key)) ∧
      ∀ above s, b.ChildOf above → above.span? b.position = some s → s.isAwsCall = false →
        b.initial.attributes.get? Key.sdkDescendant = b.startValue? Key.sdkDescendant) ∧
    (b.parent.span? = none →
      (∀ key, key ≠ Key.isLocalRoot →
        (key = b.processor.key → ¬ b.start.IsRoot ∨ b.start.kind = .server) →
        b.initial.attributes.get? key = b.startValue? key) ∧
      ((b.processor.key = Key.isLocalRoot → ¬ b.start.IsRoot ∨ b.start.kind = .server) →
        b.initial.attributes.get? Key.isLocalRoot = some (.bool !b.parent.isLocal))) := by
  refine ⟨?_, ?_, initial_of_no_span hroom⟩
  · intro key hreserved hdata hcopied
    obtain ⟨hflag, hcall, hpair⟩ := Processor.notMem_reservedKeys_iff.1 hreserved
    apply (b.processor.footprint_onStart b.parent b.fresh).get?_eq
    simp [Processor.givenKeys, hflag, hcall, hpair, hdata, hcopied]
  · intro hkeys
    have hcall := get?_sdkDescendant_initial hr hroom hkeys
    refine ⟨hcall, get?_consumerParentKind_initial hr hroom hkeys, ?_, ?_⟩
    · intro key hmem
      exact get?_copied_initial hr hroom hkeys hmem
    · intro above s hchild hs hopen
      -- whatever mark the span above has, only its class counts
      obtain ⟨s', hparent, hs'⟩ := hchild.exists_span
      obtain rfl := Option.some.inj (hs.symm.trans hs')
      rw [hcall, hparent]
      exact if_neg (by simp [Parent.span?, hopen])

end

/-- A call through an AWS client, the work below it, and a call of that work. -/
def relay : Run where
  origin := .new "shop"
  steps :=
    [.install .name "app.operation" ["app.tenant", "app.plan"],
     .start ⟨"put", "PutItem", .client, [("rpc.system", .string "aws-api")], .none, false⟩,
     .start ⟨"work", "sign", .internal, [("app.tenant", .string "gold")], .span "put", false⟩,
     .start ⟨"call", "POST", .client,
       [("app.tenant", .string "red"), ("http.method", .string "POST")], .span "work", false⟩]

/-- In `relay` the work is marked as below a call, and the call of the work is not. That has the tenant of
the work, and its own method. The call through the client is a local root. -/
theorem start_writes_relay :
    ∃ put work call : Birth relay, work.ChildOf put ∧ call.ChildOf work ∧
      put.initial.attributes.get? Key.isLocalRoot = some (.bool true) ∧
      work.initial.attributes.get? Key.sdkDescendant = some (.string "true") ∧
      call.initial.attributes.get? Key.sdkDescendant = none ∧
      call.initial.attributes.get? "app.tenant" = some (.string "gold") ∧
      call.initial.attributes.get? "http.method" = some (.string "POST") := by
  let put : Birth relay := (relay.birthAt? 1).get (by decide)
  let work : Birth relay := (relay.birthAt? 2).get (by decide)
  let call : Birth relay := (relay.birthAt? 3).get (by decide)
  have hwork : work.ChildOf put :=
    ⟨by decide, by rfl, named_of_distinct (by decide) _ (by decide)⟩
  have hcall : call.ChildOf work :=
    ⟨by decide, by rfl, named_of_distinct (by decide) _ (by decide)⟩
  have hapart : work.processor.KeysApart := ⟨by decide, by decide, by decide⟩
  have hapart' : call.processor.KeysApart := ⟨by decide, by decide, by decide⟩
  obtain ⟨-, -, hroot⟩ := start_writes rfl put (by decide)
  obtain ⟨-, hbelow, -⟩ := start_writes rfl work (by decide)
  obtain ⟨hother, hgiven, -⟩ := start_writes rfl call (by decide)
  obtain ⟨hmark, -, hcopied, -⟩ := hgiven hapart'
  have hflag : put.processor.key = Key.isLocalRoot →
      ¬ put.start.IsRoot ∨ put.start.kind = .server := by
    intro hkey
    exact absurd hkey (by decide)
  refine ⟨put, work, call, hwork, hcall, ?_, ?_, ?_, ?_, ?_⟩
  · exact ((hroot rfl).2 hflag).trans rfl
  · exact (hbelow hapart).1.trans rfl
  · exact hmark.trans rfl
  · exact (hcopied "app.tenant" (by decide)).trans rfl
  · exact (hother "http.method" (by decide) (by decide) (by decide)).trans rfl

end Birth

end Run

end SpanMetrics
