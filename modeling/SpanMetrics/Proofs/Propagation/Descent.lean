import SpanMetrics.Proofs.Tracer.Parentage

/-!
# SpanMetrics.Proofs.Propagation.Descent — data on its way down a line of spans

A local root that serves no request puts data of its own on the line below it; a span that serves a
request puts data on the line when a span is started below it; every other span hands on what it
was given. So the data of a span comes from the last span above it that serves a request, or else
from the local root, however long the line is and whatever happens between two starts.

* `Birth.get?_initial_of_root`, `Birth.get?_initial_of_child` — one start.
* `Line.get?_initial_carried` — down a line without spans that serve requests nothing is lost.
* `Line.data_handed_down` — which data a span of a line has, and from when.
-/

namespace SpanMetrics

namespace Propagation

/-- The extraction has a text for every span. -/
def GivesText (extract : Extraction) : Prop :=
  ∀ s, ∃ text, (extract s).value = some (.string text)

theorem givesText_ingress [Runtime] : GivesText Extractor.ingress.take := by
  intro s
  exact ⟨s.ingressOperation.value, rfl⟩

/-- The ingress operation of a local root that serves no request is internal. -/
theorem ingress_of_root [Runtime] {s : Span} (hroot : s.isLocalRoot = true)
    (hk : s.kind ≠ .server) :
    (Extractor.ingress.take s).value = some (.string Span.internalOperation) := by
  have hinternal : s.isInternalRoot = true := by simp [Span.isInternalRoot, hroot, hk]
  simp [Extractor.take, Span.ingressOperation, hinternal]

end Propagation

open Propagation

namespace Run.Birth

variable [Runtime] {r : Run} {b above : Birth r} {extract : Extraction} {key : String}

/-- The span can be given data: its processor takes data by `extract` and records it under `key`,
writes the flag of local roots nowhere else, and the start attributes that the span took leave room
for all that the processor writes. -/
structure Receives (b : Birth r) (extract : Extraction) (key : String) : Prop where
  extract_eq : b.processor.extract = extract
  key_eq : b.processor.key = key
  key_ne_empty : key ≠ ""
  key_ne_flag : key ≠ Key.isLocalRoot
  flag_notMem : Key.isLocalRoot ∉ b.processor.keys
  room : b.fresh.attributes.size + 4 + b.processor.keys.length ≤ Attributes.limit

/-- The span before the data is recorded. -/
def given (b : Birth r) : Span :=
  b.processor.given b.parent b.fresh

/-- Under the default processor, a span with at most 122 start attributes can be given data. -/
theorem receives_default (hdefault : b.processor = .default)
    (hsize : b.fresh.attributes.size ≤ 122) :
    b.Receives Extractor.ingress.take Key.localOperation := by
  constructor
  · rw [hdefault]
    rfl
  · rw [hdefault]
    rfl
  · decide
  · decide
  · rw [hdefault, Processor.keys_default]
    decide
  · rw [hdefault]
    change b.fresh.attributes.size + 4 + 2 ≤ 128
    omega

namespace Receives

theorem hasRoom_flag (h : b.Receives extract key) :
    b.fresh.attributes.hasRoom Key.isLocalRoot = true := by
  have hroom := h.room
  exact Attributes.hasRoom_iff.2 (.inr (by omega))

theorem hasRoom_key (h : b.Receives extract key) : b.given.attributes.hasRoom key = true := by
  have hroom := h.room
  have hsize := (b.processor.footprint_given b.parent b.fresh).size_le
  rw [b.processor.length_givenKeys] at hsize
  exact Attributes.hasRoom_iff.2 (.inr (by unfold given; omega))

theorem isLocalRoot_given (h : b.Receives extract key) :
    b.given.isLocalRoot = !b.parent.isLocal :=
  Span.isLocalRoot_of_flag
    (b.processor.get?_isLocalRoot_given h.flag_notMem b.parentId_fresh h.hasRoom_flag)

theorem isLocalRoot_initial (h : b.Receives extract key) :
    b.initial.isLocalRoot = !b.parent.isLocal :=
  Birth.isLocalRoot_initial h.flag_notMem (h.key_eq ▸ h.key_ne_flag) (.inr h.hasRoom_flag)

/-- At any time, a span on which no step wrote the flag is a local root as its parent decided. -/
theorem isLocalRoot_of_span? (h : b.Receives extract key) {n : Nat} {s : Span} (hn : b.Named n)
    (hflag : b.Unwritten Key.isLocalRoot n) (hs : b.span? n = some s) :
    s.isLocalRoot = !b.parent.isLocal := by
  rw [Birth.isLocalRoot_of_span? hn hflag hs]
  exact h.isLocalRoot_initial

/-- The data of a span, where there is any, is read back right after the start. -/
theorem get?_initial (h : b.Receives extract key) {value : Value} (hvalue : value.recordable = true)
    (hdata : (b.processor.data b.parent.span? b.given).value = some value) :
    b.initial.attributes.get? key = some value := by
  have hroom := h.hasRoom_key
  rw [← h.key_eq] at hroom ⊢
  exact b.processor.get?_key_onStart hdata (h.key_eq ▸ h.key_ne_empty) hvalue hroom

end Receives

/-! ## One start -/

/-- The span as a local root shows it to the extraction: with its start attributes and the flag. -/
def marked (b : Birth r) : Span :=
  b.fresh.record Key.isLocalRoot (.bool true)

theorem given_of_isRoot (hroot : b.start.IsRoot) : b.given = b.marked := by
  have hlocal := b.isLocal_parent_eq_false_iff.2 hroot
  unfold given Processor.given Processor.markRoot
  rw [span?_parent_of_isRoot hroot, hlocal]
  simp [marked]

theorem isLocalRoot_marked (h : b.Receives extract key) (hroot : b.start.IsRoot) :
    b.marked.isLocalRoot = true := by
  rw [← given_of_isRoot hroot, h.isLocalRoot_given, b.isLocal_parent_eq_false_iff.2 hroot]
  rfl

/-- A local root that serves no request starts with its own data. -/
theorem get?_initial_of_root (h : b.Receives extract key) (htext : GivesText extract)
    (hroot : b.start.IsRoot) (hk : b.start.kind ≠ .server) :
    b.initial.attributes.get? key = (extract b.marked).value := by
  rcases htext b.marked with ⟨text, hvalue⟩
  rw [hvalue]
  refine h.get?_initial rfl ?_
  rw [given_of_isRoot hroot, Processor.value_data_of_root _ _ (isLocalRoot_marked h hroot) hk,
    h.extract_eq, hvalue]

/-- A span below another starts with the data of that one: taken from it now if it serves a request,
and what it carries if it does not. -/
theorem get?_initial_of_child (h : b.Receives extract key) (hchild : b.ChildOf above) {s : Span}
    (hs : above.span? b.position = some s) {value : Value} (hvalue : value.recordable = true)
    (hdata : (if above.start.kind = .server then (extract s).value else s.attributes.get? key) =
      some value) :
    b.initial.attributes.get? key = some value := by
  rcases hchild.exists_span with ⟨s', hparent, hs'⟩
  -- the parent as it is now, which need not be as it was at its own start
  rw [hs] at hs'
  cases hs'
  have hkind : s.kind = above.start.kind := (sameSpan_of_span? hchild.named hs).kind_eq
  have hlocal : b.given.isLocalRoot = false := by
    rw [h.isLocalRoot_given, hparent]
    rfl
  refine h.get?_initial hvalue ?_
  rw [hparent]
  change (b.processor.data (some s) b.given).value = some value
  rw [Processor.value_data_of_child _ _ hlocal, hkind, h.extract_eq, h.key_eq, hdata]

end Run.Birth

/-! ## A line of starts -/

namespace Line

section

variable [Runtime] {r : Run} {n : Nat} {extract : Extraction} {key : String}

/-- Below a span that has data, down a line on which no span serves a request and no step writes the
key, every span has the same data. -/
theorem get?_initial_carried (l : Line r n) {m : Nat} {value : Value}
    (hvalue : value.recordable = true)
    (hm : (l.birth m).initial.attributes.get? key = some value)
    (hreceives : ∀ i, m < i → i ≤ n → (l.birth i).Receives extract key)
    (hkind : ∀ i, m ≤ i → i < n → (l.birth i).start.kind ≠ .server)
    (hkey : ∀ i, m ≤ i → i < n → (l.birth i).Unwritten key (l.birth (i + 1)).position)
    {i : Nat} (hmi : m ≤ i) (hin : i ≤ n) :
    (l.birth i).initial.attributes.get? key = some value := by
  -- down the line from the span that has the data; every span has it from its start
  induction i, hmi using Nat.le_induction with
  | base => exact hm
  | succ i hmi ih =>
    have hchild := l.child i hin
    rcases Run.Birth.exists_span? hchild.named with ⟨s, hs, -⟩
    -- nothing has written the key on the parent since its own start
    have hcarried : s.attributes.get? key = some value := by
      rw [Run.Birth.get?_of_unwritten hchild.named (hkey i hmi hin) hs]
      exact ih (Nat.le_of_lt hin)
    refine Run.Birth.get?_initial_of_child (hreceives (i + 1) (by omega) hin) hchild hs hvalue ?_
    rw [if_neg (hkind i hmi hin)]
    exact hcarried

/-- Below a span that serves a request, up to the next one, every span has the data that the first
of them took from it. -/
theorem get?_initial_below_server (l : Line r n) (htext : GivesText extract) {j : Nat} (hj : j < n)
    (hserver : (l.birth j).start.kind = .server)
    (hreceives : ∀ i, j < i → i ≤ n → (l.birth i).Receives extract key)
    (hkind : ∀ i, j < i → i < n → (l.birth i).start.kind ≠ .server)
    (hkey : ∀ i, j < i → i < n → (l.birth i).Unwritten key (l.birth (i + 1)).position)
    {s : Span} (hs : (l.birth j).span? (l.birth (j + 1)).position = some s) :
    (l.birth n).initial.attributes.get? key = (extract s).value := by
  rcases htext s with ⟨text, hvalue⟩
  have hfirst : (l.birth (j + 1)).initial.attributes.get? key = some (.string text) := by
    refine Run.Birth.get?_initial_of_child (hreceives (j + 1) (by omega) hj) (l.child j hj) hs rfl ?_
    rw [if_pos hserver, hvalue]
  rw [hvalue]
  exact l.get?_initial_carried rfl hfirst (fun i hi => hreceives i (by omega))
    (fun i hi => hkind i (by omega)) (fun i hi => hkey i (by omega)) hj (Nat.le_refl n)

/-- Below a local root that serves no request, down to the first span that does, every span has the
data that the root took from itself. -/
theorem get?_initial_below_root (l : Line r n) (htext : GivesText extract)
    (hroot : (l.birth 0).start.IsRoot)
    (hreceives : ∀ i ≤ n, (l.birth i).Receives extract key)
    (hkind₀ : (l.birth 0).start.kind ≠ .server)
    (hkind : ∀ i < n, (l.birth i).start.kind ≠ .server)
    (hkey : ∀ i < n, (l.birth i).Unwritten key (l.birth (i + 1)).position) :
    (l.birth n).initial.attributes.get? key = (extract (l.birth 0).marked).value := by
  have h₀ := hreceives 0 (Nat.zero_le n)
  have hown := Run.Birth.get?_initial_of_root h₀ htext hroot hkind₀
  rcases htext (l.birth 0).marked with ⟨text, hvalue⟩
  rw [hvalue] at hown ⊢
  exact l.get?_initial_carried rfl hown (fun i _ => hreceives i) (fun i _ => hkind i)
    (fun i _ => hkey i) (Nat.zero_le n) (Nat.le_refl n)

/-- The data of the last span of a line that begins with a local root. If spans above it serve
requests, the data is taken from the nearest of them, as it was when the line went on below it; if
none does, the local root took it from itself when it started. -/
theorem data_handed_down (l : Line r n) (hn : 1 ≤ n) (htext : GivesText extract)
    (hroot : (l.birth 0).start.IsRoot)
    (hreceives : ∀ i ≤ n, (l.birth i).Receives extract key)
    (hkey : ∀ i < n, (l.birth i).Unwritten key (l.birth (i + 1)).position) :
    ∃ last, (l.birth n).span? ((l.birth n).position + 1) = some last ∧
      (∀ j < n, (l.birth j).start.kind = .server →
        (∀ i, j < i → i < n → (l.birth i).start.kind ≠ .server) →
        ∃ s, (l.birth j).span? (l.birth (j + 1)).position = some s ∧
          last.attributes.get? key = (extract s).value) ∧
      ((∀ i < n, (l.birth i).start.kind ≠ .server) →
        last.attributes.get? key = (extract (l.birth 0).marked).value ∧
          (extract = Extractor.ingress.take →
            last.attributes.get? key = some (.string Span.internalOperation))) := by
  refine ⟨(l.birth n).initial, (l.birth n).span?_succ_position, ?_, ?_⟩
  · -- the nearest span above that serves a request
    intro j hj hserver hkind
    rcases Run.Birth.exists_span? (l.child j hj).named with ⟨s, hs, -⟩
    refine ⟨s, hs, ?_⟩
    exact l.get?_initial_below_server htext hj hserver (fun i _ => hreceives i) hkind
      (fun i _ => hkey i) hs
  · -- no span above serves a request
    intro hkind
    have hdata := l.get?_initial_below_root htext hroot hreceives (hkind 0 hn) hkind hkey
    refine ⟨hdata, ?_⟩
    rintro rfl
    have hmarked := Run.Birth.isLocalRoot_marked (hreceives 0 (Nat.zero_le n)) hroot
    rw [hdata]
    exact ingress_of_root hmarked (hkind 0 hn)

end

/-- A request from another process, renamed before the work below it starts, which calls out. -/
def checkout : Run where
  origin := .new "shop"
  steps :=
    [.install .name "app.operation" ["app.tenant"],
     .start ⟨"request", "POST", .server, [("http.method", .string "POST")],
       .context ⟨"000000000000000000000000000000aa", "00000000000000bb", true⟩, false⟩,
     .rename "request" "checkout",
     .start ⟨"work", "price", .internal, [("app.operation", .string "none")], .span "request",
       false⟩,
     .rename "request" "late",
     .start ⟨"call", "GET", .client, [], .span "work", false⟩]

def checkoutLine : Line checkout 2 where
  birth
    | 0 => (checkout.birthAt? 1).get (by decide)
    | 1 => (checkout.birthAt? 3).get (by decide)
    | _ => (checkout.birthAt? 5).get (by decide)
  child
    | 0, _ => ⟨by decide, by rfl, Run.Birth.named_of_distinct (by decide) _ (by decide)⟩
    | 1, _ => ⟨by decide, by rfl, Run.Birth.named_of_distinct (by decide) _ (by decide)⟩

/-- In `checkout` the call carries the name that the request had when the work below it started. -/
theorem data_handed_down_checkout :
    ∃ last, (checkoutLine.birth 2).span? 6 = some last ∧
      last.attributes.get? "app.operation" = some (.string "checkout") := by
  have hreceives : ∀ i ≤ 2, (checkoutLine.birth i).Receives Extractor.name.take "app.operation"
    | 0, _ => ⟨rfl, rfl, by decide, by decide, by decide, by decide⟩
    | 1, _ => ⟨rfl, rfl, by decide, by decide, by decide, by decide⟩
    | 2, _ => ⟨rfl, rfl, by decide, by decide, by decide, by decide⟩
  have hkey : ∀ i < 2, (checkoutLine.birth i).Unwritten "app.operation"
      (checkoutLine.birth (i + 1)).position := by
    intro i _
    exact Run.Birth.unwritten_of_spares (by decide) _ _
  have hroot : (checkoutLine.birth 0).start.IsRoot := .inr (.inr ⟨_, rfl, .inr rfl⟩)
  rcases data_handed_down checkoutLine (by decide) (fun s => ⟨s.name, rfl⟩) hroot hreceives hkey
    with ⟨last, hlast, hserver, -⟩
  have hkind : ∀ i, 0 < i → i < 2 → (checkoutLine.birth i).start.kind ≠ .server := by
    intro i hi hin
    have hone : i = 1 := by omega
    subst hone
    decide
  rcases hserver 0 (by decide) rfl hkind with ⟨s, hs, hdata⟩
  have hname : ((checkoutLine.birth 0).span? 3).map Span.name = some "checkout" := by rfl
  change (checkoutLine.birth 0).span? 3 = some s at hs
  rw [hs] at hname
  have hsname : s.name = "checkout" := Option.some.inj hname
  refine ⟨last, hlast, ?_⟩
  rw [hdata, ← hsname]
  rfl

end Line

end SpanMetrics
