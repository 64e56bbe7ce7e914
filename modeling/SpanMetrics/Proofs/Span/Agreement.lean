import SpanMetrics.Proofs.Footprint
import SpanMetrics.Proofs.Span.Insert
import SpanMetrics.Span.Operation

/-!
# SpanMetrics.Proofs.Span.Agreement — what is read of a span

Each thing that is said about a span is read from the attributes under a few keys. Two spans that
agree on these keys get the same answer, however they differ elsewhere.

* `AgreeOn` — two spans carry the same under each of the keys.
* `AgreeOff` — two spans differ at most in what they carry under the keys.
* `AgreeOff.describesService_congr`, `AgreeOff.describesDependency_congr` — spans that agree on what
  classes are read from give rise to the same metrics.
-/

namespace SpanMetrics.Span

/-! ## Agreement on some keys -/

/-- Two spans carry the same under each of the keys. -/
def AgreeOn (keys : List String) (s s' : Span) : Prop :=
  ∀ key ∈ keys, s.attributes.get? key = s'.attributes.get? key

namespace AgreeOn

variable {keys sub : List String} {key : String} {s s' : Span}

theorem mono (h : AgreeOn keys s s') (hsub : sub ⊆ keys) : AgreeOn sub s s' :=
  fun key hkey => h key (hsub hkey)

theorem has (h : AgreeOn keys s s') (hkey : key ∈ keys) : s.has key = s'.has key := by
  simp only [Span.has, Attributes.has, h key hkey]

theorem string? (h : AgreeOn keys s s') (hkey : key ∈ keys) : s.string? key = s'.string? key := by
  simp only [Span.string?, Attributes.string?, h key hkey]

theorem holds (h : AgreeOn keys s s') (hkey : key ∈ keys) (text : String) :
    s.holds key text = s'.holds key text := by
  simp only [Span.holds, Attributes.holds, Attributes.string?, h key hkey]

theorem text? (h : AgreeOn keys s s') (hkey : key ∈ keys) : s.text? key = s'.text? key := by
  simp only [Span.text?, Attributes.text?, h key hkey]

/-- The first of the keys that is present has the same value. -/
theorem first? (h : AgreeOn keys s s') :
    s.attributes.first? keys = s'.attributes.first? keys := by
  unfold Attributes.first?
  induction keys with
  | nil => rfl
  | cons key keys ih =>
    rw [List.findSome?_cons, List.findSome?_cons, h key List.mem_cons_self,
      ih (h.mono (List.subset_cons_self key keys))]

theorem firstText? (h : AgreeOn keys s s') :
    s.attributes.firstText? keys = s'.attributes.firstText? keys := by
  unfold Attributes.firstText?
  rw [h.first?]

end AgreeOn

/-! ## Calls -/

/-- The keys that tell a call through an AWS client. -/
def awsCallKeys : List String :=
  [Key.rpcSystem, Key.awsService]

/-- The keys that tell a database call. -/
def dbCallKeys : List String :=
  [Key.dbSystem, Key.dbOperation, Key.dbStatement]

/-- The keys that tell an invocation among the calls through an AWS client. -/
def invocationKeys : List String :=
  [Key.rpcService, Key.rpcMethod]

variable {s s' : Span}

theorem isAwsCall_congr (h : AgreeOn awsCallKeys s s') : s.isAwsCall = s'.isAwsCall := by
  have hsystem : Key.rpcSystem ∈ awsCallKeys := by decide
  have hservice : Key.awsService ∈ awsCallKeys := by decide
  simp only [isAwsCall, h.has hsystem, h.has hservice, h.holds hsystem]

theorem isDbCall_congr (h : AgreeOn dbCallKeys s s') : s.isDbCall = s'.isDbCall := by
  have hsystem : Key.dbSystem ∈ dbCallKeys := by decide
  have hoperation : Key.dbOperation ∈ dbCallKeys := by decide
  have hstatement : Key.dbStatement ∈ dbCallKeys := by decide
  simp only [isDbCall, h.has hsystem, h.has hoperation, h.has hstatement]

theorem isInvocation_congr (haws : s.isAwsCall = s'.isAwsCall) (h : AgreeOn invocationKeys s s') :
    s.isInvocation = s'.isInvocation := by
  have hservice : Key.rpcService ∈ invocationKeys := by decide
  have hmethod : Key.rpcMethod ∈ invocationKeys := by decide
  simp only [isInvocation, haws, h.holds hservice, h.holds hmethod]

/-! ## Agreement off some keys -/

/-- Two spans that differ at most in what they carry under the keys. -/
structure AgreeOff (keys : List String) (s s' : Span) : Prop where
  sameSpan : s.SameSpan s'
  name_eq : s.name = s'.name
  get?_eq : ∀ key, key ∉ keys → s.attributes.get? key = s'.attributes.get? key

/-- Two values of one attribute. -/
theorem agreeOff_insert (s : Span) {key : String} {keys : List String} (hkey : key ∈ keys)
    (v v' : Value) : AgreeOff keys (s.insert key v) (s.insert key v') where
  sameSpan := ⟨rfl, rfl, rfl, rfl⟩
  name_eq := rfl
  get?_eq k hk := by
    have hne : k ≠ key := fun h => hk (h ▸ hkey)
    simp [insert, hne]

/-- An attribute taken away. -/
theorem agreeOff_erase (s : Span) (key : String) : AgreeOff [key] (s.erase key) s where
  sameSpan := ⟨rfl, rfl, rfl, rfl⟩
  name_eq := rfl
  get?_eq k hk := by
    rw [List.mem_singleton] at hk
    simp [erase, hk]

/-- The keys from which classes are read that depend on more than the attributes. -/
def classKeys : List String :=
  [Key.isLocalRoot, Key.messagingOperation, Key.consumerParentKind]

namespace AgreeOff

variable {keys : List String}

theorem on (h : AgreeOff keys s s') {others : List String} (hothers : ∀ key ∈ others, key ∉ keys) :
    AgreeOn others s s' :=
  fun key hkey => h.get?_eq key (hothers key hkey)

theorem isLocalRoot_congr (h : AgreeOff keys s s') (hkey : Key.isLocalRoot ∉ keys) :
    s.isLocalRoot = s'.isLocalRoot :=
  Span.isLocalRoot_congr (h.get?_eq _ hkey) h.sameSpan.parentId_eq

theorem isInternalRoot_congr (h : AgreeOff keys s s') (hkey : Key.isLocalRoot ∉ keys) :
    s.isInternalRoot = s'.isInternalRoot := by
  simp only [isInternalRoot, h.isLocalRoot_congr hkey, h.sameSpan.kind_eq]

variable (h : AgreeOff keys s s') (hclass : ∀ key ∈ classKeys, key ∉ keys)
include h hclass

theorem isQueuePoll_congr : s.isQueuePoll = s'.isQueuePoll := by
  have hoperation : Key.messagingOperation ∈ classKeys := by decide
  simp only [isQueuePoll, h.name_eq, h.sameSpan.kind_eq, h.sameSpan.scope_eq,
    (h.on hclass).has hoperation, (h.on hclass).holds hoperation]

theorem isDependencyConsumer_congr : s.isDependencyConsumer = s'.isDependencyConsumer := by
  have hoperation : Key.messagingOperation ∈ classKeys := by decide
  have hparent : Key.consumerParentKind ∈ classKeys := by decide
  have hroot := h.isLocalRoot_congr (hclass Key.isLocalRoot (by decide))
  simp only [isDependencyConsumer, isConsumerProcess, h.sameSpan.kind_eq, hroot,
    (h.on hclass).holds hoperation, (h.on hclass).holds hparent]

theorem describesService_congr : s.describesService = s'.describesService := by
  have hroot := h.isLocalRoot_congr (hclass Key.isLocalRoot (by decide))
  simp only [describesService, hroot, h.isQueuePoll_congr hclass, h.sameSpan.kind_eq]

theorem describesDependency_congr : s.describesDependency = s'.describesDependency := by
  simp only [describesDependency, h.sameSpan.kind_eq, h.isDependencyConsumer_congr hclass,
    h.isQueuePoll_congr hclass]

end AgreeOff

end SpanMetrics.Span
