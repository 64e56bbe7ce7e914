import SpanMetrics.Proofs.Propagation.Start
import SpanMetrics.Proofs.Tracer.Timeline

/-!
# SpanMetrics.Proofs.Tracer.Parentage — parents and local roots in a run

What a span is started under decides whether it is a local root, and no later step changes that
unless it writes the flag.

* `Birth.isLocal_parent_eq_false_iff` — the starts that make local roots (`Start.IsRoot`).
* `Birth.isLocalRoot_of_span?` — a span is a local root, at any time, just if its start made it one.
* `Birth.ChildOf`, `Line` — spans below one another.
-/

namespace SpanMetrics

namespace Start

/-- The start has no parent in this process: it is detached, or under nothing, or under a context
that is not valid or belongs to another process. -/
def IsRoot (start : Start) : Prop :=
  start.detached = true ∨ start.parent = .none ∨
    ∃ c, start.parent = .context c ∧ (c.isValid = false ∨ c.isRemote = true)

/-- The start is under a context of another process, valid or not. -/
def UnderRemote (start : Start) : Prop :=
  start.detached = false ∧ ∃ c, start.parent = .context c ∧ c.isRemote = true

end Start

namespace Run.Birth

variable [Runtime] {r : Run}

/-! ## What a span is started under -/

/-- The three ways in which a start has its parent. -/
theorem parent_cases (b : Birth r) :
    (b.parent = .none ∧ (b.start.detached = true ∨ b.start.parent = .none)) ∨
      (∃ c, b.start.detached = false ∧ b.start.parent = .context c ∧ b.parent = .context c) ∨
      ∃ handle live, b.start.detached = false ∧ b.start.parent = .span handle ∧
        (r.after b.position).find? handle = some live ∧ b.parent = .span live.span := by
  have hparent := b.parent_eq
  unfold Tracer.parent? at hparent
  by_cases hd : b.start.detached = true
  · -- a detached start has no parent, whatever it names
    rw [if_pos hd] at hparent
    exact .inl ⟨(Option.some.inj hparent).symm, .inl hd⟩
  · rw [if_neg hd] at hparent
    have hd' : b.start.detached = false := by simpa using hd
    cases hs : b.start.parent with
    | none =>
      rw [hs] at hparent
      exact .inl ⟨(Option.some.inj hparent).symm, .inr rfl⟩
    | context c =>
      rw [hs] at hparent
      exact .inr (.inl ⟨c, hd', rfl, (Option.some.inj hparent).symm⟩)
    | span handle =>
      rw [hs] at hparent
      rcases Option.map_eq_some_iff.1 hparent with ⟨live, hlive, hspan⟩
      exact .inr (.inr ⟨handle, live, hd', rfl, hlive, hspan.symm⟩)

/-- The parent is not in this process just if the start makes a local root. -/
theorem isLocal_parent_eq_false_iff (b : Birth r) :
    b.parent.isLocal = false ↔ b.start.IsRoot := by
  unfold Start.IsRoot
  rcases b.parent_cases with ⟨hp, hroot⟩ | ⟨c, hd, hs, hp⟩ | ⟨handle, live, hd, hs, -, hp⟩
  · rw [hp]
    constructor
    · intro _
      exact hroot.imp_right .inl
    · intro _
      rfl
  · -- a context counts as a parent here if it is valid and not remote
    rw [hp, hs, hd]
    by_cases hv : c.isValid = true <;> by_cases hr : c.isRemote = true <;>
      simp [Parent.isLocal, hv, hr]
  · rw [hp, hs, hd]
    simp [Parent.isLocal]

theorem isLocal_parent_eq_true_iff (b : Birth r) :
    b.parent.isLocal = true ↔ ¬ b.start.IsRoot := by
  rw [← b.isLocal_parent_eq_false_iff, Bool.not_eq_false]

/-- A local root is started under no span. -/
theorem span?_parent_of_isRoot {b : Birth r} (h : b.start.IsRoot) : b.parent.span? = none := by
  have hlocal := b.isLocal_parent_eq_false_iff.2 h
  cases hp : b.parent with
  | none => rfl
  | context c => rfl
  | span s => rw [hp] at hlocal; cases hlocal

/-- Unless the parent context is remote, the parent id tells a local root as well as the context. -/
theorem isNone_parentId_fresh {b : Birth r} (h : ¬ b.start.UnderRemote) :
    b.fresh.parentId.isNone = !b.parent.isLocal := by
  rw [parentId_fresh]
  rcases b.parent_cases with ⟨hp, -⟩ | ⟨c, hd, hs, hp⟩ | ⟨handle, live, -, -, -, hp⟩
  · rw [hp]
    rfl
  · -- a remote context leaves an id too, and only it makes a difference
    have hr : c.isRemote = false := Bool.eq_false_iff.2 fun hr => h ⟨hd, c, hs, hr⟩
    rw [hp]
    by_cases hv : c.isValid = true <;> simp [Parent.id?, Parent.isLocal, hv, hr]
  · rw [hp]
    rfl

/-! ## Local roots -/

theorem sameSpan_initial (b : Birth r) : b.initial.SameSpan b.fresh :=
  (b.processor.footprint_onStart b.parent b.fresh).sameSpan

/-- What is fixed at the start of a span is read at any later time. -/
theorem sameSpan_of_span? {b : Birth r} {n : Nat} {s : Span} (hn : b.Named n)
    (hs : b.span? n = some s) : s.SameSpan b.fresh := by
  rcases exists_span? hn with ⟨s', hs', hsame⟩
  rw [hs] at hs'
  cases hs'
  exact hsame.trans b.sameSpan_initial

/-- Right after its start a span is a local root just if its parent is not in this process: the flag
says so, and where a full span takes no flag, the parent id does. -/
theorem isLocalRoot_initial {b : Birth r} (hkeys : Key.isLocalRoot ∉ b.processor.keys)
    (hkey : b.processor.key ≠ Key.isLocalRoot)
    (hroom : ¬ b.start.UnderRemote ∨ b.fresh.attributes.hasRoom Key.isLocalRoot = true) :
    b.initial.isLocalRoot = !b.parent.isLocal := by
  have hdata := (b.processor.footprint_data b.parent b.fresh).get?_eq Key.isLocalRoot
    (by simpa using fun h => hkey h.symm)
  by_cases hr : b.fresh.attributes.hasRoom Key.isLocalRoot = true
  · have hgiven := b.processor.get?_isLocalRoot_given hkeys b.parentId_fresh hr
    exact Span.isLocalRoot_of_flag (hdata.trans hgiven)
  · -- a full span without the flag does not take it, and falls back to its parent id
    have hfull : b.fresh.attributes.hasRoom Key.isLocalRoot = false := by simpa using hr
    have hmark : Propagation.Processor.markRoot b.parent b.fresh = b.fresh :=
      Span.record_of_full hfull _
    have hgiven := b.processor.get?_given_of_notMem b.parent b.fresh
      (by decide : Key.isLocalRoot ≠ Key.sdkDescendant)
      (by decide : Key.isLocalRoot ≠ Key.consumerParentKind) hkeys
    rw [hmark, Span.get?_of_full hfull] at hgiven
    have hflag : b.initial.attributes.get? Key.isLocalRoot = none := hdata.trans hgiven
    have hlocal : b.initial.isLocalRoot = b.initial.parentId.isNone := by
      simp [Span.isLocalRoot, Span.localRootFlag?, hflag]
    rw [hlocal, b.sameSpan_initial.parentId_eq]
    exact isNone_parentId_fresh (hroom.resolve_right hr)

/-- At any time, a span on which no step wrote the flag is a local root as it was at its start. -/
theorem isLocalRoot_of_span? {b : Birth r} {n : Nat} {s : Span} (hn : b.Named n)
    (hflag : b.Unwritten Key.isLocalRoot n) (hs : b.span? n = some s) :
    s.isLocalRoot = b.initial.isLocalRoot := by
  have hparent := (sameSpan_of_span? hn hs).parentId_eq
  exact Span.isLocalRoot_congr (get?_of_unwritten hn hflag hs)
    (hparent.trans b.sameSpan_initial.parentId_eq.symm)

/-! ## Descent -/

/-- The span is started with another span of the run as its parent. -/
structure ChildOf (b above : Birth r) : Prop where
  attached : b.start.detached = false
  parent_eq : b.start.parent = .span above.start.handle
  named : above.Named b.position

/-- A child is started under its parent as it is at that time. -/
theorem ChildOf.exists_span {b above : Birth r} (h : b.ChildOf above) :
    ∃ s, b.parent = .span s ∧ above.span? b.position = some s := by
  rcases b.parent_cases with ⟨-, hd | hs⟩ | ⟨c, -, hs, -⟩ | ⟨handle, live, -, hs, hlive, hp⟩
  · rw [h.attached] at hd
    cases hd
  · rw [h.parent_eq] at hs
    cases hs
  · rw [h.parent_eq] at hs
    cases hs
  · rw [h.parent_eq] at hs
    cases hs
    exact ⟨live.span, hp, by simp [span?, live?, hlive]⟩

theorem ChildOf.not_isRoot {b above : Birth r} (h : b.ChildOf above) : ¬ b.start.IsRoot := by
  rcases h.exists_span with ⟨s, hp, -⟩
  rw [← b.isLocal_parent_eq_true_iff, hp]
  rfl

end Run.Birth

/-- A line of descent in a run: spans, each started with the one before it as its parent. -/
structure Line [Runtime] (r : Run) (n : Nat) where
  /-- The spans of the line; those past the `n`-th do not belong to it. -/
  birth : Nat → Run.Birth r
  child : ∀ i < n, (birth (i + 1)).ChildOf (birth i)

end SpanMetrics
