import Mathlib.Data.List.TakeWhile
import SpanMetrics.Proofs.Route
import SpanMetrics.Proofs.Span.Operation

/-!
# SpanMetrics.Proofs.Span.Ingress — which operations a span can enter the service under

The operation is the name of the span where that says something, or else the method with one segment of
the path, which keeps the number of different operations small. Only a span of which the method or the path
is unknown falls back to a fixed operation.

* `Route.exists_segment` — a route is a slash and one segment.
* `Span.hasPath_iff` — where the path of a request is taken from.
* `Span.ingressOperation_bounded` — what the operation of a span can look like.
-/

namespace SpanMetrics

namespace Route

/-- The text is a single segment: none ends in it. -/
def IsSegment (s : String) : Prop :=
  ∀ c ∈ s.toList, c ≠ '/' ∧ c ≠ '?' ∧ c ≠ '#'

/-- The text begins where a segment ends. -/
def BeginsAtEnd (s : String) : Prop :=
  ∀ c, s.toList.head? = some c → c = '/' ∨ c = '?' ∨ c = '#'

theorem endsSegment_iff {c : Char} : endsSegment c = true ↔ c = '/' ∨ c = '?' ∨ c = '#' := by
  simp [endsSegment, or_assoc]

theorem endsSegment_eq_false_iff {c : Char} :
    endsSegment c = false ↔ c ≠ '/' ∧ c ≠ '?' ∧ c ≠ '#' := by
  simp [endsSegment, and_assoc]

/-- A route is a slash and one segment. -/
theorem exists_segment (target : String) :
    ∃ segment, IsSegment segment ∧ ofTarget target = "/" ++ segment := by
  refine ⟨(segment? target).getD "", ?_, rfl⟩
  rw [segment?_eq]
  cases hsegment : (target.toList.splitOnP endsSegment)[1]? with
  | none => simp [IsSegment]
  | some segment =>
    intro c hc
    have hmem := Text.of_mem_splitOnP (List.mem_of_getElem? hsegment) c (by simpa using hc)
    exact endsSegment_eq_false_iff.1 hmem.2

/-- The route of a path is its first segment. -/
theorem ofTarget_segment {segment tail : String} (hsegment : IsSegment segment)
    (htail : BeginsAtEnd tail) : ofTarget ("/" ++ segment ++ tail) = "/" ++ segment := by
  have hbare : "/" ++ segment = .ofList ('/' :: segment.toList) := by
    rw [← String.toList_inj]
    simp
  have hwhole : segment.toList.takeWhile (!endsSegment ·) = segment.toList := by
    refine List.takeWhile_eq_self_iff.2 ?_
    intro c hc
    rw [endsSegment_eq_false_iff.2 (hsegment c hc)]
    rfl
  rw [ofTarget_append (by simp) fun c hc => endsSegment_iff.2 (htail c hc), hbare, ofTarget_slash,
    hwhole, String.ofList_toList, hbare]

end Route

namespace Span

variable {s : Span}

/-! ## Paths of requests -/

/-- The path of a request: its target, or else the path of its URL. Of the two keys for the one and the
two for the other, the first that is present counts. -/
inductive HasPath [Runtime] (s : Span) : String → Prop
  | target {path : String}
      (target_eq : s.attributes.firstText? [Key.httpTarget, Key.urlPath] = some path) :
      HasPath s path
  | url {text : String} {url : Url}
      (no_target : s.attributes.firstText? [Key.httpTarget, Key.urlPath] = none)
      (text_eq : s.attributes.firstText? [Key.httpUrl, Key.urlFull] = some text)
      (parse_eq : Url.parse? text = some url) : HasPath s url.pathname

theorem hasPath_iff [Runtime] {path : String} :
    s.HasPath path ↔ s.requestPath.value = some path := by
  rw [value_requestPath, value_requestUrl]
  constructor
  · rintro (htarget | ⟨hnone, htext, hparse⟩)
    · have htarget' : s.httpTarget? = some path := htarget
      rw [htarget', Option.some_or]
    · have hnone' : s.httpTarget? = none := hnone
      have htext' : s.httpUrl? = some _ := htext
      rw [hnone', htext', Option.none_or, Option.bind_some, hparse, Option.map_some]
  · intro h
    rcases Option.or_eq_some_iff.1 h with htarget | ⟨hnone, hurl⟩
    · exact .target htarget
    · obtain ⟨url, hbind, rfl⟩ := Option.map_eq_some_iff.1 hurl
      obtain ⟨text, htext, hparse⟩ := Option.bind_eq_some_iff.1 hbind
      exact .url hnone htext hparse

/-! ## Operations -/

theorem isInternalRoot_iff : s.isInternalRoot = true ↔ s.isLocalRoot = true ∧ s.kind ≠ .server := by
  simp [isInternalRoot]

/-- The name of a span says something unless it is empty, the mark for an unknown operation or the
method. -/
theorem isNamed_iff : s.isNamed = true ↔
    s.name ≠ "" ∧ s.name ≠ unknownOperation ∧ s.httpMethod? ≠ some s.name := by
  simp [isNamed, and_assoc]

theorem isNamed_eq_false_iff : s.isNamed = false ↔
    s.name = "" ∨ s.name = unknownOperation ∨ s.httpMethod? = some s.name := by
  rw [← Bool.not_eq_true, isNamed_iff, not_and_or, not_and_or, not_not, not_not, not_not]

/-- Where neither the kind nor the name decides, the method and the path do, if both are known. -/
inductive Fallback [Runtime] (s : Span) (operation : String) : Prop
  | request {method path : String} (method_eq : s.httpMethod? = some method)
      (hasPath : s.HasPath path) (operation_eq : operation = method ++ " " ++ Route.ofTarget path)
  | fixed (unknown : s.httpMethod? = none ∨ ∀ path, ¬ s.HasPath path)
      (operation_eq : operation = if s.isLocalRoot then internalOperation else unknownOperation)

theorem fallback_requestOperation [Runtime] (s : Span) :
    s.Fallback (s.requestOperation.value.getD
      (if s.isLocalRoot then internalOperation else unknownOperation)) := by
  rw [value_requestOperation]
  cases hmethod : s.httpMethod? with
  | none => exact .fixed (.inl hmethod) rfl
  | some method =>
    cases hpath : s.requestPath.value with
    | none =>
      refine .fixed (.inr ?_) rfl
      intro path h
      rw [hasPath_iff, hpath] at h
      cases h
    | some path => exact .request hmethod (hasPath_iff.2 hpath) rfl

/-- The ways in which a span has its operation. -/
theorem ingressOperation_cases [Runtime] (s : Span) :
    (s.isInternalRoot = true ∧ s.ingressOperation.value = internalOperation) ∨
      s.isInternalRoot = false ∧
        ((s.isNamed = true ∧ s.ingressOperation.value = s.name) ∨
          (s.isNamed = false ∧ s.Fallback s.ingressOperation.value)) := by
  rw [value_ingressOperation]
  cases s.isInternalRoot with
  | true => exact .inl ⟨rfl, rfl⟩
  | false =>
    cases s.isNamed with
    | true => exact .inr ⟨rfl, .inl ⟨rfl, rfl⟩⟩
    | false => exact .inr ⟨rfl, .inr ⟨rfl, s.fallback_requestOperation⟩⟩

/-- A text with a space is neither empty nor the mark for an unknown operation. -/
theorem append_space_append_ne (method route : String) :
    method ++ " " ++ route ≠ "" ∧ method ++ " " ++ route ≠ unknownOperation := by
  have hspace : ' ' ∈ (method ++ " " ++ route).toList := by simp
  constructor
  · intro h
    rw [h] at hspace
    exact absurd hspace (by decide)
  · intro h
    rw [h] at hspace
    exact absurd hspace (by decide)

theorem Fallback.ne_empty [Runtime] {operation : String} (h : s.Fallback operation) :
    operation ≠ "" := by
  cases h with
  | request _ _ hoperation =>
    rw [hoperation]
    exact (append_space_append_ne _ _).1
  | fixed _ hoperation =>
    rw [hoperation]
    split <;> decide

theorem Fallback.ne_unknownOperation [Runtime] {operation : String} (h : s.Fallback operation)
    (hroot : s.isLocalRoot = true) : operation ≠ unknownOperation := by
  cases h with
  | request _ _ hoperation =>
    rw [hoperation]
    exact (append_space_append_ne _ _).2
  | fixed _ hoperation =>
    rw [hoperation, if_pos hroot]
    decide

/-- The operation under which a span enters the service is never empty. It is the internal operation for a
local root that serves no request, and never the mark for an unknown one for a local root. For any other
span it is the name where that says something. Otherwise it is the method with a single segment, the first
one of the path; only if the method or the path is unknown, it is one of the two fixed operations. -/
theorem ingressOperation_bounded [Runtime] (s : Span) :
    s.ingressOperation.value ≠ "" ∧
    (s.isLocalRoot = true → s.kind ≠ .server → s.ingressOperation.value = internalOperation) ∧
    (s.isLocalRoot = true → s.ingressOperation.value ≠ unknownOperation) ∧
    (¬ (s.isLocalRoot = true ∧ s.kind ≠ .server) →
      (s.ingressOperation.value = s.name ∧
          s.name ≠ "" ∧ s.name ≠ unknownOperation ∧ s.httpMethod? ≠ some s.name) ∨
        (s.name = "" ∨ s.name = unknownOperation ∨ s.httpMethod? = some s.name) ∧
          ((∃ method path segment, s.httpMethod? = some method ∧ s.HasPath path ∧
              s.ingressOperation.value = method ++ " /" ++ segment ∧ Route.IsSegment segment ∧
              ∀ first tail, path = "/" ++ first ++ tail → Route.IsSegment first →
                Route.BeginsAtEnd tail → segment = first) ∨
            (s.ingressOperation.value = internalOperation ∨
                s.ingressOperation.value = unknownOperation) ∧
              (s.httpMethod? = none ∨ ∀ path, ¬ s.HasPath path))) := by
  have hserver : s.isInternalRoot = false → ¬ (s.isLocalRoot = true ∧ s.kind ≠ .server) := by
    intro hother hinternal
    rw [isInternalRoot_iff.2 hinternal] at hother
    cases hother
  rcases s.ingressOperation_cases with ⟨hinternal, hvalue⟩ |
    ⟨hother, ⟨hnamed, hvalue⟩ | ⟨hunnamed, hfallback⟩⟩
  · -- a local root that serves no request
    rw [hvalue]
    exact ⟨by decide, fun _ _ => rfl, fun _ => by decide,
      fun hnot => absurd (isInternalRoot_iff.1 hinternal) hnot⟩
  · obtain ⟨hne, hunknown, hmethod⟩ := isNamed_iff.1 hnamed
    rw [hvalue]
    exact ⟨hne, fun hroot hkind => absurd ⟨hroot, hkind⟩ (hserver hother), fun _ => hunknown,
      fun _ => .inl ⟨rfl, hne, hunknown, hmethod⟩⟩
  · refine ⟨hfallback.ne_empty, fun hroot hkind => absurd ⟨hroot, hkind⟩ (hserver hother),
      hfallback.ne_unknownOperation, fun _ => .inr ⟨isNamed_eq_false_iff.1 hunnamed, ?_⟩⟩
    cases hfallback with
    | @request method path hmethod hpath hoperation =>
      obtain ⟨segment, hsegment, hroute⟩ := Route.exists_segment path
      refine .inl ⟨method, path, segment, hmethod, hpath, ?_, hsegment, ?_⟩
      · have hslash : " " ++ ("/" ++ segment) = " /" ++ segment := String.append_assoc.symm
        rw [hoperation, hroute, String.append_assoc, hslash, ← String.append_assoc]
      · -- a path that begins with a segment has it as its route
        intro first tail hform hfirst htail
        rw [hform, Route.ofTarget_segment hfirst htail] at hroute
        exact (String.append_right_inj _).1 hroute.symm
    | fixed hunknown hoperation =>
      refine .inr ⟨?_, hunknown⟩
      rw [hoperation]
      split
      · exact .inl rfl
      · exact .inr rfl

/-- A request for an order, of which the name of the span says no more than the method. -/
def servedOrder : Span where
  id := "8"
  name := "GET"
  kind := .server
  parentId := none
  attributes := .ofList [("aws.is.local.root", .bool true), ("http.request.method", .string "GET"),
    ("url.path", .string "/orders#7/items?id=1"), ("url.full", .string "https://shop/baskets")]
  scope := none

/-- The fragment of the path and the URL do not count. -/
theorem ingressOperation_bounded_order :
    servedOrder.ingressOperation.value = "GET /orders" := by
  have hmethod : servedOrder.httpMethod? = some "GET" := by decide
  have hpath : servedOrder.HasPath ("/" ++ "orders" ++ "#7/items?id=1") := .target (by decide)
  obtain ⟨-, -, -, hshape⟩ := servedOrder.ingressOperation_bounded
  rcases hshape (by decide) with ⟨-, -, -, hname⟩ |
    ⟨-, ⟨method, path, segment, hmethod', hpath', hvalue, -, hfirst⟩ | ⟨-, hnone | hnone⟩⟩
  · exact absurd hmethod hname
  · obtain rfl := Option.some.inj (hmethod.symm.trans hmethod')
    have hform : path = "/" ++ "orders" ++ "#7/items?id=1" :=
      Option.some.inj ((hasPath_iff.1 hpath').symm.trans (hasPath_iff.1 hpath))
    obtain rfl := hfirst "orders" "#7/items?id=1" hform (by simp [Route.IsSegment])
      (by simp [Route.BeginsAtEnd])
    exact hvalue
  · rw [hmethod] at hnone
    cases hnone
  · exact absurd hpath (hnone _)

end Span

end SpanMetrics
