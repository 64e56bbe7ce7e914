import Mathlib.Tactic.FinCases
import SpanMetrics.Proofs.Arn
import SpanMetrics.Proofs.Remote.Precedence

/-!
# SpanMetrics.Proofs.Remote.Located — resources that are known by a name, by an ARN or by a URL

A table or a stream is known by its name, or by an ARN that ends in a label and the name; a queue is
known by its URL, with or without its name. Each of these is found by a rule of its own, and all of them
report one resource.

* `Arn.name_labelled` — the name in an ARN is read back without the label.
* `value_resource_of_carries` — the resource of a call that is known by a few attributes alone.
* `named_as_located` — the name, the ARN and both together report the same.
-/

namespace SpanMetrics

namespace Arn

/-- The ARN of a resource whose name stands behind a label. -/
def labelled (partition service region account label name : String) : String :=
  "arn:" ++ partition ++ ":" ++ service ++ ":" ++ region ++ ":" ++ account ++ ":" ++ label ++ name

/-- The name behind the label is read back, also if it starts with the label itself. -/
theorem name_labelled {partition service region account label name : String}
    (hpartition : IsField partition) (hservice : IsField service) (hregion : IsField region)
    (haccount : Text.IsDigits account) (hlabel : IsField label) (hname : IsField name) :
    (ofValue? (.string (labelled partition service region account label name))).map
      (fun arn => unlabelled label arn.name) = some name := by
  have hpart : IsField (label ++ name) := by
    simpa [IsField] using And.intro hlabel hname
  have hread : ofValue? (.string (labelled partition service region account label name)) =
      some ⟨partition, service, region, account, [label ++ name], by simp⟩ := by
    refine ofValue?_eq_some_iff.2
      ⟨⟨hpartition, hservice, hregion, haccount, by simpa using hpart⟩, ?_⟩
    unfold labelled
    rw [text_eq_append, String.intercalate_singleton]
    exact congrArg Value.string String.append_assoc
  rw [hread, Option.map_some, Arn.name, List.getLast_singleton, unlabelled_append]

end Arn

namespace Remote

/-! ## Calls that are known by a few attributes -/

/-- The key under which the rule finds the name of a resource. -/
def Rule.nameKey? : Rule → Option String
  | .aws _ _ naming _ => some naming.key
  | .connection => none

/-- The keys under which the rules find the names of the resources of AWS services. -/
def nameKeys : List String :=
  Rule.all.filterMap Rule.nameKey?

/-- A call through an AWS client that carries the attributes, and no others in which a rule would find
the name of a resource. -/
structure Carries (s : Span) (entries : List (String × Value)) : Prop where
  isAwsCall : s.isAwsCall = true
  get?_eq : ∀ key ∈ nameKeys, s.attributes.get? key = entries.lookup key

variable {s : Span} {entries : List (String × Value)}

/-- A key from which something is read is present. -/
theorem has_of_read {α : Type} {key : String} {read : Value → Option α} {a : α}
    (h : (s.attributes.get? key).bind read = some a) : s.has key = true := by
  obtain ⟨value, hvalue, -⟩ := Option.bind_eq_some_iff.1 h
  simp [Span.has, Attributes.has, hvalue]

/-- A rule that finds a name claims the call. -/
theorem Naming.isOn_of_name? {naming : Naming} {name : String} (h : naming.name? s = some name) :
    naming.isOn s = true := by
  cases naming with
  | string key => exact has_of_read h
  | only key => exact Option.isSome_iff_exists.2 ⟨name, h⟩
  | uninvoked key =>
    rw [name?] at h
    split at h
    · cases h
    · exact has_of_read h
  | arn key label =>
    obtain ⟨arn, harn, -⟩ := Option.map_eq_some_iff.1 h
    exact has_of_read harn
  | queue key =>
    obtain ⟨url, hurl, -⟩ := Option.map_eq_some_iff.1 h
    exact has_of_read hurl

/-- A rule that finds its key absent does not claim the call. -/
theorem Rule.claims_of_absent {rule : Rule} (haws : s.isAwsCall = true)
    (h : ∀ key, rule.nameKey? = some key → s.attributes.get? key = none) :
    rule.claims s = false := by
  cases rule with
  | connection => simp [claims, haws]
  | aws service kind naming primary =>
    have hnone := h naming.key rfl
    have hoff : naming.isOn s = false := by
      cases naming with
      | only key => simp [Naming.isOn, Naming.name?, show s.attributes.get? key = none from hnone]
      | _ => simp [Naming.isOn, Span.has, Attributes.has, hnone]
    simp [claims, hoff]

/-- The resource of a call that is known by a few attributes alone is the one of the first rule that reads
one of them, if it finds a name there. -/
theorem value_resource_of_carries [Runtime] (place : Nat) (keys : List String)
    (h : Carries s entries) (hkeys : entries.map (·.1) = keys) {service kind : String}
    {naming : Naming} {primary : Primary}
    (hplace : Rule.all[place]? = some (.aws service kind naming primary))
    (hbefore : ∀ earlier ∈ Rule.all.take place, ∀ key ∈ earlier.nameKey?, key ∉ keys)
    {name : String} (hname : naming.name? s = some name) :
    (resource s).value = some ⟨(Rule.aws service kind naming primary).type, Delimited.encode name,
      primary.identifier s name⟩ := by
  have hfirst : FirstClaim s place (.aws service kind naming primary) := by
    refine ⟨hplace, by simp [Rule.claims, h.isAwsCall, Naming.isOn_of_name? hname], ?_⟩
    intro i earlier hi hearlier
    have hmem := Rule.mem_take_of_getElem? hi hearlier
    refine Rule.claims_of_absent h.isAwsCall ?_
    intro key hkey
    have hread : key ∈ nameKeys := List.mem_filterMap.2 ⟨earlier, List.mem_of_mem_take hmem, hkey⟩
    have hnot : key ∉ entries.map (·.1) := hkeys ▸ hbefore earlier hmem key hkey
    rw [h.get?_eq key hread]
    exact Option.not_isSome_iff_eq_none.1 fun hsome =>
      hnot ((Attributes.mem_keys_iff entries key).2 hsome)
  rw [hfirst.value_resource]
  simp [Rule.resource, hname]

/-! ## Names and locators -/

section
variable {key name : String}

theorem name?_string (h : s.attributes.get? key = some (.string name)) :
    (Naming.string key).name? s = some name := by
  simp [Naming.name?, Span.string?, Attributes.string?, h, Value.string?]

theorem name?_only (h : s.attributes.get? key = some (.list [.string name])) :
    (Naming.only key).name? s = some name := by
  simp [Naming.name?, Naming.onlyString?, h, Value.string?]

theorem name?_arn {partition service region account label : String}
    (hpartition : Arn.IsField partition) (hservice : Arn.IsField service)
    (hregion : Arn.IsField region) (haccount : Text.IsDigits account) (hlabel : Arn.IsField label)
    (hname : Arn.IsField name) (h : s.attributes.get? key =
      some (.string (Arn.labelled partition service region account label name))) :
    (Naming.arn key label).name? s = some name := by
  rw [Naming.name?, h, Option.bind_some]
  exact Arn.name_labelled hpartition hservice hregion haccount hlabel hname

theorem name?_queue {url : String} (h : s.attributes.get? key = some (.string url))
    (hqueue : (QueueUrl.ofValue? (.string url)).map QueueUrl.queue = some name) :
    (Naming.queue key).name? s = some name := by
  rw [Naming.name?, h, Option.bind_some, hqueue]

end

/-- The name of a table or of a stream and the ARN that ends in it report one resource, by themselves and
together; and so does the URL of a queue, with or without the name of the queue. -/
theorem named_as_located [Runtime] :
    (∀ name partition service region account : String, Arn.IsField name → Arn.IsField partition →
      Arn.IsField service → Arn.IsField region → Text.IsDigits account →
        (∀ s, (Carries s [(Key.tableNames, .list [.string name])] ∨
            Carries s [(Key.tableArn,
              .string (Arn.labelled partition service region account "table/" name))] ∨
            Carries s [(Key.tableNames, .list [.string name]), (Key.tableArn,
              .string (Arn.labelled partition service region account "table/" name))]) →
          (resource s).value =
            some ⟨"AWS::DynamoDB::Table", Delimited.encode name, Delimited.encode name⟩) ∧
        ∀ s, (Carries s [(Key.streamName, .string name)] ∨
            Carries s [(Key.streamArn,
              .string (Arn.labelled partition service region account "stream/" name))] ∨
            Carries s [(Key.streamName, .string name), (Key.streamArn,
              .string (Arn.labelled partition service region account "stream/" name))]) →
          (resource s).value =
            some ⟨"AWS::Kinesis::Stream", Delimited.encode name, Delimited.encode name⟩) ∧
    ∀ url queue : String, (QueueUrl.ofValue? (.string url)).map QueueUrl.queue = some queue →
      ∀ s, (Carries s [(Key.queueUrl, .string url)] ∨
          Carries s [(Key.queueUrl, .string url), (Key.queueName, .string queue)]) →
        (resource s).value =
          some ⟨"AWS::SQS::Queue", Delimited.encode queue, Delimited.encode url⟩ := by
  refine ⟨?_, ?_⟩
  · intro name partition service region account hname hpartition hservice hregion haccount
    constructor
    · have htable : Arn.IsField Arn.tableLabel := by decide
      rintro s (h | h | h)
      · exact value_resource_of_carries 0 [Key.tableNames] h rfl rfl (by decide)
          (name?_only (h.get?_eq Key.tableNames (by decide)))
      · exact value_resource_of_carries 1 [Key.tableArn] h rfl rfl (by decide)
          (name?_arn hpartition hservice hregion haccount htable hname
            (h.get?_eq Key.tableArn (by decide)))
      · -- the rule for names comes before the one for ARNs
        exact value_resource_of_carries 0 [Key.tableNames, Key.tableArn] h rfl rfl (by decide)
          (name?_only (h.get?_eq Key.tableNames (by decide)))
    · have hstream : Arn.IsField Arn.streamLabel := by decide
      rintro s (h | h | h)
      · exact value_resource_of_carries 2 [Key.streamName] h rfl rfl (by decide)
          (name?_string (h.get?_eq Key.streamName (by decide)))
      · exact value_resource_of_carries 3 [Key.streamArn] h rfl rfl (by decide)
          (name?_arn hpartition hservice hregion haccount hstream hname
            (h.get?_eq Key.streamArn (by decide)))
      · exact value_resource_of_carries 2 [Key.streamName, Key.streamArn] h rfl rfl (by decide)
          (name?_string (h.get?_eq Key.streamName (by decide)))
  · intro url queue hqueue s h
    have hurl : s.attributes.get? Key.queueUrl = some (.string url) := by
      rcases h with h | h <;> exact h.get?_eq Key.queueUrl (by decide)
    -- both rules register the queue under its URL
    have hprimary : (Primary.string Key.queueUrl).identifier s queue = Delimited.encode url := by
      simp [Primary.identifier, Span.string?, Attributes.string?, hurl, Value.string?]
    rw [← hprimary]
    rcases h with h | h
    · exact value_resource_of_carries 10 [Key.queueUrl] h rfl rfl (by decide)
        (name?_queue hurl hqueue)
    · exact value_resource_of_carries 9 [Key.queueUrl, Key.queueName] h rfl rfl (by decide)
        (name?_string (h.get?_eq Key.queueName (by decide)))

/-- A call through an AWS client with the attributes. -/
def clientCall (entries : List (String × Value)) : Span where
  id := "9"
  name := "call"
  kind := .client
  parentId := none
  attributes := .ofList (("rpc.system", .string "aws-api") :: entries)
  scope := none

/-- A table whose name starts with the label of tables, a stream without a name and a queue, each known in
all its ways. -/
theorem named_as_located_table :
    (∀ entries ∈ [[(Key.tableNames, Value.list [.string "table/a|b^"])],
        [(Key.tableArn, .string "arn:aws:dynamodb::000000000042:table/table/a|b^")],
        [(Key.tableNames, .list [.string "table/a|b^"]),
          (Key.tableArn, .string "arn:aws:dynamodb::000000000042:table/table/a|b^")]],
      (resource (clientCall entries)).value =
        some ⟨"AWS::DynamoDB::Table", "table/a^|b^^", "table/a^|b^^"⟩) ∧
    (∀ entries ∈ [[(Key.streamName, Value.string "")],
        [(Key.streamArn, .string "arn:aws:kinesis::000000000042:stream/")],
        [(Key.streamName, .string ""),
          (Key.streamArn, .string "arn:aws:kinesis::000000000042:stream/")]],
      (resource (clientCall entries)).value = some ⟨"AWS::Kinesis::Stream", "", ""⟩) ∧
    ∀ entries ∈ [[(Key.queueUrl, Value.string "https://localhost:9324/0/jobs")],
        [(Key.queueUrl, .string "https://localhost:9324/0/jobs"),
          (Key.queueName, .string "jobs")]],
      (resource (clientCall entries)).value =
        some ⟨"AWS::SQS::Queue", "jobs", "https://localhost:9324/0/jobs"⟩ := by
  have haccount : Text.IsDigits "000000000042" := (Text.allDigits_toList_iff _).1 (by decide)
  obtain ⟨harns, hqueues⟩ := named_as_located
  obtain ⟨htable, -⟩ := harns "table/a|b^" "aws" "dynamodb" "" "000000000042" (by decide) (by decide)
    (by decide) (by decide) haccount
  obtain ⟨-, hstream⟩ := harns "" "aws" "kinesis" "" "000000000042" (by decide) (by decide)
    (by decide) (by decide) haccount
  have hqueue := hqueues "https://localhost:9324/0/jobs" "jobs" (by decide)
  have htableText : Arn.labelled "aws" "dynamodb" "" "000000000042" "table/" "table/a|b^" =
      "arn:aws:dynamodb::000000000042:table/table/a|b^" := by decide
  have hstreamText : Arn.labelled "aws" "kinesis" "" "000000000042" "stream/" "" =
      "arn:aws:kinesis::000000000042:stream/" := by decide
  have htableName : Delimited.encode "table/a|b^" = "table/a^|b^^" := by decide
  have hqueueNames : Delimited.encode "jobs" = "jobs" ∧
      Delimited.encode "https://localhost:9324/0/jobs" = "https://localhost:9324/0/jobs" := by decide
  have hstreamName : Delimited.encode "" = "" := by decide
  rw [htableText, htableName] at htable
  rw [hstreamText, hstreamName] at hstream
  rw [hqueueNames.1, hqueueNames.2] at hqueue
  simp only [List.forall_mem_cons, List.not_mem_nil, false_implies, implies_true, and_true]
  refine ⟨⟨htable _ (.inl ⟨by decide, ?_⟩), htable _ (.inr (.inl ⟨by decide, ?_⟩)),
    htable _ (.inr (.inr ⟨by decide, ?_⟩))⟩, ⟨hstream _ (.inl ⟨by decide, ?_⟩),
    hstream _ (.inr (.inl ⟨by decide, ?_⟩)), hstream _ (.inr (.inr ⟨by decide, ?_⟩))⟩,
    hqueue _ (.inl ⟨by decide, ?_⟩), hqueue _ (.inr ⟨by decide, ?_⟩)⟩
  all_goals
    intro key hkey
    fin_cases hkey <;> rfl

end Remote

end SpanMetrics
