import SpanMetrics.Proofs.Remote.Reads

/-!
# SpanMetrics.Proofs.Remote.Precedence — the first rule that claims a span decides alone

Rules are asked in order whether they claim a span. The first one that does decides about the resource,
also when it finds none, and nothing counts that only later rules would read.

* `exists_firstClaim_iff` — the deciding rule is the first that claims the span.
* `FirstClaim.congr` — it is the same for all spans that agree on what has been read until then.
* `value_resource_erase_tableNames` — table names that claim nothing might as well be absent.
* `first_claim_decides` — what follows for the resource of a span.
-/

namespace SpanMetrics.Remote

open SpanMetrics.Span (AgreeOn)

/-- The rule stands at a place in the list and claims the span, and no rule before it does. -/
structure FirstClaim (s : Span) (place : Nat) (rule : Rule) : Prop where
  place_eq : Rule.all[place]? = some rule
  claims : rule.claims s = true
  before : ∀ (i : Nat) (earlier : Rule), i < place → Rule.all[i]? = some earlier →
    earlier.claims s = false

/-- The keys that are read until the rule at a place has decided: those by which it and the rules before
it claim spans, and those from which it takes the resource. -/
def Rule.readKeys (place : Nat) (rule : Rule) : List String :=
  (Rule.all.take (place + 1)).flatMap Rule.conditionKeys ++ rule.resourceKeys

variable {s s' : Span} {place : Nat} {rule : Rule}

/-- The deciding rule is the first that claims the span. -/
theorem exists_firstClaim_iff : rule? s = some rule ↔ ∃ place, FirstClaim s place rule := by
  unfold rule?
  rw [List.find?_eq_some_iff_getElem]
  constructor
  · rintro ⟨hclaims, place, hplace, hrule, hbefore⟩
    refine ⟨place, List.getElem?_eq_some_iff.2 ⟨hplace, hrule⟩, hclaims, ?_⟩
    intro i earlier hi hearlier
    obtain ⟨-, rfl⟩ := List.getElem?_eq_some_iff.1 hearlier
    simpa using hbefore i hi
  · rintro ⟨place, h⟩
    obtain ⟨hplace, hrule⟩ := List.getElem?_eq_some_iff.1 h.place_eq
    refine ⟨h.claims, place, hplace, hrule, ?_⟩
    intro i hi
    have hnot := h.before i Rule.all[i] hi (List.getElem?_eq_getElem (hi.trans hplace))
    simp [hnot]

theorem FirstClaim.rule?_eq (h : FirstClaim s place rule) : rule? s = some rule :=
  exists_firstClaim_iff.2 ⟨place, h⟩

/-- The resource of the span is the one that the first rule to claim it finds. -/
theorem FirstClaim.value_resource [Runtime] (h : FirstClaim s place rule) :
    (resource s).value = (rule.resource s).value := by
  rw [Remote.value_resource, h.rule?_eq, Option.bind_some]

theorem Rule.mem_take_of_getElem? {i : Nat} {earlier : Rule} (hi : i < place)
    (hearlier : Rule.all[i]? = some earlier) : earlier ∈ Rule.all.take place := by
  refine List.mem_of_getElem? (i := i) ?_
  rw [List.getElem?_take_of_lt hi, hearlier]

/-- What the rules claim spans by, up to a place, has been read when the rule there has decided. -/
theorem Rule.conditionKeys_subset_readKeys {i : Nat} {earlier : Rule} (hi : i ≤ place)
    (hearlier : Rule.all[i]? = some earlier) : earlier.conditionKeys ⊆ rule.readKeys place := by
  have hmem := Rule.mem_take_of_getElem? (Nat.lt_succ_of_le hi) hearlier
  intro key hkey
  exact List.mem_append_left _ (List.mem_flatMap.2 ⟨earlier, hmem, hkey⟩)

/-- The same rule is the first to claim all spans that agree on what has been read until then. -/
theorem FirstClaim.congr (h : FirstClaim s place rule) (haws : s.isAwsCall = s'.isAwsCall)
    (hagree : AgreeOn (rule.readKeys place) s s') : FirstClaim s' place rule where
  place_eq := h.place_eq
  claims := by
    have hkeys := hagree.mono (Rule.conditionKeys_subset_readKeys (Nat.le_refl place) h.place_eq)
    rw [← Rule.claims_congr haws hkeys]
    exact h.claims
  before := by
    intro i earlier hi hearlier
    have hkeys := hagree.mono (Rule.conditionKeys_subset_readKeys (Nat.le_of_lt hi) hearlier)
    rw [← Rule.claims_congr haws hkeys]
    exact h.before i earlier hi hearlier

/-- No rule behind one that claims the span decides about it. -/
theorem FirstClaim.le (h : FirstClaim s place rule) {i : Nat} {other : Rule}
    (hother : Rule.all[i]? = some other) (hclaims : other.claims s = true) : place ≤ i := by
  by_contra hlt
  have hnot := h.before i other (Nat.lt_of_not_le hlt) hother
  rw [hclaims] at hnot
  cases hnot

/-! ## Table names -/

/-- The rule for tables that are known by their names. -/
def Rule.namedTable : Rule :=
  .aws "DynamoDB" "Table" (.only Key.tableNames) .name

/-- A list of table names that does not have exactly one element gives no name. -/
theorem claims_namedTable_of_list {names : List Value}
    (hnames : s.attributes.get? Key.tableNames = some (.list names)) (hlength : names.length ≠ 1) :
    Rule.namedTable.claims s = false := by
  have hnone : Naming.onlyString? (.list names) = none := by
    match names, hlength with
    | [], _ => rfl
    | _ :: _ :: _, _ => rfl
  simp [Rule.namedTable, Rule.claims, Naming.isOn, Naming.name?, hnames, hnone]

theorem claims_namedTable_erase (s : Span) :
    Rule.namedTable.claims (s.erase Key.tableNames) = false := by
  simp [Rule.namedTable, Rule.claims, Naming.isOn, Naming.name?, Span.erase]

/-- Only the rule for named tables reads table names. -/
theorem tableNames_notMem_keys : ∀ rule ∈ Rule.all, rule ≠ Rule.namedTable →
    Key.tableNames ∉ rule.conditionKeys ∧ Key.tableNames ∉ rule.resourceKeys := by
  decide +kernel

/-- Table names that claim nothing might as well be absent. -/
theorem value_resource_erase_tableNames [Runtime] (h : Rule.namedTable.claims s = false) :
    (resource (s.erase Key.tableNames)).value = (resource s).value := by
  have hoff := s.agreeOff_erase Key.tableNames
  have haws : (s.erase Key.tableNames).isAwsCall = s.isAwsCall :=
    Span.isAwsCall_congr (hoff.on (by decide))
  have hon : ∀ keys : List String, Key.tableNames ∉ keys →
      AgreeOn keys (s.erase Key.tableNames) s := by
    intro keys hkeys
    refine hoff.on ?_
    rintro key hkey hmem
    exact hkeys (List.mem_singleton.1 hmem ▸ hkey)
  have hrule : rule? (s.erase Key.tableNames) = rule? s := by
    refine List.find?_congr ?_
    intro rule hmem
    by_cases htable : rule = Rule.namedTable
    · rw [htable, h, claims_namedTable_erase]
    · exact Rule.claims_congr haws (hon _ (tableNames_notMem_keys rule hmem htable).1)
  rw [value_resource, value_resource, hrule]
  cases hfound : rule? s with
  | none => rw [Option.bind_none, Option.bind_none]
  | some rule =>
    have hne : rule ≠ Rule.namedTable := by
      rintro rfl
      rw [claims_of_rule? hfound] at h
      cases h
    rw [Option.bind_some, Option.bind_some,
      Rule.resource_congr haws (hon _ (tableNames_notMem_keys rule (mem_all_of_rule? hfound) hne).2)]

/-! ## Connections -/

/-- A resource has the type of the rule that found it. -/
theorem Rule.type_of_resource [Runtime] {r : Resource} (hr : (rule.resource s).value = some r) :
    r.type = rule.type := by
  cases rule with
  | aws service kind naming primary =>
    obtain ⟨name, -, rfl⟩ := Option.map_eq_some_iff.1 hr
    rfl
  | connection =>
    obtain ⟨identifier, -, rfl⟩ := Option.map_eq_some_iff.1 hr
    rfl

/-- Only the rule for connections has their type. -/
theorem Rule.eq_connection_of_type : ∀ rule ∈ Rule.all, rule.type = "DB::Connection" →
    rule = .connection := by
  decide

/-! ## The first claim -/

/-- The first rule that claims a span decides alone: the resource is the one that it finds, and the same
for every span that agrees on what has been read until then. So a rule that claims the span and finds
nothing leaves it to the rules before it; a list of table names that is not a single one leaves it to all
other rules; and a connection is reported only for database calls outside of AWS. -/
theorem first_claim_decides [Runtime] :
    (∀ (s : Span) (place : Nat) (rule : Rule), FirstClaim s place rule →
      (resource s).value = (rule.resource s).value ∧
        ∀ s' : Span, s.isAwsCall = s'.isAwsCall → AgreeOn (rule.readKeys place) s s' →
          (resource s').value = (resource s).value) ∧
    (∀ (s : Span) (place : Nat) (rule : Rule), Rule.all[place]? = some rule →
      rule.claims s = true → (rule.resource s).value = none →
      ∀ r, (resource s).value = some r →
        ∃ i earlier, i < place ∧ FirstClaim s i earlier ∧ (earlier.resource s).value = some r) ∧
    (∀ (s : Span) (names : List Value), s.attributes.get? Key.tableNames = some (.list names) →
      names.length ≠ 1 →
        (resource s).value = (resource (s.erase Key.tableNames)).value) ∧
    ∀ (s : Span) (r : Resource), (resource s).value = some r → r.type = "DB::Connection" →
      s.isAwsCall = false ∧ s.isDbCall = true := by
  refine ⟨?_, ?_, ?_, ?_⟩
  · intro s place rule h
    refine ⟨h.value_resource, ?_⟩
    intro s' haws hagree
    have hkeys : AgreeOn rule.resourceKeys s s' := hagree.mono (List.subset_append_right _ _)
    rw [(h.congr haws hagree).value_resource, h.value_resource, Rule.resource_congr haws hkeys]
  · intro s place rule hplace hclaims hnothing r hr
    obtain ⟨first, hfirst, hfound⟩ := exists_rule_of_resource hr
    obtain ⟨i, hclaim⟩ := exists_firstClaim_iff.1 hfirst
    refine ⟨i, first, ?_, hclaim, hfound⟩
    rcases Nat.lt_or_eq_of_le (hclaim.le hplace hclaims) with hlt | rfl
    · exact hlt
    · -- the rule that finds nothing is not the one that found the resource
      obtain rfl := Option.some.inj (hplace.symm.trans hclaim.place_eq)
      rw [hnothing] at hfound
      cases hfound
  · intro s names hnames hlength
    exact (value_resource_erase_tableNames (claims_namedTable_of_list hnames hlength)).symm
  · intro s r hr htype
    obtain ⟨rule, hrule, hfound⟩ := exists_rule_of_resource hr
    rw [Rule.type_of_resource hfound] at htype
    obtain rfl := Rule.eq_connection_of_type rule (mem_all_of_rule? hrule) htype
    have hclaims := claims_of_rule? hrule
    simpa [Rule.claims] using hclaims

/-- An invocation of a function that reads two tables and writes to a bucket. -/
def resizing : Span where
  id := "9"
  name := "Lambda.Invoke"
  kind := .client
  parentId := none
  attributes := .ofList [("rpc.system", .string "aws-api"), ("rpc.service", .string "Lambda"),
    ("rpc.method", .string "Invoke"),
    ("aws.dynamodb.table_names", .list [.string "photos", .string "albums"]),
    ("aws.lambda.function.name", .string "resize"), ("aws.s3.bucket", .string "thumbnails")]
  scope := none

/-- A query of a database that is known by its address. -/
def listing : Span where
  id := "9"
  name := "SELECT albums"
  kind := .client
  parentId := none
  attributes := .ofList [("db.system", .string "mysql"), ("server.address", .string "db.example.com")]
  scope := none

/-- The function claims the invocation and yields no resource, so neither the bucket nor the tables are
reported; with a stream, whose rule comes before, the stream is. -/
theorem first_claim_decides_resizing :
    (resource resizing).value = none ∧ (resource (resizing.erase Key.bucket)).value = none ∧
      (resource (resizing.erase Key.tableNames)).value = none ∧
      (∃ i earlier r, i < 4 ∧
        FirstClaim (resizing.insert Key.streamName (.string "uploads")) i earlier ∧
        (earlier.resource (resizing.insert Key.streamName (.string "uploads"))).value = some r ∧
        r.type = "AWS::Kinesis::Stream") ∧
      (∃ r, (resource listing).value = some r ∧ r.type = "DB::Connection") ∧
      listing.isAwsCall = false := by
  obtain ⟨hdecides, hsuppressed, htables, hconnection⟩ := first_claim_decides
  have hfirst : FirstClaim resizing 4
      (.aws "Lambda" "Function" (.uninvoked Key.functionName) (.string Key.functionArn)) := by
    refine ⟨rfl, by decide, ?_⟩
    intro i earlier hi hearlier
    have hnone : ∀ rule ∈ Rule.all.take 4, rule.claims resizing = false := by decide
    exact hnone earlier (Rule.mem_take_of_getElem? hi hearlier)
  obtain ⟨hvalue, hsame⟩ := hdecides resizing 4 _ hfirst
  have hnone : (resource resizing).value = none := hvalue.trans (by decide)
  have hbucket := hsame (resizing.erase Key.bucket) (by decide)
    (fun key hkey => ((resizing.agreeOff_erase Key.bucket).on (by decide +kernel) key hkey).symm)
  have hlist := htables resizing [.string "photos", .string "albums"] rfl (by decide)
  have hstream : (resource (resizing.insert Key.streamName (.string "uploads"))).value =
      some ⟨"AWS::Kinesis::Stream", "uploads", "uploads"⟩ := by
    decide
  obtain ⟨i, earlier, hi, hclaim, hfound⟩ :=
    hsuppressed (resizing.insert Key.streamName (.string "uploads")) 4 _ rfl (by decide) (by decide)
      _ hstream
  have hlisting : (resource listing).value =
      some ⟨"DB::Connection", "db.example.com", "db.example.com"⟩ := by
    decide
  exact ⟨hnone, hbucket.trans hnone, hlist.symm.trans hnone, ⟨i, earlier, _, hi, hclaim, hfound, rfl⟩,
    ⟨_, hlisting, rfl⟩, (hconnection listing _ hlisting rfl).1⟩

end SpanMetrics.Remote
