import SpanMetrics.Proofs.Remote.Rule

/-!
# SpanMetrics.Proofs.Remote.Identifier — the identifiers of AWS resources

The identifiers of a resource are read back as the raw texts that the deciding rule took from the
span, whatever bars and carets these hold. The name is one part, and so is the ARN or the queue URL
that most types are registered under; a data source is registered as two parts.

* `identifiers_decode` — what is read back, and that different raw texts have different identifiers.
-/

namespace SpanMetrics.Remote

namespace Rule

/-- The type of resource that is registered as two parts. -/
def dataSourceType : String := "AWS::Bedrock::DataSource"

/-- The name as the rule takes it from a span. -/
def rawName? (s : Span) : Rule → Option String
  | .aws _ _ naming _ => naming.name? s
  | .connection => none

/-- The ARN or the queue URL that the rule takes from a span, if the rule has a key for it and the
key holds a string. -/
def secondary? (s : Span) : Rule → Option String
  | .aws _ _ _ (.string key) => s.string? key
  | _ => none

/-- What a resource is registered as: the ARN or the queue URL, and otherwise the name; a data
source as its knowledge base, if that is known, and its name. -/
def rawPrimary (s : Span) (name : String) (rule : Rule) : List String :=
  if rule.type = dataSourceType then [(s.string? Key.knowledgeBaseId).getD "", name]
  else [(rule.secondary? s).getD name]

/-- The rule registers a resource as two parts. -/
def isComposite : Rule → Bool
  | .aws _ _ _ (.under _) => true
  | _ => false

/-- The rule for data sources. -/
def dataSource : Rule :=
  .aws "Bedrock" "DataSource" (.string Key.dataSourceId) (.under Key.knowledgeBaseId)

theorem eq_dataSource_of_type : ∀ rule ∈ all, rule.type = dataSourceType → rule = dataSource := by
  decide

theorem type_of_isComposite : ∀ rule ∈ all,
    rule.isComposite = true ↔ rule.type = dataSourceType := by
  decide

/-- What a resource is registered under is read back as what it is registered as. -/
theorem pieces_primary {service kind : String} {naming : Naming} {primary : Primary}
    (hrule : Rule.aws service kind naming primary ∈ all) (s : Span) (name : String) :
    Delimited.pieces (primary.identifier s name) =
      (Rule.aws service kind naming primary).rawPrimary s name := by
  have htype := type_of_isComposite _ hrule
  cases primary with
  | name =>
    rw [rawPrimary, if_neg (by simp [← htype, isComposite])]
    exact Delimited.pieces_encode name
  | string key =>
    rw [rawPrimary, if_neg (by simp [← htype, isComposite])]
    exact Delimited.pieces_encode _
  | under key =>
    have hcomposite : (Rule.aws service kind naming (.under key)).type = dataSourceType :=
      htype.1 rfl
    have heq := eq_dataSource_of_type _ hrule hcomposite
    simp only [dataSource, aws.injEq, Primary.under.injEq] at heq
    rw [rawPrimary, if_pos hcomposite, heq.2.2.2, Primary.identifier, Delimited.pieces_join_encode,
      Delimited.pieces_encode]

end Rule

/-- What the identifiers of a resource are read back as. -/
theorem pieces_of_resource [Runtime] {s : Span} (haws : s.isAwsCall = true) {r : Resource}
    (hr : (resource s).value = some r) :
    ∃ rule name, rule? s = some rule ∧ r.type = rule.type ∧ rule.rawName? s = some name ∧
      Delimited.pieces r.identifier = [name] ∧
      Delimited.pieces r.primaryIdentifier = rule.rawPrimary s name := by
  rcases resource_of_awsCall haws hr with ⟨service, kind, naming, primary, name, hrule, hname, rfl⟩
  exact ⟨_, name, hrule, rfl, hname, Delimited.pieces_encode name,
    Rule.pieces_primary (mem_all_of_rule? hrule) s name⟩

/-- The identifiers of a resource are read back as the raw texts that the deciding rule took from
the span: the identifier as the name, and the primary identifier as the ARN or the queue URL, or as
the name where there is none; of a data source as the knowledge base and the name. So different raw
texts never have one identifier. -/
theorem identifiers_decode [Runtime] {s : Span} (haws : s.isAwsCall = true) {r : Resource}
    (hr : (resource s).value = some r) :
    ∃ rule name, rule? s = some rule ∧ r.type = rule.type ∧ rule.rawName? s = some name ∧
      Delimited.pieces r.identifier = [name] ∧
      Delimited.pieces r.primaryIdentifier = rule.rawPrimary s name ∧
      (r.type = Rule.dataSourceType → s.string? Key.dataSourceId = some name) ∧
      ∀ (s' : Span) (r' : Resource) (rule' : Rule) (name' : String), s'.isAwsCall = true →
        (resource s').value = some r' → rule? s' = some rule' → rule'.rawName? s' = some name' →
          (name ≠ name' → r.identifier ≠ r'.identifier) ∧
          (rule.rawPrimary s name ≠ rule'.rawPrimary s' name' →
            r.primaryIdentifier ≠ r'.primaryIdentifier) := by
  rcases pieces_of_resource haws hr with ⟨rule, name, hrule, htype, hname, hpieces, hprimary⟩
  refine ⟨rule, name, hrule, htype, hname, hpieces, hprimary, ?_, ?_⟩
  · intro hsource
    rw [htype] at hsource
    rw [Rule.eq_dataSource_of_type rule (mem_all_of_rule? hrule) hsource] at hname
    exact hname
  · intro s' r' rule' name' haws' hr' hrule' hname'
    rcases pieces_of_resource haws' hr' with ⟨_, _, hrule'', -, hname'', hpieces', hprimary'⟩
    -- the rule and the name of the other span are the ones given
    obtain rfl := Option.some.inj (hrule''.symm.trans hrule')
    obtain rfl := Option.some.inj (hname''.symm.trans hname')
    constructor
    · intro hne heq
      rw [heq, hpieces'] at hpieces
      exact hne (List.singleton_inj.1 hpieces.symm)
    · intro hne heq
      rw [heq, hprimary'] at hprimary
      exact hne hprimary.symm

/-- A call that ingests documents. -/
def ingestion : Span where
  id := "9"
  name := "Bedrock.StartIngestionJob"
  kind := .client
  parentId := none
  attributes := .ofList [("rpc.system", .string "aws-api"),
    ("aws.bedrock.data_source.id", .string "docs^|2024^"),
    ("aws.bedrock.knowledge_base.id", .string "|kb")]
  scope := none

/-- The knowledge base and the data source are told apart, although both hold delimiters. -/
theorem identifiers_decode_ingestion :
    ∃ r, (resource ingestion).value = some r ∧
      Delimited.pieces r.identifier = ["docs^|2024^"] ∧
      Delimited.pieces r.primaryIdentifier = ["|kb", "docs^|2024^"] := by
  have haws : ingestion.isAwsCall = true := by decide
  have hr : (resource ingestion).value = some
      ⟨"AWS::Bedrock::DataSource", "docs^^^|2024^^", "^|kb|docs^^^|2024^^"⟩ := by
    decide
  rcases identifiers_decode haws hr with ⟨rule, name, hrule, -, hname, hpieces, hprimary, -⟩
  have hsource : rule? ingestion = some Rule.dataSource := by decide
  have hraw : Rule.dataSource.rawName? ingestion = some "docs^|2024^" := by decide
  obtain rfl := Option.some.inj (hsource.symm.trans hrule)
  obtain rfl := Option.some.inj (hraw.symm.trans hname)
  refine ⟨_, hr, hpieces, hprimary.trans ?_⟩
  decide

end SpanMetrics.Remote
