import SpanMetrics.Proofs.Text.Ascii
import SpanMetrics.Proofs.Text.Erase
import SpanMetrics.Proofs.Text.Fields
import SpanMetrics.QueueUrl

/-!
# SpanMetrics.Proofs.QueueUrl — which texts are queue URLs

A text is a queue URL if, without its schemes, it consists of a domain, an account number and the name
of a queue, with a slash between them. Whether the domain is one of the queue service does not change
what is read of the queue.

* `parse?_eq_some_iff` — a queue URL is read from the texts that are its own without schemes.
* `ofService_iff` — the name of the queue service counts in any letter case.
* `schemes_ignored` — schemes in front do not count, however many there are.
* `service_url_exact` — which texts are queue URLs, and which of them are URLs of the queue service.
-/

namespace SpanMetrics.QueueUrl

open Text (IsDigits SameButCase Without)

variable {s : String} {url : QueueUrl}

/-! ## Schemes -/

theorem withoutSchemes_http (cs : List Char) :
    withoutSchemes ("http://".toList ++ cs) = withoutSchemes cs := by
  have hhttp : "http://".toList ++ cs = 'h' :: ("ttp://".toList ++ cs) := rfl
  rw [withoutSchemes, hhttp, Text.erase_phrase_append, withoutSchemes]

/-- The longer scheme outlives the removal of the shorter one: in it no occurrence begins, not even
one that ends behind it. -/
theorem withoutSchemes_https (cs : List Char) :
    withoutSchemes ("https://".toList ++ cs) = withoutSchemes cs := by
  have hhttps : ∀ ds : List Char, "https://".toList ++ ds = 'h' :: ("ttps://".toList ++ ds) :=
    fun _ => rfl
  have hnot : ¬ ('h' = 'h' ∧ "ttp://".toList.isPrefixOf ("ttps://".toList ++ cs) = true) := by
    simp
  have hkept : Text.erase 'h' "ttp://".toList ("https://".toList ++ cs) =
      "https://".toList ++ Text.erase 'h' "ttp://".toList cs := by
    rw [hhttps, hhttps, Text.erase_cons_of_not hnot, Text.erase_append_of_notMem (by decide)]
  rw [withoutSchemes, hkept, hhttps, Text.erase_phrase_append, withoutSchemes]

/-- Schemes in front do not count. -/
theorem withoutSchemes_join {schemes : List String}
    (h : ∀ scheme ∈ schemes, scheme = "http://" ∨ scheme = "https://") (text : String) :
    withoutSchemes (String.join schemes ++ text).toList = withoutSchemes text.toList := by
  induction schemes with
  | nil => simp
  | cons scheme schemes ih =>
    rw [List.forall_mem_cons] at h
    rw [String.join_cons, String.append_assoc, String.toList_append]
    rcases h.1 with rfl | rfl
    · rw [withoutSchemes_http, ih h.2]
    · rw [withoutSchemes_https, ih h.2]

/-- A queue URL is read from a text without its schemes. -/
theorem parse?_congr {text text' : String}
    (h : withoutSchemes text.toList = withoutSchemes text'.toList) :
    parse? text = parse? text' := by
  unfold parse?
  rw [h]

/-- Schemes in front of a text do not count, however many there are: nothing that is read from a queue
URL changes. -/
theorem schemes_ignored {schemes : List String}
    (h : ∀ scheme ∈ schemes, scheme = "http://" ∨ scheme = "https://") (text : String) :
    (ofValue? (.string (String.join schemes ++ text))).map queue =
        (ofValue? (.string text)).map queue ∧
      (ofServiceValue? (.string (String.join schemes ++ text))).map account =
        (ofServiceValue? (.string text)).map account ∧
      (ofServiceValue? (.string (String.join schemes ++ text))).bind region? =
        (ofServiceValue? (.string text)).bind region? ∧
      ofServiceValue? (.string (String.join schemes ++ text)) =
        ofServiceValue? (.string text) := by
  have hvalue : ofValue? (.string (String.join schemes ++ text)) = ofValue? (.string text) :=
    parse?_congr (withoutSchemes_join h text)
  have hservice : ofServiceValue? (.string (String.join schemes ++ text)) =
      ofServiceValue? (.string text) := by
    rw [ofServiceValue?, hvalue, ofServiceValue?]
  rw [hvalue, hservice]
  exact ⟨rfl, rfl, rfl, rfl⟩

/-- The text is read without the three schemes in front of it, although it needs both removals itself:
the longer scheme in it shows only when the shorter one is gone from its middle. -/
theorem schemes_ignored_nested :
    (ofValue? (.string
        "http://https://http://hhttp://ttps://SQS.eu-west-1.amazonaws.com/0042/jobs")).map queue =
      some "jobs" ∧
    ofServiceValue? (.string
        "http://https://http://hhttp://ttps://SQS.eu-west-1.amazonaws.com/0042/jobs") =
      some ⟨"SQS.eu-west-1.amazonaws.com", "0042", "jobs"⟩ := by
  have hschemes : ∀ scheme ∈ ["http://", "https://", "http://"],
      scheme = "http://" ∨ scheme = "https://" := by decide
  have htext : String.join ["http://", "https://", "http://"] ++
      "hhttp://ttps://SQS.eu-west-1.amazonaws.com/0042/jobs" =
        "http://https://http://hhttp://ttps://SQS.eu-west-1.amazonaws.com/0042/jobs" := by decide
  obtain ⟨hqueue, -, -, hservice⟩ := schemes_ignored hschemes
    "hhttp://ttps://SQS.eu-west-1.amazonaws.com/0042/jobs"
  rw [← htext, hqueue, hservice]
  decide

/-! ## Reading -/

/-- The text is the name of a queue. -/
structure IsQueueName (s : String) : Prop where
  length_pos : 1 ≤ s.length
  length_le : s.length ≤ 80
  chars : ∀ c ∈ s.toList, c.isAlphanum = true ∨ c = '_' ∨ c = '-'

theorem isName_iff : isName s.toList = true ↔ IsQueueName s := by
  have hpos : s.toList ≠ [] ↔ 1 ≤ s.length := by
    rw [← List.length_pos_iff, String.length_toList, Nat.succ_le_iff]
  simp only [isName, isNameChar, nameLimit, Bool.and_eq_true, Bool.or_eq_true, beq_iff_eq,
    decide_eq_true_eq, List.all_eq_true, String.length_toList, Bool.not_eq_true',
    List.isEmpty_eq_false_iff, or_assoc]
  constructor
  · rintro ⟨⟨hne, hle⟩, hchars⟩
    exact ⟨hpos.1 hne, hle, hchars⟩
  · rintro ⟨hlength, hle, hchars⟩
    exact ⟨⟨hpos.2 hlength, hle⟩, hchars⟩

/-- The queue URL as it is written without a scheme. -/
def text (url : QueueUrl) : String :=
  url.domain ++ "/" ++ url.account ++ "/" ++ url.queue

/-- The parts of the queue URL can be told apart in writing, its account is a number, and its queue has
the name of one. -/
structure WellFormed (url : QueueUrl) : Prop where
  domain : '/' ∉ url.domain.toList
  account : IsDigits url.account
  queue : IsQueueName url.queue

theorem slash_notMem_of_isDigits (h : IsDigits s) : '/' ∉ s.toList := by
  intro hslash
  have hdigit := h.2 '/' hslash
  simp at hdigit

theorem slash_notMem_of_isQueueName (h : IsQueueName s) : '/' ∉ s.toList := by
  intro hslash
  rcases h.chars '/' hslash with hchar | hchar | hchar <;> exact absurd hchar (by decide)

/-- The segments of a text are those of a queue URL just if the text is the queue URL in writing. -/
theorem splitOn_eq_segments_iff {cs : List Char} (haccount : IsDigits url.account)
    (hqueue : IsQueueName url.queue) :
    cs.splitOn '/' = [url.domain, url.account, url.queue].map String.toList ↔
      '/' ∉ url.domain.toList ∧ cs = url.text.toList := by
  have hfields := @Text.splitOn_toList_eq_iff '/' (.ofList cs) [url.domain, url.account, url.queue]
  have htext : (String.singleton '/').intercalate [url.domain, url.account, url.queue] =
      url.text := by
    simp only [text, String.intercalate_cons_cons, String.intercalate_singleton,
      String.append_assoc]
    rfl
  have hslashes := And.intro (slash_notMem_of_isDigits haccount)
    (slash_notMem_of_isQueueName hqueue)
  rw [String.toList_ofList, htext, ← String.toList_inj, String.toList_ofList] at hfields
  rw [hfields]
  simp [hslashes]

/-- What is read are the three segments of the text without its schemes. -/
theorem parse?_eq_some_iff_splitOn :
    parse? s = some url ↔
      (withoutSchemes s.toList).splitOn '/' =
          [url.domain, url.account, url.queue].map String.toList ∧
        IsDigits url.account ∧ IsQueueName url.queue := by
  unfold parse?
  constructor
  · intro h
    split at h
    · next hsegments =>
      split at h
      · next hvalid =>
        obtain ⟨haccount, hqueue⟩ := hvalid
        cases h
        refine ⟨by simp [hsegments], (Text.allDigits_toList_iff _).1 ?_, isName_iff.1 ?_⟩
        · rwa [String.toList_ofList]
        · rwa [String.toList_ofList]
      · cases h
    · cases h
  · rintro ⟨hsegments, haccount, hqueue⟩
    have hdigits := (Text.allDigits_toList_iff _).2 haccount
    have hname := isName_iff.2 hqueue
    rw [hsegments]
    simp [hdigits, hname]

/-- A queue URL is read from the texts that are its own without schemes. -/
theorem parse?_eq_some_iff :
    parse? s = some url ↔ url.WellFormed ∧ withoutSchemes s.toList = url.text.toList := by
  rw [parse?_eq_some_iff_splitOn]
  constructor
  · rintro ⟨hsegments, haccount, hqueue⟩
    obtain ⟨hdomain, htext⟩ := (splitOn_eq_segments_iff haccount hqueue).1 hsegments
    exact ⟨⟨hdomain, haccount, hqueue⟩, htext⟩
  · rintro ⟨⟨hdomain, haccount, hqueue⟩, htext⟩
    exact ⟨(splitOn_eq_segments_iff haccount hqueue).2 ⟨hdomain, htext⟩, haccount, hqueue⟩

/-- A queue URL in writing holds no scheme: no two slashes stand side by side in it. -/
theorem withoutSchemes_text (h : url.WellFormed) :
    withoutSchemes url.text.toList = url.text.toList := by
  have hsegments := (splitOn_eq_segments_iff h.account h.queue).2 ⟨h.domain, rfl⟩
  have hslashes : ¬ ['/', '/'] <:+: url.text.toList := by
    refine Text.not_infix_of_splitOn hsegments ?_
    have haccount : url.account ≠ "" := h.account.1
    have hqueue : url.queue ≠ "" := by
      intro hempty
      have hlength := h.queue.length_pos
      simp [hempty] at hlength
    simp only [List.map_cons, List.map_nil, List.mem_cons, List.not_mem_nil, or_false]
    rintro (hempty | hempty)
    · exact haccount (String.toList_eq_nil_iff.1 hempty.symm)
    · exact hqueue (String.toList_eq_nil_iff.1 hempty.symm)
  have hhttp : ¬ 'h' :: "ttp://".toList <:+: url.text.toList := by
    intro hinfix
    refine hslashes (List.IsInfix.trans ?_ hinfix)
    exact ⟨"http:".toList, [], rfl⟩
  have hhttps : ¬ 'h' :: "ttps://".toList <:+: url.text.toList := by
    intro hinfix
    refine hslashes (List.IsInfix.trans ?_ hinfix)
    exact ⟨"https:".toList, [], rfl⟩
  rw [withoutSchemes, Text.erase_eq_self hhttp, Text.erase_eq_self hhttps]

/-- A value is read just if it is a text of which the removal of the schemes, first the shorter and
then the longer one, leaves the queue URL in writing. -/
theorem ofValue?_eq_some_iff {v : Value} :
    ofValue? v = some url ↔
      url.WellFormed ∧ ∃ (text : String) (between : List Char), v = .string text ∧
        Without "http://".toList text.toList between ∧
          Without "https://".toList between url.text.toList := by
  have hhttp : "http://".toList = 'h' :: "ttp://".toList := rfl
  have hhttps : "https://".toList = 'h' :: "ttps://".toList := rfl
  rw [hhttp, hhttps]
  simp only [ofValue?, Option.bind_eq_some_iff, Value.string?_eq_some_iff, parse?_eq_some_iff,
    Text.without_iff]
  constructor
  · rintro ⟨text, rfl, hwell, htext⟩
    exact ⟨hwell, text, _, rfl, rfl, htext.symm⟩
  · rintro ⟨hwell, text, _, rfl, rfl, htext⟩
    exact ⟨text, rfl, hwell, htext.symm⟩

/-! ## The domain of the queue service -/

/-- The domain starts with the name of the queue service, in capitals or small letters. -/
def NamesService (domain : String) : Prop :=
  SameButCase (domain.toList.take 3) "sqs".toList

theorem ofService_iff : url.ofService = true ↔ NamesService url.domain := by
  have hword : ∀ d ∈ "sqs".toList, d.isLower = true ∧ d ≠ 'i' ∧ d ≠ 'k' := by
    intro d hd
    have hletter : d = 's' ∨ d = 'q' ∨ d = 's' := by simpa using hd
    rcases hletter with rfl | rfl | rfl <;> decide
  rw [ofService, List.isPrefixOf_iff_prefix, Text.prefix_lower_iff hword]
  rfl

theorem ofServiceValue?_eq_some_iff {v : Value} :
    ofServiceValue? v = some url ↔ ofValue? v = some url ∧ NamesService url.domain := by
  rw [ofServiceValue?, Option.filter_eq_some_iff, ofService_iff]

/-- The URL of a queue in a region. -/
def regional (region account queue : String) : QueueUrl :=
  ⟨"sqs." ++ region ++ ".amazonaws.com", account, queue⟩

variable {region : String}

theorem namesService_regional (region account queue : String) :
    NamesService (regional region account queue).domain := by
  simp [NamesService, regional, SameButCase]

/-- The region is the second of the four labels. -/
theorem region?_regional (hdot : '.' ∉ region.toList) (account queue : String) :
    (regional region account queue).region? = some region := by
  have hlabels : (regional region account queue).domain.toList.splitOn '.' =
      ["sqs", region, "amazonaws", "com"].map String.toList := by
    refine Text.splitOn_toList_eq_iff.2 ⟨by simp, by simp [hdot], ?_⟩
    have hfront : "sqs." = "sqs" ++ String.singleton '.' := rfl
    have hback : ".amazonaws.com" =
        String.singleton '.' ++ ("amazonaws" ++ (String.singleton '.' ++ "com")) := rfl
    simp only [regional, String.intercalate_cons_cons, String.intercalate_singleton,
      String.append_assoc, hfront, hback]
  rw [region?, hlabels]
  simp

/-- The URL of a queue in a region is read, with or without a scheme. -/
theorem ofServiceValue?_regional {scheme account queue : String}
    (hscheme : scheme ∈ ["", "http://", "https://"]) (hslash : '/' ∉ region.toList)
    (haccount : IsDigits account) (hqueue : IsQueueName queue) :
    ofServiceValue? (.string (scheme ++ (regional region account queue).text)) =
      some (regional region account queue) := by
  have hdomain : '/' ∉ (regional region account queue).domain.toList := by
    simp [regional, hslash]
  have hwell : (regional region account queue).WellFormed := ⟨hdomain, haccount, hqueue⟩
  have hbare : withoutSchemes (scheme ++ (regional region account queue).text).toList =
      (regional region account queue).text.toList := by
    simp only [List.mem_cons, List.not_mem_nil, or_false] at hscheme
    rcases hscheme with rfl | hscheme
    · rw [String.empty_append, withoutSchemes_text hwell]
    · have hjoin := @withoutSchemes_join [scheme] (by simpa using hscheme)
        (regional region account queue).text
      rw [String.join_cons, String.join_nil, String.append_empty] at hjoin
      rw [hjoin, withoutSchemes_text hwell]
  exact ofServiceValue?_eq_some_iff.2
    ⟨parse?_eq_some_iff.2 ⟨hwell, hbare⟩, namesService_regional region account queue⟩

/-- A text is a queue URL just if, without its schemes, it is a domain, an account number and the name
of a queue; it is one of the queue service just if the domain starts with the name of the service, in
any letter case, and the same queue is read then. So the account, the queue and the region are read from
the URL of a queue in a region, with or without a scheme. -/
theorem service_url_exact :
    (∀ scheme region account queue : String, scheme ∈ ["", "http://", "https://"] →
      '.' ∉ region.toList → '/' ∉ region.toList → IsDigits account → IsQueueName queue →
        ∃ url, ofServiceValue? (.string (scheme ++ "sqs." ++ region ++ ".amazonaws.com/" ++
            account ++ "/" ++ queue)) = some url ∧
          url.queue = queue ∧ url.account = account ∧ url.region? = some region) ∧
    (∀ (v : Value) (url : QueueUrl), ofServiceValue? v = some url ↔
      ofValue? v = some url ∧ NamesService url.domain) ∧
    ∀ (v : Value) (url : QueueUrl), ofValue? v = some url ↔
      url.WellFormed ∧
        ∃ (text : String) (between : List Char), v = .string text ∧
          Without "http://".toList text.toList between ∧
          Without "https://".toList between
            (url.domain ++ "/" ++ url.account ++ "/" ++ url.queue).toList := by
  refine ⟨?_, ?_, ?_⟩
  · intro scheme region account queue hscheme hdot hslash haccount hqueue
    have hwhole : scheme ++ "sqs." ++ region ++ ".amazonaws.com/" ++ account ++ "/" ++ queue =
        scheme ++ (regional region account queue).text := by
      have hback : ".amazonaws.com/" = ".amazonaws.com" ++ "/" := rfl
      simp only [regional, text, hback, String.append_assoc]
    rw [hwhole]
    exact ⟨regional region account queue, ofServiceValue?_regional hscheme hslash haccount hqueue,
      rfl, rfl, region?_regional hdot account queue⟩
  · intro v url
    exact ofServiceValue?_eq_some_iff
  · intro v url
    exact ofValue?_eq_some_iff

/-- A queue with a scheme in front is read, with its region; and what is read is well formed. -/
theorem service_url_exact_backlog :
    ∃ url, ofServiceValue? (.string "http://sqs.eu-west-1.amazonaws.com/000000000042/back_log-2") =
        some url ∧
      ofValue? (.string "http://sqs.eu-west-1.amazonaws.com/000000000042/back_log-2") = some url ∧
      url.queue = "back_log-2" ∧ url.account = "000000000042" ∧ url.region? = some "eu-west-1" ∧
      url.WellFormed ∧ NamesService url.domain := by
  have haccount : IsDigits "000000000042" := (Text.allDigits_toList_iff _).1 (by decide)
  have hqueue : IsQueueName "back_log-2" := isName_iff.1 (by decide)
  have htext : "http://" ++ "sqs." ++ "eu-west-1" ++ ".amazonaws.com/" ++ "000000000042" ++ "/" ++
      "back_log-2" = "http://sqs.eu-west-1.amazonaws.com/000000000042/back_log-2" := by decide
  obtain ⟨hregional, hservice, hread⟩ := service_url_exact
  obtain ⟨url, hurl, hname, hid, hregion⟩ := hregional "http://" "eu-west-1" "000000000042"
    "back_log-2" (by simp) (by decide) (by decide) haccount hqueue
  rw [htext] at hurl
  obtain ⟨hvalue, hdomain⟩ := (hservice _ url).1 hurl
  exact ⟨url, hurl, hvalue, hname, hid, hregion, ((hread _ url).1 hvalue).1, hdomain⟩

/-- The name of a queue is read from the URL of another server, too. -/
example : (ofValue? (.string "http://localhost:9324/000000000000/jobs")).map queue = some "jobs" ∧
    ofServiceValue? (.string "http://localhost:9324/000000000000/jobs") = none := by decide

end SpanMetrics.QueueUrl
