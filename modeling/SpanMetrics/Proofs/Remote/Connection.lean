import SpanMetrics.Proofs.Delimited
import SpanMetrics.Proofs.Remote.Rule

/-!
# SpanMetrics.Proofs.Remote.Connection — what identifies a database connection

The identifier of a connection is cut at the bars that are not escaped. The name of the database and
the address are escaped in it, and the port is written as it is.

* `connection_of_keys?` — what a connection with an address is read from.
* `pieces_connection` — the parts that are read back from an identifier.
-/

namespace SpanMetrics.Remote

/-- The identifier of the endpoint behind the name of a database, if that is known. -/
def Endpoint.under (name? : Option String) (e : Endpoint) : String :=
  match name? with
  | some name => Delimited.join (Delimited.encode name) e.identifier
  | none => e.identifier

theorem value_connection [Runtime] (s : Span) :
    (connection s).value = (Endpoint.ofSpan s).value.map (Endpoint.under (s.text? Key.dbName)) :=
  rfl

theorem Endpoint.pieces_under (name? : Option String) (e : Endpoint) :
    Delimited.pieces (e.under name?) =
      name?.toList ++ e.address :: (e.port.map Delimited.pieces).getD [] := by
  have hidentifier : Delimited.pieces e.identifier =
      e.address :: (e.port.map Delimited.pieces).getD [] := by
    unfold Endpoint.identifier
    cases e.port with
    | none => exact Delimited.pieces_encode e.address
    | some port => exact Delimited.pieces_join_encode e.address port
  cases name? with
  | none => exact hidentifier
  | some name =>
    rw [Endpoint.under, Delimited.pieces_join_encode, hidentifier]
    rfl

/-- A connection with an address is read from the name of the database and from the keys of that address
alone, and nothing is reported. -/
theorem connection_of_keys? [Runtime] {s : Span} {address port : String}
    (hkeys : Endpoint.keys? s = some (address, port)) :
    connection s = pure ((s.text? address).map fun text =>
      Endpoint.under (s.text? Key.dbName) ⟨text, s.text? port⟩) := by
  have hendpoint : Endpoint.ofSpan s = pure (Endpoint.ofKeys? s address port) := by
    rw [Endpoint.ofSpan, hkeys]
  rw [connection, hendpoint, pure_bind, Endpoint.ofKeys?, Option.map_map]
  rfl

/-- An address makes an identifier just if it has a string form. -/
theorem connection_eq_some_iff [Runtime] {s : Span} {address port : String}
    (hkeys : Endpoint.keys? s = some (address, port)) {identifier : String} :
    (connection s).value = some identifier ↔
      ∃ text, s.text? address = some text ∧
        Endpoint.under (s.text? Key.dbName) ⟨text, s.text? port⟩ = identifier := by
  rw [connection_of_keys? hkeys, Logged.value_pure]
  exact Option.map_eq_some_iff

/-- What the identifier of a connection tells: the name of the database, the address and the port,
as far as they have string forms. -/
def connectionParts (s : Span) (address port : String) : List String :=
  (s.text? Key.dbName).toList ++ (s.text? address).toList ++ (s.text? port).toList

/-- A value that is no string has neither bars nor carets in its string form, and a string has what
it holds. -/
theorem forall_isPlain_text_iff (s : Span) (key : String) :
    (∀ text, s.text? key = some text → Delimited.IsPlain text) ↔
      ∀ text, s.string? key = some text → Delimited.IsPlain text := by
  unfold Span.text? Span.string? Attributes.text? Attributes.string?
  cases s.attributes.get? key with
  | none => simp
  | some v =>
    simp only [Option.bind_some]
    constructor
    · intro h text htext
      exact h text (Value.text?_of_string? htext)
    · intro h text htext
      cases hstring : v.string? with
      | none => exact Value.isPlain_text hstring htext
      | some text' =>
        have heq : text' = text := by
          simpa [Value.text?_of_string? hstring] using htext
        exact heq ▸ h text' hstring

/-- The identifier of a connection is read back as the name of the database, the address, and
whatever parts the port has in writing. So the port comes back as one part just if it is no string
with bars or carets. -/
theorem pieces_connection [Runtime] {s : Span} (haws : s.isAwsCall = false)
    (hdb : s.isDbCall = true) {address port : String}
    (hkeys : Endpoint.keys? s = some (address, port)) {identifier : String}
    (h : (connection s).value = some identifier) :
    (resource s).value = some ⟨"DB::Connection", identifier, identifier⟩ ∧
      Delimited.pieces identifier = (s.text? Key.dbName).toList ++ (s.text? address).toList ++
        ((s.text? port).map Delimited.pieces).getD [] ∧
      (Delimited.pieces identifier = connectionParts s address port ↔
        ∀ text, s.string? port = some text → Delimited.IsPlain text) := by
  rcases (connection_eq_some_iff hkeys).1 h with ⟨text, htext, hidentifier⟩
  have hpieces : Delimited.pieces identifier =
      (s.text? Key.dbName).toList ++ (s.text? address).toList ++
        ((s.text? port).map Delimited.pieces).getD [] := by
    rw [← hidentifier, Endpoint.pieces_under, htext]
    simp
  refine ⟨?_, hpieces, ?_⟩
  · rw [value_resource_of_dbCall haws hdb, h]
    rfl
  · rw [hpieces, connectionParts, List.append_cancel_left_eq, ← forall_isPlain_text_iff]
    cases s.text? port with
    | none => simp
    | some text => simp [Delimited.pieces_eq_singleton_iff]

/-- A query through a tunnel, whose port is given as a text with a bar. -/
def tunnel : Span where
  id := "9"
  name := "SELECT orders"
  kind := .client
  parentId := none
  attributes := .ofList [("db.system", .string "mysql"), ("db.name", .string "orders"),
    ("server.address", .string "db.example.com"), ("server.port", .string "33|06")]
  scope := none

/-- A port with a bar comes back as two parts. -/
theorem pieces_connection_ne_tunnel :
    ¬ ∀ (s : Span) (address port identifier : String), s.isAwsCall = false → s.isDbCall = true →
      Endpoint.keys? s = some (address, port) → (connection s).value = some identifier →
        Delimited.pieces identifier = connectionParts s address port := by
  intro h
  have hparts := h tunnel "server.address" "server.port" "orders|db.example.com|33|06" (by decide)
    (by decide) (by decide) (by decide)
  revert hparts
  decide

/-- A query whose database has a bar and a caret in its name, and whose port is a number. -/
def report : Span where
  id := "9"
  name := "SELECT totals"
  kind := .client
  parentId := none
  attributes := .ofList [("db.system", .string "mysql"), ("db.name", .string "a^|b"),
    ("net.peer.name", .string "db|1"),
    ("net.peer.port", .number (.finite ⟨false, 3306, 0, by decide⟩))]
  scope := none

/-- All three parts come back. -/
theorem pieces_connection_report :
    (connection report).value = some "a^^^|b|db^|1|3306" ∧
      Delimited.pieces "a^^^|b|db^|1|3306" = ["a^|b", "db|1", "3306"] := by
  have hvalue : (connection report).value = some "a^^^|b|db^|1|3306" := by
    decide
  have hparts :
      connectionParts report "net.peer.name" "net.peer.port" = ["a^|b", "db|1", "3306"] := by
    decide
  refine ⟨hvalue, ?_⟩
  rw [← hparts]
  exact (pieces_connection (by decide) (by decide) (by decide) hvalue).2.2.2 (by decide)

end SpanMetrics.Remote
