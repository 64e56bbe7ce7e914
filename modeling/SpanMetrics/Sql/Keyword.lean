import SpanMetrics.Text.Blank
import SpanMetrics.Text.Case
import SpanMetrics.Text.Units

/-!
# SpanMetrics.Sql.Keyword — the operation of a statement

The operation of a statement is the keyword that it starts with. Keywords are tried from the longest
to the shortest, so that `DROP VIEW` wins over `DROP`, and a keyword counts only where a word ends
behind it.

* `mem_longestFirst`, `pairwise_longestFirst` — the order in which keywords are tried.
-/

namespace SpanMetrics.Sql

/-- The words and phrases that name an operation. -/
def keywords : List String :=
  ["ALTER DATABASE", "ALTER FUNCTION", "ALTER INDEX", "ALTER PROCEDURE", "ALTER SCHEMA",
   "ALTER SEQUENCE", "ALTER TABLE", "ALTER TRIGGER", "ALTER USER", "ALTER VIEW", "ALTER", "ANALYZE",
   "BEGIN", "CALL", "CHECKPOINT", "CLOSE", "COMMENT", "COMMIT", "COPY", "CREATE DATABASE",
   "CREATE FUNCTION", "CREATE INDEX", "CREATE PROCEDURE", "CREATE ROLE", "CREATE SCHEMA",
   "CREATE SEQUENCE", "CREATE TABLE", "CREATE TRIGGER", "CREATE USER", "CREATE VIEW", "CREATE",
   "DEALLOCATE", "DECLARE", "DELETE", "DESCRIBE", "DISCARD", "DO", "DROP DATABASE", "DROP FUNCTION",
   "DROP INDEX", "DROP PROCEDURE", "DROP ROLE", "DROP SCHEMA", "DROP SEQUENCE", "DROP TABLE",
   "DROP TRIGGER", "DROP USER", "DROP VIEW", "DROP", "END", "EXECUTE", "EXPLAIN", "FETCH", "FLUSH",
   "GRANT", "HANDLER", "INSERT", "KILL", "LISTEN", "LOAD", "LOCK", "MERGE", "MOVE", "NOTIFY",
   "OPTIMIZE", "PREPARE", "REFRESH MATERIALIZED VIEW", "REINDEX", "RELEASE SAVEPOINT",
   "RENAME TABLE", "REPAIR", "REPLACE", "RESET", "REVOKE", "ROLLBACK", "SAVEPOINT", "SELECT", "SET",
   "SHOW", "START TRANSACTION", "TRUNCATE", "UNLISTEN", "UNLOCK", "UPDATE", "UPSERT", "USE",
   "VACUUM", "VALUES", "WITH"]

/-- The keywords from the longest to the shortest; those of one length keep their order. -/
def longestFirst : List String :=
  keywords.mergeSort (fun a b => decide (b.length ≤ a.length))

theorem mem_longestFirst (k : String) : k ∈ longestFirst ↔ k ∈ keywords :=
  List.mem_mergeSort

/-- No keyword comes behind a shorter one. -/
theorem pairwise_longestFirst : longestFirst.Pairwise (fun a b => b.length ≤ a.length) := by
  have h := @List.pairwise_mergeSort String (fun a b => decide (b.length ≤ a.length))
    (fun a b c hab hbc => by simp only [decide_eq_true_eq] at hab hbc ⊢; omega)
    (fun a b => by simp only [Bool.or_eq_true, decide_eq_true_eq]; omega) keywords
  exact h.imp (fun hab => by simpa using hab)

/-- A character that continues a word. -/
def isWordChar (c : Char) : Bool :=
  c.isAlphanum || c == '_'

/-- A word ends in front of the text. -/
def atWordEnd : List Char → Bool
  | [] => true
  | c :: _ => !isWordChar c

/-- The text starts with the keyword, and the word ends there. -/
def startsWith (cs : List Char) (keyword : String) : Bool :=
  keyword.toList.isPrefixOf cs && atWordEnd (cs.drop keyword.toList.length)

/-- The keyword that a text in capitals starts with. -/
def leadingKeyword? (cs : List Char) : Option String :=
  longestFirst.find? (startsWith cs)

/-- How much of a statement is looked at, in UTF-16 units. -/
def headLimit : Nat := 80

/-- The beginning of a statement, in capitals. -/
def head (statement : String) : List Char :=
  Text.upper (Text.takeUnits headLimit (Text.trimStart statement.toList))

/-- The operation of a statement. -/
def operation? (statement : String) : Option String :=
  leadingKeyword? (head statement)

end SpanMetrics.Sql
