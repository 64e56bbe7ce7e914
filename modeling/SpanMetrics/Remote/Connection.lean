import SpanMetrics.Delimited
import SpanMetrics.Span.Class
import SpanMetrics.Url.Basic

/-!
# SpanMetrics.Remote.Connection — database connections

A connection is identified by the name of the database, the address and the port, as far as they are
known. The first address that is present decides, together with the port of its own family; the
connection string is read only if no address is present.
-/

namespace SpanMetrics.Remote

/-- An address, perhaps with a port. -/
structure Endpoint where
  address : String
  port : Option String
deriving DecidableEq, Repr

namespace Endpoint

/-- The keys of addresses, each with the key of its port, the most telling first. -/
def keys : List (String × String) :=
  [(Key.serverAddress, Key.serverPort),
   (Key.netPeerName, Key.netPeerPort),
   (Key.serverSocketAddress, Key.serverSocketPort)]

/-- The keys of the first address that is present. -/
def keys? (s : Span) : Option (String × String) :=
  keys.find? (s.has ·.1)

/-- The endpoint under a pair of keys; without a string form of the address there is none. -/
def ofKeys? (s : Span) (address port : String) : Option Endpoint :=
  (s.text? address).map fun text => ⟨text, s.text? port⟩

/-- What separates the scheme of a connection string from the rest. -/
def schemeEnd : List Char := "://".toList

/-- The scheme that stands for any other one in a connection string. -/
def plainScheme : List Char := "dummyschema".toList

/-- A text from the first occurrence of `://` on. -/
def fromSchemeEnd? : List Char → Option (List Char)
  | [] => none
  | c :: cs => if schemeEnd.isPrefixOf (c :: cs) then some (c :: cs) else fromSchemeEnd? cs

/-- A connection string as a URL: schemes of several words, such as `jdbc:mysql`, make way for one
word. -/
def urlText (connection : String) : String :=
  match fromSchemeEnd? connection.toList with
  | some rest => .ofList (plainScheme ++ rest)
  | none => connection

/-- The endpoint of a URL; without a host there is none. -/
def ofUrl? (url : Url) : Option Endpoint :=
  if url.hostname = "" then none else some ⟨url.hostname, url.portText?⟩

/-- The endpoint in a connection string, with a notice if the string does not parse. -/
def ofConnection [Runtime] (connection : String) : Logged (Option Endpoint) :=
  match Url.parse? (urlText connection) with
  | some url => pure (ofUrl? url)
  | none => do
    Logged.note (.malformedConnection connection)
    pure none

/-- The endpoint of a span. -/
def ofSpan [Runtime] (s : Span) : Logged (Option Endpoint) :=
  match keys? s with
  | some (address, port) => pure (ofKeys? s address port)
  | none =>
    match s.text? Key.dbConnectionString with
    | some connection => ofConnection connection
    | none => pure none

/-- The endpoint as the end of an identifier. -/
def identifier (e : Endpoint) : String :=
  let address := Delimited.encode e.address
  match e.port with
  | some port => Delimited.join address port
  | none => address

end Endpoint

/-- The identifier of the connection that the span uses. -/
def connection [Runtime] (s : Span) : Logged (Option String) := do
  let endpoint? ← Endpoint.ofSpan s
  pure (endpoint?.map fun endpoint =>
    match s.text? Key.dbName with
    | some name => Delimited.join (Delimited.encode name) endpoint.identifier
    | none => endpoint.identifier)

end SpanMetrics.Remote
