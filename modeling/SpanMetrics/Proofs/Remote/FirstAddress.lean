import SpanMetrics.Proofs.Remote.Connection
import SpanMetrics.Proofs.Span.Agreement

/-!
# SpanMetrics.Proofs.Remote.FirstAddress — the address that decides about a connection

Addresses come in three families, each with a key for its port. The first address that is present
decides, and of the ports only that of its own family is read, so that no host is reported with the port
of another one.

* `FirstAddress` — the first address that is present, said without the search for it.
* `first_address_decides` — spans with one such address, one port of it and one name of the database have
  one connection.
-/

namespace SpanMetrics.Remote

open SpanMetrics.Span (AgreeOn)

variable {s s' : Span} {address port : String}

/-- The first address that a span has, with the key of the port of the same family. An address counts as
soon as it is present, whether or not it has a string form. -/
inductive FirstAddress (s : Span) : String → String → Prop where
  | server (hserver : s.has Key.serverAddress = true) :
      FirstAddress s Key.serverAddress Key.serverPort
  | peer (hserver : s.has Key.serverAddress = false) (hpeer : s.has Key.netPeerName = true) :
      FirstAddress s Key.netPeerName Key.netPeerPort
  | socket (hserver : s.has Key.serverAddress = false) (hpeer : s.has Key.netPeerName = false)
      (hsocket : s.has Key.serverSocketAddress = true) :
      FirstAddress s Key.serverSocketAddress Key.serverSocketPort

/-- The first address is the one that the search finds. -/
theorem FirstAddress.keys?_eq (h : FirstAddress s address port) :
    Endpoint.keys? s = some (address, port) := by
  unfold Endpoint.keys? Endpoint.keys
  cases h with
  | server hserver => simp [hserver]
  | peer hserver hpeer => simp [hserver, hpeer]
  | socket hserver hpeer hsocket => simp [hserver, hpeer, hsocket]

/-- What is read back from an identifier: behind the first address stands the port of its own family, or
nothing. -/
theorem FirstAddress.exists_identifier [Runtime] (h : FirstAddress s address port) {text : String}
    (htext : s.text? address = some text) :
    ∃ identifier, (connection s).value = some identifier ∧
      Delimited.pieces identifier =
        (s.text? Key.dbName).toList ++ text :: ((s.text? port).map Delimited.pieces).getD [] := by
  refine ⟨Endpoint.under (s.text? Key.dbName) ⟨text, s.text? port⟩, ?_, ?_⟩
  · exact (connection_eq_some_iff h.keys?_eq).2 ⟨text, htext, rfl⟩
  · exact Endpoint.pieces_under _ _

/-- Two spans with one first address have one connection, if they agree on the name of the database, on
that address and on the port of its own family, whatever other addresses, ports and connection strings they
have. An address without a port of its own is reported without a port, and one without a string form
reports nothing, rather than an address of lower rank. -/
theorem first_address_decides [Runtime] (h : FirstAddress s address port)
    (h' : FirstAddress s' address port) (hagree : AgreeOn [Key.dbName, address, port] s s') :
    connection s = connection s' ∧
      (∀ text, s.text? address = some text →
        ∃ identifier, (connection s).value = some identifier ∧
          (s.text? port = none →
            Delimited.pieces identifier = (s.text? Key.dbName).toList ++ [text]) ∧
          ∀ own, s.text? port = some own →
            Delimited.pieces identifier =
              (s.text? Key.dbName).toList ++ text :: Delimited.pieces own) ∧
      (s.text? address = none → connection s = pure none) := by
  have hname : s.text? Key.dbName = s'.text? Key.dbName := hagree.text? (by simp)
  have haddress : s.text? address = s'.text? address := hagree.text? (by simp)
  have hport : s.text? port = s'.text? port := hagree.text? (by simp)
  refine ⟨?_, ?_, ?_⟩
  · -- what either span has under a key of another family is never read
    rw [connection_of_keys? h.keys?_eq, connection_of_keys? h'.keys?_eq, hname, haddress, hport]
  · intro text htext
    obtain ⟨identifier, hvalue, hpieces⟩ := h.exists_identifier htext
    refine ⟨identifier, hvalue, ?_, ?_⟩
    · intro hnone
      rw [hpieces, hnone]
      rfl
    · intro own hown
      rw [hpieces, hown]
      rfl
  · intro hnone
    rw [connection_of_keys? h.keys?_eq, hnone, Option.map_none]

/-- A query through a proxy, which is the peer and has a port, and for which a replica may answer. -/
def proxied : Span where
  id := "9"
  name := "SELECT orders"
  kind := .client
  parentId := none
  attributes := .ofList [("db.system", .string "postgresql"), ("db.name", .string "orders"),
    ("server.address", .string "db|1"), ("net.peer.name", .string "10.0.0.7"),
    ("net.peer.port", .number (.ofInt 6432)),
    ("db.connection_string", .string "postgresql://replica:5433/orders")]
  scope := none

/-- Neither the port of the peer nor that of the socket is borrowed, and an address that is `null` still
comes before the peer. -/
theorem first_address_decides_proxied :
    connection proxied =
        connection ((proxied.erase Key.netPeerPort).insert Key.serverSocketPort (.string "5432")) ∧
      (∃ identifier, (connection proxied).value = some identifier ∧
        Delimited.pieces identifier = ["orders", "db|1"]) ∧
      connection (proxied.insert Key.serverAddress .null) = pure none := by
  have hfirst : FirstAddress proxied Key.serverAddress Key.serverPort := .server (by decide)
  have hother : FirstAddress
      ((proxied.erase Key.netPeerPort).insert Key.serverSocketPort (.string "5432"))
      Key.serverAddress Key.serverPort := .server (by decide)
  have hnull : FirstAddress (proxied.insert Key.serverAddress .null) Key.serverAddress
      Key.serverPort := .server (by decide)
  have hagree : AgreeOn [Key.dbName, Key.serverAddress, Key.serverPort] proxied
      ((proxied.erase Key.netPeerPort).insert Key.serverSocketPort (.string "5432")) := by
    intro key hkey
    simp only [List.mem_cons, List.not_mem_nil, or_false] at hkey
    rcases hkey with rfl | rfl | rfl <;> rfl
  obtain ⟨hsame, hread, -⟩ := first_address_decides hfirst hother hagree
  obtain ⟨-, -, hnone⟩ := first_address_decides hnull hnull (fun _ _ => rfl)
  obtain ⟨identifier, hvalue, hpieces, -⟩ := hread "db|1" (by decide)
  exact ⟨hsame, ⟨identifier, hvalue, hpieces (by decide)⟩, hnone (by decide)⟩

end SpanMetrics.Remote
