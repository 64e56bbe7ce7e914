import SpanMetrics.Runtime
import SpanMetrics.Text.Case
import SpanMetrics.Url.IPv4
import SpanMetrics.Url.IPv6

/-!
# SpanMetrics.Url.Host — hosts

In a URL of a special scheme a host is a domain name or an address. In other URLs it is any text
without the characters that have a meaning around a host. An IPv6 address stands in brackets in
both. Domain names are kept in ASCII; for a name of another script the runtime has the ASCII form.
-/

namespace SpanMetrics.Url

/-- The host of a URL. -/
inductive Host where
  /-- A host without a name. -/
  | empty
  | domain (name : List Char)
  | ipv4 (address : Nat)
  | ipv6 (pieces : List Nat)
  /-- A host of a URL whose scheme is not special. -/
  | plain (name : List Char)
deriving DecidableEq, Repr

namespace Host

/-- A character that no host holds. -/
def isForbidden (c : Char) : Bool :=
  c ∈ ['\x00', '\t', '\n', '\r', ' ', '#', '/', ':', '<', '>', '?', '@', '[', '\\', ']', '^', '|']

/-- A character that no domain name holds. -/
def isForbiddenInDomain (c : Char) : Bool :=
  isForbidden c || decide (c.toNat < 0x20) || c == '%' || c == '\x7f'

/-- The address in brackets, if the text starts with a bracket. -/
def bracketed? : List Char → Option (Option Host)
  | '[' :: cs =>
    if cs.getLast? = some ']' then some ((IPv6.parse? cs.dropLast).map .ipv6) else some none
  | _ => none

/-- What a label starts with that is in an ASCII form already. -/
def asciiFormMark : List Char := "xn--".toList

/-- The domain name has its own letters as its ASCII form: it is ASCII, and no label is in such a form
already. -/
def isAsciiName (name : List Char) : Bool :=
  name.all (·.toNat < 0x80)
    && (name.splitOn '.').all fun label => !asciiFormMark.isPrefixOf (Text.lower label)

/-- The ASCII form of a domain name. -/
def toAscii? [Runtime] (name : List Char) : Option (List Char) :=
  if isAsciiName name then some (Text.lower name) else Runtime.domainToAscii? name

/-- Parses the host of a URL with a special scheme. -/
def parseSpecial? [Runtime] (cs : List Char) : Option Host :=
  match bracketed? cs with
  | some host? => host?
  | none => do
    let name ← toAscii? (← percentDecode? cs)
    if name.isEmpty ∨ name.any isForbiddenInDomain then none
    else if IPv4.endsInNumber name then (IPv4.parse? name).map .ipv4
    else some (.domain name)

/-- Parses the host of any other URL. -/
def parsePlain? (cs : List Char) : Option Host :=
  match bracketed? cs with
  | some host? => host?
  | none =>
    if cs.isEmpty then some .empty
    else if cs.any isForbidden then none
    else some (.plain (percentEncode inControlSet cs))

/-- A host in writing. -/
def text : Host → List Char
  | .empty => []
  | .domain name => name
  | .ipv4 address => IPv4.text address
  | .ipv6 pieces => '[' :: (IPv6.text pieces ++ [']'])
  | .plain name => name

end Host

end SpanMetrics.Url
