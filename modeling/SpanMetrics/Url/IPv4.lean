import SpanMetrics.Text.Digits
import SpanMetrics.Url.Percent

/-!
# SpanMetrics.Url.IPv4 — IPv4 addresses in host names

A host name whose last label is a number is an address. It has up to four numbers, decimal, octal
with a leading `0` or hexadecimal with a leading `0x`, and the last one fills the bytes that remain.
-/

namespace SpanMetrics.Url

namespace IPv4

/-- The number that the digits of a base stand for; no digits stand for zero. -/
def ofDigits? (base : Nat) (cs : List Char) : Option Nat :=
  cs.foldlM (fun n c => (digitValue? base c).map (base * n + ·)) 0

/-- One of the numbers of an address. -/
def number? : List Char → Option Nat
  | [] => none
  | '0' :: 'x' :: cs => ofDigits? 16 cs
  | '0' :: 'X' :: cs => ofDigits? 16 cs
  | '0' :: c :: cs => ofDigits? 8 (c :: cs)
  | cs => ofDigits? 10 cs

/-- The labels of a host name; an empty last one does not count. -/
def labels (host : List Char) : List (List Char) :=
  let all := host.splitOn '.'
  if 1 < all.length ∧ all.getLast? = some [] then all.dropLast else all

/-- The last label of the host name is a number. -/
def endsInNumber (host : List Char) : Bool :=
  match (labels host).getLast? with
  | some last => Text.allDigits last || (number? last).isSome
  | none => false

/-- Puts the numbers of an address together, given how many bytes are to be filled. -/
def assemble? : Nat → List Nat → Option Nat
  | _, [] => none
  | bytes, [n] => if n < 256 ^ bytes then some n else none
  | bytes + 1, n :: ns => if n < 256 then (assemble? bytes ns).map (n * 256 ^ bytes + ·) else none
  | 0, _ :: _ :: _ => none

/-- Parses an address. -/
def parse? (host : List Char) : Option Nat := do
  let numbers ← (labels host).mapM number?
  if numbers.length ≤ 4 then assemble? 4 numbers else none

/-- The four bytes of an address. -/
def bytes (address : Nat) : List Nat :=
  [address / 16777216 % 256, address / 65536 % 256, address / 256 % 256, address % 256]

/-- An address in writing. -/
def text (address : Nat) : List Char :=
  ['.'].intercalate ((bytes address).map (Nat.toDigits 10))

end IPv4

end SpanMetrics.Url
