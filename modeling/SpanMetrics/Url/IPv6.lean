import SpanMetrics.Text.Digits
import SpanMetrics.Url.Percent

/-!
# SpanMetrics.Url.IPv6 — IPv6 addresses

Eight pieces of sixteen bits, in hexadecimal between colons. The last two may be written as an IPv4
address, and one `::` stands for as many zeros as are missing. The first of the longest runs of two
or more zeros is written as `::`.
-/

namespace SpanMetrics.Url

namespace IPv6

/-- A piece in hexadecimal. -/
def piece? (cs : List Char) : Option Nat :=
  if cs.isEmpty ∨ 4 < cs.length then none
  else cs.foldlM (fun n c => (digitValue? 16 c).map (16 * n + ·)) 0

/-- A byte in decimal, without leading zeros. -/
def byte? (cs : List Char) : Option Nat :=
  if Text.allDigits cs ∧ (cs.length = 1 ∨ cs.head? ≠ some '0') ∧ cs.length ≤ 3
      ∧ Text.digitsValue cs < 256 then
    some (Text.digitsValue cs)
  else none

/-- Two pieces written as four bytes. -/
def quad? (cs : List Char) : Option (List Nat) := do
  match ← (cs.splitOn '.').mapM byte? with
  | [a, b, c, d] => some [256 * a + b, 256 * c + d]
  | _ => none

/-- The pieces between colons, of which the last may stand for two. -/
def group? (quadAllowed : Bool) : List (List Char) → Option (List Nat)
  | [] => some []
  | [last] => if quadAllowed ∧ '.' ∈ last then quad? last else (piece? last).map ([·])
  | p :: ps => do
    let n ← piece? p
    let ns ← group? quadAllowed ps
    some (n :: ns)

/-- The pieces of a text that may be empty. -/
def side? (quadAllowed : Bool) (cs : List Char) : Option (List Nat) :=
  if cs.isEmpty then some [] else group? quadAllowed (cs.splitOn ':')

/-- The texts around the first `::`. -/
def aroundGap? : List Char → Option (List Char × List Char)
  | ':' :: ':' :: cs => some ([], cs)
  | c :: cs => (aroundGap? cs).map fun (left, right) => (c :: left, right)
  | [] => none

/-- Parses an address into its eight pieces. -/
def parse? (cs : List Char) : Option (List Nat) :=
  match aroundGap? cs with
  | none => do
    let pieces ← group? true (cs.splitOn ':')
    if pieces.length = 8 then some pieces else none
  | some (left, right) => do
    let before ← side? false left
    let after ← side? true right
    if before.length + after.length ≤ 7 then
      some (before ++ List.replicate (8 - (before.length + after.length)) 0 ++ after)
    else none

/-- The number of zeros at the start. -/
def leadingZeros (pieces : List Nat) : Nat :=
  (pieces.takeWhile (· == 0)).length

/-- The position and the length of the first of the longest runs of zeros. -/
def longestZeros : List Nat → Nat × Nat
  | [] => (0, 0)
  | p :: ps =>
    let later := longestZeros ps
    let here := leadingZeros (p :: ps)
    if later.2 ≤ here then (0, here) else (later.1 + 1, later.2)

/-- Pieces between colons. -/
def colons (pieces : List Nat) : List Char :=
  [':'].intercalate (pieces.map (Nat.toDigits 16))

/-- An address in writing. -/
def text (pieces : List Nat) : List Char :=
  let (start, length) := longestZeros pieces
  if 2 ≤ length then
    colons (pieces.take start) ++ ':' :: ':' :: colons (pieces.drop (start + length))
  else colons pieces

end IPv6

end SpanMetrics.Url
