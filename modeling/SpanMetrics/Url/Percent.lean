/-!
# SpanMetrics.Url.Percent — percent encoding

A character of an encode set is written as its UTF-8 bytes, each as `%` and two capital hexadecimal
digits. Decoding serves host names. Bytes that are no UTF-8 make it fail, since no host name holds the
character that would stand for them.
-/

namespace SpanMetrics.Url

/-- The control characters and everything beyond the tilde. -/
def inControlSet (c : Char) : Bool :=
  decide (c.toNat < 0x20) || decide (0x7E < c.toNat)

/-- What a path does not hold as it is. -/
def inPathSet (c : Char) : Bool :=
  inControlSet c || c ∈ [' ', '"', '#', '<', '>', '?', '\x60', '\x7b', '\x7d']

/-- A hexadecimal digit in capitals. -/
def hexDigit (n : Nat) : Char :=
  Char.ofNat (if n < 10 then '0'.toNat + n else 'A'.toNat + (n - 10))

/-- A byte as it is escaped. -/
def escapeByte (b : UInt8) : List Char :=
  ['%', hexDigit (b.toNat / 16), hexDigit (b.toNat % 16)]

/-- A character, escaped if it is in the set. -/
def encodeChar (inSet : Char → Bool) (c : Char) : List Char :=
  if inSet c then (String.utf8EncodeChar c).flatMap escapeByte else [c]

/-- A text with the characters of the set escaped. -/
def percentEncode (inSet : Char → Bool) (cs : List Char) : List Char :=
  cs.flatMap (encodeChar inSet)

/-- The value of a digit in a base up to sixteen. -/
def digitValue? (base : Nat) (c : Char) : Option Nat :=
  let n := c.toNat
  let value? : Option Nat :=
    if '0'.toNat ≤ n ∧ n ≤ '9'.toNat then some (n - '0'.toNat)
    else if 'a'.toNat ≤ n ∧ n ≤ 'f'.toNat then some (n - 'a'.toNat + 10)
    else if 'A'.toNat ≤ n ∧ n ≤ 'F'.toNat then some (n - 'A'.toNat + 10)
    else none
  value?.filter (· < base)

/-- The UTF-8 bytes of a text, with its escapes replaced by the bytes they stand for; `%` that begins no
escape stays. -/
def percentBytes : List Char → List UInt8
  | [] => []
  | '%' :: a :: b :: cs =>
    match digitValue? 16 a, digitValue? 16 b with
    | some x, some y => .ofNat (16 * x + y) :: percentBytes cs
    | _, _ => String.utf8EncodeChar '%' ++ percentBytes (a :: b :: cs)
  | c :: cs => String.utf8EncodeChar c ++ percentBytes cs

/-- A text with its escapes replaced by the characters they stand for. -/
def percentDecode? (cs : List Char) : Option (List Char) :=
  (percentBytes cs).toByteArray.utf8Decode?.map Array.toList

/-- A text without characters of the set stays as it is. -/
theorem percentEncode_eq_self {inSet : Char → Bool} {cs : List Char}
    (h : ∀ c ∈ cs, inSet c = false) : percentEncode inSet cs = cs := by
  induction cs with
  | nil => rfl
  | cons c cs ih =>
    have hc := h c (by simp)
    have hcs := ih (fun d hd => h d (by simp [hd]))
    simp only [percentEncode, List.flatMap_cons] at hcs ⊢
    simp [encodeChar, hc, hcs]

theorem percentBytes_of_notMem {cs : List Char} (h : '%' ∉ cs) :
    percentBytes cs = cs.flatMap String.utf8EncodeChar := by
  induction cs with
  | nil => rfl
  | cons c cs ih =>
    rw [List.mem_cons, not_or] at h
    rw [percentBytes, ih h.2, List.flatMap_cons]
    exact fun _ _ _ hc => absurd hc.symm h.1

/-- A text without escapes stays as it is. -/
theorem percentDecode?_of_notMem {cs : List Char} (h : '%' ∉ cs) : percentDecode? cs = some cs := by
  have hdecode : (cs.flatMap String.utf8EncodeChar).toByteArray.utf8Decode? = some cs.toArray :=
    List.utf8Decode?_utf8Encode
  rw [percentDecode?, percentBytes_of_notMem h, hdecode, Option.map_some]

end SpanMetrics.Url
