import SpanMetrics.Text.Digits

/-!
# SpanMetrics.Number.Basic — numbers as decimals

A finite number is held as the decimal with the fewest digits that denotes it; zero keeps its sign.
`Number.text` writes it, positionally near one and with an exponent elsewhere; `Number.parse?`
reads it.
-/

namespace SpanMetrics

/-- Drops the trailing zeros of a decimal `n · 10 ^ e`. -/
def stripZeros (n : Nat) (e : Int) : Nat × Int :=
  if n = 0 then (0, 0) else if n % 10 = 0 then stripZeros (n / 10) (e + 1) else (n, e)
termination_by n
decreasing_by omega

/-- What is left ends in no zero, unless it is zero itself. -/
theorem stripZeros_lowest (n : Nat) (e : Int) :
    ((stripZeros n e).1 = 0 ∧ (stripZeros n e).2 = 0) ∨ (stripZeros n e).1 % 10 ≠ 0 := by
  fun_induction stripZeros n e with
  | case1 => exact .inl ⟨rfl, rfl⟩
  | case2 _ _ _ _ ih => exact ih
  | case3 _ _ _ h => exact .inr h

/-- The decimal `± digits · 10 ^ exponent`, without trailing zeros. -/
structure Decimal where
  /-- The number has a minus sign; zero may have one. -/
  negative : Bool
  /-- The digits, read as one number. -/
  digits : Nat
  /-- The power of ten of the last digit. -/
  exponent : Int
  /-- The last digit is not zero, unless the number is. -/
  lowest : (digits = 0 ∧ exponent = 0) ∨ digits % 10 ≠ 0
deriving DecidableEq, Repr

/-- The decimal `± n · 10 ^ e`, in lowest form. -/
def Decimal.ofParts (negative : Bool) (n : Nat) (e : Int) : Decimal :=
  ⟨negative, (stripZeros n e).1, (stripZeros n e).2, stripZeros_lowest n e⟩

/-- A number that an attribute can hold. -/
inductive Number where
  | nan
  | infinite (negative : Bool)
  | finite (d : Decimal)
deriving DecidableEq, Repr

namespace Number

/-- An integer as a number. -/
def ofInt (i : Int) : Number :=
  .finite (.ofParts (decide (i < 0)) i.natAbs 0)

/-- The integer that the number is, if it is one; a negative zero is none. -/
def toInt? : Number → Option Int
  | .finite d =>
    if d.exponent < 0 ∨ (d.digits = 0 ∧ d.negative) then none
    else
      let magnitude := d.digits * Nat.pow 10 d.exponent.toNat
      some (if d.negative then -Int.ofNat magnitude else Int.ofNat magnitude)
  | _ => none

/-! ## Writing -/

/-- Numbers with at most this many digits before the point are written without an exponent. -/
def wholeLimit : Int := 21

/-- Fractions with fewer than this many zeros after the point are written without an exponent. -/
def zerosLimit : Int := 6

/-- The digits with the point placed after `point` of them, or with an exponent where the point lies
far outside. -/
def layout (digits : List Char) (point : Int) : List Char :=
  let count : Int := digits.length
  if count ≤ point ∧ point ≤ wholeLimit then
    digits ++ List.replicate (point - count).toNat '0'
  else if 0 < point ∧ point ≤ wholeLimit then
    digits.take point.toNat ++ '.' :: digits.drop point.toNat
  else if -zerosLimit < point ∧ point ≤ 0 then
    '0' :: '.' :: (List.replicate (-point).toNat '0' ++ digits)
  else
    let fraction := if digits.length ≤ 1 then [] else '.' :: digits.drop 1
    let sign := if 0 < point then '+' else '-'
    digits.take 1 ++ fraction ++ 'e' :: sign :: Nat.toDigits 10 (point - 1).natAbs

/-- The number in writing. A zero is written without its sign. -/
def text : Number → String
  | .nan => "NaN"
  | .infinite negative => if negative then "-Infinity" else "Infinity"
  | .finite d =>
    if d.digits = 0 then "0"
    else
      let digits := Nat.toDigits 10 d.digits
      let body := layout digits (digits.length + d.exponent)
      .ofList (if d.negative then '-' :: body else body)

/-- The number in writing, with the sign of a zero. -/
def signedText (n : Number) : String :=
  match n with
  | .finite d => if d.digits = 0 ∧ d.negative then "-0" else n.text
  | _ => n.text

/-! ## Reading -/

/-- The power of ten that ends a written number: nothing, or `e` with a signed run of digits. -/
def exponent? : List Char → Option Int
  | [] => some 0
  | 'e' :: '+' :: ds => if Text.allDigits ds then some (Text.digitsValue ds) else none
  | 'e' :: '-' :: ds => if Text.allDigits ds then some (-Text.digitsValue ds) else none
  | _ => none

/-- Digits, possibly with a point and a power of ten. -/
def decimal? (negative : Bool) (cs : List Char) : Option Number :=
  let whole := cs.takeWhile Char.isDigit
  let rest := cs.dropWhile Char.isDigit
  let (fraction, tail) : List Char × List Char :=
    match rest with
    | '.' :: r => (r.takeWhile Char.isDigit, r.dropWhile Char.isDigit)
    | r => ([], r)
  if whole.isEmpty then none
  else (exponent? tail).map fun e =>
    .finite (.ofParts negative (Text.digitsValue (whole ++ fraction)) (e - fraction.length))

/-- Reads a written number. -/
def parse? (s : String) : Option Number :=
  match s with
  | "NaN" => some .nan
  | "Infinity" => some (.infinite false)
  | "-Infinity" => some (.infinite true)
  | _ =>
    match s.toList with
    | '-' :: cs => decimal? true cs
    | cs => decimal? false cs

end Number

end SpanMetrics
