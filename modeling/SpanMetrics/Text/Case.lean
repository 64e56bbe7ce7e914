/-!
# SpanMetrics.Text.Case — letter case, as far as ASCII text can tell

Capital and small forms of the ASCII letters, and of the few other letters whose capital or small
form holds an ASCII letter. Every other character stands for itself: its full conversion holds no
ASCII character, and a search for ASCII words cannot tell the two apart.
-/

namespace SpanMetrics.Text

/-- The letters outside ASCII whose capital form holds an ASCII letter. -/
def wideCapitals : List (Char × List Char) :=
  [('\u00DF', ['S', 'S']), ('\u0131', ['I']), ('\u0149', ['\u02BC', 'N']), ('\u017F', ['S']),
   ('\u01F0', ['J', '\u030C']), ('\u1E96', ['H', '\u0331']), ('\u1E97', ['T', '\u0308']),
   ('\u1E98', ['W', '\u030A']), ('\u1E99', ['Y', '\u030A']), ('\u1E9A', ['A', '\u02BE']),
   ('\uFB00', ['F', 'F']), ('\uFB01', ['F', 'I']), ('\uFB02', ['F', 'L']),
   ('\uFB03', ['F', 'F', 'I']), ('\uFB04', ['F', 'F', 'L']), ('\uFB05', ['S', 'T']),
   ('\uFB06', ['S', 'T'])]

/-- The letters outside ASCII whose small form holds an ASCII letter. -/
def wideSmalls : List (Char × List Char) :=
  [('\u0130', ['i', '\u0307']), ('\u212A', ['k'])]

/-- The capital form of a character. -/
def upperChar (c : Char) : List Char :=
  if c.toNat < 0x80 then [c.toUpper] else (wideCapitals.lookup c).getD [c]

/-- The small form of a character. -/
def lowerChar (c : Char) : List Char :=
  if c.toNat < 0x80 then [c.toLower] else (wideSmalls.lookup c).getD [c]

/-- A text in capitals. -/
def upper (cs : List Char) : List Char :=
  cs.flatMap upperChar

/-- A text in small letters. -/
def lower (cs : List Char) : List Char :=
  cs.flatMap lowerChar

@[simp] theorem upper_nil : upper [] = [] := rfl

@[simp] theorem upper_cons (c : Char) (cs : List Char) :
    upper (c :: cs) = upperChar c ++ upper cs := rfl

@[simp] theorem upper_append (as bs : List Char) : upper (as ++ bs) = upper as ++ upper bs :=
  List.flatMap_append

@[simp] theorem lower_nil : lower [] = [] := rfl

@[simp] theorem lower_cons (c : Char) (cs : List Char) :
    lower (c :: cs) = lowerChar c ++ lower cs := rfl

end SpanMetrics.Text
