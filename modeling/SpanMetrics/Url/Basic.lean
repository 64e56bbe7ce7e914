import SpanMetrics.Text.Digits
import SpanMetrics.Url.Host
import SpanMetrics.Url.Path

/-!
# SpanMetrics.Url.Basic — URLs

Absolute URLs as browsers read them. What is needed of a URL is its host, its port and its path, so
user names, passwords, queries and fragments are read past. A special scheme such as `http` expects
a host behind any number of slashes, takes `\` for `/`, and has a port that goes without saying.
-/

namespace SpanMetrics

/-- An absolute URL. -/
structure Url where
  scheme : List Char
  host : Url.Host
  /-- The port, if it is written and not the one of the scheme. -/
  port : Option Nat
  path : Url.Path
deriving DecidableEq, Repr

namespace Url

variable [Runtime]

/-! ## Schemes -/

/-- The three ways in which the rest of a URL is read. -/
inductive Style where
  /-- A scheme with a host, and the port it stands for. -/
  | special (port : Nat)
  | file
  | other
deriving DecidableEq, Repr

/-- How URLs of a scheme are read. -/
def styleOf (scheme : List Char) : Style :=
  if scheme = "http".toList ∨ scheme = "ws".toList then .special 80
  else if scheme = "https".toList ∨ scheme = "wss".toList then .special 443
  else if scheme = "ftp".toList then .special 21
  else if scheme = "file".toList then .file
  else .other

/-- A character of a scheme behind the first one. -/
def isSchemeChar (c : Char) : Bool :=
  c.isAlphanum || c == '+' || c == '-' || c == '.'

/-- The scheme in small letters, and what follows its colon. -/
def splitScheme? (cs : List Char) : Option (List Char × List Char) :=
  match cs with
  | [] => none
  | c :: _ =>
    match cs.dropWhile isSchemeChar with
    | ':' :: rest =>
      if c.isAlpha then some ((cs.takeWhile isSchemeChar).map Char.toLower, rest) else none
    | _ => none

/-! ## Authorities -/

/-- What follows the last `@`, if there is one. -/
def afterLastAt? : List Char → Option (List Char)
  | [] => none
  | c :: cs => (afterLastAt? cs).or (if c = '@' then some cs else none)

/-- The authority without user name and password, behind which something has to follow. -/
def withoutCredentials? (authority : List Char) : Option (List Char) :=
  match afterLastAt? authority with
  | none => some authority
  | some rest => if rest.isEmpty then none else some rest

/-- The text up to the first colon outside brackets, and the text behind that colon. -/
def splitPort (inBrackets : Bool) : List Char → List Char × Option (List Char)
  | [] => ([], none)
  | c :: cs =>
    if c = ':' ∧ !inBrackets then ([], some cs)
    else
      let inside := if c = '[' then true else if c = ']' then false else inBrackets
      let (host, port) := splitPort inside cs
      (c :: host, port)

/-- A written port: nothing, or a number of sixteen bits. -/
def port? (cs : List Char) : Option (Option Nat) :=
  if cs.isEmpty then some none
  else if Text.allDigits cs ∧ Text.digitsValue cs < 65536 then some (some (Text.digitsValue cs))
  else none

/-- The host and the port of an authority. Only the host of a scheme that is not special may be
empty, and not in front of a port. -/
def authority? (default? : Option Nat) (authority : List Char) : Option (Host × Option Nat) := do
  let (hostText, portText?) := splitPort false (← withoutCredentials? authority)
  if hostText.isEmpty ∧ (default?.isSome ∨ portText?.isSome) then none
  else
    let host ← if default?.isSome then Host.parseSpecial? hostText else Host.parsePlain? hostText
    let port ← port? (portText?.getD [])
    some (host, if port = default? then none else port)

/-! ## The three styles -/

/-- A slash, in either direction. -/
def isSlash (c : Char) : Bool :=
  c == '/' || c == '\\'

/-- A slash in a scheme that is not special. -/
def isPlainSlash (c : Char) : Bool :=
  c == '/'

/-- The text without the slash that it may start with. -/
def withoutSlash : List Char → List Char
  | c :: cs => if isSlash c then cs else c :: cs
  | [] => []

/-- Reads what follows the colon of a special scheme. -/
def special? (scheme : List Char) (port : Nat) (body : List Char) : Option Url := do
  let rest := body.dropWhile isSlash
  let (host, port) ← authority? (some port) (rest.takeWhile (!isSlash ·))
  some ⟨scheme, host, port,
    .ofText false isSlash (withoutSlash (rest.dropWhile (!isSlash ·)))⟩

/-- The host of a file; a file on this machine has none. -/
def fileHost? (cs : List Char) : Option Host := do
  if cs.isEmpty then some .empty
  else
    let host ← Host.parseSpecial? cs
    some (if host = .domain "localhost".toList then .empty else host)

/-- Reads what follows the colon of `file`. A drive letter in the place of a host belongs to the
path. -/
def file? (scheme : List Char) (body : List Char) : Option Url :=
  let onThisMachine (path : List Char) : Url := ⟨scheme, .empty, none, .ofText true isSlash path⟩
  match body with
  | a :: b :: rest =>
    if isSlash a ∧ isSlash b then
      let name := rest.takeWhile (!isSlash ·)
      if Path.isDrive name then some (onThisMachine rest)
      else do
        let host ← fileHost? name
        some ⟨scheme, host, none,
          .ofText true isSlash (withoutSlash (rest.dropWhile (!isSlash ·)))⟩
    else some (onThisMachine (withoutSlash body))
  | _ => some (onThisMachine (withoutSlash body))

/-- Reads what follows the colon of any other scheme: an authority behind two slashes, a path behind
one, and otherwise a rootless path. -/
def other? (scheme : List Char) (body : List Char) : Option Url :=
  match body with
  | '/' :: '/' :: rest => do
    let (host, port) ← authority? none (rest.takeWhile (!isPlainSlash ·))
    let path : Path :=
      match rest.dropWhile (!isPlainSlash ·) with
      | [] => .segments []
      | _ :: path => .ofText false isPlainSlash path
    some ⟨scheme, host, port, path⟩
  | '/' :: path => some ⟨scheme, .empty, none, .ofText false isPlainSlash path⟩
  | path => some ⟨scheme, .empty, none, .rootless (percentEncode inControlSet path)⟩

/-! ## Whole URLs -/

/-- A control character or a space, which do not count at the ends of a URL. -/
def isEndBlank (c : Char) : Bool :=
  decide (c.toNat ≤ 0x20)

/-- A tab or the end of a line, which do not count anywhere in a URL. -/
def isLineBlank (c : Char) : Bool :=
  c == '\t' || c == '\n' || c == '\r'

/-- A URL without the characters that do not count. -/
def clean (cs : List Char) : List Char :=
  ((cs.dropWhile isEndBlank).reverse.dropWhile isEndBlank).reverse.filter (!isLineBlank ·)

/-- The query or the fragment begins. -/
def endsPath (c : Char) : Bool :=
  c == '?' || c == '#'

/-- Reads a URL from which everything that does not count is gone. -/
def ofClean? (cs : List Char) : Option Url := do
  let (scheme, rest) ← splitScheme? cs
  let body := rest.takeWhile (!endsPath ·)
  match styleOf scheme with
  | .special port => special? scheme port body
  | .file => file? scheme body
  | .other => other? scheme body

/-- Parses a URL. -/
def parse? (s : String) : Option Url :=
  ofClean? (clean s.toList)

/-- The host in writing; a URL without a host has the empty text. -/
def hostname (url : Url) : String :=
  .ofList url.host.text

/-- The port in writing. -/
def portText? (url : Url) : Option String :=
  url.port.map fun n => .ofList (Nat.toDigits 10 n)

/-- The path in writing. -/
def pathname (url : Url) : String :=
  .ofList url.path.text

end Url

end SpanMetrics
