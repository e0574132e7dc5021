import ClusterKeeper.Url.Host

/-!
# Addresses on the web

An address is read leniently: backslashes count as slashes, any number of them may
follow the scheme, tabs and newlines are dropped, and dot segments are resolved.
What a request may not hold is percent-encoded.

* `Url.ofText?`: the address that a text names.
* `Url.text`, `Url.target`: the address as a whole, and what of it a request names.
* `Url.login?`, `Url.withoutUser`: the user that it names, and the rest of it.
-/

namespace ClusterKeeper

/-- An address on the web, each part as it is written. -/
structure Url where
  secure : Bool
  /-- The user in front of the host, empty if there is none. -/
  user : String := ""
  /-- The user's password. -/
  password : Option String := none
  host : String
  /-- The port, unless it is the scheme's own. -/
  port : Option Nat
  path : String
  query : Option String
  fragment : Option String
  deriving DecidableEq, Repr

namespace Url

/-- The user with its password, and what parts them from the host. -/
def userPart (u : Url) : String :=
  match u.password with
  | some password => s!"{u.user}:{password}@"
  | none => if u.user = "" then "" else s!"{u.user}@"

/-- The host with its port, and the user in front. -/
def authority (u : Url) : String :=
  match u.port with
  | some port => s!"{u.userPart}{u.host}:{port}"
  | none => s!"{u.userPart}{u.host}"

/-- What of the address a request names. -/
def target (u : Url) : String :=
  match u.query with
  | some query => s!"{u.path}?{query}"
  | none => u.path

/-- The address as a whole. -/
def text (u : Url) : String :=
  let scheme := if u.secure then "https" else "http"
  let whole := s!"{scheme}://{u.authority}{u.target}"
  match u.fragment with
  | some fragment => s!"{whole}#{fragment}"
  | none => whole

/-- Encoded in a path. -/
def pathSpecial : List Char := [' ', '"', '<', '>', Char.ofNat 96, '#', '?', '\x7b', '\x7d']

/-- Encoded in a user and a password. -/
def userSpecial : List Char := pathSpecial ++ "/:;=@[\\]^|".toList

/-- Encoded in a query. -/
def querySpecial : List Char := [' ', '"', '<', '>', '#', '\'']

/-- Encoded in a fragment. -/
def fragmentSpecial : List Char := [' ', '"', '<', '>', Char.ofNat 96]

/-- A slash of either kind. -/
def isSlash (c : Char) : Bool := c == '/' || c == '\\'

/-- A control character or a space. -/
def isPadding (c : Char) : Bool := c.toNat ≤ 32

/-- The characters that count: none of the padding at the ends, no tab or newline. -/
def significant (cs : List Char) : List Char :=
  let inner := ((cs.dropWhile isPadding).reverse.dropWhile isPadding).reverse
  inner.filter fun c => c ≠ '\t' ∧ c ≠ '\n' ∧ c ≠ '\r'

/-- Whether the address is secure, and what follows its scheme. -/
def scheme? (cs : List Char) : Option (Bool × List Char) :=
  match cs.span (· ≠ ':') with
  | (name, ':' :: rest) =>
    let name := name.map Char.toLower
    if name = ['h', 't', 't', 'p'] then some (false, rest)
    else if name = ['h', 't', 't', 'p', 's'] then some (true, rest)
    else none
  | _ => none

/-- What stands before the last at sign, and what follows it. -/
def cutUser (cs : List Char) : List Char × List Char :=
  let (host, user) := cs.reverse.span (· ≠ '@')
  (user.tail.reverse, host.reverse)

/-- The user and the password, which stands after the first colon unless it is empty. -/
def cutPassword (cs : List Char) : String × Option String :=
  let written (cs : List Char) := String.ofList (Percent.encode userSpecial cs)
  match cs.span (· ≠ ':') with
  | (user, _ :: password) =>
    (written user, if password.isEmpty then none else some (written password))
  | (user, []) => (written user, none)

/-- The host and what follows its colon. A colon in brackets belongs to the host. -/
def cutPort : Bool → List Char → List Char × Option (List Char)
  | _, [] => ([], none)
  | inside, c :: rest =>
    if c = ':' ∧ ¬ inside then ([], some rest)
    else
      let inside := if c = '[' then true else if c = ']' then false else inside
      let (host, port) := cutPort inside rest
      (c :: host, port)

/-- A port, unset if it is empty or the scheme's own. -/
def port? (secure : Bool) (digits : List Char) : Option (Option Nat) :=
  if digits.isEmpty then some none
  else do
    let n ← if digits.all Char.isDigit then Host.number? 10 digits else none
    if 65535 < n then none
    else some (if n = (if secure then 443 else 80) then none else some n)

/-- Read an encoded dot as a dot. -/
def plainDots : List Char → List Char
  | '%' :: '2' :: 'e' :: rest | '%' :: '2' :: 'E' :: rest => '.' :: plainDots rest
  | c :: rest => c :: plainDots rest
  | [] => []

/-- Whether a segment stands for the place it is in. -/
def isHere (segment : List Char) : Bool := plainDots segment == ['.']

/-- Whether a segment stands for the place above. -/
def isAbove (segment : List Char) : Bool := plainDots segment == ['.', '.']

/-- Resolve dot segments; `done` holds the segments before, last one first. -/
def resolve (done : List (List Char)) : List (List Char) → List (List Char)
  | [] => done.reverse
  | [last] =>
    -- a dot segment at the end leaves its slash
    if isAbove last then ([] :: done.tail).reverse
    else if isHere last then ([] :: done).reverse
    else (last :: done).reverse
  | segment :: rest =>
    if isAbove segment then resolve done.tail rest
    else if isHere segment then resolve done rest
    else resolve (segment :: done) rest

/-- The path of an address, from its first slash on. -/
def pathText (cs : List Char) : List Char :=
  let inner :=
    match cs with
    | c :: rest => if isSlash c then rest else c :: rest
    | [] => []
  (resolve [] (Text.cutWhere isSlash inner)).flatMap fun s => '/' :: Percent.encode pathSpecial s

/-- The address that a text names. -/
def ofText? (s : String) : Option Url := do
  let (secure, rest) ← scheme? (significant s.toList)
  -- slashes before the host do not count, however many there are
  let rest := rest.dropWhile isSlash
  let (authority, rest) := rest.span fun c => !(isSlash c || c == '?' || c == '#')
  let (userText, hostText) := cutUser authority
  let (user, password) := cutPassword userText
  let (hostText, portText) := cutPort false hostText
  let host ← Host.ofChars? hostText
  let port ← port? secure (portText.getD [])
  let (path, rest) := rest.span fun c => !(c == '?' || c == '#')
  let (query, rest) :=
    match rest with
    | '?' :: rest =>
      let (query, rest) := rest.span (· ≠ '#')
      (some (String.ofList (Percent.encode querySpecial query)), rest)
    | rest => (none, rest)
  let fragment :=
    match rest with
    | _ :: rest => some (String.ofList (Percent.encode fragmentSpecial rest))
    | [] => none
  some { secure, user, password, host := String.ofList host, port
         path := String.ofList (pathText path), query, fragment }

/-- The address with no user in it. -/
def withoutUser (u : Url) : Url := { u with user := "", password := none }

/-- The text that a part of an address stands for. -/
def decoded? (part : String) : Option String := (Utf8.decode (Percent.decode part.toList)).toOption

/-- The user and the password to give where the address leads to. A password that
stands for no text is left out, and a user who has neither does not count. -/
def login? (u : Url) : Option (String × Option String) := do
  let user ← decoded? u.user
  let password := u.password.bind decoded?
  if user = "" ∧ password = none then none else some (user, password)

end Url

end ClusterKeeper
