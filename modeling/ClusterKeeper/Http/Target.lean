/-!
# Request targets

A target is a path with maybe a query, an address that puts a scheme and an authority
in front of them, or an authority alone. A number sign ends a query or a path, and
what follows it is no part of a request.

* `Target.cut?`: the path and the query, if every character may stand where it does.
* `Target.path?`: the path of a target of any form.
* `Target.isAddress`: whether a request can be sent to an address at all.
-/

namespace ClusterKeeper.Http.Target

/-- Whether a character may stand in a target at all: it is no space and no control
character. -/
def isSeen (c : Char) : Bool := 33 ≤ c.toNat && c.toNat ≠ 127

/-- Whether a character may stand in a path. -/
def inPath (c : Char) : Bool := isSeen c && !(c == '<' || c == '>' || c == Char.ofNat 96)

/-- Whether a character may stand in a query. -/
def inQuery (c : Char) : Bool := isSeen c && !(c == '"' || c == '<' || c == '>')

/-- Whether a character may stand in a scheme. -/
def inScheme (c : Char) : Bool := c.isAlphanum || "+-.~".toList.contains c

/-- Whether a character may stand in an authority, the percent sign apart. -/
def inAuthority (c : Char) : Bool := c.isAlphanum || "!$&'()*+,-.:;=@[]_~".toList.contains c

/-- The path and the query of a target. -/
def cut? (target : List Char) : Option (List Char × Option (List Char)) :=
  let (path, rest) := target.span fun c => c ≠ '?' ∧ c ≠ '#'
  let query :=
    match rest with
    | '?' :: rest => some (rest.takeWhile (· ≠ '#'))
    | _ => none
  if path.all inPath && (query.getD []).all inQuery then some (path, query) else none

/-- What is known of an authority from its start to a place in it. -/
structure Authority where
  /-- The colons since the user's part or the brackets ended. -/
  colons : Nat := 0
  /-- Whether there is a percent sign since then. -/
  percent : Bool := false
  opened : Bool := false
  closed : Bool := false
  /-- Whether the last character ends the user's part. -/
  atUser : Bool := false

namespace Authority

/-- What is known after one more character. -/
def next? (a : Authority) (c : Char) : Option Authority :=
  let a := { a with atUser := c == '@' }
  match c with
  | ':' => if 8 ≤ a.colons then none else some { a with colons := a.colons + 1 }
  | '[' => if a.percent || a.opened then none else some { a with opened := true }
  | ']' =>
    if !a.opened || a.closed then none
    else some { a with closed := true, colons := 0, percent := false }
  | '@' => some { a with colons := 0, percent := false }
  | '%' => some { a with percent := true }
  | c => if inAuthority c then some a else none

/-- Whether an authority may end here: with a host, at most one port, and nothing
encoded in either. -/
def isWhole (a : Authority) : Bool :=
  a.opened == a.closed && a.colons ≤ 1 && !a.atUser && !a.percent

end Authority

/-- What follows the authority at the start of a text, if that is one. -/
def afterAuthority? (cs : List Char) : Option (List Char) := do
  let (authority, rest) := cs.span fun c => c ≠ '/' ∧ c ≠ '?' ∧ c ≠ '#'
  let a ← authority.foldlM Authority.next? {}
  if a.isWhole ∧ ¬ authority.isEmpty then some rest else none

/-- What follows the scheme of an address. -/
def afterScheme? (cs : List Char) : Option (List Char) :=
  match cs.span (· ≠ ':') with
  | (scheme, ':' :: '/' :: '/' :: rest) =>
    if scheme.length ≤ 64 ∧ scheme.all inScheme then some rest else none
  | _ => none

/-- The path of a target: of an address what follows its authority, of an authority
alone nothing. -/
def path? : List Char → Option (List Char)
  | [] => none
  | '/' :: rest => (cut? ('/' :: rest)).map (·.1)
  | target =>
    match afterScheme? target with
    | some rest => ((afterAuthority? rest).bind cut?).map (·.1)
    | none =>
      match afterAuthority? target with
      | some [] => some []
      | _ => none

/-- The bytes that a target may have. -/
def limit : Nat := 65534

/-- Whether a text is longer than a target may be. -/
def isTooLong (cs : List Char) : Bool := limit < cs.foldl (fun n c => n + c.utf8Size) 0

/-- Whether a request can be sent to an address. -/
def isAddress (cs : List Char) : Bool := !isTooLong cs && (path? cs).isSome

end ClusterKeeper.Http.Target
