import ClusterKeeper.Text.Alphanumeric

/-!
# Search patterns

A pattern is a regular expression: characters, escapes and sets of characters, groups
in parentheses, alternatives, and signs of repetition. Only whether a text is a
pattern matters here, not what it matches.

* `Pattern.isWellFormed`: whether a text is a pattern.
-/

namespace ClusterKeeper.Text.Pattern

/-- What an escape stands for. -/
inductive Escape where
  | char (c : Char)
  /-- Any character of a kind. -/
  | kind
  /-- A place between characters. -/
  | place

/-- The number of a digit in base sixteen. -/
def hexDigit? (c : Char) : Option Nat :=
  let c := c.toLower
  if c.isDigit ∨ ('a' ≤ c ∧ c ≤ 'f') then some (hexValue c) else none

/-- A character by its number, in so many digits. -/
def numbered? (count : Nat) (cs : List Char) : Option (Escape × List Char) := do
  let digits ← (cs.take count).mapM hexDigit?
  let n := digits.foldl (fun n d => n * 16 + d) 0
  if digits.length = count ∧ n.isValidChar then some (.char (.ofNat n), cs.drop count) else none

/-- What follows a backslash. Edges of words and earlier groups cannot be asked for. -/
def escape? : List Char → Option (Escape × List Char)
  | [] => none
  | 'x' :: rest => numbered? 2 rest
  | 'u' :: rest => numbered? 4 rest
  | 'U' :: rest => numbered? 8 rest
  | c :: rest =>
    if c = 'p' ∨ c = 'P' then
      match rest with
      | category :: rest =>
        if "clmnpsz".toList.contains category.toLower then some (.kind, rest) else none
      | [] => none
    else if "dDsSwW".toList.contains c then some (.kind, rest)
    else if c = 'A' ∨ c = 'z' then some (.place, rest)
    else if c = 'a' then some (.char '\x07', rest)
    else if c = 'f' then some (.char '\x0c', rest)
    else if c = 'n' then some (.char '\n', rest)
    else if c = 'r' then some (.char '\r', rest)
    else if c = 't' then some (.char '\t', rest)
    else if c = 'v' then some (.char '\x0b', rest)
    else if c.isAlphanum ∨ c = '<' ∨ c = '>' ∨ 128 ≤ c.toNat then none
    else some (.char c, rest)

/-- What stands in a set: a character, or with `none` those of a kind. -/
def member? : List Char → Option (Option Char × List Char)
  | [] => none
  | '\\' :: rest => do
    match ← escape? rest with
    | (.char c, rest) => some (some c, rest)
    | (.kind, rest) => some (none, rest)
    | (.place, _) => none
  | c :: rest => some (some c, rest)

/-- A member of a set, or a range between two characters in order, and what follows. -/
def afterRange? (cs : List Char) : Option (List Char) := do
  let (first, rest) ← member? cs
  match rest with
  | '-' :: ']' :: _ | '-' :: '-' :: _ => some rest
  | '-' :: after =>
    let (last, rest) ← member? after
    match first, last with
    | some low, some high => if low ≤ high then some rest else none
    | _, _ => none
  | _ => some rest

/-- The classes of characters that a set may name. -/
def classNames : List String :=
  ["alnum", "alpha", "ascii", "blank", "cntrl", "digit", "graph", "lower", "print", "punct",
    "space", "upper", "word", "xdigit"]

/-- What follows a named class, of which the first bracket is taken. -/
def afterClass? : List Char → Option (List Char)
  | ':' :: rest =>
    let rest := if rest.head? = some '^' then rest.tail else rest
    match rest.span (· ≠ ':') with
    | (name, ':' :: ']' :: rest) =>
      if classNames.contains (String.ofList name) then some rest else none
    | _ => none
  | _ => none

/-- What follows the start of a set: hyphens, or else a bracket, stand for themselves
there. -/
def afterOpening (cs : List Char) : List Char :=
  let cs := if cs.head? = some '^' then cs.tail else cs
  match cs with
  | '-' :: rest => rest.dropWhile (· == '-')
  | ']' :: rest => rest
  | cs => cs

/-- What follows a set, which is `depth` sets deep in others. Every step takes at
least one character, so as many steps as there are characters are enough. -/
def afterSet? : Nat → (depth : Nat) → List Char → Option (List Char)
  | 0, _, _ => none
  | _, _, [] => none
  | steps + 1, depth, c :: rest =>
    match c, rest with
    | '[', rest =>
      match afterClass? rest with
      | some rest => afterSet? steps depth rest
      | none => afterSet? steps (depth + 1) (afterOpening rest)
    | ']', rest =>
      match depth with
      | 0 => some rest
      | depth + 1 => afterSet? steps depth rest
    | '&', '&' :: rest | '-', '-' :: rest | '~', '~' :: rest => afterSet? steps depth rest
    | c, rest => (afterRange? (c :: rest)).bind (afterSet? steps depth)

/-- Whether letters are flags: each at most once, and some after a minus sign. -/
def areFlags (flags : List Char) : Bool :=
  flags.all (fun c => "imsUuRx-".toList.contains c) && flags.Nodup && flags.getLast? ≠ some '-'

/-- Whether a group may have a name. -/
def isGroupName : List Char → Bool
  | [] => false
  | c :: rest =>
    (c == '_' || isAlphanumeric c && !c.isDigit) &&
      rest.all fun c => "_.[]".toList.contains c || isAlphanumeric c

/-- What follows the start of a group, and whether the group is still open: flags may
stand in one of their own. -/
def afterGroupStart? (cs : List Char) : Option (Bool × List Char) :=
  let named (cs : List Char) : Option (Bool × List Char) :=
    match cs.span (· ≠ '>') with
    | (name, _ :: rest) => if isGroupName name then some (true, rest) else none
    | _ => none
  match cs with
  | '?' :: 'P' :: '<' :: rest => named rest
  | '?' :: '<' :: rest => named rest
  | '?' :: rest =>
    match rest.span fun c => c ≠ ':' ∧ c ≠ ')' with
    | (flags, ':' :: rest) => if areFlags flags then some (true, rest) else none
    | (flags, _ :: rest) => if areFlags flags ∧ flags ≠ [] then some (false, rest) else none
    | _ => none
  | cs => some (true, cs)

/-- Whether the rest of a pattern is in order, `depth` groups being open; `item` says
whether something that can be repeated comes before. Every step takes at least one
character. -/
def isRest : Nat → (depth : Nat) → (item : Bool) → List Char → Bool
  | _, depth, _, [] => depth == 0
  | 0, _, _, _ => false
  | steps + 1, depth, item, c :: rest =>
    match c with
    | '(' =>
      match afterGroupStart? rest with
      | some (isOpen, rest) => isRest steps (if isOpen then depth + 1 else depth) false rest
      | none => false
    | ')' =>
      match depth with
      | 0 => false
      | depth + 1 => isRest steps depth true rest
    | '|' => isRest steps depth false rest
    | '*' | '+' | '?' =>
      -- a question mark after it makes a repetition short
      item && isRest steps depth true (if rest.head? = some '?' then rest.tail else rest)
    | '[' =>
      match afterSet? (rest.length + 1) 0 (afterOpening rest) with
      | some rest => isRest steps depth true rest
      | none => false
    | '\\' =>
      match escape? rest with
      | some (_, rest) => isRest steps depth true rest
      | none => false
    -- counts of repetitions are not in use
    | '\x7b' => false
    | _ => isRest steps depth true rest

/-- Whether a text is a pattern. -/
def isWellFormed (cs : List Char) : Bool := isRest cs.length 0 false cs

end ClusterKeeper.Text.Pattern
