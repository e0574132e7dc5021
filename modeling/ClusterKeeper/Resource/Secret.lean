import ClusterKeeper.Resource.Metadata
import ClusterKeeper.Text.Base64
import ClusterKeeper.Text.Utf8

/-!
# Secrets

A secret holds bytes under keys. They are written in base 64; a null entry is
read as no bytes.

* `Secret.text`: the text under a key, or why there is none.
-/

namespace ClusterKeeper

/-- A sequence of bytes. -/
abbrev Bytes := List UInt8

/-- Bytes under keys, and what else a secret says. -/
structure Secret where
  data : Option (Dict Bytes) := none
  immutable : Option Bool := none
  metadata : Metadata := {}
  stringData : Option (Dict String) := none
  type : Option String := none
  deriving Repr, Inhabited

namespace Secret

/-- Bytes as JSON. -/
def bytesJson (bytes : Bytes) : Json := .str (String.ofList (Base64.encode bytes))

/-- Bytes from JSON. -/
def bytes? : Json → Option Bytes
  -- an entry without a value
  | .null => some []
  | .str s => Base64.decode? s.toList
  | _ => none

/-- The written form. -/
def toJson (s : Secret) : Json := .fields [
  ("apiVersion", some (.str "v1")),
  ("kind", some (.str "Secret")),
  ("data", s.data.map (Dict.toJson bytesJson)),
  ("immutable", s.immutable.map .bool),
  ("metadata", some s.metadata.toJson),
  ("stringData", s.stringData.map (Dict.toJson .str)),
  ("type", s.type.map .str)]

/-- The text if it is the expected one. -/
def exactly? (expected : String) (j : Json) : Option String :=
  j.text?.bind fun s => if s = expected then some s else none

/-- Whether each member with the name is the expected text. -/
def tagged (name expected : String) (ms : List (String × Json)) : Bool :=
  ms.all fun m => m.1 != name || (exactly? expected m.2).isSome

/-- Reading: an API version and a kind, if given, must be those of secrets. -/
def ofJson? (j : Json) : Option Secret := do
  let ms ← j.members?
  if tagged "apiVersion" "v1" ms && tagged "kind" "Secret" ms then
    let data ← Json.loose? "data" (Dict.ofJson? bytes?) ms
    let immutable ← Json.loose? "immutable" Json.flag? ms
    let metadata ← Json.loose? "metadata" Metadata.ofJson? ms
    let stringData ← Json.loose? "stringData" (Dict.ofJson? Json.text?) ms
    let type ← Json.loose? "type" Json.text? ms
    some { data, immutable, metadata := metadata.getD {}, stringData, type }
  else none

/-- Why a secret gives no text. -/
inductive Failure where
  | noData
  | missingKey (key : String)
  | notText (key : String) (fault : Utf8.Fault)
  deriving DecidableEq, Repr

/-- The failure in words. -/
def Failure.message : Failure → String
  | .noData => "Secret has no data"
  | .missingKey key => s!"Key '{key}' not found in secret"
  | .notText key fault => s!"Invalid UTF-8 in secret key '{key}': {fault.message}"

/-- The text under a key. -/
def text (s : Secret) (key : String) : Except Failure String :=
  match s.data with
  | none => .error .noData
  | some data =>
    match data.get? key with
    | none => .error (.missingKey key)
    | some bytes =>
      match Utf8.decode bytes with
      | .ok text => .ok text
      | .error fault => .error (.notText key fault)

end Secret

end ClusterKeeper
