/-!
# UTF-8

Bytes are cut into characters and faults: a fault is the longest start of a
character that the next byte, or the end, breaks off, and one byte where no
character can start.

* `Utf8.pieces`: the cut.
* `Utf8.decode`: the text, or the place of the first fault.
* `Utf8.decodeLossy`: the text with each fault replaced by U+FFFD.
* `Utf8.encode`: the bytes of a text.
-/

namespace ClusterKeeper.Utf8

/-- A character, or the `length` bytes of a fault; `cut` when the end breaks it off. -/
inductive Piece where
  | char (c : Char)
  | fault (length : Nat) (cut : Bool)
  deriving DecidableEq, Repr

/-- A character that has begun: bytes seen, value so far, bytes still owed, and
the range of the next byte. -/
structure Begun where
  seen : Nat
  value : Nat
  owed : Nat
  low : UInt8
  high : UInt8

/-- What a byte begins: a whole character, a longer one, or nothing. -/
def begin? (b : UInt8) : Except Piece Begun :=
  let n := b.toNat
  if b < 0x80 then .error (.char (Char.ofNat n))
  else if b < 0xC2 then .error (.fault 1 false)
  -- two bytes
  else if b < 0xE0 then .ok ⟨1, n - 0xC0, 1, 0x80, 0xBF⟩
  -- three bytes: none that two could hold, and no surrogate
  else if b = 0xE0 then .ok ⟨1, 0, 2, 0xA0, 0xBF⟩
  else if b = 0xED then .ok ⟨1, 0xD, 2, 0x80, 0x9F⟩
  else if b < 0xF0 then .ok ⟨1, n - 0xE0, 2, 0x80, 0xBF⟩
  -- four bytes: none that three could hold, and nothing beyond U+10FFFF
  else if b = 0xF0 then .ok ⟨1, 0, 3, 0x90, 0xBF⟩
  else if b < 0xF4 then .ok ⟨1, n - 0xF0, 3, 0x80, 0xBF⟩
  else if b = 0xF4 then .ok ⟨1, 4, 3, 0x80, 0x8F⟩
  else .error (.fault 1 false)

/-- The pieces of the bytes that follow a character that has begun, if any has. -/
def piecesFrom : Option Begun → List UInt8 → List Piece
  | none, [] => []
  | some p, [] => [.fault p.seen true]
  | none, b :: rest =>
    match begin? b with
    | .error piece => piece :: piecesFrom none rest
    | .ok p => piecesFrom (some p) rest
  | some p, b :: rest =>
    if p.low ≤ b ∧ b ≤ p.high then
      let value := p.value * 64 + (b.toNat - 0x80)
      if p.owed ≤ 1 then .char (Char.ofNat value) :: piecesFrom none rest
      else piecesFrom (some ⟨p.seen + 1, value, p.owed - 1, 0x80, 0xBF⟩) rest
    else
      -- the byte that breaks a character off may begin another
      .fault p.seen false ::
        match begin? b with
        | .error piece => piece :: piecesFrom none rest
        | .ok p => piecesFrom (some p) rest

/-- The pieces of a sequence of bytes. -/
def pieces (bytes : List UInt8) : List Piece := piecesFrom none bytes

/-- Why bytes are no text: where the first fault starts, and its length unless
the end of the bytes cuts it off. -/
structure Fault where
  index : Nat
  length? : Option Nat
  deriving DecidableEq, Repr

/-- The fault in words. -/
def Fault.message (f : Fault) : String :=
  match f.length? with
  | some length => s!"invalid utf-8 sequence of {length} bytes from index {f.index}"
  | none => s!"incomplete utf-8 byte sequence from index {f.index}"

/-- The characters of the pieces that start at byte `index`, or the first fault. -/
def charsFrom (index : Nat) : List Piece → Except Fault (List Char)
  | [] => .ok []
  | .char c :: rest => (charsFrom (index + c.utf8Size) rest).map (c :: ·)
  | .fault length cut :: _ => .error ⟨index, if cut then none else some length⟩

/-- The text of the bytes, or the place of the first fault. -/
def decode (bytes : List UInt8) : Except Fault String :=
  (charsFrom 0 (pieces bytes)).map String.ofList

/-- The text of the bytes, each fault replaced by U+FFFD. -/
def decodeLossy (bytes : List UInt8) : String :=
  String.ofList <| (pieces bytes).map fun
    | .char c => c
    | .fault _ _ => Char.ofNat 0xFFFD

/-- The bytes of a text. -/
def encode (s : String) : List UInt8 := s.toList.flatMap String.utf8EncodeChar

end ClusterKeeper.Utf8
