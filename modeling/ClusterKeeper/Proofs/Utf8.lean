import ClusterKeeper.Proofs.Base64
import ClusterKeeper.Text.Utf8

/-!
# Decoding is the inverse of encoding

Bytes are cut by a machine that knows, of a character that has begun, how many bytes are still owed
and what the next may be. The bytes of a character drive it from the start to that character, and
nothing else does: so bytes without a fault are the bytes of their characters.

* `Begun.Continues`: the bytes that end a character that has begun.
* `encodeChar_of_continues`, `begins_encodeChar`: they are the rest of the bytes of that character.
* `decode_encode`, `decode_eq_ok_iff`: a text is decoded from its own bytes, and from no others.
-/

namespace ClusterKeeper.Utf8

open Base64 (ofNat_eq)

/-- What a byte begins, by its number. -/
theorem begin?_eq (b : UInt8) : begin? b =
    if b.toNat < 0x80 then .error (.char (Char.ofNat b.toNat))
    else if b.toNat < 0xC2 then .error (.fault 1 false)
    else if b.toNat < 0xE0 then .ok ⟨1, b.toNat - 0xC0, 1, 0x80, 0xBF⟩
    else if b.toNat = 0xE0 then .ok ⟨1, 0, 2, 0xA0, 0xBF⟩
    else if b.toNat = 0xED then .ok ⟨1, 0xD, 2, 0x80, 0x9F⟩
    else if b.toNat < 0xF0 then .ok ⟨1, b.toNat - 0xE0, 2, 0x80, 0xBF⟩
    else if b.toNat = 0xF0 then .ok ⟨1, 0, 3, 0x90, 0xBF⟩
    else if b.toNat < 0xF4 then .ok ⟨1, b.toNat - 0xF0, 3, 0x80, 0xBF⟩
    else if b.toNat = 0xF4 then .ok ⟨1, 4, 3, 0x80, 0x8F⟩
    else .error (.fault 1 false) := by
  simp only [begin?, UInt8.lt_iff_toNat_lt, ← UInt8.toNat_inj]
  rfl

/-- The character that has begun after one more byte, not the last. -/
def Begun.after (p : Begun) (b : UInt8) : Begun :=
  ⟨p.seen + 1, p.value * 64 + (b.toNat - 0x80), p.owed - 1, 0x80, 0xBF⟩

/-- **A character that has begun goes on** with some bytes to its end. -/
inductive Begun.Continues : Begun → List UInt8 → Char → Prop
  | last {p : Begun} {b : UInt8} (hb : p.low ≤ b ∧ b ≤ p.high) (ho : p.owed ≤ 1) :
      Continues p [b] (Char.ofNat (p.value * 64 + (b.toNat - 0x80)))
  | more {p : Begun} {b : UInt8} {bs : List UInt8} {c : Char} (hb : p.low ≤ b ∧ b ≤ p.high)
      (ho : ¬ p.owed ≤ 1) (h : Continues (p.after b) bs c) : Continues p (b :: bs) c

/-- The machine comes to the character. -/
theorem piecesFrom_of_continues {p : Begun} {bs : List UInt8} {c : Char} (h : p.Continues bs c)
    (rest : List UInt8) : piecesFrom (some p) (bs ++ rest) = .char c :: piecesFrom none rest := by
  induction h with
  | last hb ho => rw [List.cons_append, piecesFrom, if_pos hb, if_pos ho]; rfl
  | more hb ho _ ih => rw [List.cons_append, piecesFrom, if_pos hb, if_neg ho]; exact ih

theorem charsFrom_char_iff {i : Nat} {c : Char} {ps : List Piece} {cs : List Char} :
    charsFrom i (.char c :: ps) = .ok cs ↔
      ∃ cs', cs = c :: cs' ∧ charsFrom (i + c.utf8Size) ps = .ok cs' := by
  rw [charsFrom]
  cases charsFrom (i + c.utf8Size) ps with
  | error f => simp [Except.map]
  | ok cs' => simp [Except.map, eq_comm]

/-- Where no fault is met, what has begun goes on to its end. -/
theorem continues_of_charsFrom {p : Begun} {bytes : List UInt8} {i : Nat} {cs : List Char}
    (h : charsFrom i (piecesFrom (some p) bytes) = .ok cs) :
    ∃ bs c rest j cs', bytes = bs ++ rest ∧ p.Continues bs c ∧ cs = c :: cs' ∧
      charsFrom j (piecesFrom none rest) = .ok cs' := by
  induction bytes generalizing p with
  | nil => cases h
  | cons b bytes ih =>
    rw [piecesFrom] at h
    by_cases hb : p.low ≤ b ∧ b ≤ p.high
    · by_cases ho : p.owed ≤ 1
      · rw [if_pos hb, if_pos ho] at h
        obtain ⟨cs', rfl, hr⟩ := charsFrom_char_iff.1 h
        exact ⟨[b], _, bytes, _, cs', rfl, .last hb ho, rfl, hr⟩
      · rw [if_pos hb, if_neg ho] at h
        obtain ⟨bs, c, rest, j, cs', rfl, hc, rfl, hr⟩ := ih h
        exact ⟨b :: bs, c, rest, j, cs', rfl, .more hb ho hc, rfl, hr⟩
    · rw [if_neg hb] at h
      cases h

theorem toNat_ofNat_of_valid {n : Nat} (h : n.isValidChar) : (Char.ofNat n).val.toNat = n := by
  rw [Char.ofNat, dif_pos h]
  rfl

/-- The bytes of the character with a number. -/
theorem encodeChar_ofNat {n : Nat} (h : n.isValidChar) : String.utf8EncodeChar (Char.ofNat n) =
    if n ≤ 0x7F then [UInt8.ofNat n]
    else if n ≤ 0x7FF then [UInt8.ofNat (n / 64 % 32 + 0xC0), UInt8.ofNat (n % 64 + 0x80)]
    else if n ≤ 0xFFFF then
      [UInt8.ofNat (n / 4096 % 16 + 0xE0), UInt8.ofNat (n / 64 % 64 + 0x80),
        UInt8.ofNat (n % 64 + 0x80)]
    else
      [UInt8.ofNat (n / 262144 % 8 + 0xF0), UInt8.ofNat (n / 4096 % 64 + 0x80),
        UInt8.ofNat (n / 64 % 64 + 0x80), UInt8.ofNat (n % 64 + 0x80)] := by
  unfold String.utf8EncodeChar
  rw [toNat_ofNat_of_valid h]

/-- **Two bytes** are the character that their bits make. -/
theorem encodeChar_two {a b : UInt8} {n : Nat} (hn : n = (a.toNat - 0xC0) * 64 + (b.toNat - 0x80))
    (ha : 0xC2 ≤ a.toNat ∧ a.toNat < 0xE0) (hb : 0x80 ≤ b.toNat ∧ b.toNat ≤ 0xBF) :
    String.utf8EncodeChar (Char.ofNat n) = [a, b] := by
  rw [encodeChar_ofNat (Or.inl (by omega)), if_neg (by omega), if_pos (by omega),
    ofNat_eq a (by omega), ofNat_eq b (by omega)]

/-- **Three bytes**, likewise, but for numbers that two could hold and for surrogates. -/
theorem encodeChar_three {a b c : UInt8} {n : Nat}
    (hn : n = ((a.toNat - 0xE0) * 64 + (b.toNat - 0x80)) * 64 + (c.toNat - 0x80))
    (ha : 0xE0 ≤ a.toNat ∧ a.toNat < 0xF0) (hb : 0x80 ≤ b.toNat ∧ b.toNat ≤ 0xBF)
    (hc : 0x80 ≤ c.toNat ∧ c.toNat ≤ 0xBF) (hlow : a.toNat = 0xE0 → 0xA0 ≤ b.toNat)
    (hhigh : a.toNat = 0xED → b.toNat ≤ 0x9F) :
    String.utf8EncodeChar (Char.ofNat n) = [a, b, c] := by
  have hv : n.isValidChar := by
    unfold Nat.isValidChar
    omega
  rw [encodeChar_ofNat hv, if_neg (by omega), if_neg (by omega), if_pos (by omega),
    ofNat_eq a (by omega), ofNat_eq b (by omega), ofNat_eq c (by omega)]

/-- **Four bytes**, likewise, but for numbers that three could hold or that are too great. -/
theorem encodeChar_four {a b c d : UInt8} {n : Nat}
    (hn : n = (((a.toNat - 0xF0) * 64 + (b.toNat - 0x80)) * 64 + (c.toNat - 0x80)) * 64 +
      (d.toNat - 0x80))
    (ha : 0xF0 ≤ a.toNat ∧ a.toNat ≤ 0xF4) (hb : 0x80 ≤ b.toNat ∧ b.toNat ≤ 0xBF)
    (hc : 0x80 ≤ c.toNat ∧ c.toNat ≤ 0xBF) (hd : 0x80 ≤ d.toNat ∧ d.toNat ≤ 0xBF)
    (hlow : a.toNat = 0xF0 → 0x90 ≤ b.toNat) (hhigh : a.toNat = 0xF4 → b.toNat ≤ 0x8F) :
    String.utf8EncodeChar (Char.ofNat n) = [a, b, c, d] := by
  have hv : n.isValidChar := by
    unfold Nat.isValidChar
    omega
  rw [encodeChar_ofNat hv, if_neg (by omega), if_neg (by omega), if_neg (by omega),
    ofNat_eq a (by omega), ofNat_eq b (by omega), ofNat_eq c (by omega),
    ofNat_eq d (by omega)]

variable {s v n : Nat} {low high : UInt8} {bs : List UInt8} {c : Char}

theorem continues_one_iff : (Begun.mk s v 1 low high).Continues bs c ↔
    ∃ x, bs = [x] ∧ (low.toNat ≤ x.toNat ∧ x.toNat ≤ high.toNat) ∧
      c = Char.ofNat (v * 64 + (x.toNat - 0x80)) := by
  constructor
  · intro h
    cases h with
    | last hb _ => exact ⟨_, rfl, hb, rfl⟩
    | more _ ho _ => exact absurd (Nat.le_refl 1) ho
  · rintro ⟨x, rfl, hb, hc⟩
    rw [hc]
    exact .last hb (Nat.le_refl 1)

theorem continues_more_iff : (Begun.mk s v (n + 2) low high).Continues bs c ↔
    ∃ x bs', bs = x :: bs' ∧ (low.toNat ≤ x.toNat ∧ x.toNat ≤ high.toNat) ∧
      (Begun.mk (s + 1) (v * 64 + (x.toNat - 0x80)) (n + 1) 0x80 0xBF).Continues bs' c := by
  constructor
  · intro h
    cases h with
    | last _ ho => exact absurd ho (by simp)
    | more hb _ h => exact ⟨_, _, rfl, hb, h⟩
  · rintro ⟨x, bs', rfl, hb, h⟩
    exact .more hb (by simp) h

/-- The bytes that begin a character of two. -/
theorem begin?_two {b : UInt8} (h : 0xC2 ≤ b.toNat ∧ b.toNat < 0xE0) :
    begin? b = .ok ⟨1, b.toNat - 0xC0, 1, 0x80, 0xBF⟩ := by
  rw [begin?_eq, if_neg (by omega), if_neg (by omega), if_pos (by omega)]

/-- The bytes that begin a character of three: what may follow leaves out the numbers that two
could hold, and the surrogates. -/
theorem begin?_three {b : UInt8} (h : 0xE0 ≤ b.toNat ∧ b.toNat < 0xF0) :
    ∃ low high : UInt8, begin? b = .ok ⟨1, b.toNat - 0xE0, 2, low, high⟩ ∧
      low.toNat = (if b.toNat = 0xE0 then 0xA0 else 0x80) ∧
      high.toNat = if b.toNat = 0xED then 0x9F else 0xBF := by
  rw [begin?_eq, if_neg (by omega), if_neg (by omega), if_neg (by omega)]
  by_cases hlow : b.toNat = 0xE0
  · rw [if_pos hlow, hlow]
    exact ⟨_, _, rfl, rfl, rfl⟩
  · rw [if_neg hlow]
    by_cases hhigh : b.toNat = 0xED
    · rw [if_pos hhigh, hhigh]
      exact ⟨_, _, rfl, rfl, rfl⟩
    · rw [if_neg hhigh, if_pos h.2, if_neg hlow, if_neg hhigh]
      exact ⟨_, _, rfl, rfl, rfl⟩

/-- The bytes that begin a character of four, likewise, up to the greatest there is. -/
theorem begin?_four {b : UInt8} (h : 0xF0 ≤ b.toNat ∧ b.toNat ≤ 0xF4) :
    ∃ low high : UInt8, begin? b = .ok ⟨1, b.toNat - 0xF0, 3, low, high⟩ ∧
      low.toNat = (if b.toNat = 0xF0 then 0x90 else 0x80) ∧
      high.toNat = if b.toNat = 0xF4 then 0x8F else 0xBF := by
  rw [begin?_eq, if_neg (by omega), if_neg (by omega), if_neg (by omega), if_neg (by omega),
    if_neg (by omega), if_neg (by omega)]
  by_cases hlow : b.toNat = 0xF0
  · rw [if_pos hlow, hlow]
    exact ⟨_, _, rfl, rfl, rfl⟩
  · rw [if_neg hlow]
    by_cases hhigh : b.toNat = 0xF4
    · rw [if_neg (by omega), if_pos hhigh, hhigh]
      exact ⟨_, _, rfl, rfl, rfl⟩
    · rw [if_pos (by omega), if_neg hlow, if_neg hhigh]
      exact ⟨_, _, rfl, rfl, rfl⟩

/-- **What has begun and goes on to its end** is the bytes of the character that it ends as. -/
theorem encodeChar_of_continues {b : UInt8} {p : Begun} (hp : begin? b = .ok p)
    (h : p.Continues bs c) : String.utf8EncodeChar c = b :: bs := by
  by_cases h2 : 0xC2 ≤ b.toNat ∧ b.toNat < 0xE0
  · cases (begin?_two h2).symm.trans hp
    obtain ⟨x, rfl, hx, hc⟩ := continues_one_iff.1 h
    rw [hc]
    exact encodeChar_two rfl h2 hx
  by_cases h3 : 0xE0 ≤ b.toNat ∧ b.toNat < 0xF0
  · obtain ⟨low, high, hbegin, hlow, hhigh⟩ := begin?_three h3
    cases hbegin.symm.trans hp
    obtain ⟨x, bs', rfl, hx, h'⟩ := continues_more_iff.1 h
    obtain ⟨y, rfl, hy, hc⟩ := continues_one_iff.1 h'
    rw [hlow, hhigh] at hx
    rw [hc]
    exact encodeChar_three rfl h3 (by grind) hy (by grind) (by grind)
  by_cases h4 : 0xF0 ≤ b.toNat ∧ b.toNat ≤ 0xF4
  · obtain ⟨low, high, hbegin, hlow, hhigh⟩ := begin?_four h4
    cases hbegin.symm.trans hp
    obtain ⟨x, bs', rfl, hx, h'⟩ := continues_more_iff.1 h
    obtain ⟨y, bs'', rfl, hy, h''⟩ := continues_more_iff.1 h'
    obtain ⟨z, rfl, hz, hc⟩ := continues_one_iff.1 h''
    rw [hlow, hhigh] at hx
    rw [hc]
    exact encodeChar_four rfl h4 (by grind) hy hz (by grind) (by grind)
  -- any other byte is a character by itself or a fault
  rw [begin?_eq] at hp
  grind

/-- A byte that is a character by itself is all of its bytes. -/
theorem encodeChar_of_begin {b : UInt8} (h : begin? b = .error (.char c)) :
    String.utf8EncodeChar c = [b] := by
  rw [begin?_eq] at h
  by_cases hb : b.toNat < 0x80
  · rw [if_pos hb] at h
    cases h
    rw [encodeChar_ofNat (Or.inl (by omega)), if_pos (by omega), ofNat_eq b rfl]
  · grind

theorem toNat_ofNat_lt {n : Nat} (h : n < 256) : (UInt8.ofNat n).toNat = n :=
  UInt8.toNat_ofNat_of_lt' h

/-- **The bytes of a character** begin it and go on to its end, or are one byte. -/
theorem begins_encodeChar (c : Char) : ∃ b bs, String.utf8EncodeChar c = b :: bs ∧
    ((bs = [] ∧ begin? b = .error (.char c)) ∨ ∃ p, begin? b = .ok p ∧ p.Continues bs c) := by
  obtain ⟨n, hn⟩ : ∃ n, n = c.val.toNat := ⟨_, rfl⟩
  have hchar {m : Nat} (hm : m = n) : c = Char.ofNat m := by
    rw [hm, hn]
    exact (Char.ofNat_toNat c).symm
  have htail (m : Nat) : (0x80 : UInt8).toNat ≤ m % 64 + 0x80 ∧
      m % 64 + 0x80 ≤ (0xBF : UInt8).toNat := ⟨by simp, by simp; omega⟩
  have hvalid : n.isValidChar := hn ▸ c.valid
  unfold Nat.isValidChar at hvalid
  unfold String.utf8EncodeChar
  rw [← hn]
  -- one case for each number of bytes: the number bounds the first byte, and so what may follow
  by_cases h1 : n ≤ 0x7F
  · have hb := toNat_ofNat_lt (show n < 256 by omega)
    refine ⟨_, _, if_pos h1, Or.inl ⟨rfl, ?_⟩⟩
    rw [begin?_eq, if_pos (by omega), hb, ← hchar rfl]
  rw [if_neg h1]
  by_cases h2 : n ≤ 0x7FF
  · have hb := toNat_ofNat_lt (show n / 64 % 32 + 0xC0 < 256 by omega)
    have hx := toNat_ofNat_lt (show n % 64 + 0x80 < 256 by omega)
    refine ⟨_, _, if_pos h2, Or.inr ⟨_, begin?_two (by omega), ?_⟩⟩
    refine continues_one_iff.2 ⟨_, rfl, ?_, hchar (by omega)⟩
    rw [hx]
    exact htail n
  rw [if_neg h2]
  by_cases h3 : n ≤ 0xFFFF
  · have hb := toNat_ofNat_lt (show n / 4096 % 16 + 0xE0 < 256 by omega)
    have hx := toNat_ofNat_lt (show n / 64 % 64 + 0x80 < 256 by omega)
    have hy := toNat_ofNat_lt (show n % 64 + 0x80 < 256 by omega)
    obtain ⟨low, high, hbegin, hlow, hhigh⟩ := begin?_three
      (show 0xE0 ≤ (UInt8.ofNat (n / 4096 % 16 + 0xE0)).toNat ∧ _ < 0xF0 by omega)
    refine ⟨_, _, if_pos h3, Or.inr ⟨_, hbegin, ?_⟩⟩
    refine continues_more_iff.2 ⟨_, _, rfl, ?_, continues_one_iff.2 ⟨_, rfl, ?_, hchar (by omega)⟩⟩
    · rw [hlow, hhigh, hb, hx]
      grind
    · rw [hy]
      exact htail n
  rw [if_neg h3]
  have hb := toNat_ofNat_lt (show n / 262144 % 8 + 0xF0 < 256 by omega)
  have hx := toNat_ofNat_lt (show n / 4096 % 64 + 0x80 < 256 by omega)
  have hy := toNat_ofNat_lt (show n / 64 % 64 + 0x80 < 256 by omega)
  have hz := toNat_ofNat_lt (show n % 64 + 0x80 < 256 by omega)
  obtain ⟨low, high, hbegin, hlow, hhigh⟩ := begin?_four
    (show 0xF0 ≤ (UInt8.ofNat (n / 262144 % 8 + 0xF0)).toNat ∧ _ ≤ 0xF4 by omega)
  refine ⟨_, _, rfl, Or.inr ⟨_, hbegin, ?_⟩⟩
  refine continues_more_iff.2 ⟨_, _, rfl, ?_, continues_more_iff.2 ⟨_, _, rfl, ?_,
    continues_one_iff.2 ⟨_, rfl, ?_, hchar (by omega)⟩⟩⟩
  · rw [hlow, hhigh, hb, hx]
    grind
  · rw [hy]
    exact htail (n / 64)
  · rw [hz]
    exact htail n

/-- **The bytes of a character** are cut into that character. -/
theorem piecesFrom_encodeChar (c : Char) (rest : List UInt8) :
    piecesFrom none (String.utf8EncodeChar c ++ rest) = .char c :: piecesFrom none rest := by
  obtain ⟨b, bs, he, ⟨rfl, hb⟩ | ⟨p, hp, hc⟩⟩ := begins_encodeChar c
  · rw [he, List.singleton_append, piecesFrom, hb]
  · rw [he, List.cons_append, piecesFrom, hp]
    exact piecesFrom_of_continues hc rest

/-- **The bytes of a text** are cut into its characters, and none of them is a fault. -/
theorem pieces_encode (s : String) : pieces (encode s) = s.toList.map .char := by
  unfold pieces encode
  induction s.toList with
  | nil => rfl
  | cons c cs ih => rw [List.flatMap_cons, piecesFrom_encodeChar, ih, List.map_cons]

theorem charsFrom_map_char (i : Nat) (cs : List Char) : charsFrom i (cs.map .char) = .ok cs := by
  induction cs generalizing i with
  | nil => rfl
  | cons c cs ih => rw [List.map_cons, charsFrom, ih]; rfl

/-- **What is encoded is decoded.** -/
theorem decode_encode (s : String) : decode (encode s) = .ok s := by
  rw [decode, pieces_encode, charsFrom_map_char]
  exact congrArg Except.ok String.ofList_toList

/-- No two texts have the same bytes. -/
theorem encode_injective {s t : String} (h : encode s = encode t) : s = t := by
  have hs := decode_encode s
  rw [h, decode_encode t] at hs
  exact (Except.ok.inj hs).symm

theorem decodeLossy_encode (s : String) : decodeLossy (encode s) = s := by
  rw [decodeLossy, pieces_encode, List.map_map]
  exact (congrArg String.ofList (List.map_id _)).trans String.ofList_toList

/-- Bytes without a fault are the bytes of their characters. -/
theorem eq_encode_of_charsFrom {bytes : List UInt8} {i : Nat} {cs : List Char}
    (h : charsFrom i (piecesFrom none bytes) = .ok cs) :
    bytes = cs.flatMap String.utf8EncodeChar := by
  -- a character takes up several bytes, so the induction is on their number
  induction hl : bytes.length using Nat.strongRecOn generalizing bytes i cs with
  | ind l ih =>
    cases bytes with
    | nil =>
      cases h
      rfl
    | cons b bytes =>
      rw [List.length_cons] at hl
      rw [piecesFrom] at h
      cases hb : begin? b with
      | error piece =>
        rw [hb] at h
        cases piece with
        | fault length cut => cases h
        | char c =>
          obtain ⟨cs', rfl, hr⟩ := charsFrom_char_iff.1 h
          have hrest := ih bytes.length (by omega) hr rfl
          rw [List.flatMap_cons, encodeChar_of_begin hb, ← hrest]
          rfl
      | ok p =>
        rw [hb] at h
        obtain ⟨bs, c, rest, j, cs', rfl, hc, rfl, hr⟩ := continues_of_charsFrom h
        rw [List.length_append] at hl
        have hrest := ih rest.length (by omega) hr rfl
        rw [List.flatMap_cons, encodeChar_of_continues hb hc, ← hrest]
        rfl

/-- **Decoding** gives a text exactly of its own bytes. -/
theorem decode_eq_ok_iff {bytes : List UInt8} {s : String} :
    decode bytes = .ok s ↔ bytes = encode s := by
  constructor
  · intro h
    unfold decode at h
    generalize hr : charsFrom 0 (pieces bytes) = r at h
    cases r with
    | error f => cases h
    | ok cs =>
      cases h
      rw [encode, String.toList_ofList]
      exact eq_encode_of_charsFrom hr
  · rintro rfl
    exact decode_encode s

end ClusterKeeper.Utf8
