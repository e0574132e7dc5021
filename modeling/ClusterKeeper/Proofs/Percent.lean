import ClusterKeeper.Url.Percent

/-!
# What encoded text stands for

Percent encoding changes how a text is written and not what it stands for. Text that holds signs
with digits after them stands for less than its own bytes.

* `decode_encode`: encoded text stands for what the text does.
* `length_decode_le`: a text stands for no more than its own bytes.
* `mem_encode`: what encoding writes is the text, percent signs and digits.
* `decode_eq_iff`: a text stands for itself exactly if nothing in it is encoded.
-/

namespace ClusterKeeper.Percent

variable {special cs rest : List Char} {c d : Char} {n : Nat}

theorem length_encodeChar_pos (c : Char) : 0 < (String.utf8EncodeChar c).length := by
  rw [String.length_utf8EncodeChar]
  exact c.utf8Size_pos

theorem value?_digit (hn : n < 16) : value? (digit n) = some n := by
  have hall : ∀ n < 16, value? (digit n) = some n := by decide
  exact hall n hn

theorem value?_sign : value? '%' = none := by decide

/-- A character that is written in base sixteen is seen. -/
theorem range_of_value? (h : value? c = some n) : 48 ≤ c.toNat ∧ c.toNat ≤ 102 := by
  unfold value? at h
  simp only at h
  split at h
  · omega
  · split at h
    · omega
    · split at h
      · omega
      · cases h

theorem decode_byte (b : UInt8) (rest : List Char) :
    decode (byte b ++ rest) = b :: decode rest := by
  have hb : b.toNat < 256 := b.toNat_lt_size
  have hhigh : value? (digit (b.toNat / 16)) = some (b.toNat / 16) := value?_digit (by omega)
  have hlow : value? (digit (b.toNat % 16)) = some (b.toNat % 16) := value?_digit (by omega)
  have hsum : b.toNat / 16 * 16 + b.toNat % 16 = b.toNat := by omega
  have hdecode : decode ('%' :: digit (b.toNat / 16) :: digit (b.toNat % 16) :: rest) =
      UInt8.ofNat (b.toNat / 16 * 16 + b.toNat % 16) :: decode rest := by
    rw [decode, hhigh, hlow]
  rw [hsum, UInt8.ofNat_toNat] at hdecode
  exact hdecode

theorem decode_bytes (bytes : List UInt8) (rest : List Char) :
    decode (bytes.flatMap byte ++ rest) = bytes ++ decode rest := by
  induction bytes with
  | nil => rfl
  | cons b bytes ih => rw [List.flatMap_cons, List.append_assoc, decode_byte, ih, List.cons_append]

/-- No two digits stand at the start of a text. -/
def Apart (cs : List Char) : Prop :=
  ∀ a b rest, cs = a :: b :: rest → value? a = none ∨ value? b = none

/-- A percent sign that no two digits follow stands for itself. -/
theorem decode_sign (h : Apart rest) :
    decode ('%' :: rest) = String.utf8EncodeChar '%' ++ decode rest := by
  match rest, h with
  | [], _ => rfl
  | [a], _ => rfl
  | a :: b :: rest, h =>
    rw [decode]
    rcases h a b rest rfl with ha | hb
    · rw [ha]
      rfl
    · rw [hb]
      cases value? a <;> rfl

theorem decode_cons_of_ne (hc : c ≠ '%') :
    decode (c :: rest) = String.utf8EncodeChar c ++ decode rest := by
  rw [decode]
  rintro a b more rfl
  exact absurd rfl hc

/-! ## Encoding -/

/-- Whether a character is encoded. -/
def IsEncoded (special : List Char) (c : Char) : Prop :=
  c.toNat < 32 ∨ 127 ≤ c.toNat ∨ c ∈ special

theorem encode_cons_of_encoded (h : IsEncoded special c) :
    encode special (c :: cs) = (String.utf8EncodeChar c).flatMap byte ++ encode special cs := by
  unfold encode
  rw [List.flatMap_cons]
  exact congrArg (· ++ _) (if_pos h)

theorem encode_cons_of_plain (h : ¬ IsEncoded special c) :
    encode special (c :: cs) = c :: encode special cs := by
  unfold encode
  rw [List.flatMap_cons]
  exact congrArg (· ++ _) (if_neg h)

/-- What encoding writes: the text, percent signs and digits. -/
theorem mem_encode (h : d ∈ encode special cs) : d ∈ cs ∨ d = '%' ∨ (value? d).isSome = true := by
  induction cs with
  | nil => cases h
  | cons c cs ih =>
    by_cases hc : IsEncoded special c
    · rw [encode_cons_of_encoded hc, List.mem_append] at h
      rcases h with h | h
      · obtain ⟨b, _, hd⟩ := List.mem_flatMap.1 h
        have hb : b.toNat < 256 := b.toNat_lt_size
        have hhigh : value? (digit (b.toNat / 16)) = some (b.toNat / 16) := value?_digit (by omega)
        have hlow : value? (digit (b.toNat % 16)) = some (b.toNat % 16) := value?_digit (by omega)
        simp only [byte, List.mem_cons, List.not_mem_nil, or_false] at hd
        rcases hd with rfl | rfl | rfl
        · exact Or.inr (Or.inl rfl)
        · exact Or.inr (Or.inr (by rw [hhigh]; rfl))
        · exact Or.inr (Or.inr (by rw [hlow]; rfl))
      · exact (ih h).imp_left (List.mem_cons_of_mem _)
    · rw [encode_cons_of_plain hc, List.mem_cons] at h
      rcases h with rfl | h
      · exact Or.inl List.mem_cons_self
      · exact (ih h).imp_left (List.mem_cons_of_mem _)

/-- Encoded text starts as the text does, or with a percent sign. -/
theorem head_of_encode (h : encode special (c :: cs) = d :: rest) :
    d = '%' ∨ d = c ∧ rest = encode special cs := by
  by_cases hc : IsEncoded special c
  · left
    rw [encode_cons_of_encoded hc] at h
    cases hu : String.utf8EncodeChar c with
    | nil =>
      have := length_encodeChar_pos c
      rw [hu] at this
      exact absurd this (Nat.lt_irrefl 0)
    | cons b bytes =>
      rw [hu] at h
      exact (List.cons.inj h).1.symm
  · rw [encode_cons_of_plain hc] at h
    exact Or.inr ⟨(List.cons.inj h).1.symm, (List.cons.inj h).2.symm⟩

theorem Apart.encode (h : Apart cs) : Apart (encode special cs) := by
  intro a b rest he
  match cs, h with
  | [], _ => cases he
  | [c], _ =>
    rcases head_of_encode he with rfl | ⟨_, hrest⟩
    · exact Or.inl value?_sign
    · cases hrest
  | c :: d :: cs, h =>
    rcases head_of_encode he with rfl | ⟨rfl, hrest⟩
    · exact Or.inl value?_sign
    · rcases head_of_encode hrest.symm with rfl | ⟨rfl, _⟩
      · exact Or.inr value?_sign
      · exact h _ _ cs rfl

/-- **Encoded text stands for what the text does**, if neither the percent sign nor a digit is
special. -/
theorem decode_encode (hsign : '%' ∉ special) (hdigit : ∀ c ∈ special, value? c = none)
    (cs : List Char) : decode (encode special cs) = decode cs := by
  have hplain {c : Char} {n : Nat} (h : value? c = some n) : ¬ IsEncoded special c := by
    rintro (hlow | hhigh | hs)
    · have := (range_of_value? h).1
      omega
    · have := (range_of_value? h).2
      omega
    · rw [hdigit c hs] at h
      cases h
  have hself : ¬ IsEncoded special '%' := by
    rintro (hlow | hhigh | hs)
    · exact absurd hlow (by decide)
    · exact absurd hhigh (by decide)
    · exact hsign hs
  -- on what is decoded: a byte, a sign that stands for itself, or any other character
  induction cs using decode.induct with
  | case1 => rfl
  | case2 a b rest x y hb ha ih =>
    rw [encode_cons_of_plain hself, encode_cons_of_plain (hplain ha),
      encode_cons_of_plain (hplain hb), decode, ha, hb, ih, decode, ha, hb]
  | case3 a b rest hnone ih =>
    -- encoding what follows the sign puts no two digits there
    have hapart : Apart (a :: b :: rest) := by
      rintro a' b' rest' he
      cases he
      cases ha : value? a with
      | none => exact Or.inl rfl
      | some x =>
        cases hb : value? b with
        | none => exact Or.inr rfl
        | some y => exact (hnone x y ha hb).elim
    rw [encode_cons_of_plain hself, decode_sign hapart.encode, ih, decode_sign hapart]
  | case4 c rest hshort ih =>
    by_cases hc : c = '%'
    · subst hc
      have hapart : Apart rest := fun a b more he => (hshort a b more rfl he).elim
      rw [encode_cons_of_plain hself, decode_sign hapart.encode, ih, decode_sign hapart]
    · rw [decode_cons_of_ne hc]
      by_cases he : IsEncoded special c
      · rw [encode_cons_of_encoded he, decode_bytes, ih]
      · rw [encode_cons_of_plain he, decode_cons_of_ne hc, ih]

/-! ## How much a text stands for -/

/-- **A text stands for no more than its own bytes.** -/
theorem length_decode_le (cs : List Char) :
    (decode cs).length ≤ (cs.flatMap String.utf8EncodeChar).length := by
  induction cs using decode.induct with
  | case1 => exact Nat.le_refl 0
  | case2 a b rest x y hb ha ih =>
    have := length_encodeChar_pos '%'
    rw [decode, ha, hb, List.length_cons, List.flatMap_cons, List.flatMap_cons, List.flatMap_cons,
      List.length_append, List.length_append, List.length_append]
    omega
  | case3 a b rest hnone ih =>
    have := length_encodeChar_pos '%'
    rw [decode, List.flatMap_cons, List.length_append]
    split
    · rename_i x y ha hb
      exact (hnone x y ha hb).elim
    · rw [List.length_cons]
      omega
  | case4 c rest hshort ih =>
    rw [decode, List.length_append, List.flatMap_cons, List.length_append]
    · omega
    · exact hshort

theorem length_le_of_sublist {xs ys : List Char} (h : xs.Sublist ys) :
    (xs.flatMap String.utf8EncodeChar).length ≤ (ys.flatMap String.utf8EncodeChar).length := by
  induction h with
  | slnil => exact Nat.le_refl 0
  | cons c h ih =>
    rw [List.flatMap_cons, List.length_append]
    omega
  | cons_cons c h ih =>
    rw [List.flatMap_cons, List.flatMap_cons, List.length_append, List.length_append]
    omega

/-- What is left of a text has fewer bytes, unless it is all of it. -/
theorem eq_of_sublist {xs ys : List Char} (h : xs.Sublist ys)
    (hl : (ys.flatMap String.utf8EncodeChar).length ≤ (xs.flatMap String.utf8EncodeChar).length) :
    xs = ys := by
  induction h with
  | slnil => rfl
  | cons c h ih =>
    have := length_encodeChar_pos c
    have := length_le_of_sublist h
    rw [List.flatMap_cons, List.length_append] at hl
    omega
  | cons_cons c h ih =>
    rw [List.flatMap_cons, List.flatMap_cons, List.length_append, List.length_append] at hl
    rw [ih (by omega)]

/-! ## Text that stands for itself -/

/-- No percent sign in a text has two digits after it. -/
def Literal (cs : List Char) : Prop := ∀ rest, '%' :: rest <:+ cs → Apart rest

theorem literal_cons_iff : Literal (c :: cs) ↔ (c = '%' → Apart cs) ∧ Literal cs := by
  constructor
  · intro h
    refine ⟨?_, fun rest hr => h rest (hr.trans (List.suffix_cons c cs))⟩
    rintro rfl
    exact h cs (List.suffix_refl _)
  · rintro ⟨hc, h⟩ rest hr
    rcases List.suffix_cons_iff.1 hr with he | hr
    · cases he
      exact hc rfl
    · exact h rest hr

theorem literal_of_not_mem (h : '%' ∉ cs) : Literal cs := fun _ hr =>
  absurd (hr.subset List.mem_cons_self) h

/-- A byte of three characters is shorter than they are. -/
theorem length_decode_lt (h : ¬ Apart cs) :
    (decode ('%' :: cs)).length < (('%' :: cs).flatMap String.utf8EncodeChar).length := by
  simp only [Apart, Classical.not_forall, not_or] at h
  obtain ⟨a, b, rest, rfl, ha, hb⟩ := h
  obtain ⟨x, hx⟩ := Option.ne_none_iff_exists'.1 ha
  obtain ⟨y, hy⟩ := Option.ne_none_iff_exists'.1 hb
  have hdecode : decode ('%' :: a :: b :: rest) = UInt8.ofNat (x * 16 + y) :: decode rest := by
    rw [decode, hx, hy]
  have hrest := length_decode_le rest
  have := length_encodeChar_pos '%'
  have := length_encodeChar_pos a
  rw [hdecode, List.length_cons, List.flatMap_cons, List.flatMap_cons, List.flatMap_cons,
    List.length_append, List.length_append, List.length_append]
  omega

/-- **A text stands for itself** exactly if nothing in it is encoded. -/
theorem decode_eq_iff : decode cs = cs.flatMap String.utf8EncodeChar ↔ Literal cs := by
  induction cs with
  | nil => exact iff_of_true rfl (literal_of_not_mem List.not_mem_nil)
  | cons c cs ih =>
    rw [literal_cons_iff]
    by_cases hc : c = '%' → Apart cs
    · have hdecode : decode (c :: cs) = String.utf8EncodeChar c ++ decode cs := by
        by_cases he : c = '%'
        · subst he
          exact decode_sign (hc rfl)
        · exact decode_cons_of_ne he
      rw [hdecode, List.flatMap_cons, List.append_cancel_left_eq, ih]
      exact (and_iff_right hc).symm
    · rw [Classical.not_imp] at hc
      obtain ⟨rfl, happart⟩ := hc
      refine iff_of_false (fun h => ?_) fun h => happart (h.1 rfl)
      exact absurd (congrArg List.length h) (Nat.ne_of_lt (length_decode_lt happart))

end ClusterKeeper.Percent
