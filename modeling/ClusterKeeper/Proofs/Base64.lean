import ClusterKeeper.Text.Base64

/-!
# Base 64 is read back

* `decode?_encode`: the letters of some bytes stand for these bytes.
* `encode_injective`: no other bytes have them.
-/

namespace ClusterKeeper.Base64

theorem value?_letter : ∀ n < 64, value? (letter n) = some n := by decide

theorem letter_ne_pad : ∀ n < 64, letter n ≠ '=' := by decide

theorem ofNat_eq (a : UInt8) {n : Nat} (h : n = a.toNat) : UInt8.ofNat n = a := by
  rw [h, UInt8.ofNat_toNat]

/-- Three bytes are four letters. -/
theorem decodeLast?_three (a b c : UInt8) :
    let n := (a.toNat * 256 + b.toNat) * 256 + c.toNat
    decodeLast? (letter (n / 262144)) (letter (n / 4096 % 64)) (letter (n / 64 % 64))
      (letter (n % 64)) = some [a, b, c] := by
  intro n
  have ha := a.toNat_lt
  have hb := b.toNat_lt
  have hc := c.toNat_lt
  unfold decodeLast?
  rw [value?_letter _ (by omega), value?_letter _ (by omega), value?_letter _ (by omega),
    value?_letter _ (by omega)]
  simp only [letter_ne_pad _ (show n / 64 % 64 < 64 by omega),
    letter_ne_pad _ (show n % 64 < 64 by omega), if_false, Option.bind_eq_bind, Option.bind_some]
  rw [ofNat_eq a (by omega), ofNat_eq b (by omega), ofNat_eq c (by omega)]

theorem encode_ne_nil {bytes : List UInt8} (h : bytes ≠ []) : encode bytes ≠ [] := by
  match bytes with
  | [] => exact absurd rfl h
  | [a] => exact nofun
  | [a, b] => exact nofun
  | a :: b :: c :: rest => exact nofun

/-- Four letters with more behind them are three bytes. -/
theorem decode?_group (a b c : UInt8) {letters : List Char} (h : letters ≠ []) :
    let n := (a.toNat * 256 + b.toNat) * 256 + c.toNat
    decode? (letter (n / 262144) :: letter (n / 4096 % 64) :: letter (n / 64 % 64) ::
      letter (n % 64) :: letters) = (decode? letters).map fun more => a :: b :: c :: more := by
  intro n
  have ha := a.toNat_lt
  have hb := b.toNat_lt
  have hc := c.toNat_lt
  rw [decode?, value?_letter _ (by omega), value?_letter _ (by omega),
    value?_letter _ (by omega), value?_letter _ (by omega)]
  · simp only [Option.bind_eq_bind, Option.bind_some]
    rw [ofNat_eq a (by omega), ofNat_eq b (by omega), ofNat_eq c (by omega)]
    cases decode? letters <;> rfl
  · intro hl
    exact h hl

/-- **What is written is read.** -/
theorem decode?_encode (bytes : List UInt8) : decode? (encode bytes) = some bytes := by
  induction bytes using encode.induct with
  | case1 => rfl
  | case2 a =>
    have ha := a.toNat_lt
    rw [encode, decode?, decodeLast?, value?_letter _ (by omega), value?_letter _ (by omega)]
    simp only [Option.bind_eq_bind, Option.bind_some, if_true]
    rw [if_pos ⟨trivial, by omega⟩, ofNat_eq a (by omega)]
  | case3 a b =>
    have ha := a.toNat_lt
    have hb := b.toNat_lt
    rw [encode, decode?, decodeLast?, value?_letter _ (by omega), value?_letter _ (by omega)]
    simp only [Option.bind_eq_bind, Option.bind_some]
    rw [if_neg (letter_ne_pad _ (by omega)), value?_letter _ (by omega)]
    simp only [Option.bind_some, if_true]
    rw [if_pos (by omega), ofNat_eq a (by omega), ofNat_eq b (by omega)]
  | case4 a b c rest ih =>
    rw [encode]
    by_cases hr : rest = []
    · subst hr
      exact decodeLast?_three a b c
    · rw [decode?_group a b c (encode_ne_nil hr), ih]
      rfl

theorem encode_injective {xs ys : List UInt8} (h : encode xs = encode ys) : xs = ys := by
  have hd := congrArg decode? h
  rwa [decode?_encode, decode?_encode, Option.some.injEq] at hd

end ClusterKeeper.Base64
