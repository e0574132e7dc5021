import ClusterKeeper.Instant.Printer
import ClusterKeeper.Instant.Reader

/-!
# Instants are read back

Each field of an instant is written with as many digits as its reader takes, or with what no
reader takes for a digit behind it.

* `number_padded`: a number is read up to where its digits end.
* `ofText?_text`: the text of an instant names that instant.
-/

namespace ClusterKeeper.Instant

variable {n w max : Nat} {c : Char} {ds rest : List Char}

theorem valueOf_eq (ds : List Char) : valueOf ds = Nat.ofDigitChars 10 ds 0 := by
  unfold valueOf Nat.ofDigitChars
  congr 1
  funext n c
  rw [Nat.mul_comm]
  rfl

theorem valueOf_padded (w n : Nat) : valueOf (padded w n) = n := by
  rw [valueOf_eq]
  unfold padded
  rw [Nat.ofDigitChars_append, Nat.ofDigitChars_replicate_zero, Nat.mul_zero,
    Nat.ofDigitChars_ten_toDigits]

theorem isDigit_of_mem_padded (h : c ∈ padded w n) : c.isDigit = true := by
  unfold padded at h
  rw [List.mem_append] at h
  rcases h with h | h
  · rw [List.eq_of_mem_replicate h]
    rfl
  · exact Nat.isDigit_of_mem_toDigits (by decide) (by decide) h

theorem length_padded (hw : 0 < w) (h : n < Nat.pow 10 w) : (padded w n).length = w := by
  have := (Nat.length_toDigits_le_iff (by decide) hw).2 h
  unfold padded
  rw [List.length_append, List.length_replicate]
  omega

theorem padded_ne_nil (w n : Nat) : padded w n ≠ [] := by
  unfold padded
  exact List.append_ne_nil_of_right_ne_nil _ Nat.toDigits_ne_nil

/-- Digits are taken up to the limit, or up to what is no digit. -/
theorem takeDigits_append (hd : ∀ c ∈ ds, c.isDigit = true) (hl : ds.length ≤ max)
    (hr : ds.length = max ∨ ∀ c cs, rest = c :: cs → c.isDigit = false) :
    takeDigits max (ds ++ rest) = (ds, rest) := by
  induction ds generalizing max with
  | nil =>
    rcases hr with hr | hr
    · subst hr; rfl
    · cases rest with
      | nil => cases max <;> rfl
      | cons c cs =>
        cases max with
        | zero => rfl
        | succ max =>
          rw [List.nil_append, takeDigits, hr c cs rfl]
          rfl
  | cons c ds ih =>
    rw [List.forall_mem_cons] at hd
    cases max with
    | zero => simp at hl
    | succ max =>
      simp only [List.length_cons, Nat.add_le_add_iff_right, Nat.add_right_cancel_iff] at hl hr
      rw [List.cons_append, takeDigits, hd.1, ih hd.2 hl hr]
      rfl

theorem number_append (hd : ∀ c ∈ ds, c.isDigit = true) (hn : ds ≠ []) (hl : ds.length ≤ max)
    (hr : ds.length = max ∨ ∀ c cs, rest = c :: cs → c.isDigit = false) :
    number max (ds ++ rest) = some (valueOf ds, rest) := by
  unfold number
  rw [takeDigits_append hd hl hr]
  cases ds with
  | nil => exact absurd rfl hn
  | cons c ds => rfl

/-- A number in exactly the digits that are taken. -/
theorem number_padded (hw : 0 < w) (h : n < Nat.pow 10 w) (rest : List Char) :
    number w (padded w n ++ rest) = some (n, rest) := by
  have hl := length_padded hw h
  rw [number_append (fun c => isDigit_of_mem_padded) (padded_ne_nil w n) (Nat.le_of_eq hl)
    (Or.inl hl), valueOf_padded]

/-- A digit is no white space. -/
theorem isBlank_of_isDigit (h : c.isDigit = true) : Text.isBlank c = false := by
  have hrange : 48 ≤ c.toNat ∧ c.toNat ≤ 57 := by
    simpa [Char.isDigit, UInt32.le_iff_toNat_le] using h
  unfold Text.isBlank
  simp only [Bool.or_eq_false_iff, Bool.and_eq_false_iff, decide_eq_false_iff_not,
    beq_eq_false_iff_ne]
  omega

theorem skipBlank_padded (w n : Nat) (rest : List Char) :
    skipBlank (padded w n ++ rest) = padded w n ++ rest := by
  unfold skipBlank
  cases hp : padded w n with
  | nil => exact absurd hp (padded_ne_nil w n)
  | cons c cs =>
    have hc : c ∈ padded w n := by rw [hp]; exact List.mem_cons_self
    rw [List.cons_append, List.dropWhile_cons_of_neg]
    rw [isBlank_of_isDigit (isDigit_of_mem_padded hc)]
    exact Bool.false_ne_true

theorem field_padded (h : n < 100) (rest : List Char) :
    field (padded 2 n ++ rest) = some (n, rest) := by
  unfold field
  rw [skipBlank_padded, number_padded (by decide) h]

theorem mark_cons (hc : Text.isBlank c = false) (rest : List Char) :
    mark c (c :: rest) = some rest := by
  unfold mark skipBlank
  rw [List.dropWhile_cons_of_neg (by rw [hc]; exact Bool.false_ne_true)]
  exact if_pos rfl

/-- The mark behind a number is no part of it. -/
theorem number_padded_mark {m : Char} (hm : m.isDigit = false) (w n : Nat) (rest : List Char) :
    number (padded w n ++ m :: rest).length (padded w n ++ m :: rest) = some (n, m :: rest) := by
  have hr : ∀ c cs, m :: rest = c :: cs → c.isDigit = false := by
    rintro c cs h
    cases h
    exact hm
  have hl : (padded w n).length ≤ (padded w n ++ m :: rest).length := by
    rw [List.length_append]
    omega
  rw [number_append (fun c => isDigit_of_mem_padded) (padded_ne_nil w n) hl (Or.inr hr),
    valueOf_padded]

/-- A year without a sign. -/
theorem yearField_padded (h : n < Nat.pow 10 4) (rest : List Char) :
    yearField (padded 4 n ++ rest) = some ((n : Int), rest) := by
  have hhead {c : Char} {cs : List Char} (hp : padded 4 n ++ rest = c :: cs) :
      c.isDigit = true := by
    cases hd : padded 4 n with
    | nil => exact absurd hd (padded_ne_nil 4 n)
    | cons d ds =>
      rw [hd] at hp
      cases hp
      exact isDigit_of_mem_padded (hd ▸ List.mem_cons_self)
  unfold yearField
  rw [skipBlank_padded]
  split
  · rename_i hp
    exact absurd (hhead hp) (by decide)
  · rename_i hp
    exact absurd (hhead hp) (by decide)
  · rw [number_padded (by decide) h]
    rfl

theorem yearField_minus (n : Nat) (rest : List Char) :
    yearField ('-' :: (padded 4 n ++ '-' :: rest)) = some (-(n : Int), '-' :: rest) := by
  have hread : yearField ('-' :: (padded 4 n ++ '-' :: rest)) =
      (number (padded 4 n ++ '-' :: rest).length (padded 4 n ++ '-' :: rest)).map
        fun p => (-(p.1 : Int), p.2) := rfl
  rw [hread, number_padded_mark rfl]
  rfl

theorem yearField_plus (n : Nat) (rest : List Char) :
    yearField ('+' :: (padded 4 n ++ '-' :: rest)) = some ((n : Int), '-' :: rest) := by
  have hread : yearField ('+' :: (padded 4 n ++ '-' :: rest)) =
      (number (padded 4 n ++ '-' :: rest).length (padded 4 n ++ '-' :: rest)).map
        fun p => ((p.1 : Int), p.2) := rfl
  rw [hread, number_padded_mark rfl]
  rfl

/-- A year is read up to the mark behind it. -/
theorem yearField_yearText (year : Int) (rest : List Char) :
    yearField (yearText year ++ '-' :: rest) = some (year, '-' :: rest) := by
  unfold yearText
  split
  · rename_i hy
    have hn : year.toNat < Nat.pow 10 4 := by
      rw [Nat.pow_eq]
      omega
    rw [yearField_padded hn, Int.toNat_of_nonneg hy.1]
  split
  · have habs : -(year.natAbs : Int) = year := by omega
    rw [List.cons_append, yearField_minus, habs]
  · have habs : (year.natAbs : Int) = year := by omega
    rw [List.cons_append, yearField_plus, habs]

theorem fraction_padded (hw : 0 < w) (h9 : w ≤ 9) (h : n < Nat.pow 10 w) :
    fraction ('.' :: padded w n ++ ['Z']) = some (n * Nat.pow 10 (9 - w), ['Z']) := by
  have hl := length_padded hw h
  have hr : ∀ c cs, ['Z'] = c :: cs → c.isDigit = false := by
    rintro c cs h
    cases h
    rfl
  have ht : takeDigits 9 (padded w n ++ ['Z']) = (padded w n, ['Z']) :=
    takeDigits_append (fun c => isDigit_of_mem_padded) (by omega) (Or.inr hr)
  rw [List.cons_append, fraction, ht]
  cases hp : padded w n with
  | nil => exact absurd hp (padded_ne_nil w n)
  | cons c cs =>
    have hv : valueOf (c :: cs) * Nat.pow 10 (9 - (c :: cs).length) = n * Nat.pow 10 (9 - w) := by
      rw [← hp, hl, valueOf_padded]
    exact congrArg (fun v => some (v, ['Z'])) hv

theorem fraction_fractionText {nano : Nat} (h : nano < 1000000000) :
    fraction (fractionText nano ++ ['Z']) = some (nano, ['Z']) := by
  have power {w n : Nat} (hw : 0 < w) (h9 : w ≤ 9) (hn : n < 10 ^ w) (h : n * 10 ^ (9 - w) = nano) :
      fraction ('.' :: padded w n ++ ['Z']) = some (nano, ['Z']) := by
    rw [fraction_padded hw h9 hn, Nat.pow_eq, h]
  unfold fractionText
  split
  · rename_i h0
    subst h0
    rfl
  split
  · exact power (by decide) (by decide) (by omega) (by omega)
  split
  · exact power (by decide) (by decide) (by omega) (by omega)
  · exact power (by decide) (by decide) (by omega) (by omega)

theorem of?_fields (t : Instant) :
    of? t.year t.month t.day t.hour t.minute t.second t.nano = some t := by
  unfold of?
  rw [dif_pos t.year_range, dif_pos t.month_range, dif_pos t.day_range, dif_pos t.time_range,
    dif_pos t.nano_range]

/-- No minutes later is the same instant. -/
theorem shift?_zero (t : Instant) : t.shift? (-0) = some t := by
  have hh := t.time_range
  have htotal : (t.hour * 60 + t.minute : Int) + -0 = (t.hour * 60 + t.minute : Nat) := by omega
  have hday : ((t.hour * 60 + t.minute : Nat) % 1440 : Int).toNat = t.hour * 60 + t.minute := by
    omega
  unfold shift?
  simp only [htotal, hday]
  rw [if_neg (by omega), if_neg (by omega)]
  have hhour : (t.hour * 60 + t.minute) / 60 = t.hour := by omega
  have hminute : (t.hour * 60 + t.minute) % 60 = t.minute := by omega
  simp only [hhour, hminute]
  exact of?_fields t

theorem bind_eq_of_eq_some {α β : Type} {x : Option α} {a : α} {f : α → Option β}
    (h : x = some a) : (x >>= f) = f a := by
  rw [h]
  rfl

/-- **What is written is read.** -/
theorem ofText?_text (t : Instant) : ofText? t.text = some t := by
  have hd := t.day_range
  have hm := t.month_range
  have ht := t.time_range
  have hdays : Calendar.daysIn t.year t.month ≤ 31 := by
    unfold Calendar.daysIn
    repeat' split
    all_goals omega
  have hf := fraction_fractionText t.nano_range
  have hz : zone (skipBlank ['Z']) = some (0, []) := rfl
  have he : (skipBlank []).isEmpty = true := rfl
  unfold ofText? text ofChars?
  rw [String.toList_ofList]
  simp only [List.append_assoc, List.cons_append]
  refine (bind_eq_of_eq_some (yearField_yearText t.year _)).trans ?_
  refine (bind_eq_of_eq_some (mark_cons (by decide) _)).trans ?_
  refine (bind_eq_of_eq_some (field_padded (by omega) _)).trans ?_
  refine (bind_eq_of_eq_some (mark_cons (by decide) _)).trans ?_
  refine (bind_eq_of_eq_some (field_padded (by omega) _)).trans ?_
  refine (bind_eq_of_eq_some rfl).trans ?_
  refine (bind_eq_of_eq_some (field_padded (by omega) _)).trans ?_
  refine (bind_eq_of_eq_some (mark_cons (by decide) _)).trans ?_
  refine (bind_eq_of_eq_some (field_padded (by omega) _)).trans ?_
  refine (bind_eq_of_eq_some (mark_cons (by decide) _)).trans ?_
  refine (bind_eq_of_eq_some (field_padded (by omega) _)).trans ?_
  refine (bind_eq_of_eq_some hf).trans ?_
  refine (bind_eq_of_eq_some hz).trans ?_
  refine (bind_eq_of_eq_some t.of?_fields).trans ?_
  exact (if_pos he).trans t.shift?_zero

end ClusterKeeper.Instant
