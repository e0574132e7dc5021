import ClusterKeeper.Json.Parser
import ClusterKeeper.Json.Printer
import ClusterKeeper.Proofs.Utf8

/-!
# JSON text is read back

A reader takes a value from the start of its input and leaves the rest. Behind a value stands a
comma, a closing bracket or brace, or nothing, none of which could go on with a number.

* `Json.stringToken_stringText`: a string is read up to its closing quote, escapes included.
* `Json.numberToken_int`: an integer that 64 bits hold is read up to where its digits end.
* `Json.Lasting`: values without a double and without what has no value.
* `Json.ofText?_render`, `Json.ofBytes?_render`: these are read back from their text, and from its
  bytes.
-/

namespace ClusterKeeper.Json

variable {c : Char} {cs : List Char} {rest : Input} {fuel n : Nat} {j : Json}

/-- Characters as an input. -/
def input (cs : List Char) : Input := cs.map some

theorem input_cons : input (c :: cs) = some c :: input cs := rfl

theorem input_append (cs ds : List Char) : input (cs ++ ds) = input cs ++ input ds :=
  List.map_append

/-! ## Strings -/

/-- What an item stands for by itself. -/
inductive StringItem.Means : StringItem → Char → Prop
  | char (c : Char) : Means (.char c) c
  /-- A unit this small is no half of a pair. -/
  | unit {c : Char} (h : c.toNat < 32) : Means (.unit c.toNat) c

theorem stringChars?_cons {item : StringItem} (h : item.Means c) (items : List StringItem) :
    stringChars? (item :: items) = (stringChars? items).map (c :: ·) := by
  cases h with
  | char => rw [stringChars?]
  | unit hc =>
    have hwhole : ¬ (0xD800 ≤ c.toNat ∧ c.toNat < 0xE000) := by omega
    have hhalf (low : Nat) :
        ¬ (0xD800 ≤ c.toNat ∧ c.toNat < 0xDC00 ∧ 0xDC00 ≤ low ∧ low < 0xE000) := by omega
    -- the reader looks for a pair first, so it matters what is behind
    cases items with
    | nil => rw [stringChars?.eq_def [.unit _]]; simp only; rw [if_neg hwhole, Char.ofNat_toNat]
    | cons next items =>
      cases next with
      | unit low => rw [stringChars?, if_neg (hhalf low), if_neg hwhole, Char.ofNat_toNat]
      | _ =>
        rw [stringChars?.eq_def (.unit _ :: _)]
        simp only
        rw [if_neg hwhole, Char.ofNat_toNat]

theorem hexDigit?_hexDigit : ∀ n < 16, hexDigit? (some (hexDigit n)) = some n := by decide

/-- A character in a string, as it is written. -/
theorem stringChar_cases (c : Char) :
    (∃ e, stringChar c = ['\\', e] ∧ shortEscape? e = some c ∧ e ≠ 'u') ∨
    (stringChar c = ['\\', 'u', '0', '0', hexDigit (c.toNat / 16), hexDigit (c.toNat % 16)] ∧
      c.toNat < 32) ∨
    (stringChar c = [c] ∧ c ≠ '"' ∧ c ≠ '\\' ∧ ¬ c.toNat < 32) := by
  unfold stringChar
  split
  · next h => exact .inl ⟨'"', rfl, by rw [h]; rfl, by decide⟩
  split
  · next h => exact .inl ⟨'\\', rfl, by rw [h]; rfl, by decide⟩
  split
  · next h => exact .inl ⟨'n', rfl, h ▸ rfl, by decide⟩
  split
  · next h => exact .inl ⟨'r', rfl, h ▸ rfl, by decide⟩
  split
  · next h => exact .inl ⟨'t', rfl, h ▸ rfl, by decide⟩
  split
  · next h => exact .inl ⟨'b', rfl, h ▸ rfl, by decide⟩
  split
  · next h => exact .inl ⟨'f', rfl, h ▸ rfl, by decide⟩
  split
  · next h => exact .inr (.inl ⟨rfl, h⟩)
  · next hq hb _ _ _ _ _ h => exact .inr (.inr ⟨rfl, hq, hb, h⟩)

/-- **A character in a string is read back**, as itself or by its number. -/
theorem stringItems_stringChar (c : Char) : ∃ item : StringItem, item.Means c ∧ ∀ rest,
    stringItems (input (stringChar c) ++ rest) =
      (stringItems rest).map fun p => (item :: p.1, p.2) := by
  rcases stringChar_cases c with ⟨e, hc, he, hu⟩ | ⟨hc, hlow⟩ | ⟨hc, hq, hb, hlow⟩
  · refine ⟨.char c, .char c, fun rest => ?_⟩
    rw [hc]
    show stringItems (some '\\' :: some e :: rest) = _
    rw [stringItems, he]
    · cases stringItems rest <;> rfl
    · exact fun _ _ _ _ _ _ h => hu h
  · refine ⟨.unit c.toNat, .unit hlow, fun rest => ?_⟩
    have hhigh := hexDigit?_hexDigit (c.toNat / 16) (by omega)
    have hlast := hexDigit?_hexDigit (c.toNat % 16) (by omega)
    have hzero : hexDigit? (some '0') = some 0 := by decide
    have hvalue : ((0 * 16 + 0) * 16 + c.toNat / 16) * 16 + c.toNat % 16 = c.toNat := by omega
    rw [hc]
    show stringItems (some '\\' :: some 'u' :: some '0' :: some '0' ::
      some (hexDigit (c.toNat / 16)) :: some (hexDigit (c.toNat % 16)) :: rest) = _
    rw [stringItems, hhigh, hlast, hzero]
    simp only [Option.bind_eq_bind, Option.bind_some]
    rw [hvalue]
    cases stringItems rest <;> rfl
  · refine ⟨.char c, .char c, fun rest => ?_⟩
    rw [hc]
    show stringItems (some c :: rest) = _
    have hplain : ¬ (c.toNat < 32 ∨ c = '\\') := not_or.2 ⟨hlow, hb⟩
    rw [stringItems, if_neg hplain]
    · cases stringItems rest <;> rfl
    · exact hq
    · exact fun _ _ _ _ _ _ h => hb h
    · exact fun _ _ _ h => hb h

theorem stringItems_chars (cs : List Char) (rest : Input) : ∃ items,
    stringItems (input (cs.flatMap stringChar) ++ some '"' :: rest) = some (items, rest) ∧
      stringChars? items = some cs := by
  induction cs with
  | nil => exact ⟨[], rfl, rfl⟩
  | cons c cs ih =>
    obtain ⟨items, hitems, hchars⟩ := ih
    obtain ⟨item, hmeans, hitem⟩ := stringItems_stringChar c
    refine ⟨item :: items, ?_, ?_⟩
    · rw [List.flatMap_cons, input_append, List.append_assoc, hitem, hitems, Option.map_some]
    · rw [stringChars?_cons hmeans, hchars, Option.map_some]

/-- **A string is read back**, up to its closing quote. -/
theorem stringToken_stringText (s : String) (rest : Input) :
    ∃ tail, input (stringText s) ++ rest = some '"' :: tail ∧
      stringToken tail = some (some s, rest) := by
  obtain ⟨items, hitems, hchars⟩ := stringItems_chars s.toList rest
  refine ⟨input (s.toList.flatMap stringChar) ++ some '"' :: rest, ?_, ?_⟩
  · rw [stringText, List.cons_append, input_cons, input_append, List.cons_append,
      List.append_assoc]
    rfl
  · rw [stringToken, hitems]
    simp only [Option.bind_eq_bind, Option.bind_some]
    rw [hchars, Option.map_some, String.ofList_toList]

/-! ## Integers -/

/-- What may stand behind a value: no character that could go on with a number. -/
def Ends (rest : Input) : Prop := ∀ c more, rest = some c :: more → c = ',' ∨ c = ']' ∨ c = '\x7d'

theorem ends_nil : Ends [] := nofun

theorem ends_cons (h : c = ',' ∨ c = ']' ∨ c = '\x7d') : Ends (some c :: rest) := by
  intro d more he
  cases he
  exact h

theorem digitRun_of_ends (hr : Ends rest) : digitRun rest = ([], rest) := by
  match rest with
  | [] => rfl
  | none :: more => rfl
  | some c :: more =>
    have hc : c.isDigit = false := by
      rcases hr c more rfl with rfl | rfl | rfl <;> rfl
    rw [digitRun, hc]
    rfl

theorem fractionPart_of_ends (hr : Ends rest) : fractionPart rest = some (none, rest) := by
  match rest with
  | [] => rfl
  | none :: more => rfl
  | some c :: more => rcases hr c more rfl with rfl | rfl | rfl <;> rfl

theorem exponentPart_of_ends (hr : Ends rest) : exponentPart rest = some (none, rest) := by
  match rest with
  | [] => rfl
  | none :: more => rfl
  | some c :: more => rcases hr c more rfl with rfl | rfl | rfl <;> rfl

theorem digitRun_input (hd : ∀ c ∈ cs, c.isDigit = true) (hr : Ends rest) :
    digitRun (input cs ++ rest) = (cs, rest) := by
  induction cs with
  | nil => exact digitRun_of_ends hr
  | cons c cs ih =>
    rw [List.forall_mem_cons] at hd
    rw [input_cons, List.cons_append, digitRun, if_pos hd.1, ih hd.2]

theorem isDigit_toDigits (n : Nat) : ∀ c ∈ Nat.toDigits 10 n, c.isDigit = true :=
  fun _ => Nat.isDigit_of_mem_toDigits (by decide) (by decide)

/-- A number above zero has no zero in front. -/
theorem toDigits_ne_zero_cons (hn : 0 < n) (ds : List Char) : Nat.toDigits 10 n ≠ '0' :: ds := by
  induction n using Nat.strongRecOn generalizing ds with
  | ind n ih =>
    by_cases hlt : n < 10
    · rw [Nat.toDigits_of_lt_base hlt]
      intro h
      have hzero : n = 0 := Nat.digitChar_eq_zero.1 (List.cons.inj h).1
      omega
    · rw [Nat.toDigits_of_base_le (by decide) (by omega)]
      intro h
      -- the front of the longer number is the front of the shorter
      cases hd : Nat.toDigits 10 (n / 10) with
      | nil => exact Nat.toDigits_ne_nil hd
      | cons d more =>
        rw [hd] at h
        have hfront := ih (n / 10) (by omega) (by omega) more
        rw [hd, (List.cons.inj h).1] at hfront
        exact hfront rfl

theorem digitsValue_toDigits (n : Nat) : digitsValue (Nat.toDigits 10 n) = n := by
  have hvalue (ds : List Char) : digitsValue ds = Nat.ofDigitChars 10 ds 0 := by
    unfold digitsValue Nat.ofDigitChars
    congr 1
    funext n c
    rw [Nat.mul_comm]
    rfl
  rw [hvalue, Nat.ofDigitChars_ten_toDigits]

/-- Digits are taken for a whole number. -/
theorem unsignedToken_toDigits (negative : Bool) (n : Nat) (hr : Ends rest) :
    unsignedToken negative (input (Nat.toDigits 10 n) ++ rest) =
      some (⟨negative, Nat.toDigits 10 n, none, none⟩, rest) := by
  unfold unsignedToken
  rw [digitRun_input (isDigit_toDigits n) hr]
  have hzero (d : Char) (ds : List Char) : Nat.toDigits 10 n ≠ '0' :: d :: ds := by
    rcases Nat.eq_zero_or_pos n with rfl | hn
    · rw [Nat.toDigits_zero]
      exact nofun
    · exact toDigits_ne_zero_cons hn (d :: ds)
  split
  · next h => exact absurd (Prod.mk.inj h).1 Nat.toDigits_ne_nil
  · next h => exact absurd (Prod.mk.inj h).1 (hzero _ _)
  · next h =>
    cases h
    rw [fractionPart_of_ends hr]
    simp only [Option.bind_eq_bind, Option.bind_some]
    rw [exponentPart_of_ends hr]
    rfl

/-- An integer in decimals: a minus sign stands only in front of what is not zero. -/
theorem toString_int (n : Int) :
    (0 ≤ n ∧ (toString n).toList = Nat.toDigits 10 n.toNat) ∨
      (n < 0 ∧ (toString n).toList = '-' :: Nat.toDigits 10 (-n).toNat) := by
  rw [Int.toString_eq_repr, Int.repr_eq_if]
  by_cases h : 0 ≤ n
  · rw [if_pos h, Nat.toList_repr]
    exact .inl ⟨h, rfl⟩
  · rw [if_neg h, String.toList_append, Nat.toList_repr]
    exact .inr ⟨by omega, rfl⟩

/-- What a number opens with. -/
def OpensNumber (c : Char) : Prop := c = '-' ∨ c.isDigit = true

instance : Decidable (OpensNumber c) := inferInstanceAs (Decidable (_ ∨ _))

theorem isSpace_of_opensNumber (hc : OpensNumber c) : isSpace (some c) = false := by
  unfold isSpace
  split
  case h_5 => rfl
  all_goals next h => cases h; exact absurd hc (by decide)

theorem toString_int_opens (n : Int) : ∃ c cs, (toString n).toList = c :: cs ∧ OpensNumber c := by
  rcases toString_int n with ⟨-, hs⟩ | ⟨-, hs⟩
  · cases hd : Nat.toDigits 10 n.toNat with
    | nil => exact absurd hd Nat.toDigits_ne_nil
    | cons d ds =>
      have hdigit := isDigit_toDigits n.toNat d (hd ▸ List.mem_cons_self)
      exact ⟨d, ds, hs.trans hd, .inr hdigit⟩
  · exact ⟨'-', _, hs, .inl rfl⟩

/-- **An integer that 64 bits hold is read back**, up to where its digits end. -/
theorem numberToken_int {n : Int} (hn : -9223372036854775808 ≤ n ∧ n < 18446744073709551616)
    (hr : Ends rest) : ∃ t, numberToken (input (toString n).toList ++ rest) = some (t, rest) ∧
      t.toJson = .int n := by
  rcases toString_int n with ⟨hpos, hs⟩ | ⟨hneg, hs⟩
  · refine ⟨⟨false, Nat.toDigits 10 n.toNat, none, none⟩, ?_, ?_⟩
    · rw [hs, ← unsignedToken_toDigits false n.toNat hr]
      -- no digit is a minus sign
      cases hd : Nat.toDigits 10 n.toNat with
      | nil => exact absurd hd Nat.toDigits_ne_nil
      | cons d ds =>
        have hdigit := isDigit_toDigits n.toNat d (hd ▸ List.mem_cons_self)
        rw [input_cons, List.cons_append, numberToken]
        rintro more h
        cases h
        cases hdigit
    · have hlt : n.toNat < 18446744073709551616 := by omega
      unfold NumberToken.toJson
      simp only [digitsValue_toDigits]
      rw [if_neg Bool.false_ne_true, if_pos hlt, Int.toNat_of_nonneg hpos]
  · refine ⟨⟨true, Nat.toDigits 10 (-n).toNat, none, none⟩, ?_, ?_⟩
    · rw [hs, ← unsignedToken_toDigits true (-n).toNat hr]
      rfl
    · have hrange : 0 < (-n).toNat ∧ (-n).toNat ≤ 9223372036854775808 := by omega
      have hback : -(((-n).toNat : Nat) : Int) = n := by omega
      unfold NumberToken.toJson
      simp only [digitsValue_toDigits]
      rw [if_pos trivial, if_pos hrange, hback]

/-! ## Values -/

/-- A value that its text gives back: its numbers are integers that 64 bits hold, and all of it
has a value. -/
inductive Lasting : Json → Prop
  | null : Lasting .null
  | bool (b : Bool) : Lasting (.bool b)
  | int {n : Int} (h : -9223372036854775808 ≤ n ∧ n < 18446744073709551616) : Lasting (.int n)
  | str (s : String) : Lasting (.str s)
  | arr {xs : List Json} (h : ∀ x ∈ xs, Lasting x) : Lasting (.arr xs)
  | obj {ms : List (String × Json)} (h : ∀ m ∈ ms, Lasting m.2) : Lasting (.obj ms)

theorem skip_cons (h : isSpace (some c) = false) : skip (some c :: rest) = some c :: rest := by
  rw [skip, List.dropWhile_cons, h]
  rfl

/-- What a value opens with: neither space nor a closing bracket. -/
theorem chars_opens (h : j.Lasting) :
    ∃ c cs, chars j = c :: cs ∧ isSpace (some c) = false ∧ c ≠ ']' := by
  cases h with
  | null => exact ⟨_, _, rfl, rfl, by decide⟩
  | bool b => cases b <;> exact ⟨_, _, rfl, rfl, by decide⟩
  | @int n =>
    obtain ⟨c, cs, hcs, hc⟩ := toString_int_opens n
    refine ⟨c, cs, hcs, isSpace_of_opensNumber hc, ?_⟩
    rintro rfl
    exact absurd hc (by decide)
  | str s => exact ⟨_, _, rfl, rfl, by decide⟩
  | arr h => exact ⟨_, _, rfl, rfl, by decide⟩
  | obj h => exact ⟨_, _, rfl, rfl, by decide⟩

/-- A number is what is read where nothing else begins. -/
theorem value_number {t : NumberToken} {more : Input} (hc : OpensNumber c)
    (h : numberToken (some c :: rest) = some (t, more)) :
    value (fuel + 1) (some c :: rest) = some (t.toJson, more) := by
  rw [value, skip_cons (isSpace_of_opensNumber hc)]
  split
  case h_7 =>
    rw [h]
    rfl
  all_goals next heq => cases heq; exact absurd hc (by decide)

/-- The value is read back from its characters, wherever they stand. -/
def ReadBack (j : Json) : Prop :=
  ∀ fuel rest, Ends rest → 2 * (chars j).length < fuel →
    value fuel (input (chars j) ++ rest) = some (j, rest)

theorem readBack_int {n : Int} (hn : -9223372036854775808 ≤ n ∧ n < 18446744073709551616) :
    ReadBack (.int n) := by
  intro fuel rest hr hfuel
  obtain ⟨t, ht, hvalue⟩ := numberToken_int hn hr
  obtain ⟨fuel, rfl⟩ : ∃ k, fuel = k + 1 := ⟨fuel - 1, by omega⟩
  obtain ⟨c, cs, hcs, hc⟩ := toString_int_opens n
  rw [chars]
  rw [hcs, input_cons, List.cons_append] at ht ⊢
  rw [value_number hc ht, hvalue]

theorem readBack_str (s : String) : ReadBack (.str s) := by
  intro fuel rest hr hfuel
  obtain ⟨fuel, rfl⟩ : ∃ k, fuel = k + 1 := ⟨fuel - 1, by omega⟩
  obtain ⟨tail, hs, htoken⟩ := stringToken_stringText s rest
  rw [chars, hs, value, skip_cons rfl]
  simp only
  rw [htoken]
  rfl

/-- Elements are read back up to the bracket that closes them. -/
theorem elements_elementChars {xs : List Json} (hne : xs ≠ []) (hxs : ∀ x ∈ xs, ReadBack x)
    (hfuel : 2 * (elementChars xs).length + 1 < fuel) (rest : Input) :
    elements fuel (input (elementChars xs) ++ some ']' :: rest) = some (xs, rest) := by
  induction xs generalizing fuel with
  | nil => exact absurd rfl hne
  | cons j xs ih =>
    obtain ⟨fuel, rfl⟩ : ∃ k, fuel = k + 1 := ⟨fuel - 1, by omega⟩
    rw [List.forall_mem_cons] at hxs
    cases xs with
    | nil =>
      rw [elementChars] at hfuel ⊢
      have hj := hxs.1 fuel (some ']' :: rest) (ends_cons (by decide)) (by omega)
      rw [elements, hj]
      rfl
    | cons x xs =>
      rw [elementChars, List.length_append, List.length_cons] at hfuel
      · have hj := hxs.1 fuel (some ',' :: input (elementChars (x :: xs)) ++ some ']' :: rest)
          (ends_cons (by decide)) (by omega)
        have hmore := ih (List.cons_ne_nil x xs) hxs.2 (show _ < fuel by omega)
        rw [elementChars, input_append, input_cons, List.append_assoc, elements, hj]
        · simp only [Option.bind_eq_bind, Option.bind_some]
          rw [List.cons_append, skip_cons rfl]
          simp only
          rw [hmore]
          rfl
        · exact nofun
      · exact nofun

theorem readBack_arr {xs : List Json} (hl : ∀ x ∈ xs, x.Lasting) (hxs : ∀ x ∈ xs, ReadBack x) :
    ReadBack (.arr xs) := by
  intro fuel rest hr hfuel
  obtain ⟨fuel, rfl⟩ : ∃ k, fuel = k + 1 := ⟨fuel - 1, by omega⟩
  have hinput : input (chars (.arr xs)) ++ rest =
      some '[' :: (input (elementChars xs) ++ some ']' :: rest) := by
    rw [chars, List.cons_append, input_cons, input_append, List.cons_append, List.append_assoc]
    rfl
  rw [hinput, value, skip_cons rfl]
  simp only
  cases xs with
  | nil => rfl
  | cons x xs =>
    rw [chars, List.length_append, List.length_cons, List.length_singleton] at hfuel
    have helements :=
      elements_elementChars (List.cons_ne_nil x xs) hxs (show _ < fuel by omega) rest
    obtain ⟨c, cs, hcs, hspace, hclose⟩ : ∃ c cs, elementChars (x :: xs) = c :: cs ∧
        isSpace (some c) = false ∧ c ≠ ']' := by
      obtain ⟨c, cs, hc, ho⟩ := chars_opens (hl x List.mem_cons_self)
      cases xs with
      | nil => exact ⟨c, cs, hc, ho⟩
      | cons y ys =>
        rw [elementChars, hc]
        · exact ⟨c, _, rfl, ho⟩
        · exact nofun
    rw [hcs] at helements ⊢
    rw [input_cons, List.cons_append] at helements ⊢
    rw [skip_cons hspace]
    split
    · next h =>
      cases h
      exact absurd rfl hclose
    · rw [helements]
      rfl

/-- A member that a brace follows is the last one, and one that a comma follows comes before the
members behind the comma. -/
theorem members_member (name : String)
    (hj : value fuel (input (chars j) ++ rest) = some (j, rest)) :
    (∀ after, skip rest = some '\x7d' :: after →
      members (fuel + 1) (input (stringText name ++ ':' :: chars j) ++ rest) =
        some (some [(name, j)], after)) ∧
    ∀ after more back, skip rest = some ',' :: after →
      members fuel after = some (some more, back) →
      members (fuel + 1) (input (stringText name ++ ':' :: chars j) ++ rest) =
        some (some ((name, j) :: more), back) := by
  obtain ⟨tail, hname, htoken⟩ :=
    stringToken_stringText name (some ':' :: (input (chars j) ++ rest))
  rw [input_append, input_cons, List.append_assoc, List.cons_append, hname, members, skip_cons rfl]
  simp only
  rw [htoken]
  simp only [Option.bind_eq_bind, Option.bind_some]
  rw [skip_cons rfl]
  simp only
  rw [hj]
  constructor
  · intro after hskip
    simp only [Option.bind_some, hskip]
    rfl
  · intro after more back hskip hmore
    simp only [Option.bind_some, hskip, hmore]

/-- Members are read back up to the brace that closes them. -/
theorem members_memberChars {ms : List (String × Json)} (hne : ms ≠ [])
    (hms : ∀ m ∈ ms, ReadBack m.2) (hfuel : 2 * (memberChars ms).length + 1 < fuel) (rest : Input) :
    members fuel (input (memberChars ms) ++ some '\x7d' :: rest) = some (some ms, rest) := by
  induction ms generalizing fuel with
  | nil => exact absurd rfl hne
  | cons m ms ih =>
    obtain ⟨name, j⟩ := m
    obtain ⟨fuel, rfl⟩ : ∃ k, fuel = k + 1 := ⟨fuel - 1, by omega⟩
    rw [List.forall_mem_cons] at hms
    have hread : ReadBack j := hms.1
    cases ms with
    | nil =>
      rw [memberChars, List.length_append, List.length_cons] at hfuel
      have hj := hread fuel (some '\x7d' :: rest) (ends_cons (by decide)) (by omega)
      exact (members_member name hj).1 rest (skip_cons rfl)
    | cons m ms =>
      rw [memberChars, List.length_append, List.length_cons, List.length_append, List.length_cons]
        at hfuel
      · have hj := hread fuel (some ',' :: (input (memberChars (m :: ms)) ++ some '\x7d' :: rest))
          (ends_cons (by decide)) (by omega)
        have hmore := ih (List.cons_ne_nil m ms) hms.2 (show _ < fuel by omega)
        rw [memberChars, input_append, input_cons, List.append_assoc, List.cons_append]
        · exact (members_member name hj).2 _ _ _ (skip_cons rfl) hmore
        · exact nofun
      · exact nofun

theorem readBack_obj {ms : List (String × Json)} (hms : ∀ m ∈ ms, ReadBack m.2) :
    ReadBack (.obj ms) := by
  intro fuel rest hr hfuel
  obtain ⟨fuel, rfl⟩ : ∃ k, fuel = k + 1 := ⟨fuel - 1, by omega⟩
  have hinput : input (chars (.obj ms)) ++ rest =
      some '\x7b' :: (input (memberChars ms) ++ some '\x7d' :: rest) := by
    rw [chars, List.cons_append, input_cons, input_append, List.cons_append, List.append_assoc]
    rfl
  rw [hinput, value, skip_cons rfl]
  simp only
  cases ms with
  | nil => rfl
  | cons m ms =>
    rw [chars, List.length_append, List.length_cons, List.length_singleton] at hfuel
    have hmembers := members_memberChars (List.cons_ne_nil m ms) hms (show _ < fuel by omega) rest
    -- the first name opens with a quote
    obtain ⟨cs, hcs⟩ : ∃ cs, memberChars (m :: ms) = '"' :: cs := by
      cases ms with
      | nil => exact ⟨_, rfl⟩
      | cons n ns => exact ⟨_, rfl⟩
    rw [hcs] at hmembers ⊢
    rw [input_cons, List.cons_append] at hmembers ⊢
    rw [skip_cons rfl]
    split
    · next h => cases h
    · rw [hmembers]
      rfl

/-- A lasting value is read back wherever its characters stand. -/
theorem Lasting.readBack (h : j.Lasting) : ReadBack j := by
  induction h with
  | null =>
    intro fuel rest hr hfuel
    obtain ⟨fuel, rfl⟩ : ∃ k, fuel = k + 1 := ⟨fuel - 1, by omega⟩
    rfl
  | bool b =>
    intro fuel rest hr hfuel
    obtain ⟨fuel, rfl⟩ : ∃ k, fuel = k + 1 := ⟨fuel - 1, by omega⟩
    cases b <;> rfl
  | int hn => exact readBack_int hn
  | str s => exact readBack_str s
  | arr hl ih => exact readBack_arr hl ih
  | obj hl ih => exact readBack_obj ih

/-- **A value is read back from its text.** -/
theorem ofText?_render (h : j.Lasting) : ofText? j.render = some j := by
  have hlength : (input (chars j)).length = (chars j).length := List.length_map _
  have hread := h.readBack (2 * (input (chars j)).length + 2) [] ends_nil (by omega)
  rw [List.append_nil] at hread
  have hparse : parse? (input (chars j)) = some j := by
    unfold parse?
    rw [hread]
    rfl
  unfold ofText? render
  rw [String.toList_ofList]
  exact hparse

/-- A text is read from its bytes. -/
theorem ofBytes?_encode (s : String) : ofBytes? (Utf8.encode s) = ofText? s := by
  rw [ofBytes?, ofText?, Utf8.pieces_encode, List.map_map]
  rfl

/-- **A value is read back from the bytes of its text.** -/
theorem ofBytes?_render (h : j.Lasting) : ofBytes? (Utf8.encode j.render) = some j :=
  (ofBytes?_encode j.render).trans (ofText?_render h)

end ClusterKeeper.Json
