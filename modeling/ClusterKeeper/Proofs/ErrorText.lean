import ClusterKeeper.Proofs.Exchange
import ClusterKeeper.Proofs.Records
import ClusterKeeper.Proofs.Utf8

/-!
# What an error response says

A response that reports an error is read for its message, and where this fails all of its body
stands for it. The reader does not fail on every body without a message: the member has a default,
so an object may leave it out, and a record may be written as an array. Of such a body the text is
lost.

* `Json.Read`, `Json.read_of_value`: how a value is read.
* `Json.ne_of_ofText?_singleton`: a text is longer than a string in it.
* `DatabaseCall.due`, `DatabaseCall.Mistaken`: what a body has to say, and what it is taken for.
* `DatabaseCall.errorText_eq_due_iff`, `DatabaseCall.errorText_eq_empty_iff`: what is said of it.
* `Exchange.error_text_due_iff`: the same of every call.
-/

namespace ClusterKeeper

namespace Json

/-! ## A text is longer than the strings in it -/

variable {input rest : Input} {fuel : Nat} {s : String}

/-- An item in front of others that are shorter than what they are read from. -/
theorem length_cons_stringItems {item : StringItem} {items : List StringItem}
    (hmore : ∀ {items rest}, stringItems input = some (items, rest) →
      items.length + rest.length < input.length)
    (h : (stringItems input).bind (fun p => some (item :: p.1, p.2)) = some (items, rest)) :
    items.length + rest.length < input.length + 1 := by
  obtain ⟨⟨items', rest'⟩, hitems, he⟩ := Option.bind_eq_some_iff.1 h
  cases he
  have hlength := hmore hitems
  simp only [List.length_cons]
  omega

/-- Every item of a string takes a character at least, and the closing quote takes one. -/
theorem length_stringItems {items : List StringItem}
    (h : stringItems input = some (items, rest)) : items.length + rest.length < input.length := by
  fun_induction stringItems input generalizing items rest with
  | case1 => cases h
  | case2 more =>
    cases h
    simp
  | case3 a b c d more ih =>
    -- four digits make one item
    obtain ⟨_, -, h⟩ := Option.bind_eq_some_iff.1 h
    obtain ⟨_, -, h⟩ := Option.bind_eq_some_iff.1 h
    obtain ⟨_, -, h⟩ := Option.bind_eq_some_iff.1 h
    obtain ⟨_, -, h⟩ := Option.bind_eq_some_iff.1 h
    have hlength := length_cons_stringItems ih h
    simp only [List.length_cons]
    omega
  | case4 e more _ ih =>
    obtain ⟨_, -, h⟩ := Option.bind_eq_some_iff.1 h
    have hlength := length_cons_stringItems ih h
    simp only [List.length_cons]
    omega
  | case5 more ih =>
    have hlength := length_cons_stringItems ih h
    rw [List.length_cons]
    omega
  | case6 => cases h
  | case7 c more _ _ _ _ ih => exact length_cons_stringItems ih h

theorem length_stringChars? {items : List StringItem} {cs : List Char}
    (h : stringChars? items = some cs) : cs.length ≤ items.length := by
  fun_induction stringChars? items generalizing cs with
  | case1 =>
    cases h
    exact Nat.le_refl 0
  | case3 => cases h
  | case5 => cases h
  | case7 => cases h
  | case2 c more ih | case4 high low more _ ih | case6 high low more _ _ ih | case8 n more _ _ ih =>
    obtain ⟨cs', hmore, rfl⟩ := Option.map_eq_some_iff.1 h
    have hlength := ih hmore
    simp only [List.length_cons] at hlength ⊢
    omega

theorem length_stringToken (h : stringToken input = some (some s, rest)) :
    s.toList.length + rest.length < input.length := by
  unfold stringToken at h
  simp only [Option.bind_eq_bind, Option.bind_eq_some_iff] at h
  obtain ⟨⟨items, rest'⟩, hitems, he⟩ := h
  simp only [Option.some.injEq, Prod.mk.injEq, Option.map_eq_some_iff] at he
  obtain ⟨⟨cs, hcs, rfl⟩, rfl⟩ := he
  rw [String.toList_ofList]
  have hchars := length_stringChars? hcs
  have htoken := length_stringItems hitems
  omega

theorem length_skip (input : Input) : (skip input).length ≤ input.length :=
  (List.dropWhile_sublist isSpace).length_le

/-- A number is no string and no array. -/
theorem NumberToken.toJson_cases (t : NumberToken) :
    (∃ n, t.toJson = .int n) ∨ (∃ x, t.toJson = .float x) ∨ t.toJson = .unreadable := by
  have hfloat : (∃ x, (t.float?.map Json.float).getD .unreadable = .float x) ∨
      (t.float?.map Json.float).getD .unreadable = .unreadable := by
    cases t.float? with
    | none => exact Or.inr rfl
    | some x => exact Or.inl ⟨x, rfl⟩
  unfold toJson
  simp only
  split
  · split
    · split
      · exact Or.inl ⟨_, rfl⟩
      · exact Or.inr hfloat
    · split
      · exact Or.inl ⟨_, rfl⟩
      · exact Or.inr hfloat
  · exact Or.inr hfloat

/-- **How a value is read**: a string behind a quote, an array behind a bracket, and what is neither
in some other way. -/
inductive Read (fuel : Nat) (input : Input) : Json → Input → Prop
  | str {more rest : Input} {s : String} (hs : skip input = some '"' :: more)
      (h : stringToken more = some (some s, rest)) : Read fuel input (.str s) rest
  | empty {more rest : Input} (hs : skip input = some '[' :: more) : Read fuel input (.arr []) rest
  | arr {more rest : Input} {xs : List Json} (hs : skip input = some '[' :: more)
      (h : elements fuel (skip more) = some (xs, rest)) : Read fuel input (.arr xs) rest
  | other {j : Json} {rest : Input} (hstr : ∀ s, j ≠ .str s) (harr : ∀ xs, j ≠ .arr xs) :
      Read fuel input j rest

theorem read_of_value {j : Json} (h : value (fuel + 1) input = some (j, rest)) :
    Read fuel input j rest := by
  rw [value] at h
  split at h
  case h_4 more hs =>
    obtain ⟨⟨text?, rest'⟩, htoken, he⟩ := Option.bind_eq_some_iff.1 h
    cases text? with
    | none => cases he; exact .other nofun nofun
    | some s => cases he; exact .str hs htoken
  case h_5 more hs =>
    split at h
    · cases h; exact .empty hs
    · obtain ⟨⟨xs, rest'⟩, helements, he⟩ := Option.bind_eq_some_iff.1 h
      cases he
      exact .arr hs helements
  case h_6 =>
    split at h
    · cases h; exact .other nofun nofun
    · obtain ⟨⟨members?, rest'⟩, -, he⟩ := Option.bind_eq_some_iff.1 h
      cases members? <;> cases he <;> exact .other nofun nofun
  case h_7 =>
    obtain ⟨⟨t, rest'⟩, -, he⟩ := Option.bind_eq_some_iff.1 h
    rw [Option.some.injEq, Prod.mk.injEq] at he
    rw [← he.1]
    rcases t.toJson_cases with ⟨n, ht⟩ | ⟨x, ht⟩ | ht
    all_goals rw [ht]; exact .other nofun nofun
  all_goals cases h; exact .other nofun nofun

theorem length_value_str (h : value fuel input = some (.str s, rest)) :
    s.toList.length + rest.length < input.length := by
  cases fuel with
  | zero => cases h
  | succ fuel =>
    cases read_of_value h with
    | str hs htoken =>
      have hskip := length_skip input
      rw [hs, List.length_cons] at hskip
      have hlength := length_stringToken htoken
      omega
    | other hstr _ => exact absurd rfl (hstr s)

/-- The first of some elements is read as a value. -/
theorem value_of_elements {j : Json} {js : List Json}
    (h : elements fuel input = some (j :: js, rest)) :
    ∃ fuel' rest', value fuel' input = some (j, rest') := by
  cases fuel with
  | zero => cases h
  | succ fuel =>
    rw [elements] at h
    obtain ⟨⟨first, behind⟩, hfirst, he⟩ := Option.bind_eq_some_iff.1 h
    simp only at he
    have hsame : first = j := by
      split at he
      · cases he
        rfl
      · obtain ⟨_, -, he⟩ := Option.bind_eq_some_iff.1 he
        cases he
        rfl
      · cases he
    exact ⟨fuel, behind, hsame ▸ hfirst⟩

theorem length_value_singleton (h : value fuel input = some (.arr [.str s], rest)) :
    s.toList.length < input.length := by
  cases fuel with
  | zero => cases h
  | succ fuel =>
    cases read_of_value h with
    | @arr more _ _ hs helements =>
      have hskip := length_skip input
      have hmore := length_skip more
      rw [hs, List.length_cons] at hskip
      obtain ⟨fuel', rest', hvalue⟩ := value_of_elements helements
      have hlength := length_value_str hvalue
      omega
    | other _ harr => exact absurd rfl (harr _)

/-- **The text of an array of one string** is not that string. -/
theorem ne_of_ofText?_singleton {text : String} (h : ofText? text = some (.arr [.str s])) :
    s ≠ text := by
  rintro rfl
  unfold ofText? parse? at h
  split at h
  · next j rest hvalue =>
    split at h
    · cases h
      have hlength := length_value_singleton hvalue
      rw [List.length_map] at hlength
      omega
    · cases h
  · cases h

theorem ofText?_empty : ofText? "" = none := rfl

end Json

namespace DatabaseCall

open Json (countName)

variable {j : Json} {m text : String} {r : Http.Response}

/-- The message of an error body: the text of the member `message`, if the body is an object that
has it once. -/
def givenMessage? : Json → Option String
  | .obj ms => if countName "message" ms ≤ 1 then (ms.lookup "message").bind Json.text? else none
  | _ => none

/-- **What an error body has to say**: its message if it has one, and else all of it. -/
def due (text : String) : String := ((Json.ofText? text).bind givenMessage?).getD text

/-- **A body that is taken for a message** and is none: an object without the member, or an array
that stands for one. -/
inductive Mistaken : Json → String → Prop
  | unnamed {ms : List (String × Json)} (h : "message" ∉ ms.map (·.1)) : Mistaken (.obj ms) ""
  | empty : Mistaken (.arr []) ""
  | listed (s : String) : Mistaken (.arr [.str s]) s

theorem givenMessage?_eq_some_iff : givenMessage? j = some m ↔
    ∃ ms, j = .obj ms ∧ countName "message" ms ≤ 1 ∧ ("message", .str m) ∈ ms := by
  cases j with
  | obj ms =>
    have hmember (hone : countName "message" ms ≤ 1) :
        (ms.lookup "message").bind Json.text? = some m ↔ ("message", Json.str m) ∈ ms := by
      rw [← Json.lookup_eq_some_iff_mem hone, Option.bind_eq_some_iff]
      constructor
      · rintro ⟨j, hj, hm⟩
        cases j with
        | str s => cases hm; exact hj
        | _ => cases hm
      · intro h
        exact ⟨.str m, h, rfl⟩
    unfold givenMessage?
    simp only [Json.obj.injEq, exists_eq_left']
    by_cases hone : countName "message" ms ≤ 1
    · rw [if_pos hone, hmember hone]
      exact (and_iff_right hone).symm
    · rw [if_neg hone]
      simp [hone]
  | _ => simp [givenMessage?]

theorem not_mistaken_of_given (h : givenMessage? j = some m) (m' : String) : ¬ Mistaken j m' := by
  obtain ⟨ms, rfl, -, hm⟩ := givenMessage?_eq_some_iff.1 h
  rintro ⟨hno⟩
  exact hno (List.mem_map_of_mem hm)

/-- An object is read if it does not repeat the member. -/
theorem errorMessage?_obj (ms : List (String × Json)) : errorMessage? (.obj ms) =
    if countName "message" ms ≤ 1 then (ms.lookup "message").elim (some "") Json.text?
    else none := by
  -- a record of one member, which has a default
  have hread : errorMessage? (.obj ms) =
      (if (["message"].all fun name => countName name ms ≤ 1) = true then some (Json.slotOf ms)
        else none).bind fun r => (r "message").default "" Json.text? := rfl
  have hall : (["message"].all fun name => countName name ms ≤ 1) = true ↔
      countName "message" ms ≤ 1 := by simp
  rw [hread]
  simp only [hall]
  split
  · rw [Option.bind_some, Json.slotOf]
    cases ms.lookup "message" <;> rfl
  · rfl

/-- **What is read as a message** is one, or is taken for one. -/
theorem errorMessage?_eq_some_iff : errorMessage? j = some m ↔
    givenMessage? j = some m ∨ Mistaken j m := by
  cases j with
  | obj ms =>
    have hmistaken : Mistaken (.obj ms) m ↔ ms.lookup "message" = none ∧ m = "" := by
      constructor
      · rintro ⟨hno⟩
        refine ⟨Option.eq_none_iff_forall_ne_some.2 fun j hj => ?_, rfl⟩
        exact hno (Json.mem_names_iff.2 ⟨j, hj⟩)
      · rintro ⟨hl, rfl⟩
        refine .unnamed fun hm => ?_
        obtain ⟨j, hj⟩ := Json.mem_names_iff.1 hm
        cases hl.symm.trans hj
    rw [errorMessage?_obj, hmistaken, givenMessage?]
    cases hl : ms.lookup "message" with
    | none =>
      have hnone : countName "message" ms ≤ 1 := by
        rw [Json.countName_of_lookup hl]
        exact Nat.zero_le 1
      rw [if_pos hnone, if_pos hnone]
      simp [eq_comm]
    | some j => simp
  | arr xs =>
    match xs with
    | [] =>
      constructor
      · intro h
        cases h
        exact .inr .empty
      · rintro (h | h)
        · cases h
        · cases h
          rfl
    | [x] =>
      have hread : errorMessage? (.arr [x]) = x.text? := rfl
      rw [hread]
      constructor
      · intro h
        cases x with
        | str s => cases h; exact .inr (.listed _)
        | _ => cases h
      · rintro (h | h)
        · cases h
        · cases h
          rfl
    | x :: y :: more =>
      have hread : errorMessage? (.arr (x :: y :: more)) = none := rfl
      rw [hread]
      constructor
      · intro h
        cases h
      · rintro (h | h)
        · cases h
        · cases h
  | _ =>
    constructor
    · intro h
      cases h
    · rintro (h | h)
      · cases h
      · cases h

/-- The text of a body of UTF-8 that arrived whole. -/
theorem errorText_eq (hc : r.complete = true) (hb : r.body = Utf8.encode text) :
    errorText r = ((Json.ofText? text).bind errorMessage?).getD text := by
  unfold errorText
  rw [if_pos hc, hb, Utf8.decodeLossy_encode]

/-- What is taken for a message is not the text of the body. -/
theorem ne_of_mistaken (hj : Json.ofText? text = some j) (h : Mistaken j m) : m ≠ text := by
  have hempty (he : Json.ofText? text = some j) : "" ≠ text := by
    rintro rfl
    rw [Json.ofText?_empty] at he
    cases he
  cases h with
  | unnamed _ => exact hempty hj
  | empty => exact hempty hj
  | listed s => exact Json.ne_of_ofText?_singleton hj

/-- **A body that is taken for a message** is what decides: what is taken is said, and otherwise
what is due. -/
theorem errorText_cases (hc : r.complete = true) (hb : r.body = Utf8.encode text) :
    (∃ j, Json.ofText? text = some j ∧ Mistaken j (errorText r) ∧ due text = text) ∨
      ((¬ ∃ j m, Json.ofText? text = some j ∧ Mistaken j m) ∧ errorText r = due text) := by
  rw [errorText_eq hc hb, due]
  cases hj : Json.ofText? text with
  | none => exact .inr ⟨by rintro ⟨j, m, ⟨⟩, -⟩, rfl⟩
  | some j =>
    simp only [Option.bind_some, Option.some.injEq, exists_eq_left']
    cases hg : givenMessage? j with
    | some m =>
      have hm := errorMessage?_eq_some_iff.2 (.inl hg)
      rw [hm]
      refine .inr ⟨?_, rfl⟩
      rintro ⟨_, m', rfl, h⟩
      exact not_mistaken_of_given hg m' h
    | none =>
      cases hm : errorMessage? j with
      | some m =>
        rcases errorMessage?_eq_some_iff.1 hm with h | h
        · cases hg.symm.trans h
        · exact .inl ⟨h, rfl⟩
      | none =>
        refine .inr ⟨?_, rfl⟩
        rintro ⟨_, m', rfl, h⟩
        cases hm.symm.trans (errorMessage?_eq_some_iff.2 (.inr h))

theorem errorText_eq_due_iff (hc : r.complete = true) (hb : r.body = Utf8.encode text) :
    errorText r = due text ↔ ¬ ∃ j m, Json.ofText? text = some j ∧ Mistaken j m := by
  rcases errorText_cases hc hb with ⟨j, hj, hm, hdue⟩ | ⟨hno, hsame⟩
  · have hne : errorText r ≠ due text := hdue.symm ▸ ne_of_mistaken hj hm
    exact iff_of_false hne fun hno => hno ⟨j, _, hj, hm⟩
  · exact iff_of_true hsame hno

/-- **Nothing is said** of an empty body, of an empty message, and of what is taken for one. -/
theorem errorText_eq_empty_iff (hc : r.complete = true) (hb : r.body = Utf8.encode text) :
    errorText r = "" ↔ text = "" ∨
      ∃ j, Json.ofText? text = some j ∧ (givenMessage? j = some "" ∨ Mistaken j "") := by
  simp only [← errorMessage?_eq_some_iff, errorText_eq hc hb]
  cases hj : Json.ofText? text with
  | none => simp
  | some j =>
    simp only [Option.bind_some, Option.some.injEq, exists_eq_left']
    cases hm : errorMessage? j with
    | some m =>
      have hne : text ≠ "" := by
        rintro rfl
        rw [Json.ofText?_empty] at hj
        cases hj
      simp [hne]
    | none => simp

/-- **Every call fails alike** with a response that reports an error. -/
theorem interpret_of_failed {url : Url} (h : ¬ (200 ≤ r.status ∧ r.status < 300))
    (call : DatabaseCall) :
    interpret url (.response r) call = .error (.api r.status (errorText r)) := by
  have hchecked : checked r = .error (.api r.status (errorText r)) :=
    if_neg fun hs => h (Http.isSuccess_iff.1 hs)
  cases call with
  | get id =>
    show (checked r >>= _) = _
    rw [hchecked]
    rfl
  | create request =>
    show (checked r >>= _) = _
    rw [hchecked]
    rfl
  | delete id =>
    show (checked r >>= _) = _
    rw [hchecked]
    rfl

end DatabaseCall

namespace Exchange

open DatabaseCall

variable {session : Session} {call : DatabaseCall} {es : Trace} {a : Except CallFailure call.Answer}
  {request : DatabaseRequest} {r : Http.Response} {text : String}

/-- **When an error text is kept.** A call that is answered with any status but those of success,
and with a body of UTF-8, fails with that status, whichever call it is. It says what is due, the
message of the body or else all of it, exactly if the body is not taken for a message that it is
not. So it says nothing of an empty body, of an empty message, and of such a body. -/
theorem error_text_due_iff (h : Called session call es a)
    (he : Event.database request (.response r) ∈ es) (hs : ¬ (200 ≤ r.status ∧ r.status < 300))
    (hc : r.complete = true) (hb : r.body = Utf8.encode text) :
    ∃ message, a = .error (.api r.status message) ∧
      (message = due text ↔ ¬ ∃ j m, Json.ofText? text = some j ∧ Mistaken j m) ∧
      (∀ j m, Json.ofText? text = some j → Mistaken j m → message = m) ∧
      (message = "" ↔ text = "" ∨ ∃ j, Json.ofText? text = some j ∧
        (givenMessage? j = some "" ∨ Mistaken j "")) := by
  have ha : a = .error (.api r.status (errorText r)) := by
    cases h with
    | refused _ => cases he
    | sent _ outcome =>
      -- a call sends one request, so this is the response to it
      cases List.mem_singleton.1 he
      exact interpret_of_failed hs call
  refine ⟨errorText r, ha, errorText_eq_due_iff hc hb, ?_, errorText_eq_empty_iff hc hb⟩
  intro j m hj hm
  rw [errorText_eq hc hb, hj, Option.bind_some, errorMessage?_eq_some_iff.2 (.inr hm)]
  rfl

namespace Sample

/-- An error body with a message. -/
def spoken : String := "\x7b\"message\":\"gone\"\x7d"

/-- An error body that has its text elsewhere. -/
def unspoken : String := "\x7b\"error\":\"overloaded\"\x7d"

/-- A response of failure with a text. -/
def failing (text : String) : Http.Response :=
  { status := 503, body := Utf8.encode text, complete := true }

theorem ofText?_spoken : Json.ofText? spoken = some (.obj [("message", .str "gone")]) := by cbv

theorem isOk_request : (signedIn.request (.get "a")).isOk = true := by decide +kernel

end Sample

open Sample in
theorem error_text_due_iff_spoken : ∃ request es,
    Called signedIn (.get "a") es (.error (.api 503 "gone")) ∧
      Event.database request (.response (failing spoken)) ∈ es := by
  obtain ⟨request, hr⟩ := exists_of_isOk isOk_request
  have hcalled := Called.sent hr (.response (failing spoken))
  have hmem := List.mem_singleton_self (Event.database request (.response (failing spoken)))
  obtain ⟨message, ha, hdue, -⟩ := error_text_due_iff hcalled hmem (by decide) rfl rfl
  have hplain : ¬ ∃ j m, Json.ofText? spoken = some j ∧ Mistaken j m := by
    rintro ⟨j, m, hj, hm⟩
    rw [ofText?_spoken] at hj
    cases hj
    cases hm with
    | unnamed hno => exact hno (by decide)
  have hgone : due spoken = "gone" := by decide +kernel
  rw [hdue.2 hplain, hgone] at ha
  exact ⟨request, _, ha ▸ hcalled, hmem⟩

open Sample in
/-- **An error text is dropped**: all of the body is due, and nothing is said. -/
theorem error_text_dropped : due unspoken = unspoken ∧ ∃ request es,
    Called signedIn (.get "a") es (.error (.api 503 "")) ∧
      Event.database request (.response (failing unspoken)) ∈ es := by
  obtain ⟨request, hr⟩ := exists_of_isOk isOk_request
  have hcalled := Called.sent hr (.response (failing unspoken))
  have hsilent : errorText (failing unspoken) = "" := by decide +kernel
  rw [interpret_of_failed (by decide), hsilent] at hcalled
  exact ⟨by decide +kernel, request, _, hcalled, List.mem_singleton_self _⟩

end Exchange

end ClusterKeeper
