import ClusterKeeper.Config
import ClusterKeeper.Database.Api
import ClusterKeeper.Proofs.Utf8
import Mathlib.Data.List.Infix

/-!
# What the environment asks for

Each variable is read by itself: it asks for its default or for what its text is good for, or it
offends. A configuration is what the three variables ask for, and there is none if one offends.

* `Numeral.Denotes`: the whole numbers that a text stands for, and `Numeral.read_eq_ok_iff`: which
  of them are read.
* `Config.Asks`, `Config.Offends`: what a variable asks for, and that it is good for nothing.
* `Config.Reads`: a reader of one variable, which gives what is asked for and faults what offends.
* `Config.accepted_iff_usable`: when there is a configuration, and which, and else what offends
  first.
-/

namespace ClusterKeeper

namespace Numeral

/-- **A whole number in a setting**: decimal digits, at least one, with a plus sign in front if
wanted. -/
def Denotes (text : String) (n : ℕ) : Prop :=
  ∃ ds : List Char, ds ≠ [] ∧ (∀ c ∈ ds, c.isDigit = true) ∧
    (text.toList = ds ∨ text.toList = '+' :: ds) ∧ n = Nat.ofDigitChars 10 ds 0

variable {bound n m : ℕ} {cs : List Char} {text : String}

theorem le_ofDigitChars (cs : List Char) (n : ℕ) : n ≤ Nat.ofDigitChars 10 cs n := by
  induction cs generalizing n with
  | nil => exact le_rfl
  | cons c cs ih =>
    rw [Nat.ofDigitChars_cons]
    exact le_trans (by omega) (ih _)

/-- **Digits are read** as the number that they make with those before them, if it stays below the
bound. -/
theorem digits_eq_ok_iff (hn : n < bound) : digits bound n cs = .ok m ↔
    (∀ c ∈ cs, c.isDigit = true) ∧ m = Nat.ofDigitChars 10 cs n ∧ m < bound := by
  induction cs generalizing n with
  | nil =>
    unfold digits
    simp only [Except.ok.injEq, List.not_mem_nil, false_implies, implies_true, true_and,
      Nat.ofDigitChars_nil]
    constructor
    · rintro rfl
      exact ⟨rfl, hn⟩
    · rintro ⟨rfl, -⟩
      rfl
  | cons c cs ih =>
    have hnext : n * 10 + (c.toNat - 48) = 10 * n + (c.toNat - '0'.toNat) := by
      rw [Nat.mul_comm]
      rfl
    rw [digits, List.forall_mem_cons, Nat.ofDigitChars_cons, ← hnext]
    by_cases hc : c.isDigit = true
    · rw [if_pos hc]
      by_cases hlt : n * 10 + (c.toNat - 48) < bound
      · simp only [if_pos hlt, hc, true_and, ih hlt]
      · simp only [if_neg hlt, hc, true_and, reduceCtorEq, false_iff]
        -- more digits do not make the number smaller
        rintro ⟨-, rfl, hm⟩
        exact hlt (lt_of_le_of_lt (le_ofDigitChars cs _) hm)
    · rw [if_neg hc]
      simp only [reduceCtorEq, hc, false_and]

/-- With a sign in front the rest is the digits. -/
theorem denotes_signed_iff (h : text.toList = '+' :: cs) : Denotes text n ↔
    cs ≠ [] ∧ (∀ c ∈ cs, c.isDigit = true) ∧ n = Nat.ofDigitChars 10 cs 0 := by
  constructor
  · rintro ⟨ds, hne, hd, htext | htext, hn⟩
    · -- a sign is no digit
      rw [h] at htext
      have hsign : '+'.isDigit = true := hd '+' (htext ▸ List.mem_cons_self)
      exact absurd hsign (by decide)
    · obtain rfl := List.tail_eq_of_cons_eq (h.symm.trans htext)
      exact ⟨hne, hd, hn⟩
  · rintro ⟨hne, hd, hn⟩
    exact ⟨cs, hne, hd, .inr h, hn⟩

/-- With none all of it is digits. -/
theorem denotes_plain_iff (h : ∀ rest, text.toList ≠ '+' :: rest) : Denotes text n ↔
    text.toList ≠ [] ∧ (∀ c ∈ text.toList, c.isDigit = true) ∧
      n = Nat.ofDigitChars 10 text.toList 0 := by
  constructor
  · rintro ⟨ds, hne, hd, htext | htext, hn⟩
    · rw [htext]
      exact ⟨hne, hd, hn⟩
    · exact absurd htext (h ds)
  · rintro ⟨hne, hd, hn⟩
    exact ⟨text.toList, hne, hd, .inl rfl, hn⟩

/-- **A setting is read** as the number that it stands for, if this is below the bound. -/
theorem read_eq_ok_iff (hb : 0 < bound) :
    read bound text = .ok n ↔ Denotes text n ∧ n < bound := by
  unfold read
  split
  · rename_i hempty
    rw [denotes_plain_iff (by rw [hempty]; exact nofun)]
    simp only [hempty, ne_eq, not_true_eq_false, false_and, reduceCtorEq]
  · rename_i hsign
    rw [denotes_signed_iff hsign]
    simp only [ne_eq, not_true_eq_false, false_and, reduceCtorEq]
  · rename_i rest hne hsigned
    have hrest : rest ≠ [] := fun h => hne h
    rw [denotes_signed_iff hsigned, digits_eq_ok_iff hb, and_iff_right hrest, and_assoc]
  · rename_i hempty _ hplain
    rw [denotes_plain_iff hplain, digits_eq_ok_iff hb, and_iff_right hempty, and_assoc]

end Numeral

namespace Config

/-! ## What a variable is good for -/

/-- The ports that a text stands for. -/
def IsPort (text : String) (port : ℕ) : Prop := Numeral.Denotes text port ∧ port < UInt16.size

/-- The address that a text stands for: itself, if it starts with a scheme of the web. -/
def IsAddress (text url : String) : Prop :=
  ("http://".toList <+: text.toList ∨ "https://".toList <+: text.toList) ∧ url = text

/-- The intervals that a text stands for. -/
def IsInterval (text : String) (secs : ℕ) : Prop :=
  Numeral.Denotes text secs ∧ secs < UInt64.size ∧ secs ≠ 0

variable {environment : String → Option (List UInt8)} {name text : String} {α : Type}
  {Good : String → α → Prop} {default a : α} {fault : Fault}

/-- A variable holds a text: it is set to the bytes of the text. -/
def Holds (environment : String → Option (List UInt8)) (name text : String) : Prop :=
  environment name = some (Utf8.encode text)

/-- **What a variable asks for**: the default if it holds no text, and what its text is good for if
it holds one. -/
def Asks (environment : String → Option (List UInt8)) (name : String) (Good : String → α → Prop)
    (default a : α) : Prop :=
  ((∀ text, ¬ Holds environment name text) ∧ a = default) ∨
    ∃ text, Holds environment name text ∧ Good text a

/-- **A variable offends**: it holds a text that is good for nothing. -/
def Offends (environment : String → Option (List UInt8)) (name : String)
    (Good : String → α → Prop) : Prop :=
  ∃ text, Holds environment name text ∧ ∀ a, ¬ Good text a

theorem setting?_eq_some_iff :
    setting? environment name = some text ↔ Holds environment name text := by
  unfold setting? Holds
  rw [Option.bind_eq_some_iff]
  constructor
  · rintro ⟨bytes, hbytes, htext⟩
    cases hdecode : Utf8.decode bytes with
    | error fault =>
      rw [hdecode] at htext
      cases htext
    | ok decoded =>
      rw [hdecode] at htext
      cases htext
      rw [hbytes, Utf8.decode_eq_ok_iff.1 hdecode]
  · intro h
    refine ⟨_, h, ?_⟩
    rw [Utf8.decode_eq_ok_iff.2 rfl]
    rfl

theorem setting?_eq_none_iff :
    setting? environment name = none ↔ ∀ text, ¬ Holds environment name text := by
  simp only [Option.eq_none_iff_forall_ne_some, ne_eq, setting?_eq_some_iff]

/-- The variable that a fault is about. -/
def Fault.variable : Fault → String
  | .metricsPort _ _ => "METRICS_PORT"
  | .apiUrl _ => "DIGITALOCEAN_API_URL"
  | .interval _ _ | .zeroInterval => "RECONCILE_INTERVAL_SECS"

/-- A fault names its variable. -/
theorem Fault.variable_infix (fault : Fault) :
    fault.variable.toList <:+: fault.message.toList := by
  have hstart (start : String) {v rest text : String} (hv : v.toList <:+: start.toList)
      (ht : text = start ++ rest) : v.toList <:+: text.toList := by
    rw [ht, String.toList_append]
    exact hv.trans (List.prefix_append _ _).isInfix
  cases fault with
  | metricsPort value f =>
    exact hstart "invalid METRICS_PORT " (v := "METRICS_PORT") (by decide)
      (String.append_assoc.trans String.append_assoc)
  | apiUrl value =>
    exact hstart "DIGITALOCEAN_API_URL must start with http:// or https://, got: "
      (v := "DIGITALOCEAN_API_URL") (by decide) rfl
  | interval value f =>
    exact hstart "invalid RECONCILE_INTERVAL_SECS " (v := "RECONCILE_INTERVAL_SECS") (by decide)
      (String.append_assoc.trans String.append_assoc)
  | zeroInterval => decide

/-! ## Reading one variable -/

/-- **A reader of one variable** gives the default for none, gives what a text is good for, and
faults the variable if this is nothing. -/
structure Reads (name : String) (Good : String → α → Prop) (default : α)
    (read : Option String → Except Fault α) : Prop where
  unset : read none = .ok default
  set : ∀ text a, read (some text) = .ok a ↔ Good text a
  faulted : ∀ text fault, read (some text) = .error fault → fault.variable = name

namespace Reads

variable {read : Option String → Except Fault α}

/-- What is read is what the variable asks for. -/
theorem eq_ok_iff (h : Reads name Good default read) :
    read (setting? environment name) = .ok a ↔ Asks environment name Good default a := by
  unfold Asks
  cases hs : setting? environment name with
  | none =>
    have hunset := setting?_eq_none_iff.1 hs
    rw [h.unset, Except.ok.injEq]
    constructor
    · rintro rfl
      exact .inl ⟨hunset, rfl⟩
    · rintro (⟨-, rfl⟩ | ⟨text, ht, -⟩)
      · rfl
      · exact absurd ht (hunset text)
  | some text =>
    have hset := setting?_eq_some_iff.1 hs
    rw [h.set]
    constructor
    · intro hgood
      exact .inr ⟨text, hset, hgood⟩
    · rintro (⟨hunset, -⟩ | ⟨text', ht, hgood⟩)
      · exact absurd hset (hunset text)
      · obtain rfl := Option.some.inj (hs.symm.trans (setting?_eq_some_iff.2 ht))
        exact hgood

/-- **A variable that offends is faulted**, and no other. -/
theorem offends_iff (h : Reads name Good default read) :
    Offends environment name Good ↔ ∃ fault, read (setting? environment name) = .error fault := by
  unfold Offends
  constructor
  · rintro ⟨text, ht, hbad⟩
    rw [setting?_eq_some_iff.2 ht]
    cases hr : read (some text) with
    | error fault => exact ⟨fault, rfl⟩
    | ok a => exact absurd ((h.set text a).1 hr) (hbad a)
  · rintro ⟨fault, hf⟩
    cases hs : setting? environment name with
    | none =>
      rw [hs, h.unset] at hf
      cases hf
    | some text =>
      rw [hs] at hf
      refine ⟨text, setting?_eq_some_iff.1 hs, fun a hgood => ?_⟩
      rw [(h.set text a).2 hgood] at hf
      cases hf

theorem not_offends_iff (h : Reads name Good default read) :
    ¬ Offends environment name Good ↔ ∃ a, read (setting? environment name) = .ok a := by
  rw [h.offends_iff]
  cases read (setting? environment name) with
  | error fault => simp
  | ok a => simp

theorem variable_eq (h : Reads name Good default read)
    (hf : read (setting? environment name) = .error fault) : fault.variable = name := by
  cases hs : setting? environment name with
  | none =>
    rw [hs, h.unset] at hf
    cases hf
  | some text =>
    rw [hs] at hf
    exact h.faulted text fault hf

end Reads

theorem mapError_eq_ok_iff {ε ε' : Type} {f : ε → ε'} {x : Except ε α} :
    x.mapError f = .ok a ↔ x = .ok a := by
  cases x with
  | error e => simp [Except.mapError]
  | ok a => simp [Except.mapError]

theorem reads_port : Reads "METRICS_PORT" IsPort 8080 readPort where
  unset := rfl
  set text port := mapError_eq_ok_iff.trans (Numeral.read_eq_ok_iff (by decide))
  faulted text fault h := by
    cases hr : Numeral.read 65536 text with
    | error f =>
      rw [readPort, hr] at h
      cases h
      rfl
    | ok port =>
      rw [readPort, hr] at h
      cases h

theorem isWebUrl_iff {url : String} : isWebUrl url = true ↔
    "http://".toList <+: url.toList ∨ "https://".toList <+: url.toList := by
  unfold isWebUrl String.isPrefixOf
  rw [Bool.or_eq_true_iff, String.startsWith_string_iff, String.startsWith_string_iff]

theorem reads_url :
    Reads "DIGITALOCEAN_API_URL" IsAddress "https://api.digitalocean.com" readUrl where
  unset := rfl
  set text url := by
    unfold readUrl IsAddress
    rw [← isWebUrl_iff]
    by_cases h : isWebUrl text = true
    · simp [h, eq_comm]
    · simp [h]
  faulted text fault h := by
    unfold readUrl at h
    by_cases hweb : isWebUrl text = true
    · simp [hweb] at h
    · simp only [hweb] at h
      cases h
      rfl

theorem reads_interval : Reads "RECONCILE_INTERVAL_SECS" IsInterval 60 readInterval where
  unset := rfl
  set text secs := by
    have hread : Numeral.read UInt64.size text = .ok secs ↔
        Numeral.Denotes text secs ∧ secs < UInt64.size := Numeral.read_eq_ok_iff (by decide)
    unfold IsInterval
    rw [readInterval, ← and_assoc, ← hread]
    cases hr : Numeral.read 18446744073709551616 text with
    | error f => simp
    | ok n =>
      cases n with
      | zero => simp [eq_comm]
      | succ n =>
        simp only [Except.ok.injEq]
        constructor
        · rintro rfl
          exact ⟨rfl, Nat.succ_ne_zero n⟩
        · rintro ⟨rfl, -⟩
          rfl
  faulted text fault h := by
    cases hr : Numeral.read 18446744073709551616 text with
    | error f =>
      rw [readInterval, hr] at h
      cases h
      rfl
    | ok n =>
      rw [readInterval, hr] at h
      cases n with
      | zero =>
        cases h
        rfl
      | succ n => cases h

/-! ## The configuration -/

variable {c : Config}

/-- A configuration is what each of the variables is read as. -/
theorem ofEnvironment_eq_ok_iff : ofEnvironment environment = .ok c ↔
    readPort (setting? environment "METRICS_PORT") = .ok c.metricsPort ∧
      readUrl (setting? environment "DIGITALOCEAN_API_URL") = .ok c.apiUrl ∧
      readInterval (setting? environment "RECONCILE_INTERVAL_SECS") = .ok c.reconcileInterval := by
  unfold ofEnvironment
  cases readPort (setting? environment "METRICS_PORT") with
  | error fault => simp [bind, Except.bind]
  | ok port =>
    cases readUrl (setting? environment "DIGITALOCEAN_API_URL") with
    | error fault => simp [bind, Except.bind]
    | ok url =>
      cases readInterval (setting? environment "RECONCILE_INTERVAL_SECS") with
      | error fault => simp [bind, Except.bind]
      | ok secs => cases c; simp [bind, Except.bind, pure, Except.pure]

/-- **The variable that offends first** of the port, the address and the interval. -/
inductive FirstOffends (environment : String → Option (List UInt8)) : String → Prop
  | port (h : Offends environment "METRICS_PORT" IsPort) : FirstOffends environment "METRICS_PORT"
  | url (hport : ¬ Offends environment "METRICS_PORT" IsPort)
      (h : Offends environment "DIGITALOCEAN_API_URL" IsAddress) :
      FirstOffends environment "DIGITALOCEAN_API_URL"
  | interval (hport : ¬ Offends environment "METRICS_PORT" IsPort)
      (hurl : ¬ Offends environment "DIGITALOCEAN_API_URL" IsAddress)
      (h : Offends environment "RECONCILE_INTERVAL_SECS" IsInterval) :
      FirstOffends environment "RECONCILE_INTERVAL_SECS"

/-- The variables are faulted in this order. -/
theorem firstOffends_of_ofEnvironment (h : ofEnvironment environment = .error fault) :
    FirstOffends environment fault.variable := by
  unfold ofEnvironment at h
  cases hport : readPort (setting? environment "METRICS_PORT") with
  | error f =>
    rw [hport] at h
    cases h
    rw [reads_port.variable_eq hport]
    exact .port (reads_port.offends_iff.2 ⟨_, hport⟩)
  | ok port =>
    have hport' := reads_port.not_offends_iff.2 ⟨_, hport⟩
    rw [hport] at h
    cases hurl : readUrl (setting? environment "DIGITALOCEAN_API_URL") with
    | error f =>
      rw [hurl] at h
      cases h
      rw [reads_url.variable_eq hurl]
      exact .url hport' (reads_url.offends_iff.2 ⟨_, hurl⟩)
    | ok url =>
      have hurl' := reads_url.not_offends_iff.2 ⟨_, hurl⟩
      rw [hurl] at h
      cases hinterval : readInterval (setting? environment "RECONCILE_INTERVAL_SECS") with
      | error f =>
        rw [hinterval] at h
        cases h
        rw [reads_interval.variable_eq hinterval]
        exact .interval hport' hurl' (reads_interval.offends_iff.2 ⟨_, hinterval⟩)
      | ok secs =>
        rw [hinterval] at h
        cases h

/-- **A configuration is accepted exactly when it is usable.** It is what the three variables ask
for, each by itself. There is one just if none of them offends, its interval is at least a second,
and sessions start at its address whatever the token. Else the error is one of configuration and
names the variable that offends first. -/
theorem accepted_iff_usable (environment : String → Option (List UInt8)) :
    (∀ c, ofEnvironment environment = .ok c ↔
      Asks environment "METRICS_PORT" IsPort 8080 c.metricsPort ∧
      Asks environment "DIGITALOCEAN_API_URL" IsAddress "https://api.digitalocean.com" c.apiUrl ∧
      Asks environment "RECONCILE_INTERVAL_SECS" IsInterval 60 c.reconcileInterval) ∧
    ((∃ c, ofEnvironment environment = .ok c) ↔
      ¬ Offends environment "METRICS_PORT" IsPort ∧
      ¬ Offends environment "DIGITALOCEAN_API_URL" IsAddress ∧
      ¬ Offends environment "RECONCILE_INTERVAL_SECS" IsInterval) ∧
    (∀ c, ofEnvironment environment = .ok c → 1 ≤ c.reconcileInterval ∧
      ∀ token, Session.start c.apiUrl token = .ok ⟨c.apiUrl, token⟩) ∧
    ∀ fault, ofEnvironment environment = .error fault →
      fault.error = .config fault.message ∧ fault.variable.toList <:+: fault.message.toList ∧
      FirstOffends environment fault.variable := by
  refine ⟨fun c => ?_, ?_, fun c h => ?_, fun fault h => ?_⟩
  · rw [ofEnvironment_eq_ok_iff, reads_port.eq_ok_iff, reads_url.eq_ok_iff,
      reads_interval.eq_ok_iff]
  · rw [reads_port.not_offends_iff, reads_url.not_offends_iff, reads_interval.not_offends_iff]
    constructor
    · rintro ⟨c, h⟩
      obtain ⟨hport, hurl, hinterval⟩ := ofEnvironment_eq_ok_iff.1 h
      exact ⟨⟨_, hport⟩, ⟨_, hurl⟩, ⟨_, hinterval⟩⟩
    · rintro ⟨⟨port, hport⟩, ⟨url, hurl⟩, ⟨secs, hinterval⟩⟩
      exact ⟨⟨port, url, secs⟩, ofEnvironment_eq_ok_iff.2 ⟨hport, hurl, hinterval⟩⟩
  · obtain ⟨-, hurl, hinterval⟩ := ofEnvironment_eq_ok_iff.1 h
    constructor
    · rcases reads_interval.eq_ok_iff.1 hinterval with ⟨-, hdefault⟩ | ⟨text, -, -, -, hne⟩
      · rw [hdefault]
        decide
      · omega
    · intro token
      have hweb : isWebUrl c.apiUrl = true := by
        rcases reads_url.eq_ok_iff.1 hurl with ⟨-, hdefault⟩ | ⟨text, -, hstart, rfl⟩
        · rw [hdefault]
          exact isWebUrl_iff.2 (.inr (by decide))
        · exact isWebUrl_iff.2 hstart
      exact if_pos hweb
  · exact ⟨rfl, fault.variable_infix, firstOffends_of_ofEnvironment h⟩

namespace Sample

/-- A port with a sign and a zero in front, and an interval that is no text. -/
def signed : String → Option (List UInt8)
  | "METRICS_PORT" => some (Utf8.encode "+09100")
  | "RECONCILE_INTERVAL_SECS" => some [0xFF]
  | _ => none

/-- The greatest port, an address of no web and an interval of nothing. -/
def offending : String → Option (List UInt8)
  | "METRICS_PORT" => some (Utf8.encode "65535")
  | "DIGITALOCEAN_API_URL" => some (Utf8.encode "ftp://x")
  | "RECONCILE_INTERVAL_SECS" => some (Utf8.encode "0")
  | _ => none

theorem unset_interval (text : String) : ¬ Holds signed "RECONCILE_INTERVAL_SECS" text := by
  rw [← setting?_eq_some_iff]
  have hnone : setting? signed "RECONCILE_INTERVAL_SECS" = none := by decide
  rw [hnone]
  nofun

end Sample

open Sample in
theorem accepted_iff_usable_signed :
    ofEnvironment signed = .ok { metricsPort := 9100 } ∧
    (∀ token, Session.start "https://api.digitalocean.com" token =
      .ok ⟨"https://api.digitalocean.com", token⟩) ∧
    ofEnvironment offending = .error (.apiUrl "ftp://x") ∧
      FirstOffends offending "DIGITALOCEAN_API_URL" := by
  obtain ⟨hok, -, husable, -⟩ := accepted_iff_usable signed
  obtain ⟨-, -, -, hfault⟩ := accepted_iff_usable offending
  have hport : IsPort "+09100" 9100 :=
    ⟨⟨"09100".toList, by decide, List.all_eq_true.1 (by decide), .inr (by decide), by decide⟩,
      by decide⟩
  have hsigned : ofEnvironment signed = .ok { metricsPort := 9100 } :=
    (hok _).2 ⟨.inr ⟨"+09100", rfl, hport⟩, .inl ⟨fun text => nofun, rfl⟩,
      .inl ⟨unset_interval, rfl⟩⟩
  have hoffending : ofEnvironment offending = .error (.apiUrl "ftp://x") := by decide +kernel
  exact ⟨hsigned, (husable _ hsigned).2, hoffending, (hfault _ hoffending).2.2⟩

end Config

end ClusterKeeper
