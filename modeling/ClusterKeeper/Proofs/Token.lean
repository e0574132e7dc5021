import Mathlib.Data.List.DropRight
import ClusterKeeper.Credentials
import ClusterKeeper.Proofs.Secret

/-!
# The token in a secret

A token is the text under one key of a secret, cut at both ends. It is given or withheld by that
key alone, and what is given is never empty.

* `Text.Trimmed`: a text without the white space at its ends.
* `Text.trimmed_iff`: `trim` gives that text, and there is only one.
* `ProviderConfig.Finds`: the text that a configuration names in a secret.
* `ProviderConfig.Withheld`: why there is no token, one case for each check in turn.
* `ProviderConfig.token_exact`: when there is a token, and which.
-/

namespace ClusterKeeper

/-! ## White space at the ends -/

namespace Text

/-- **A text without the white space at its ends**: it is what is left between leading and trailing
white space, and has none of its own at either end. -/
structure Trimmed (text t : String) : Prop where
  cut : ∃ lead trail, text.toList = lead ++ t.toList ++ trail ∧
    (∀ c ∈ lead, isBlank c = true) ∧ ∀ c ∈ trail, isBlank c = true
  first : ∀ c ∈ t.toList.head?, isBlank c = false
  last : ∀ c ∈ t.toList.getLast?, isBlank c = false

variable {text t : String} {xs ys : List Char}

theorem toList_trim (text : String) :
    (trim text).toList = (text.toList.dropWhile isBlank).rdropWhile isBlank :=
  String.toList_ofList

theorem dropWhile_append_of_blank (h : ∀ c ∈ xs, isBlank c = true) :
    (xs ++ ys).dropWhile isBlank = ys.dropWhile isBlank := by
  rw [List.dropWhile_append, List.dropWhile_eq_nil_iff.2 h]
  rfl

theorem rdropWhile_append_of_blank (h : ∀ c ∈ ys, isBlank c = true) :
    (xs ++ ys).rdropWhile isBlank = xs.rdropWhile isBlank := by
  have hreverse : ∀ c ∈ ys.reverse, isBlank c = true := fun c hc => h c (List.mem_reverse.1 hc)
  unfold List.rdropWhile
  rw [List.reverse_append, dropWhile_append_of_blank hreverse]

/-- What `trim` gives is trimmed. -/
theorem trimmed_trim (text : String) : Trimmed text (trim text) := by
  have hlead := List.takeWhile_append_dropWhile (p := isBlank) (l := text.toList)
  have htrail :=
    List.rdropWhile_append_rtakeWhile (p := isBlank) (l := text.toList.dropWhile isBlank)
  refine ⟨⟨text.toList.takeWhile isBlank, (text.toList.dropWhile isBlank).rtakeWhile isBlank, ?_,
    fun c hc => List.mem_takeWhile_imp hc, fun c hc => List.mem_rtakeWhile_imp hc⟩, ?_, ?_⟩
  · rw [toList_trim, List.append_assoc, htrail, hlead]
  · -- what is left of the text begins where its leading white space ends
    intro c hc
    rw [toList_trim] at hc
    obtain ⟨more, hmore⟩ := List.rdropWhile_prefix isBlank (text.toList.dropWhile isBlank)
    have hhead : (text.toList.dropWhile isBlank).head? = some c := by
      rw [← hmore, List.head?_append, Option.mem_def.1 hc]
      rfl
    have hnot := List.head?_dropWhile_not isBlank text.toList
    rw [hhead] at hnot
    simpa using hnot
  · intro c hc
    rw [toList_trim] at hc
    obtain ⟨hne, rfl⟩ := List.mem_getLast?_eq_getLast hc
    simpa using List.rdropWhile_last_not isBlank _ hne

/-- A text has one trimmed text. -/
theorem Trimmed.eq_trim (h : Trimmed text t) : t = trim text := by
  obtain ⟨⟨lead, trail, htext, hlead, htrail⟩, hfirst, hlast⟩ := h
  refine String.toList_inj.1 ?_
  rw [toList_trim, htext, List.append_assoc, dropWhile_append_of_blank hlead]
  -- the cut stops at the ends of what is trimmed, unless this has no ends
  cases ht : t.toList with
  | nil =>
    rw [List.nil_append, List.dropWhile_eq_nil_iff.2 htrail]
    rfl
  | cons c cs =>
    rw [ht] at hfirst hlast
    have hc : isBlank c = false := hfirst c rfl
    have hstart : (c :: cs ++ trail).dropWhile isBlank = c :: cs ++ trail := by
      rw [List.cons_append, List.dropWhile_cons, hc]
      rfl
    have hend : (c :: cs).rdropWhile isBlank = c :: cs := by
      refine List.rdropWhile_eq_self_iff.2 fun hne => ?_
      simpa using hlast _ (List.getLast?_eq_getLast_of_ne_nil hne)
    rw [hstart, rdropWhile_append_of_blank htrail, hend]

/-- **`trim` gives the trimmed text**, the only one there is. -/
theorem trimmed_iff : Trimmed text t ↔ t = trim text := by
  constructor
  · exact Trimmed.eq_trim
  · rintro rfl
    exact trimmed_trim text

/-- What is trimmed is trimmed to itself. -/
theorem Trimmed.trim_eq (h : Trimmed text t) : trim t = t := by
  have hself : Trimmed t t :=
    ⟨⟨[], [], by rw [List.nil_append, List.append_nil], nofun, nofun⟩, h.first, h.last⟩
  exact hself.eq_trim.symm

/-- Nothing is left of white space, and of nothing else. -/
theorem trim_eq_empty_iff : trim text = "" ↔ ∀ c ∈ text.toList, isBlank c = true := by
  constructor
  · intro h
    obtain ⟨lead, trail, htext, hlead, htrail⟩ := (trimmed_trim text).cut
    rw [h] at htext
    rw [htext]
    intro c hc
    simp only [String.toList_empty, List.append_nil, List.mem_append] at hc
    rcases hc with hc | hc
    · exact hlead c hc
    · exact htrail c hc
  · intro h
    have hcut : text.toList = text.toList ++ "".toList ++ [] := by
      rw [String.toList_empty, List.append_nil, List.append_nil]
    have hempty : Trimmed text "" := ⟨⟨text.toList, [], hcut, h, nofun⟩, by simp, by simp⟩
    exact hempty.eq_trim.symm

end Text

/-! ## The token -/

namespace ProviderConfig

/-- **The text that a configuration names** in a secret: its source is `Secret`, and the bytes of
the text are under the key that it refers to. -/
structure Finds (p : ProviderConfig) (s : Secret) (text : String) : Prop where
  source : p.credentials.source = "Secret"
  held : ∃ selector data, p.credentials.secretRef = some selector ∧ s.data = some data ∧
    data.get? selector.key = some (Utf8.encode text)

/-- **Why there is no token**: the first of four checks that fails. -/
inductive Withheld (p : ProviderConfig) (s : Secret) : CredentialsFailure → Prop
  | source (h : p.credentials.source ≠ "Secret") :
      Withheld p s (.unsupportedSource p.credentials.source p.anyName)
  | reference (hs : p.credentials.source = "Secret") (h : p.credentials.secretRef = none) :
      Withheld p s (.noSecretRef p.anyName)
  | text {selector : SecretKeySelector} {cause : Secret.Failure}
      (hs : p.credentials.source = "Secret") (hr : p.credentials.secretRef = some selector)
      (h : s.text selector.key = .error cause) : Withheld p s (.noToken cause)
  | blank {selector : SecretKeySelector} {text : String}
      (hs : p.credentials.source = "Secret") (hr : p.credentials.secretRef = some selector)
      (ht : s.text selector.key = .ok text) (h : ∀ c ∈ text.toList, Text.isBlank c = true) :
      Withheld p s (.blankToken selector.ns selector.name)

variable {p : ProviderConfig} {s : Secret} {t : String}

theorem selector_eq_ok_iff {selector : SecretKeySelector} : p.selector = .ok selector ↔
    p.credentials.source = "Secret" ∧ p.credentials.secretRef = some selector := by
  unfold ProviderConfig.selector ProviderCredentials.secretSource
  by_cases hs : p.credentials.source = "Secret"
  · rw [if_neg (not_not_intro hs)]
    cases p.credentials.secretRef <;> simp [hs]
  · rw [if_pos hs]
    simp [hs]

/-- The first two checks do not look at the secret. -/
theorem withheld_of_selector {failure : CredentialsFailure} (h : p.selector = .error failure)
    (s : Secret) : p.Withheld s failure := by
  unfold ProviderConfig.selector ProviderCredentials.secretSource at h
  by_cases hs : p.credentials.source = "Secret"
  · rw [if_neg (not_not_intro hs)] at h
    cases hr : p.credentials.secretRef with
    | none =>
      rw [hr] at h
      cases h
      exact .reference hs hr
    | some selector =>
      rw [hr] at h
      cases h
  · rw [if_pos hs] at h
    cases h
    exact .source hs

theorem finds_iff {text : String} : p.Finds s text ↔ p.credentials.source = "Secret" ∧
    ∃ selector, p.credentials.secretRef = some selector ∧ s.text selector.key = .ok text := by
  constructor
  · rintro ⟨hs, selector, data, hr, hd, hg⟩
    exact ⟨hs, selector, hr, Secret.text_eq_ok_iff.2 ⟨data, hd, hg⟩⟩
  · rintro ⟨hs, selector, hr, ht⟩
    obtain ⟨data, hd, hg⟩ := Secret.text_eq_ok_iff.1 ht
    exact ⟨hs, selector, data, hr, hd, hg⟩

/-- What comes of the four checks. -/
inductive Outcome (p : ProviderConfig) (s : Secret) : Except CredentialsFailure String → Prop
  | given {text : String} (h : p.Finds s text) (hne : Text.trim text ≠ "") :
      Outcome p s (.ok (Text.trim text))
  | withheld {failure : CredentialsFailure} (h : p.Withheld s failure) :
      Outcome p s (.error failure)

theorem outcome_token (p : ProviderConfig) (s : Secret) : p.Outcome s (p.token s) := by
  unfold token
  cases hsel : p.selector with
  | error failure => exact .withheld (withheld_of_selector hsel s)
  | ok selector =>
    obtain ⟨hs, hr⟩ := selector_eq_ok_iff.1 hsel
    simp only
    cases ht : s.text selector.key with
    | error cause => exact .withheld (.text hs hr ht)
    | ok text =>
      simp only
      by_cases hblank : Text.trim text = ""
      · rw [if_pos hblank]
        exact .withheld (.blank hs hr ht (Text.trim_eq_empty_iff.1 hblank))
      · rw [if_neg hblank]
        exact .given (finds_iff.2 ⟨hs, selector, hr, ht⟩) hblank

/-- A configuration finds one text in a secret. -/
theorem Finds.unique {text text' : String} (h : p.Finds s text) (h' : p.Finds s text') :
    text = text' := by
  obtain ⟨-, selector, hr, ht⟩ := finds_iff.1 h
  obtain ⟨-, selector', hr', ht'⟩ := finds_iff.1 h'
  cases hr.symm.trans hr'
  cases ht.symm.trans ht'
  rfl

/-- Where a token is withheld, none is found, or only white space. -/
theorem Withheld.blank_of_finds {failure : CredentialsFailure} {text : String}
    (h : p.Withheld s failure) (hf : p.Finds s text) : Text.trim text = "" := by
  obtain ⟨hs, selector, hr, ht⟩ := finds_iff.1 hf
  cases h with
  | source h => exact absurd hs h
  | reference _ h => cases h.symm.trans hr
  | text _ hr' h =>
    cases hr.symm.trans hr'
    cases ht.symm.trans h
  | blank hs' hr' ht' h =>
    rw [hf.unique (finds_iff.2 ⟨hs', _, hr', ht'⟩)]
    exact Text.trim_eq_empty_iff.2 h

/-- **A token is given** just if a text is found that is not all white space. -/
theorem token_eq_ok_iff :
    p.token s = .ok t ↔ ∃ text, p.Finds s text ∧ Text.Trimmed text t ∧ t ≠ "" := by
  have hout := outcome_token p s
  simp only [Text.trimmed_iff]
  constructor
  · intro h
    rw [h] at hout
    cases hout with
    | @given text hf hne => exact ⟨text, hf, rfl, hne⟩
  · rintro ⟨text, hf, rfl, hne⟩
    cases hr : p.token s with
    | error failure =>
      rw [hr] at hout
      cases hout with
      | withheld h => exact absurd (h.blank_of_finds hf) hne
    | ok t =>
      rw [hr] at hout
      cases hout with
      | given hf' _ => rw [hf.unique hf']

/-- **The outcome reads one entry** of the secret, if it has data at all. -/
theorem token_congr {s' : Secret} {data data' : Dict Bytes} (hd : s.data = some data)
    (hd' : s'.data = some data')
    (hk : ∀ selector ∈ p.credentials.secretRef, data.get? selector.key = data'.get? selector.key) :
    p.token s = p.token s' := by
  unfold token
  cases hsel : p.selector with
  | error failure => rfl
  | ok selector =>
    obtain ⟨-, hr⟩ := selector_eq_ok_iff.1 hsel
    have htext : s.text selector.key = s'.text selector.key := by
      unfold Secret.text
      rw [hd, hd']
      simp only
      rw [hk selector hr]
    simp only
    rw [htext]

/-- **The token is read exactly, and from its key only.** It is given just if the configuration
finds a text in the secret that is not all white space, and is then that text without the white
space at its ends: not empty, and trimmed for good. Every failure is one of credentials and says
which check it was. Two secrets with data that agree on the key that is referred to have one
outcome. -/
theorem token_exact (p : ProviderConfig) (s : Secret) :
    (∀ t, p.token s = .ok t ↔ ∃ text, p.Finds s text ∧ Text.Trimmed text t ∧ t ≠ "") ∧
    ((∃ t, p.token s = .ok t) ↔
      ∃ text, p.Finds s text ∧ ∃ c ∈ text.toList, Text.isBlank c = false) ∧
    (∀ t, p.token s = .ok t → t ≠ "" ∧ (∀ c ∈ t.toList.head?, Text.isBlank c = false) ∧
      (∀ c ∈ t.toList.getLast?, Text.isBlank c = false) ∧ Text.trim t = t) ∧
    (∀ failure, p.token s = .error failure →
      p.Withheld s failure ∧ failure.error = .auth failure.message) ∧
    ∀ s' data data', s.data = some data → s'.data = some data' →
      (∀ selector ∈ p.credentials.secretRef,
        data.get? selector.key = data'.get? selector.key) → p.token s = p.token s' := by
  refine ⟨fun t => token_eq_ok_iff, ?_, ?_, ?_, fun s' data data' => token_congr⟩
  · have hsome (text : String) : (∃ c ∈ text.toList, Text.isBlank c = false) ↔
        Text.trim text ≠ "" := by
      rw [Ne, Text.trim_eq_empty_iff]
      simp
    simp only [hsome, token_eq_ok_iff]
    constructor
    · rintro ⟨t, text, hf, ht, hne⟩
      exact ⟨text, hf, ht.eq_trim ▸ hne⟩
    · rintro ⟨text, hf, hne⟩
      exact ⟨_, text, hf, Text.trimmed_trim text, hne⟩
  · intro t h
    obtain ⟨text, -, ht, hne⟩ := token_eq_ok_iff.1 h
    exact ⟨hne, ht.first, ht.last, ht.trim_eq⟩
  · intro failure h
    have hout := outcome_token p s
    rw [h] at hout
    cases hout with
    | withheld hw => exact ⟨hw, rfl⟩

namespace Sample

/-- A configuration that refers to a key of a secret. -/
def referring : ProviderConfig where
  metadata := {}
  credentials := ⟨"Secret", some ⟨"n", "s", "token"⟩⟩

/-- A secret whose token stands between white space. -/
def padded : Secret where
  data := some (Dict.empty.insert "token" (Utf8.encode "\u00a0t t\n"))

/-- The same with another entry, which is no text. -/
def crowded : Secret where
  data := some ((Dict.empty.insert "other" [0xFF]).insert "token" (Utf8.encode "\u00a0t t\n"))

end Sample

open Sample in
theorem token_exact_padded :
    referring.token padded = .ok "t t" ∧ referring.token padded = referring.token crowded := by
  obtain ⟨hgiven, -, -, -, halone⟩ := token_exact referring padded
  have hfinds : referring.Finds padded "\u00a0t t\n" := ⟨rfl, _, _, rfl, rfl, by decide⟩
  have htrimmed : Text.Trimmed "\u00a0t t\n" "t t" := Text.trimmed_iff.2 (by decide)
  refine ⟨(hgiven "t t").2 ⟨_, hfinds, htrimmed, by decide⟩, ?_⟩
  refine halone crowded _ _ rfl rfl ?_
  rintro selector ⟨⟩
  decide

end ProviderConfig

end ClusterKeeper
