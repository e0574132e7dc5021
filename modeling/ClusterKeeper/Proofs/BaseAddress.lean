import ClusterKeeper.Proofs.Addresses

/-!
# What the base of a session decides

An address of a session is the base without the slashes at its end, and the path of the API. The
slashes may be those of the scheme: then, as with others that do not count, the address has no host
but the version of the API.

* `Url.site`: an address without what follows its authority.
* `Session.isWebUrl_url_iff`: when an address of a session is one of the web as it is written.
* `Session.site_url`, `Session.site_url_of_nameless`: where it leads to.
* `Session.url_of_slashes`, `Session.url_of_slash`: slashes that make no difference.
* `Session.site_of_base_iff`: which bases are really the ones used.
-/

namespace ClusterKeeper

namespace Url

/-- An address without what follows its authority. -/
def site (u : Url) : Url := { u with path := "", query := none, fragment := none }

/-- The authority in what follows a scheme. -/
def authorityText (xs : List Char) : List Char := (xs.dropWhile isSlash).takeWhile inAuthority

/-- A character that can be of an authority. -/
def names (c : Char) : Bool := !isSlash c && counts c

variable {secure : Bool} {authority xs ys : List Char} {text : String} {u : Url}

theorem site_of_ofAuthority? (h : ofAuthority? secure authority = some u) (rest : List Char) :
    (u.placed rest).site = u := by
  unfold ofAuthority? at h
  simp only [Option.bind_eq_bind, Option.bind_eq_some_iff] at h
  obtain ⟨host, -, port, -, hu⟩ := h
  cases hu
  rfl

/-- **Where an address leads to** is said by its authority. -/
theorem site_ofText? (h : significant text.toList = Session.schemeText secure ++ xs) :
    (ofText? text).map site = ofAuthority? secure (authorityText xs) := by
  rw [ofText?_eq, h, Session.scheme?_schemeText, Option.bind_some, Option.map_map]
  unfold authorityText
  cases ha : ofAuthority? secure ((xs.dropWhile isSlash).takeWhile inAuthority) with
  | none => rfl
  | some u =>
    rw [Option.map_some, Function.comp_apply, site_of_ofAuthority? ha]

/-- What follows an authority and a slash is not of it. -/
theorem authorityText_append (h : ∃ c ∈ xs, isSlash c = false) (ys : List Char) :
    authorityText (xs ++ '/' :: ys) = authorityText xs := by
  have hstop : (xs ++ '/' :: ys).dropWhile isSlash = xs.dropWhile isSlash ++ '/' :: ys := by
    rw [List.dropWhile_append, if_neg]
    rw [List.isEmpty_iff, List.dropWhile_eq_nil_iff]
    obtain ⟨c, hc, hslash⟩ := h
    intro hall
    rw [hall c hc] at hslash
    cases hslash
  unfold authorityText
  rw [hstop, takeWhile_append_stop (by decide)]

/-- Slashes in front of an authority do not count. -/
theorem authorityText_of_slashes (h : ∀ c ∈ xs, isSlash c = true) (ys : List Char) :
    authorityText (xs ++ ys) = authorityText ys := by
  unfold authorityText
  rw [List.dropWhile_append, List.dropWhile_eq_nil_iff.2 h]
  rfl

end Url

namespace Session

open Url

variable {s : Session} {base token path : String} {secure : Bool} {rest : List Char}

/-- What follows the scheme of a base. -/
def afterScheme (base : String) : List Char := (base.toList.dropWhile (· ≠ ':')).tail

theorem afterScheme_eq (h : base.toList = schemeText secure ++ rest) : afterScheme base = rest := by
  unfold afterScheme
  rw [h]
  cases secure with
  | false => rfl
  | true => rfl

/-- The end of a base without its slashes. -/
theorem dropEndWhile_of_ne {c : Char} (hc : c ∈ rest) (hne : c ≠ '/') :
    Text.dropEndWhile (· == '/') ('/' :: '/' :: rest) =
      '/' :: '/' :: Text.dropEndWhile (· == '/') rest := by
  obtain ⟨before, after, rfl⟩ := List.append_of_mem hc
  have hstop : (c == '/') = false := beq_eq_false_iff_ne.2 hne
  have hcut (xs : List Char) := dropEndWhile_append (p := (· == '/')) hstop xs after
  rw [hcut before, ← List.cons_append, ← List.cons_append, hcut ('/' :: '/' :: before)]
  rfl

/-- **An address starts with a scheme** of the web just if the slashes of the scheme are not at the
end of the base. -/
theorem isWebUrl_url_iff (h : s.base.toList = schemeText secure ++ '/' :: '/' :: rest)
    (path : String) : Config.isWebUrl (s.url path) = true ↔ ∃ c ∈ rest, c ≠ '/' := by
  rw [isWebUrl_iff_schemeText, toList_url, base_eq h]
  constructor
  · rintro ⟨secure', rest', hurl⟩
    by_contra hnone
    have hall : ∀ c ∈ '/' :: '/' :: rest, (c == '/') = true := by
      intro c hc
      by_contra hne
      rw [beq_iff_eq] at hne
      rcases List.mem_cons.1 hc with rfl | hc
      · exact hne rfl
      rcases List.mem_cons.1 hc with rfl | hc
      · exact hne rfl
      · exact hnone ⟨c, hc, hne⟩
    -- then the version follows the colon of the scheme
    have hempty : Text.dropEndWhile (· == '/') ('/' :: '/' :: rest) = [] :=
      List.rdropWhile_eq_nil_iff.2 hall
    rw [hempty] at hurl
    cases secure <;> cases secure' <;> simp [schemeText] at hurl
  · rintro ⟨c, hc, hne⟩
    rw [dropEndWhile_of_ne hc hne]
    exact ⟨secure, Text.dropEndWhile (· == '/') rest ++ "/v2/".toList ++ relative path, by simp⟩

/-! ## Where the addresses of a session lead to -/

/-- What counts of a base with a slash behind it. -/
theorem significant_base (h : base.toList = schemeText secure ++ rest) :
    significant (base ++ "/").toList = schemeText secure ++ (rest.filter counts ++ '/' :: []) := by
  have htext : (base ++ "/").toList = schemeText secure ++ (rest ++ '/' :: []) := by
    rw [String.toList_append, h, List.append_assoc]
    rfl
  have hnil : ending [] = [] := rfl
  rw [htext, significant_schemeText, ← List.append_assoc, ending_append (by decide) (by decide),
    List.filter_append, filter_schemeText, hnil, List.append_assoc]

/-- What is left of a base without its slashes, and slashes behind it, is the base with one. -/
theorem exists_filter_append (rest : List Char) : ∃ more, rest.filter counts ++ '/' :: [] =
    (Text.dropEndWhile (· == '/') rest).filter counts ++ '/' :: more := by
  have hsplit := List.rdropWhile_append_rtakeWhile (p := (· == '/')) (l := rest)
  have hslashes : ∀ c ∈ (rest.rtakeWhile (· == '/')).filter counts, c = '/' := fun c hc =>
    beq_iff_eq.1 (List.mem_rtakeWhile_imp (p := (· == '/')) (List.mem_filter.1 hc).1)
  have hfilter : rest.filter counts = (Text.dropEndWhile (· == '/') rest).filter counts ++
      (rest.rtakeWhile (· == '/')).filter counts := by
    rw [← List.filter_append]
    exact congrArg (List.filter counts) hsplit.symm
  rw [hfilter, List.append_assoc]
  cases hr : (rest.rtakeWhile (· == '/')).filter counts with
  | nil => exact ⟨[], rfl⟩
  | cons c cs =>
    obtain rfl := hslashes c (hr ▸ List.mem_cons_self)
    exact ⟨cs ++ ['/'], rfl⟩

/-- **A base with a host** is where its addresses lead to. -/
theorem site_url (h : s.base.toList = schemeText secure ++ rest)
    (hname : ∃ c ∈ rest, names c = true) (path : String) :
    (Url.ofText? (s.url path)).map site = (Url.ofText? (s.base ++ "/")).map site := by
  obtain ⟨c, hc, hn⟩ := hname
  obtain ⟨hslash, hcounts⟩ : isSlash c = false ∧ counts c = true := by
    unfold names at hn
    simpa using hn
  have hmem : ∃ c ∈ (Text.dropEndWhile (· == '/') rest).filter counts, isSlash c = false := by
    refine ⟨c, List.mem_filter.2 ⟨?_, hcounts⟩, hslash⟩
    have hsplit := List.rdropWhile_append_rtakeWhile (p := (· == '/')) (l := rest)
    rw [← hsplit, List.mem_append] at hc
    rcases hc with hc | hc
    · exact hc
    · obtain rfl : c = '/' := beq_iff_eq.1 (List.mem_rtakeWhile_imp (p := (· == '/')) hc)
      cases hslash
  have hroot : rootText rest ++ '/' :: ending (relative path) =
      (Text.dropEndWhile (· == '/') rest).filter counts ++
        '/' :: ("v2".toList ++ '/' :: ending (relative path)) := by
    unfold rootText
    rw [List.append_assoc]
    rfl
  obtain ⟨more, hmore⟩ := exists_filter_append rest
  rw [site_ofText? (significant_url_path h path), site_ofText? (significant_base h), hroot, hmore,
    authorityText_append hmem, authorityText_append hmem]

/-- **A base without a host** leaves the place to the version of the API. -/
theorem site_url_of_nameless (h : s.base.toList = schemeText secure ++ rest)
    (hname : ∀ c ∈ rest, names c = false) (path : String) :
    (Url.ofText? (s.url path)).map site = ofAuthority? secure "v2".toList ∧
      (Url.ofText? (s.base ++ "/")).map site = none := by
  have hslash (c : Char) (hc : c ∈ rest) (hcounts : counts c = true) : isSlash c = true := by
    have hn := hname c hc
    unfold names at hn
    simpa [hcounts] using hn
  have hroot : ∀ c ∈ (Text.dropEndWhile (· == '/') rest).filter counts, isSlash c = true := by
    intro c hc
    obtain ⟨hmem, hcounts⟩ := List.mem_filter.1 hc
    exact hslash c ((List.rdropWhile_prefix _ rest).sublist.subset hmem) hcounts
  have hbase : ∀ c ∈ rest.filter counts, isSlash c = true := fun c hc =>
    hslash c (List.mem_filter.1 hc).1 (List.mem_filter.1 hc).2
  constructor
  · rw [site_ofText? (significant_url_path h path), rootText, List.append_assoc,
      authorityText_of_slashes hroot]
    rfl
  · rw [site_ofText? (significant_base h), authorityText_of_slashes hbase]
    cases secure with
    | false => rfl
    | true => rfl

theorem authority_url_of_nameless (h : s.base.toList = schemeText secure ++ rest)
    (hname : ∀ c ∈ rest, names c = false) (path : String) :
    (Url.ofText? (s.url path)).map Url.authority = some "v2" := by
  have hauthority : Url.authority = Url.authority ∘ site := rfl
  rw [hauthority, ← Option.map_map, (site_url_of_nameless h hname path).1]
  cases secure with
  | false => rfl
  | true => rfl

/-! ## Slashes -/

/-- Slashes at the end of a base make no difference. -/
theorem url_of_slashes (s : Session) (n : ℕ) (path : String) :
    url { s with base := s.base ++ String.ofList (List.replicate n '/') } path = s.url path := by
  have hcut (xs : List Char) : Text.dropEndWhile (· == '/') (xs ++ List.replicate n '/') =
      Text.dropEndWhile (· == '/') xs := by
    unfold Text.dropEndWhile
    rw [List.reverse_append, List.reverse_replicate, List.dropWhile_append_of_pos]
    intro c hc
    exact beq_iff_eq.2 (List.eq_of_mem_replicate hc)
  refine String.toList_inj.1 ?_
  rw [toList_url, toList_url, String.toList_append, String.toList_ofList, hcut]

/-- A slash in front of a path makes no difference. -/
theorem url_of_slash (s : Session) (h : ∀ rest, path.toList ≠ '/' :: rest) :
    s.url ("/" ++ path) = s.url path := by
  have hwith : relative ("/" ++ path) = path.toList := by
    unfold relative
    rw [String.toList_append]
    rfl
  have hwithout : relative path = path.toList := by
    unfold relative
    split
    · rename_i rest hrest
      exact absurd hrest (h rest)
    · rfl
  refine String.toList_inj.1 ?_
  rw [toList_url, toList_url, hwith, hwithout]

/-! ## The bases of sessions -/

theorem isWebUrl_of_start (h : start base token = .ok s) :
    Config.isWebUrl base = true ∧ s = ⟨base, token⟩ := by
  unfold start at h
  split at h
  · rename_i hweb
    cases h
    exact ⟨hweb, rfl⟩
  · cases h

/-- **Which bases are really the ones used.** A session starts at a base that the configuration
accepts. Its addresses start with a scheme of the web exactly if something other than slashes
follows the scheme of the base. They lead to where the base leads, with its user, its host and its
port, exactly if something follows its scheme that counts and is no slash of either kind; if nothing
does, they lead to a host that is called as the version of the API. However many slashes end the
base, and one in front of a path, make no difference. -/
theorem site_of_base_iff (h : start base token = .ok s) (path : String) :
    Config.readUrl (some base) = .ok base ∧
    (Config.isWebUrl (s.url path) = true ↔ ∃ c ∈ afterScheme base, c ≠ '/') ∧
    ((Url.ofText? (s.url path)).map site = (Url.ofText? (base ++ "/")).map site ↔
      ∃ c ∈ afterScheme base, names c = true) ∧
    ((∀ c ∈ afterScheme base, names c = false) →
      (Url.ofText? (s.url path)).map Url.authority = some "v2" ∧
        Url.ofText? (base ++ "/") = none) ∧
    (∀ n, ∃ s', start (base ++ String.ofList (List.replicate n '/')) token = .ok s' ∧
      s'.url path = s.url path) ∧
    ((∀ rest, path.toList ≠ '/' :: rest) → s.url ("/" ++ path) = s.url path) := by
  obtain ⟨hweb, rfl⟩ := isWebUrl_of_start h
  obtain ⟨secure, rest, hbase⟩ := isWebUrl_iff_schemeText.1 hweb
  have hnone (hname : ∀ c ∈ afterScheme base, names c = false) :=
    site_url_of_nameless (s := ⟨base, token⟩) hbase (afterScheme_eq hbase ▸ hname) path
  refine ⟨if_pos hweb, ?_, ?_, fun hname => ?_, fun n => ?_, url_of_slash _⟩
  · rw [isWebUrl_url_iff hbase, afterScheme_eq hbase]
    simp
  · constructor
    · intro hsite
      by_contra hname
      simp only [not_exists, not_and, Bool.not_eq_true] at hname
      obtain ⟨hversion, hnowhere⟩ := hnone hname
      rw [hversion, hnowhere] at hsite
      cases secure <;> cases hsite
    · intro hname
      rw [afterScheme_eq hbase] at hname
      exact site_url (s := ⟨base, token⟩) hbase hname path
  · have hversion := authority_url_of_nameless (s := ⟨base, token⟩) hbase
      (afterScheme_eq hbase ▸ hname) path
    exact ⟨hversion, Option.map_eq_none_iff.1 (hnone hname).2⟩
  · have hweb' : Config.isWebUrl (base ++ String.ofList (List.replicate n '/')) = true := by
      refine isWebUrl_iff_schemeText.2 ⟨secure, rest ++ List.replicate n '/', ?_⟩
      rw [String.toList_append, String.toList_ofList, hbase, List.append_assoc]
      rfl
    exact ⟨_, if_pos hweb', url_of_slashes ⟨base, token⟩ n path⟩

theorem site_of_base_iff_plain : ∃ s, start "http://d" "t" = .ok s ∧
    Config.isWebUrl (s.url "databases") = true ∧
    (Url.ofText? (s.url "databases")).map site = (Url.ofText? "http://d/").map site ∧
    s.url "/databases" = s.url "databases" := by
  have hweb : Config.isWebUrl "http://d" = true :=
    isWebUrl_iff_schemeText.2 ⟨false, ['d'], by decide⟩
  have hd : 'd' ∈ afterScheme "http://d" := by decide
  have hpath : ∀ rest, "databases".toList ≠ '/' :: rest := by
    intro rest h
    cases (List.cons.inj h).1
  have hstart : start "http://d" "t" = .ok ⟨"http://d", "t"⟩ := if_pos hweb
  obtain ⟨-, hscheme, hsite, -, -, hslash⟩ := site_of_base_iff hstart "databases"
  exact ⟨_, hstart, hscheme.2 ⟨'d', hd, by decide⟩, hsite.2 ⟨'d', hd, by decide⟩,
    hslash hpath⟩

/-- **A base that is only a scheme** is accepted, and is not the one used: the address of a path has
another host and does not start with a scheme of the web. -/
theorem base_not_used : ∃ s, start "http://" "t" = .ok s ∧
    s.url "databases/db-1" = "http:/v2/databases/db-1" ∧
    Config.isWebUrl (s.url "databases/db-1") = false ∧
    (Url.ofText? (s.url "databases/db-1")).map Url.authority = some "v2" := by
  have hbase : "http://".toList = schemeText false ++ '/' :: '/' :: [] := by decide
  have hweb : Config.isWebUrl "http://" = true := isWebUrl_iff_schemeText.2 ⟨false, [], hbase⟩
  have hscheme := isWebUrl_url_iff (s := ⟨"http://", "t"⟩) hbase "databases/db-1"
  have hnameless : ∀ c ∈ ['/', '/'], names c = false := by simp [names, isSlash]
  have hversion := authority_url_of_nameless (s := ⟨"http://", "t"⟩) hbase hnameless
    "databases/db-1"
  refine ⟨⟨"http://", "t"⟩, if_pos hweb, by decide +kernel, ?_, hversion⟩
  rw [Bool.eq_false_iff, ne_eq, hscheme]
  rintro ⟨c, hc, -⟩
  cases hc

end Session

end ClusterKeeper
