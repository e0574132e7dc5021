import ClusterKeeper.Database.Api
import ClusterKeeper.Proofs.Segments
import ClusterKeeper.Proofs.Settings
import Mathlib.Data.List.DropRight
import Mathlib.Data.List.TakeDrop
import Mathlib.Data.List.TakeWhile

/-!
# The addresses of a session

An address is read from its scheme on: an authority, and then what is placed under it. A session
reads all of its addresses under one authority, and what follows the base stands in one place.

* `Url.placed`: what stands after an authority, as part of its address.
* `Url.ofText?_eq`: an address is an authority with what is placed under it.
* `Url.ending_append`, `Url.ending_eq_iff`: what counts of a text that ends an address.
* `Session.significant_url_path`, `Session.ofText?_of_significant`: what the addresses of a session
  are placed under.
* `Session.forall_mem_root_iff`: which has no query and no fragment just if the base has none.
-/

namespace ClusterKeeper

namespace Url

/-- Whether an authority goes on with a character. -/
def inAuthority (c : Char) : Bool := !(isSlash c || c == '?' || c == '#')

/-- Whether a path goes on with a character. -/
def inPath (c : Char) : Bool := !(c == '?' || c == '#')

/-- What holds neither of a question mark nor of a hash holds only inside of a path. -/
theorem inPath_of {p : Char → Bool} (hquery : p '?' = false) (hfragment : p '#' = false) (c : Char)
    (hc : p c = true) : inPath c = true := by
  have hne {d : Char} (hd : p d = false) : c ≠ d := by
    rintro rfl
    rw [hd] at hc
    exact Bool.false_ne_true hc
  simp [inPath, hne hquery, hne hfragment]

/-- The address of an authority alone. -/
def ofAuthority? (secure : Bool) (authority : List Char) : Option Url := do
  let (userText, hostText) := cutUser authority
  let (user, password) := cutPassword userText
  let (hostText, portText) := cutPort false hostText
  let host ← Host.ofChars? hostText
  let port ← port? secure (portText.getD [])
  some { secure, user, password, host := String.ofList host, port
         path := "", query := none, fragment := none }

/-- The address with what follows its authority. -/
def placed (u : Url) (rest : List Char) : Url :=
  let (query, more) :=
    match rest.dropWhile inPath with
    | '?' :: rest =>
      (some (String.ofList (Percent.encode querySpecial (rest.takeWhile (· ≠ '#')))),
        rest.dropWhile (· ≠ '#'))
    | rest => (none, rest)
  let fragment :=
    match more with
    | _ :: rest => some (String.ofList (Percent.encode fragmentSpecial rest))
    | [] => none
  { u with path := String.ofList (pathText (rest.takeWhile inPath)), query, fragment }

variable {u : Url} {rest xs ys : List Char} {c d : Char}

/-- **An address** is an authority with what follows it. -/
theorem ofText?_eq (s : String) : ofText? s =
    (scheme? (significant s.toList)).bind fun p =>
      (ofAuthority? p.1 ((p.2.dropWhile isSlash).takeWhile inAuthority)).map fun u =>
        u.placed ((p.2.dropWhile isSlash).dropWhile inAuthority) := by
  have hauthority : (fun c => !(isSlash c || c == '?' || c == '#')) = inAuthority := rfl
  unfold ofText?
  cases scheme? (significant s.toList) with
  | none => rfl
  | some p =>
    obtain ⟨secure, text⟩ := p
    simp only [Option.bind_eq_bind, Option.bind_some, List.span_eq_takeWhile_dropWhile, hauthority]
    unfold ofAuthority?
    simp only [Option.bind_eq_bind]
    cases Host.ofChars? _ with
    | none => rfl
    | some host =>
      simp only [Option.bind_some]
      cases port? secure _ with
      | none => rfl
      | some port => rfl

/-- What is placed has neither a query nor a fragment exactly if it is all path. -/
theorem placed_bare_iff : ((u.placed rest).query = none ∧ (u.placed rest).fragment = none) ↔
    ∀ c ∈ rest, inPath c = true := by
  rw [← List.dropWhile_eq_nil_iff]
  unfold placed
  constructor
  · rintro ⟨hquery, hfragment⟩
    cases hrest : rest.dropWhile inPath with
    | nil => rfl
    | cons c more =>
      rw [hrest] at hquery hfragment
      by_cases hc : c = '?'
      · subst hc
        cases hquery
      · simp [hc] at hfragment
  · intro hrest
    rw [hrest]
    exact ⟨rfl, rfl⟩

theorem path_placed_of_bare (h : ∀ c ∈ rest, inPath c = true) :
    (u.placed rest).path = String.ofList (pathText rest) := by
  rw [← List.takeWhile_eq_self_iff] at h
  have hpath : (u.placed rest).path = String.ofList (pathText (rest.takeWhile inPath)) := rfl
  rw [hpath, h]

/-- Addresses placed under one authority without a query and a fragment differ in their paths. -/
theorem placed_eq_of_bare {rest' : List Char} (h : ∀ c ∈ rest, inPath c = true)
    (h' : ∀ c ∈ rest', inPath c = true) :
    u.placed rest' = { u.placed rest with path := String.ofList (pathText rest') } := by
  have hbare := placed_bare_iff (u := u).2 h
  have hbare' := placed_bare_iff (u := u).2 h'
  have hplaced (rest : List Char) : u.placed rest =
      { u with
        path := (u.placed rest).path, query := (u.placed rest).query
        fragment := (u.placed rest).fragment } := rfl
  rw [hplaced rest', hplaced rest, hbare.1, hbare.2, hbare'.1, hbare'.2, path_placed_of_bare h']

/-! ## Ends of a text -/

theorem takeWhile_append_stop {p : Char → Bool} (hd : p d = false) (xs ys : List Char) :
    (xs ++ d :: ys).takeWhile p = xs.takeWhile p := by
  rw [List.takeWhile_append, List.takeWhile_cons_of_neg (by rw [hd]; exact Bool.false_ne_true)]
  split
  · rename_i hall
    rw [List.append_nil]
    exact ((List.takeWhile_prefix p).eq_of_length hall).symm
  · rfl

theorem dropWhile_append_stop {p : Char → Bool} (hd : p d = false) (xs ys : List Char) :
    (xs ++ d :: ys).dropWhile p = xs.dropWhile p ++ d :: ys := by
  rw [List.dropWhile_append, List.dropWhile_cons_of_neg (by rw [hd]; exact Bool.false_ne_true)]
  split
  · rename_i hall
    rw [List.isEmpty_iff.1 hall, List.nil_append]
  · rfl

/-- What holds of all that is dropped holds of the rest just if it holds of all. -/
theorem forall_mem_dropWhile_iff {p q : Char → Bool} (h : ∀ c, p c = true → q c = true) :
    (∀ c ∈ xs.dropWhile p, q c = true) ↔ ∀ c ∈ xs, q c = true := by
  constructor
  · intro hdropped c hc
    rw [← List.takeWhile_append_dropWhile (p := p) (l := xs), List.mem_append] at hc
    rcases hc with hc | hc
    · exact h c (List.mem_takeWhile_imp hc)
    · exact hdropped c hc
  · intro hall c hc
    exact hall c ((List.dropWhile_sublist p).subset hc)

theorem forall_mem_dropEndWhile_iff {p q : Char → Bool} (h : ∀ c, p c = true → q c = true) :
    (∀ c ∈ Text.dropEndWhile p xs, q c = true) ↔ ∀ c ∈ xs, q c = true := by
  have hreverse (xs : List Char) : (∀ c ∈ xs.reverse, q c = true) ↔ ∀ c ∈ xs, q c = true :=
    forall_congr' fun c => by rw [List.mem_reverse]
  unfold Text.dropEndWhile
  rw [hreverse, forall_mem_dropWhile_iff h, hreverse]

theorem forall_mem_filter_iff {p q : Char → Bool} (h : ∀ c, p c = false → q c = true) :
    (∀ c ∈ xs.filter p, q c = true) ↔ ∀ c ∈ xs, q c = true := by
  constructor
  · intro hkept c hc
    cases hp : p c with
    | true => exact hkept c (List.mem_filter.2 ⟨hc, hp⟩)
    | false => exact h c hp
  · intro hall c hc
    exact hall c (List.mem_filter.1 hc).1

/-! ## Characters that count -/

/-- Whether a character counts inside of an address. -/
def counts (c : Char) : Bool := c ≠ '\t' ∧ c ≠ '\n' ∧ c ≠ '\r'

/-- What counts of the end of an address. -/
def ending (cs : List Char) : List Char := (Text.dropEndWhile isPadding cs).filter counts

theorem significant_cons (hc : isPadding c = false) :
    significant (c :: xs) = ending (c :: xs) := by
  unfold significant
  rw [List.dropWhile_cons_of_neg (by rw [hc]; exact Bool.false_ne_true)]
  rfl

theorem dropEndWhile_append {p : Char → Bool} (hd : p d = false) (xs ys : List Char) :
    Text.dropEndWhile p (xs ++ d :: ys) = xs ++ d :: Text.dropEndWhile p ys := by
  unfold Text.dropEndWhile
  rw [List.reverse_append, List.reverse_cons, List.append_assoc, List.singleton_append,
    dropWhile_append_stop hd, List.reverse_append, List.reverse_cons, List.reverse_reverse,
    List.append_assoc, List.singleton_append]

theorem ending_append (hd : isPadding d = false) (hk : counts d = true) (xs ys : List Char) :
    ending (xs ++ d :: ys) = xs.filter counts ++ d :: ending ys := by
  unfold ending
  rw [dropEndWhile_append hd, List.filter_append, List.filter_cons_of_pos hk]

theorem ending_sublist (cs : List Char) : (ending cs).Sublist cs := by
  unfold ending
  exact List.filter_sublist.trans (List.rdropWhile_prefix isPadding cs).sublist

/-- All of a text counts exactly if it has no such character and ends in no padding. -/
theorem ending_eq_iff (cs : List Char) : ending cs = cs ↔
    (∀ c ∈ cs, counts c = true) ∧ ∀ c ∈ cs.getLast?, isPadding c = false := by
  have hend : Text.dropEndWhile isPadding cs = cs ↔ ∀ c ∈ cs.getLast?, isPadding c = false := by
    have hdrop : Text.dropEndWhile isPadding cs = cs.rdropWhile isPadding := rfl
    rw [hdrop, List.rdropWhile_eq_self_iff]
    by_cases hn : cs = []
    · subst hn
      exact iff_of_true (fun hn => absurd rfl hn) nofun
    · rw [List.getLast?_eq_some_getLast hn]
      simp [hn]
  constructor
  · intro h
    have hsub : cs.Sublist (Text.dropEndWhile isPadding cs) := by
      have hfilter : (ending cs).Sublist (Text.dropEndWhile isPadding cs) := List.filter_sublist
      rwa [h] at hfilter
    have hself : Text.dropEndWhile isPadding cs = cs :=
      ((List.rdropWhile_prefix isPadding cs).sublist).antisymm hsub
    rw [ending, hself, List.filter_eq_self] at h
    exact ⟨h, hend.1 hself⟩
  · rintro ⟨hcounts, hlast⟩
    unfold ending
    rw [hend.2 hlast, List.filter_eq_self.2 hcounts]

end Url

namespace Session

open Url

variable {s : Session} {rest xs ys : List Char}

/-- A scheme of the web, as it is written. -/
def schemeText (secure : Bool) : List Char := if secure then "https:".toList else "http:".toList

/-- An address of the web is a scheme with two slashes, and anything. -/
theorem isWebUrl_iff_schemeText {url : String} : Config.isWebUrl url = true ↔
    ∃ secure rest, url.toList = schemeText secure ++ '/' :: '/' :: rest := by
  rw [Config.isWebUrl_iff]
  constructor
  · rintro (⟨rest, h⟩ | ⟨rest, h⟩)
    · exact ⟨false, rest, h.symm⟩
    · exact ⟨true, rest, h.symm⟩
  · rintro ⟨secure, rest, h⟩
    cases secure with
    | false => exact .inl ⟨rest, h.symm⟩
    | true => exact .inr ⟨rest, h.symm⟩

theorem exists_of_isWebUrl {base : String} (h : Config.isWebUrl base = true) :
    ∃ secure rest, base.toList = schemeText secure ++ rest := by
  obtain ⟨secure, rest, hbase⟩ := isWebUrl_iff_schemeText.1 h
  exact ⟨secure, '/' :: '/' :: rest, hbase⟩

theorem scheme?_schemeText (secure : Bool) (rest : List Char) :
    scheme? (schemeText secure ++ rest) = some (secure, rest) := by
  cases secure with
  | false => rfl
  | true => rfl

/-- What follows the scheme in the addresses of a session, up to its version. -/
def rootText (rest : List Char) : List Char :=
  (Text.dropEndWhile (· == '/') rest).filter counts ++ "/v2".toList

theorem base_eq {secure : Bool} (h : s.base.toList = schemeText secure ++ rest) :
    Text.dropEndWhile (· == '/') s.base.toList =
      schemeText secure ++ Text.dropEndWhile (· == '/') rest := by
  rw [h]
  cases secure with
  | false => exact dropEndWhile_append (d := ':') (by decide) "http".toList rest
  | true => exact dropEndWhile_append (d := ':') (by decide) "https".toList rest

theorem significant_schemeText (secure : Bool) (xs : List Char) :
    significant (schemeText secure ++ xs) = ending (schemeText secure ++ xs) := by
  cases secure with
  | false => exact significant_cons (by decide)
  | true => exact significant_cons (by decide)

theorem filter_schemeText (secure : Bool) :
    (schemeText secure).filter counts = schemeText secure := by
  cases secure with
  | false => decide
  | true => decide

/-- A path without one slash in front of it. -/
def relative (path : String) : List Char :=
  match path.toList with
  | '/' :: rest => rest
  | cs => cs

theorem toList_url (s : Session) (path : String) : (s.url path).toList =
    Text.dropEndWhile (· == '/') s.base.toList ++ "/v2/".toList ++ relative path :=
  String.toList_ofList

/-- **What counts of an address of a session.** -/
theorem significant_url_path {secure : Bool} (h : s.base.toList = schemeText secure ++ rest)
    (path : String) : significant (s.url path).toList =
      schemeText secure ++ (rootText rest ++ '/' :: ending (relative path)) := by
  have htext : (s.url path).toList = schemeText secure ++
      (Text.dropEndWhile (· == '/') rest ++ "/v2".toList ++ '/' :: relative path) := by
    rw [toList_url, base_eq h]
    simp
  have hfixed : "/v2".toList.filter counts = "/v2".toList := by decide
  rw [htext, significant_schemeText, ← List.append_assoc, ending_append (by decide) (by decide),
    List.filter_append, List.filter_append, filter_schemeText, hfixed, rootText]
  simp

/-- What counts of the address of all databases. -/
theorem significant_url {secure : Bool} (h : s.base.toList = schemeText secure ++ rest) :
    significant (s.url "databases").toList =
      schemeText secure ++ (rootText rest ++ '/' :: "databases".toList) := by
  have hpath : ending (relative "databases") = "databases".toList := by decide
  rw [significant_url_path h, hpath]

/-- What counts of the address of a database. -/
theorem significant_url_database {secure : Bool} (h : s.base.toList = schemeText secure ++ rest)
    (id : String) :
    significant (s.url (databasePath id)).toList = schemeText secure ++
      (rootText rest ++ '/' :: ("databases".toList ++ '/' :: ending id.toList)) := by
  have hpath : relative (databasePath id) = "databases".toList ++ '/' :: id.toList := by
    have htext : (databasePath id).toList = "databases".toList ++ '/' :: id.toList :=
      String.toList_append
    unfold relative
    rw [htext]
    rfl
  have hfixed : "databases".toList.filter counts = "databases".toList := by decide
  rw [significant_url_path h, hpath, ending_append (by decide) (by decide), hfixed]

/-- What is read after the scheme: the authority, and what is placed under it. -/
theorem ofText?_of_significant {text : String} {secure : Bool} {xs ys : List Char}
    (h : significant text.toList = schemeText secure ++ (rootText xs ++ '/' :: ys)) :
    Url.ofText? text =
      (ofAuthority? secure (((rootText xs).dropWhile isSlash).takeWhile inAuthority)).map
        (·.placed (((rootText xs).dropWhile isSlash).dropWhile inAuthority ++ '/' :: ys)) := by
  have hslashes : (rootText xs ++ '/' :: ys).dropWhile isSlash =
      (rootText xs).dropWhile isSlash ++ '/' :: ys := by
    rw [List.dropWhile_append, if_neg]
    rw [List.isEmpty_iff, List.dropWhile_eq_nil_iff]
    -- not all of the root is slashes, since it ends in the version
    intro hall
    have hv : isSlash 'v' = true := hall 'v' (by simp [rootText])
    exact absurd hv (by decide)
  rw [ofText?_eq, h, scheme?_schemeText, Option.bind_some, hslashes,
    takeWhile_append_stop (by decide), dropWhile_append_stop (by decide)]

/-- What an address of a session is placed under has no query and no fragment just if the base has
none. -/
theorem forall_mem_root_iff {secure : Bool} (h : s.base.toList = schemeText secure ++ rest) :
    (∀ c ∈ ((rootText rest).dropWhile isSlash).dropWhile inAuthority, inPath c = true) ↔
      ∀ c ∈ s.base.toList, inPath c = true := by
  have hauthority : ∀ c, inAuthority c = true → inPath c = true := inPath_of (by decide) (by decide)
  have hslash : ∀ c, isSlash c = true → inPath c = true := inPath_of (by decide) (by decide)
  have hend : ∀ c, (c == '/') = true → inPath c = true := inPath_of (by decide) (by decide)
  have hskipped (c : Char) (hc : counts c = false) : inPath c = true :=
    inPath_of (p := fun c => !counts c) (by decide) (by decide) c (by simp [hc])
  have hscheme : ∀ c ∈ schemeText secure, inPath c = true := by
    cases secure with
    | false => exact List.all_eq_true.1 (by decide)
    | true => exact List.all_eq_true.1 (by decide)
  have hversion : ∀ c ∈ "/v2".toList, inPath c = true := List.all_eq_true.1 (by decide)
  calc (∀ c ∈ ((rootText rest).dropWhile isSlash).dropWhile inAuthority, inPath c = true)
      ↔ ∀ c ∈ rootText rest, inPath c = true :=
        (forall_mem_dropWhile_iff hauthority).trans (forall_mem_dropWhile_iff hslash)
    _ ↔ ∀ c ∈ (Text.dropEndWhile (· == '/') rest).filter counts, inPath c = true := by
        rw [rootText, List.forall_mem_append]
        exact and_iff_left hversion
    _ ↔ ∀ c ∈ rest, inPath c = true :=
        (forall_mem_filter_iff hskipped).trans (forall_mem_dropEndWhile_iff hend)
    _ ↔ ∀ c ∈ s.base.toList, inPath c = true := by
        rw [h, List.forall_mem_append]
        exact (and_iff_right hscheme).symm

end Session

end ClusterKeeper
