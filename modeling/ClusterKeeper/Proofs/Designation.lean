import ClusterKeeper.Proofs.Addresses
import ClusterKeeper.Proofs.Release

/-!
# What an external name designates

The identifier of a database is put into the address of a call as it is written. Where it is plain
the address leads to that database under all databases of the session, and nowhere else where it is
not.

* `Url.Designates`: an address under a place, for a name.
* `Url.exists_placed_eq_iff`: an address under a place is known by the segments of its path.
* `Url.designates_placed_iff`: which names have one where an identifier is put.
* `Session.designates_iff`: which identifiers have one in a session.
* `designates_iff_plain`: which external names have one when a database is observed or deleted.
-/

namespace ClusterKeeper

namespace Url

/-- **An address for a name**: under a place that has neither a query nor a fragment it is one more
segment, which stands for the name. -/
structure Designates (place : Url) (name : String) (u : Url) : Prop where
  query : place.query = none
  fragment : place.fragment = none
  segment : ∃ segment : List Char, '/' ∉ segment ∧ Percent.decode segment = Utf8.encode name ∧
    u = { place with path := place.path ++ String.ofList ('/' :: segment) }

/-- **A plain name** ends no path and no segment, loses nothing, is no dot segment, and has nothing
encoded in it. -/
structure Plain (name : String) : Prop where
  path : ∀ c ∈ name.toList, inPath c = true
  whole : ∀ c ∈ name.toList, isSlash c = false
  counts : ∀ c ∈ name.toList, counts c = true
  ended : ∀ c ∈ name.toList.getLast?, isPadding c = false
  notDot : name ≠ "." ∧ name ≠ ".."
  literal : Percent.Literal name.toList

variable {u : Url} {root text : List Char} {name : String}

theorem lt_of_isAlphanum {c : Char} (h : c.isAlphanum = true) : 32 < c.toNat := by
  have hpadding : ∀ n < 33, (Char.ofNat n).isAlphanum = false := by decide
  by_contra hle
  have hc := hpadding c.toNat (by omega)
  rw [Char.ofNat_toNat, h] at hc
  cases hc

/-- Names of letters, digits and hyphens are plain. -/
theorem plain_of_all (h : name.toList.all (fun c => c.isAlphanum || c == '-') = true) :
    Plain name := by
  simp only [List.all_eq_true, Bool.or_eq_true, beq_iff_eq] at h
  have hne {d : Char} (hd : d.isAlphanum = false ∧ d ≠ '-') (c : Char) (hc : c ∈ name.toList) :
      c ≠ d := by
    rintro rfl
    rcases h c hc with ha | ha
    · rw [hd.1] at ha
      exact Bool.false_ne_true ha
    · exact hd.2 ha
  have hdot : ∀ c ∈ name.toList, c ≠ '.' := hne (by decide)
  refine ⟨fun c hc => ?_, fun c hc => ?_, fun c hc => ?_, fun c hc => ?_, ⟨?_, ?_⟩, ?_⟩
  · simp [inPath, hne (d := '?') (by decide) c hc, hne (d := '#') (by decide) c hc]
  · simp [isSlash, hne (d := '/') (by decide) c hc, hne (d := '\\') (by decide) c hc]
  · simp [counts, hne (d := '\t') (by decide) c hc, hne (d := '\n') (by decide) c hc,
      hne (d := '\r') (by decide) c hc]
  · have hvisible : 32 < c.toNat := by
      rcases h c (List.mem_of_getLast? hc) with ha | rfl
      · exact lt_of_isAlphanum ha
      · decide
    simpa [isPadding] using hvisible
  · rintro rfl
    exact hdot '.' (by decide) rfl
  · rintro rfl
    exact hdot '.' (by decide) rfl
  · exact Percent.literal_of_not_mem fun hc => hne (by decide) '%' hc rfl

theorem not_isDot_iff (h : Percent.Literal name.toList) :
    ¬ IsDot name.toList ↔ name ≠ "." ∧ name ≠ ".." := by
  rw [isDot_iff_of_literal h, not_or, ← String.toList_inj.ne, ← String.toList_inj.ne]
  rfl

/-! ## Under a root -/

theorem forall_mem_place_iff : (∀ c ∈ root ++ '/' :: "databases".toList, inPath c = true) ↔
    ∀ c ∈ root, inPath c = true := by
  rw [List.forall_mem_append]
  exact and_iff_left (List.all_eq_true.1 (by decide))

theorem forall_mem_address_iff :
    (∀ c ∈ root ++ '/' :: ("databases".toList ++ '/' :: text), inPath c = true) ↔
      (∀ c ∈ root, inPath c = true) ∧ ∀ c ∈ text, inPath c = true := by
  have hsign : inPath '/' = true := by decide
  have hdatabases : ∀ c ∈ "databases".toList, inPath c = true := List.all_eq_true.1 (by decide)
  rw [List.forall_mem_append, List.forall_mem_cons, List.forall_mem_append, List.forall_mem_cons,
    and_iff_right hsign, and_iff_right hdatabases, and_iff_right hsign]

/-- A root in a path starts with a slash, if there is any. -/
theorem slash_of_inPath (hroot : ∀ c ∈ root.head?, inAuthority c = false)
    (hr : ∀ c ∈ root, inPath c = true) :
    root = [] ∨ ∃ c more, isSlash c = true ∧ root = c :: more := by
  cases root with
  | nil => exact Or.inl rfl
  | cons c more =>
    refine Or.inr ⟨c, more, ?_, rfl⟩
    have hc := hr c List.mem_cons_self
    have ha := hroot c rfl
    unfold inPath at hc
    unfold inAuthority at ha
    cases hs : isSlash c <;> simp_all

/-- **One more segment** is what an address under a root has just if it is what its segments come
to. -/
theorem exists_placed_eq_iff (u : Url) (hroot : ∀ c ∈ root.head?, inAuthority c = false)
    (hr : ∀ c ∈ root, inPath c = true) :
    ∃ done, ∀ text, (∀ c ∈ text, inPath c = true) → ∀ segment,
      u.placed (root ++ '/' :: ("databases".toList ++ '/' :: text)) =
          { u.placed (root ++ '/' :: "databases".toList) with
            path := (u.placed (root ++ '/' :: "databases".toList)).path ++
              String.ofList ('/' :: segment) } ↔
        written (resolve done (Text.cutWhere isSlash text)) =
          written done.reverse ++ '/' :: segment := by
  -- the segments of the place are left alone by those of the text
  have hslashes : ∀ c ∈ "databases".toList, isSlash c = false := by simp [isSlash]
  have hdot : ¬ IsDot "databases".toList := by unfold IsDot; decide
  obtain ⟨done, hplace, hunder⟩ := path_under (slash_of_inPath hroot hr) hslashes hdot
  refine ⟨done, fun text htext segment => ?_⟩
  have hp := forall_mem_place_iff.2 hr
  have ha := forall_mem_address_iff.2 ⟨hr, htext⟩
  rw [path_placed_of_bare hp, hplace, ← String.ofList_append]
  constructor
  · intro hu
    have hpaths := congrArg Url.path hu
    rw [path_placed_of_bare ha, hunder] at hpaths
    exact String.ofList_injective hpaths
  · intro hwritten
    rw [placed_eq_of_bare hp ha, hunder, hwritten]

/-- **Where an identifier is put** there is an address for a name exactly if the name is plain. -/
theorem designates_placed_iff (hn : name ≠ "") (hroot : ∀ c ∈ root.head?, inAuthority c = false) :
    Designates (u.placed (root ++ '/' :: "databases".toList)) name
        (u.placed (root ++ '/' :: ("databases".toList ++ '/' :: ending name.toList))) ↔
      (∀ c ∈ root, inPath c = true) ∧ Plain name := by
  have hname : name.toList ≠ [] := fun h => hn (String.toList_eq_nil_iff.1 h)
  constructor
  · rintro ⟨hquery, hfragment, segment, hslash, hdecode, hu⟩
    have hbare := placed_bare_iff.1
      ⟨(congrArg Url.query hu).trans hquery, (congrArg Url.fragment hu).trans hfragment⟩
    -- neither address has a query, so both are all path
    obtain ⟨hr, hending⟩ := forall_mem_address_iff.1 hbare
    obtain ⟨done, hplaced⟩ := exists_placed_eq_iff u hroot hr
    obtain ⟨hall, hwhole, hdot, hliteral⟩ := (written_resolve_iff done hname (ending_sublist _)).1
      ⟨segment, hslash, hdecode, (hplaced _ hending segment).1 hu⟩
    obtain ⟨hcounts, hended⟩ := (ending_eq_iff _).1 hall
    rw [hall] at hending
    exact ⟨hr, hending, hwhole, hcounts, hended, (not_isDot_iff hliteral).1 hdot, hliteral⟩
  · rintro ⟨hr, h⟩
    have hall : ending name.toList = name.toList := (ending_eq_iff _).2 ⟨h.counts, h.ended⟩
    obtain ⟨done, hplaced⟩ := exists_placed_eq_iff u hroot hr
    obtain ⟨segment, hslash, hdecode, hwritten⟩ :=
      (written_resolve_iff done hname (ending_sublist _)).2
        ⟨hall, h.whole, (not_isDot_iff h.literal).2 h.notDot, h.literal⟩
    obtain ⟨hquery, hfragment⟩ := placed_bare_iff (u := u).2 (forall_mem_place_iff.2 hr)
    exact ⟨hquery, hfragment, segment, hslash, hdecode,
      (hplaced _ (hall.symm ▸ h.path) segment).2 hwritten⟩

end Url

namespace Session

open Url

variable {s : Session} {base token id : String} {method : Http.Method} {body : Option Json}
  {request : DatabaseRequest}

/-- The address of all databases, as requests have it. -/
def collection? (s : Session) : Option Url :=
  (Url.ofText? (s.url "databases")).map fun u => (s.addressed u).1

/-- Who asks is known from the authority alone. -/
theorem addressed_placed (u : Url) (rest : List Char) :
    (s.addressed (u.placed rest)).1 = (s.addressed u).1.placed rest := by
  have hlogin : (u.placed rest).login? = u.login? := rfl
  unfold addressed
  rw [hlogin]
  cases u.login? with
  | none => rfl
  | some login => rfl

theorem url_of_requestAt {path : String} (h : s.requestAt method path body = .ok request) :
    ∃ u, Url.ofText? (s.url path) = some u ∧ request.url = (s.addressed u).1 := by
  unfold requestAt at h
  split at h
  · rename_i u hu
    refine ⟨u, hu, ?_⟩
    split at h
    · simp only at h
      split at h
      · cases h
        rfl
      · cases h
    · cases h
  · cases h

/-- **The addresses of a session** are placed under one authority and one root. -/
theorem exists_root (h : start base token = .ok s) :
    ∃ (v? : Option Url) (root : List Char), (∀ c ∈ root.head?, inAuthority c = false) ∧
      ((∀ c ∈ root, inPath c = true) ↔ ∀ c ∈ base.toList, inPath c = true) ∧
      Url.ofText? (s.url "databases") = v?.map (·.placed (root ++ '/' :: "databases".toList)) ∧
      ∀ id, Url.ofText? (s.url (databasePath id)) =
        v?.map (·.placed (root ++ '/' :: ("databases".toList ++ '/' :: ending id.toList))) := by
  unfold start at h
  split at h
  · rename_i hweb
    cases h
    obtain ⟨secure, rest, hbase⟩ := exists_of_isWebUrl hweb
    have hb : (Session.mk base token).base.toList = schemeText secure ++ rest := hbase
    refine ⟨ofAuthority? secure (((rootText rest).dropWhile isSlash).takeWhile inAuthority),
      ((rootText rest).dropWhile isSlash).dropWhile inAuthority, ?_, forall_mem_root_iff hb,
      ofText?_of_significant (significant_url hb),
      fun id => ofText?_of_significant (significant_url_database hb id)⟩
    intro c hc
    have hstop := List.head?_dropWhile_not inAuthority ((rootText rest).dropWhile isSlash)
    rw [Option.mem_def.1 hc] at hstop
    exact hstop
  · cases h

/-- **Which identifiers have an address** under all databases of a session. -/
theorem designates_iff (h : start base token = .ok s) (hid : id ≠ "")
    (hr : s.requestAt method (databasePath id) body = .ok request) :
    ∃ place, s.collection? = some place ∧
      (Designates place id request.url ↔ (∀ c ∈ base.toList, inPath c = true) ∧ Plain id) := by
  obtain ⟨v?, root, hhead, hin, hall, hone⟩ := exists_root h
  obtain ⟨u, hu, hurl⟩ := url_of_requestAt hr
  rw [hone id] at hu
  obtain ⟨v, rfl, rfl⟩ := Option.map_eq_some_iff.1 hu
  refine ⟨(s.addressed v).1.placed (root ++ '/' :: "databases".toList), ?_, ?_⟩
  · rw [collection?, hall, Option.map_some, Option.map_some, addressed_placed]
  · rw [hurl, addressed_placed, designates_placed_iff hid hhead, hin]

end Session

namespace Exchange

open Lifecycle Url

variable {session : Session} {c : Cluster} {es : Trace} {base token : String}
  {request : DatabaseRequest} {outcome : Http.Outcome}

theorem request_of_called {call : DatabaseCall} {a : Except CallFailure call.Answer}
    (h : Called session call es a) (he : Event.database request outcome ∈ es) :
    session.request call = .ok request := by
  cases h with
  | refused _ => cases he
  | sent hr _ =>
    cases List.mem_singleton.1 he
    exact hr

theorem database_not_mem_asked {call : Kube.Call} {a : Except Kube.Failure call.Answer}
    (h : Asked call es a) : Event.database request outcome ∉ es := by
  cases h with
  | refused _ => exact List.not_mem_nil
  | sent _ _ => simp

theorem database_not_mem_adopting {db : Database} {p : Except Error Sighting × Cluster}
    (h : Adopting c db es p) : Event.database request outcome ∉ es := by
  cases h with
  | settled _ now => simp
  | unstored _ hr => exact database_not_mem_asked hr
  | stored _ hr now => simpa using database_not_mem_asked hr

/-- The requests of an observation are for the database that the cluster is bound to. -/
theorem request_of_observe {p : Except Error Sighting × Cluster}
    (h : Carried (observe session c) es p) (he : Event.database request outcome ∈ es) :
    c.externalName ≠ "" ∧ session.request (.get c.externalName) = .ok request := by
  have hmem {es es' : Trace} {success : Bool}
      (he : Event.database request outcome ∈ es ++ counted "get" success :: es')
      (hnot : Event.database request outcome ∉ es') : Event.database request outcome ∈ es := by
    simpa [hnot] using he
  cases Observing.of_carried h with
  | unbound _ => cases he
  | missing hn hc _ => exact ⟨hn, request_of_called hc (hmem he List.not_mem_nil)⟩
  | failed hn hc _ => exact ⟨hn, request_of_called hc (hmem he List.not_mem_nil)⟩
  | found hn hc ha =>
    exact ⟨hn, request_of_called hc (hmem he (database_not_mem_adopting ha))⟩

/-- The requests of a deletion are for the database that the cluster is bound to. -/
theorem request_of_delete {p : Except Error Unit × Cluster}
    (h : Carried (delete session c) es p) (he : Event.database request outcome ∈ es) :
    c.externalName ≠ "" ∧ session.request (.delete c.externalName) = .ok request := by
  have hmem {now : Instant} {es : Trace} {success : Bool}
      (he : Event.database request outcome ∈
        Event.clock now :: es ++ [counted "delete" success]) :
      Event.database request outcome ∈ es := by
    simpa using he
  cases Deleting.of_carried h with
  | unbound _ now => simp at he
  | deleted hn now hc => exact ⟨hn, request_of_called hc (hmem he)⟩
  | missing hn now hc _ => exact ⟨hn, request_of_called hc (hmem he)⟩
  | failed hn now hc _ => exact ⟨hn, request_of_called hc (hmem he)⟩

/-- **An external name designates one database exactly if it is plain.** Whoever observes or deletes
the database of a cluster asks at an address for its external name, under all databases of the
session, just if the name is plain and the base of the session has no query and no fragment. -/
theorem designates_iff_plain (hs : Session.start base token = .ok session)
    (h : (∃ p, Carried (observe session c) es p) ∨ ∃ p, Carried (delete session c) es p)
    (he : Event.database request outcome ∈ es) :
    ∃ place, session.collection? = some place ∧
      (Designates place c.externalName request.url ↔
        (∀ ch ∈ base.toList, ch ≠ '?' ∧ ch ≠ '#') ∧ Plain c.externalName) := by
  have hbase : (∀ ch ∈ base.toList, inPath ch = true) ↔
      ∀ ch ∈ base.toList, ch ≠ '?' ∧ ch ≠ '#' := by
    simp [inPath]
  rw [← hbase]
  rcases h with ⟨p, h⟩ | ⟨p, h⟩
  · obtain ⟨hn, hr⟩ := request_of_observe h he
    unfold Session.request at hr
    exact Session.designates_iff hs hn hr
  · obtain ⟨hn, hr⟩ := request_of_delete h he
    unfold Session.request at hr
    exact Session.designates_iff hs hn hr

namespace Sample

/-- The database of a cluster is deleted, or there is none. -/
def playDelete (id : String) : Trace × (Except Error Unit × Cluster) :=
  Prog.play (fun _ => answer .null none) 0 ((delete signedIn (cluster id)).handle carryOut)

theorem carried_playDelete (id : String) :
    Carried (delete signedIn (cluster id)) (playDelete id).1 (playDelete id).2 :=
  Prog.run_play (I := interface) _ 0 _

/-- Whether a request to the remote API goes to a path. -/
def goesTo (path : String) : Event → Bool
  | ⟨.database request, _⟩ => request.url.path = path
  | _ => false

theorem exists_of_goesTo {path : String} (h : es.any (goesTo path) = true) :
    ∃ request outcome, Event.database request outcome ∈ es ∧ request.url.path = path := by
  obtain ⟨e, he, hpath⟩ := List.any_eq_true.1 h
  obtain ⟨q, outcome⟩ := e
  cases q with
  | database request => exact ⟨request, outcome, he, of_decide_eq_true hpath⟩
  | kube request => cases hpath
  | clock => cases hpath
  | record event => cases hpath
  | pause millis => cases hpath

/-- An identifier as the remote API gives them. -/
def given : String := "9cc10173-e9ea-4176-9dbc-a4cee4c4ff30"

end Sample

open Sample in
/-- A database is deleted at the address for its identifier. -/
theorem designates_iff_plain_given : ∃ place request outcome,
    Event.database request outcome ∈ (playDelete given).1 ∧
      signedIn.collection? = some place ∧ Designates place given request.url := by
  have hgoes : (playDelete given).1.any
      (goesTo "/v2/databases/9cc10173-e9ea-4176-9dbc-a4cee4c4ff30") = true := by
    decide +kernel
  obtain ⟨request, outcome, he, -⟩ := exists_of_goesTo hgoes
  have hstart : Session.start "http://d" "t" = .ok signedIn := if_pos (by decide +kernel)
  obtain ⟨place, hplace, hiff⟩ :=
    designates_iff_plain hstart (Or.inr ⟨_, carried_playDelete given⟩) he
  exact ⟨place, request, outcome, he, hplace, hiff.2 ⟨by simp, plain_of_all (by decide)⟩⟩

open Sample in
/-- Not every external name designates a database: to delete the one that is called
`../account/keys/7` deletes a key of the account. -/
theorem designates_not_of_name : ¬ ∀ (session : Session) (c : Cluster) (es : Trace)
    (p : Except Error Unit × Cluster) (request : DatabaseRequest) (outcome : Http.Outcome),
    Carried (delete session c) es p → Event.database request outcome ∈ es →
      ∃ place, session.collection? = some place ∧
        Designates place c.externalName request.url := by
  intro hall
  have hgoes : (playDelete "../account/keys/7").1.any (goesTo "/v2/account/keys/7") = true := by
    decide +kernel
  obtain ⟨request, outcome, he, hpath⟩ := exists_of_goesTo hgoes
  obtain ⟨place, hplace, -, -, segment, -, -, hu⟩ :=
    hall _ _ _ _ request outcome (carried_playDelete "../account/keys/7") he
  -- the databases are elsewhere
  have hdatabases : (signedIn.collection?).map Url.path = some "/v2/databases" := by decide +kernel
  rw [hplace, Option.map_some, Option.some_inj] at hdatabases
  have hpaths : "/v2/databases" ++ String.ofList ('/' :: segment) = "/v2/account/keys/7" := by
    rw [← hpath, hu, hdatabases]
  have hchars := congrArg String.toList hpaths
  rw [String.toList_append] at hchars
  simp at hchars

end Exchange

end ClusterKeeper
