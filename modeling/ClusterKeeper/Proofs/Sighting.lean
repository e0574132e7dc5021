import ClusterKeeper.Proofs.Gate

/-!
# What observing reports

Whoever observes a cluster asks for its database once, and the answer decides what is reported:
that there is no database, that there is one, or that it is not known. Only the status that says
so makes a database missing, whatever else a response may lack.

* `DatabaseCall.Holds`, `DatabaseCall.interpret_get_iff`: the responses that come with a database.
* `DatabaseCall.isNotFound_interpret_iff`: the responses that there is none.
* `Replied`, `Absent`, `Found`, `Kept`: what shows in the exchanges of an observation.
* `Verdict`, `verdict_of_observing`: what is reported is what shows.
* `absent_iff_not_found`: each report is made for one reason and for no other.
-/

namespace ClusterKeeper

namespace DatabaseCall

variable {url : Url} {id : String} {outcome : Http.Outcome} {r : Http.Response} {db : Database}

/-- **A response holds a database**: it is one of success, and its body arrived whole and reads as
an envelope with the database in it. -/
structure Holds (r : Http.Response) (db : Database) : Prop where
  success : 200 ≤ r.status ∧ r.status < 300
  complete : r.complete = true
  body : (Json.ofBytes? r.body).bind envelope? = some (some db)

theorem Holds.unique {db' : Database} (h : Holds r db) (h' : Holds r db') : db = db' := by
  have hbody := h.body.symm.trans h'.body
  exact Option.some.inj (Option.some.inj hbody)

theorem opened_iff : opened r = .ok (some db) ↔
    r.complete = true ∧ (Json.ofBytes? r.body).bind envelope? = some (some db) := by
  unfold opened
  cases r.complete with
  | false => simp
  | true =>
    simp only [if_true, true_and]
    cases (Json.ofBytes? r.body).bind envelope? with
    | none => simp
    | some database? => simp

/-- **A database is fetched** exactly with a response that holds it. -/
theorem interpret_get_iff : interpret url outcome (.get id) = .ok db ↔
    ∃ r, outcome = .response r ∧ Holds r db := by
  cases outcome with
  | noResponse => simp [interpret, arrived, bind, Except.bind]
  | response r =>
    have hholds : Holds r db ↔ Http.isSuccess r.status = true ∧ opened r = .ok (some db) := by
      rw [Http.isSuccess_iff, opened_iff]
      exact ⟨fun h => ⟨h.success, h.complete, h.body⟩, fun h => ⟨h.1, h.2.1, h.2.2⟩⟩
    simp only [Http.Outcome.response.injEq, exists_eq_left', hholds]
    unfold interpret arrived checked
    by_cases hs : Http.isSuccess r.status = true
    · simp only [hs, if_true, bind, Except.bind, true_and]
      cases opened r with
      | error f => simp
      | ok database? => cases database? <;> simp
    · simp [hs, bind, Except.bind]

/-- **A database is missing** exactly with a response of the one status that says so. -/
theorem isNotFound_interpret_iff :
    (∃ f, interpret url outcome (.get id) = .error f ∧ f.isNotFound = true) ↔
      ∃ r, outcome = .response r ∧ r.status = 404 := by
  constructor
  · rintro ⟨f, hf, hn⟩
    exact status_of_isNotFound hf hn
  · rintro ⟨r, rfl, hr⟩
    have hs : Http.isSuccess r.status = false := by
      rw [hr]
      rfl
    refine ⟨.api r.status (errorText r), ?_, by simp [CallFailure.isNotFound, hr]⟩
    simp [interpret, arrived, checked, hs, bind, Except.bind]

end DatabaseCall

namespace Exchange

open Lifecycle DatabaseCall

variable {session : Session} {c c' : Cluster} {id : String} {es es' tr : Trace}
  {r r' : Http.Response} {db : Database} {result : Except Error Sighting}

/-- **The remote API replied** when it was asked for a database. -/
def Replied (session : Session) (id : String) (es : Trace) (r : Http.Response) : Prop :=
  ∃ request, session.request (.get id) = .ok request ∧ Event.database request (.response r) ∈ es

theorem replied_append_iff (h : Shut es') :
    Replied session id (es ++ es') r ↔ Replied session id es r := by
  unfold Replied
  simp only [List.mem_append, h _ _, or_false]

theorem replied_singleton_iff {request : DatabaseRequest} {outcome : Http.Outcome}
    (hr : session.request (.get id) = .ok request) :
    Replied session id [.database request outcome] r ↔ outcome = .response r := by
  constructor
  · rintro ⟨request', -, he⟩
    cases List.mem_singleton.1 he
    rfl
  · rintro rfl
    exact ⟨request, hr, List.mem_singleton_self _⟩

theorem not_replied_nil : ¬ Replied session id [] r := by
  rintro ⟨request, -, he⟩
  cases he

/-- One call is replied to once. -/
theorem Replied.unique {a : Except CallFailure (DatabaseCall.get id).Answer}
    (h : Called session (.get id) es a) (hr : Replied session id es r)
    (hr' : Replied session id es r') : r = r' := by
  cases h with
  | refused _ => exact absurd hr not_replied_nil
  | sent hq outcome =>
    have ho := (replied_singleton_iff hq).1 hr
    have ho' := (replied_singleton_iff hq).1 hr'
    exact Http.Outcome.response.inj (ho.symm.trans ho')

/-- **A call gives a database** exactly if the reply holds it. -/
theorem ok_of_called_iff {a : Except CallFailure (DatabaseCall.get id).Answer}
    (h : Called session (.get id) es a) :
    a = .ok db ↔ ∃ r, Replied session id es r ∧ Holds r db := by
  cases h with
  | refused _ => simp [not_replied_nil]
  | sent hq outcome =>
    simp only [replied_singleton_iff hq]
    exact interpret_get_iff

/-- **A call finds no database** exactly if the reply has the status that says so. -/
theorem isNotFound_of_called_iff {a : Except CallFailure (DatabaseCall.get id).Answer}
    (h : Called session (.get id) es a) :
    (∃ f, a = .error f ∧ f.isNotFound = true) ↔ ∃ r, Replied session id es r ∧ r.status = 404 := by
  cases h with
  | refused hf => simp [not_replied_nil, isNotFound_of_request_error hf]
  | sent hq outcome =>
    simp only [replied_singleton_iff hq]
    exact isNotFound_interpret_iff

/-! ## What shows in the exchanges of an observation -/

/-- **There is no database**: the cluster is bound to none, or the reply says that there is none. -/
def Absent (session : Session) (c : Cluster) (es : Trace) : Prop :=
  c.externalName = "" ∨ ∃ r, Replied session c.externalName es r ∧ r.status = 404

/-- **There is a database**: the reply holds it. -/
def Found (session : Session) (c : Cluster) (es : Trace) (db : Database) : Prop :=
  ∃ r, Replied session c.externalName es r ∧ Holds r db

/-- **The parameters are kept**: the database sets none that were unset, or the store accepted the
cluster with those that it sets. -/
def Kept (c : Cluster) (es : Trace) (db : Database) : Prop :=
  (c.lateInitialize db).spec.forProvider = c.spec.forProvider ∨
    ∃ kept, Answered (.replaceCluster c.anyName (c.lateInitialize db)) es kept

/-- **What is reported is what shows**: no database, a database, a failure to fetch it, or a failure
to store what it sets. -/
inductive Verdict (session : Session) (c : Cluster) (es : Trace) : Except Error Sighting → Prop
  | absent (h : Absent session c es) : Verdict session c es (.ok {})
  | found {db : Database} (h : Found session c es db) (hk : Kept c es db) :
      Verdict session c es (.ok { present := true, upToDate := true })
  | failed (f : CallFailure) (ha : ¬ Absent session c es) (hf : ∀ db, ¬ Found session c es db) :
      Verdict session c es (.error (.remote Error.getContext f))
  | unkept {db : Database} (text : String) (h : Found session c es db) (hk : ¬ Kept c es db) :
      Verdict session c es (.error (.kube text))

/-- What follows the call in an observation is no call. -/
theorem shut_counted {success : Bool} (h : Shut es) : Shut (counted "get" success :: es) :=
  (shut_record _).append h

theorem shut_of_adopting {p : Except Error Sighting × Cluster} (h : Adopting c db es p) : Shut es :=
  fun _ _ => database_not_mem_adopting h

/-- An observation asks once, and not for nothing. -/
theorem replied_once {p : Except Error Sighting × Cluster} (h : Observing session c es p) :
    (c.externalName = "" → es = []) ∧ ∀ r r', Replied session c.externalName es r →
      Replied session c.externalName es r' → r = r' := by
  have hcall {es es' : Trace} {a : Except CallFailure (DatabaseCall.get c.externalName).Answer}
      (hn : c.externalName ≠ "") (hc : Called session (.get c.externalName) es a)
      (h : Shut es') : (c.externalName = "" → es ++ es' = []) ∧
        ∀ r r', Replied session c.externalName (es ++ es') r →
          Replied session c.externalName (es ++ es') r' → r = r' := by
    refine ⟨fun he => absurd he hn, fun r r' hr hr' => ?_⟩
    rw [replied_append_iff h] at hr hr'
    exact hr.unique hc hr'
  cases h with
  | unbound _ => exact ⟨fun _ => rfl, fun _ _ hr => absurd hr not_replied_nil⟩
  | missing hn hc _ => exact hcall hn hc (shut_record _)
  | failed hn hc _ => exact hcall hn hc (shut_record _)
  | found hn hc ha => exact hcall hn hc (shut_counted (shut_of_adopting ha))

/-- **Adopting** a database keeps the parameters that it sets, or fails to. -/
theorem verdict_of_adopting {p : Except Error Sighting × Cluster} (h : Adopting c db es' p)
    (hf : Found session c (es ++ counted "get" true :: es') db)
    (hk : ∀ request outcome, Event.kube request outcome ∉ es) :
    Verdict session c (es ++ counted "get" true :: es') p.1 := by
  cases h with
  | settled hl now => exact .found hf (Or.inl hl)
  | @stored hl es' kept hr now =>
    refine .found hf (Or.inr ⟨kept, .of_asked hr fun e he => ?_⟩)
    simp [he]
  | unstored hl hr =>
    refine .unkept _ hf ?_
    rintro (h | ⟨kept, hkept⟩)
    · exact hl h
    · cases hkept.eq_of_asked hr fun request outcome _ he => by simpa [hk request outcome] using he

/-- **An observation reports** what shows in its exchanges. -/
theorem verdict_of_observing {p : Except Error Sighting × Cluster}
    (h : Observing session c es p) : Verdict session c es p.1 := by
  cases h with
  | unbound hn => exact .absent (Or.inl hn)
  | @missing hn es f hc hf =>
    obtain ⟨r, hr, hs⟩ := (isNotFound_of_called_iff hc).1 ⟨f, rfl, hf⟩
    exact .absent (Or.inr ⟨r, (replied_append_iff (shut_record _)).2 hr, hs⟩)
  | @failed hn es f hc hf =>
    refine .failed f ?_ ?_
    · rintro (hn' | ⟨r, hr, hs⟩)
      · exact hn hn'
      · rw [replied_append_iff (shut_record _)] at hr
        obtain ⟨f', he, hf'⟩ := (isNotFound_of_called_iff hc).2 ⟨r, hr, hs⟩
        cases he
        exact Bool.false_ne_true (hf.symm.trans hf')
    · rintro db ⟨r, hr, hh⟩
      rw [replied_append_iff (shut_record _)] at hr
      cases (ok_of_called_iff hc).2 ⟨r, hr, hh⟩
  | @found hn es es' db p hc ha =>
    obtain ⟨r, hr, hh⟩ := (ok_of_called_iff hc).1 rfl
    refine verdict_of_adopting ha ⟨r, ?_, hh⟩ fun request outcome he => ?_
    · exact (replied_append_iff (shut_counted (shut_of_adopting ha))).2 hr
    · cases made_of_called hc _ he with
      | kube hk _ _ => exact hk

/-- **Absence is reported exactly on the status that says so.** An observation reports no database
just if the cluster is bound to none, for which nothing is sent, or the reply has that status; it
reports a database just if the reply holds one and its parameters are kept. Otherwise it fails: for
want of a database in a reply, or because the parameters are not kept. -/
theorem absent_iff_not_found (h : Carried (observe session c) es (result, c')) :
    (c.externalName = "" → es = []) ∧
    ((∃ s, result = .ok s ∧ s.present = false) ↔ Absent session c es) ∧
    ((∃ s, result = .ok s ∧ s.present = true) ↔
      ∃ db, Found session c es db ∧ Kept c es db) ∧
    ((∃ f, result = .error (.remote Error.getContext f)) ↔
      ¬ Absent session c es ∧ ∀ db, ¬ Found session c es db) ∧
    ((∃ text, result = .error (.kube text)) ↔ ∃ db, Found session c es db ∧ ¬ Kept c es db) := by
  have ho := Observing.of_carried h
  obtain ⟨hempty, honce⟩ := replied_once ho
  have hexclusive {db : Database} (hf : Found session c es db) : ¬ Absent session c es := by
    obtain ⟨r, hr, hh⟩ := hf
    rintro (hn | ⟨r', hr', hs⟩)
    · rw [hempty hn] at hr
      exact not_replied_nil hr
    · obtain rfl := honce r r' hr hr'
      have hsuccess := hh.success
      omega
  have hunique {db db' : Database} (hf : Found session c es db) (hf' : Found session c es db') :
      db = db' := by
    obtain ⟨r, hr, hh⟩ := hf
    obtain ⟨r', hr', hh'⟩ := hf'
    obtain rfl := honce r r' hr hr'
    exact hh.unique hh'
  refine ⟨hempty, ?_⟩
  -- each report is for one of four reasons, of which no two hold together
  cases verdict_of_observing ho with
  | absent ha =>
    have hnone (db : Database) : ¬ Found session c es db := fun hf => hexclusive hf ha
    simp [ha, hnone]
  | failed f ha hf => simp [ha, hf]
  | @found db hf hk =>
    have hkept (db' : Database) (hf' : Found session c es db') : Kept c es db' :=
      hunique hf hf' ▸ hk
    refine ⟨iff_of_false (by simp) (hexclusive hf), iff_of_true (by simp) ⟨db, hf, hk⟩,
      iff_of_false (by simp) fun hn => hn.2 db hf, iff_of_false (by simp) ?_⟩
    rintro ⟨db', hf', hk'⟩
    exact hk' (hkept db' hf')
  | @unkept db text hf hk =>
    have hunkept (db' : Database) (hf' : Found session c es db') : ¬ Kept c es db' :=
      hunique hf hf' ▸ hk
    refine ⟨iff_of_false (by simp) (hexclusive hf), iff_of_false (by simp) ?_,
      iff_of_false (by simp) fun hn => hn.2 db hf, iff_of_true (by simp) ⟨db, hf, hk⟩⟩
    rintro ⟨db', hf', hk'⟩
    exact hunkept db' hf' hk'

namespace Sample

/-- An observation of a cluster whose database the remote API has or has not. -/
def playObserve (found : Option Json) : Trace × (Except Error Sighting × Cluster) :=
  Prog.play (fun _ => answer .null found) 0 ((observe signedIn (cluster "a")).handle carryOut)

theorem carried_playObserve (found : Option Json) :
    Carried (observe signedIn (cluster "a")) (playObserve found).1
      ((playObserve found).2.1, (playObserve found).2.2) :=
  Prog.run_play (I := interface) _ 0 _

theorem absent_playObserve : (playObserve none).2.1 = .ok {} := by
  decide +kernel

theorem present_playObserve : (playObserve (some (Sample.database "a" none))).2.1 =
    .ok { present := true, upToDate := true } := by
  decide +kernel

end Sample

open Sample in
/-- A database that is gone is missing, and one that is there is found. -/
theorem absent_iff_not_found_both : Absent signedIn (cluster "a") (playObserve none).1 ∧
    ∃ db, Found signedIn (cluster "a") (playObserve (some (Sample.database "a" none))).1 db ∧
      Kept (cluster "a") (playObserve (some (Sample.database "a" none))).1 db := by
  obtain ⟨-, habsent, -⟩ := absent_iff_not_found (carried_playObserve none)
  obtain ⟨-, -, hpresent, -⟩ :=
    absent_iff_not_found (carried_playObserve (some (Sample.database "a" none)))
  exact ⟨habsent.1 ⟨_, absent_playObserve, rfl⟩, hpresent.1 ⟨_, present_playObserve, rfl⟩⟩

end Exchange

end ClusterKeeper
