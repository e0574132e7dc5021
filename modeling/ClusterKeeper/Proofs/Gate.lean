import ClusterKeeper.Proofs.Designation
import ClusterKeeper.Proofs.Naming

/-!
# Credentials before calls

The credentials of a cluster are read from the object store in at most two requests, and what they
give opens the remote API: no request goes there without the token that was read.

* `Kube.Request.read_eq_ok`: a name that can be addressed is read where it is kept.
* `reads_of_connecting`, `auth_of_connecting`: what connecting sends, and how it fails.
* `Signed`: the requests to the remote API are made by one session.
* `Gated`, `gated_of_run`: none is sent before connecting has succeeded.
* `credentials_gate`: both, for every reconcile.
-/

namespace ClusterKeeper

namespace Kube

/-- A name that a reader can address at a place: not empty, of characters that a path holds, and
not too long for a target. -/
structure Readable (place name : String) : Prop where
  ne_empty : name ≠ ""
  inPath : ∀ c ∈ s!"{place}/{name}".toList, Http.Target.inPath c = true
  goesOn : ∀ c ∈ s!"{place}/{name}".toList, goesOn c = true
  short : Http.Target.isTooLong s!"{place}/{name}".toList = false

namespace Request

/-- The request that reads the object with a name. -/
def reading (place name : String) : Request where
  method := .get
  path := s!"{place}/{name}"

/-- A path of characters that may stand in it is all of its target. -/
theorem cut?_eq_some {path : List Char} (hin : ∀ c ∈ path, Http.Target.inPath c = true)
    (hgo : ∀ c ∈ path, Kube.goesOn c = true) : Http.Target.cut? path = some (path, none) := by
  have htake : path.takeWhile (fun c => decide (c ≠ '?' ∧ c ≠ '#')) = path :=
    List.takeWhile_eq_self_iff.2 hgo
  have hdrop : path.dropWhile (fun c => decide (c ≠ '?' ∧ c ≠ '#')) = [] :=
    List.dropWhile_eq_nil_iff.2 hgo
  unfold Http.Target.cut?
  rw [List.span_eq_takeWhile_dropWhile, htake, hdrop]
  simp only [List.all_eq_true.2 hin]
  rfl

/-- **A name that can be addressed** is read where it is kept. -/
theorem read_eq_ok {place name : String} (h : Readable place name) :
    read place name = .ok (reading place name) := by
  unfold read ofTarget
  rw [if_neg h.ne_empty, h.short, cut?_eq_some h.inPath h.goesOn]
  simp only [Bool.false_eq_true, if_false, Option.map_none, String.ofList_toList]
  rfl

end Request

end Kube

namespace Session

variable {s : Session} {call : DatabaseCall} {method : Http.Method} {path : String}
  {body : Option Json} {request : DatabaseRequest}

/-- **A request bears a token**: it is the last that says who asks, and before it there is at most
the user that the address names. -/
def Bears (token : String) (request : DatabaseRequest) : Prop :=
  ∃ login : Option (String × Option String), request.authorization =
    (login.map fun l => basic l.1 l.2).toList ++ [s!"Bearer {token}"]

theorem authorization_addressed (u : Url) : ∃ login : Option (String × Option String),
    (s.addressed u).2 = (login.map fun l => basic l.1 l.2).toList ++ [s.bearer] := by
  unfold addressed
  cases hl : u.login? with
  | none => exact ⟨none, rfl⟩
  | some login => exact ⟨some login, rfl⟩

theorem bears_of_requestAt (h : s.requestAt method path body = .ok request) :
    Bears s.token request := by
  unfold requestAt at h
  split at h
  · rename_i u hu
    split at h
    · simp only at h
      split at h
      · cases h
        exact authorization_addressed u
      · cases h
    · cases h
  · cases h

/-- **Every request of a session bears its token.** -/
theorem bears_of_request (h : s.request call = .ok request) : Bears s.token request := by
  unfold Session.request at h
  cases call with
  | get id => exact bears_of_requestAt h
  | create asked => exact bears_of_requestAt h
  | delete id => exact bears_of_requestAt h

theorem eq_of_start {base token : String} (h : start base token = .ok s) : s = ⟨base, token⟩ := by
  unfold start at h
  split at h
  · cases h
    rfl
  · cases h

end Session

namespace Exchange

open Reconcile Lifecycle

variable {config : Config} {apiUrl : String} {session : Session} {c : Cluster}
  {tr es es' pre post before after : Trace} {e : Event}

/-! ## Connecting -/

/-- The request that reads the provider configuration of a cluster. -/
def configRequest (c : Cluster) : Kube.Request :=
  .reading Kube.Call.providerConfigPlace c.spec.providerConfigRef.name

/-- The request that reads the secret at a selector. -/
def secretRequest (s : SecretKeySelector) : Kube.Request :=
  .reading (Kube.Call.secretPlace s.ns) s.name

/-- The secret that a cluster's provider configuration selects, if one was read and does. -/
def selected? (c : Cluster) (outcome : Http.Outcome) : Option SecretKeySelector :=
  ((readConfig c).interpret outcome).toOption.bind fun p => p.selector.toOption

/-- **What connecting sends**: the provider configuration is read, and if it was and selects a
secret, then that one is read. -/
inductive Reads (c : Cluster) : Trace → Prop
  | config (outcome : Http.Outcome) (h : selected? c outcome = none) :
      Reads c [.kube (configRequest c) outcome]
  | secret (outcome outcome' : Http.Outcome) {s : SecretKeySelector}
      (h : selected? c outcome = some s) :
      Reads c [.kube (configRequest c) outcome, .kube (secretRequest s) outcome']

/-- The names that connecting refers to can be addressed. -/
structure Addressed (c : Cluster) (es : Trace) : Prop where
  config : Kube.Readable Kube.Call.providerConfigPlace c.spec.providerConfigRef.name
  secret : ∀ outcome s, Event.kube (configRequest c) outcome ∈ es → selected? c outcome = some s →
    Kube.Readable (Kube.Call.secretPlace s.ns) s.name

/-- **The token in two answers**: that of the secret which the provider configuration selects. -/
def Extracted (c : Cluster) (tr : Trace) (token : String) : Prop :=
  ∃ (p : ProviderConfig) (s : SecretKeySelector) (secret : Secret),
    Answered (readConfig c) tr p ∧ p.selector = .ok s ∧ Answered (readSecret s) tr secret ∧
      p.token secret = .ok token

theorem Extracted.mono {token : String} (h : Extracted c es token) (hsub : ∀ e ∈ es, e ∈ tr) :
    Extracted c tr token := by
  obtain ⟨p, s, secret, hp, hs, hsecret, ht⟩ := h
  exact ⟨p, s, secret, hp.imp fun _ _ => hsub _, hs, hsecret.imp fun _ _ => hsub _, ht⟩

theorem selected?_of_ok {p : ProviderConfig} {outcome : Http.Outcome}
    (h : (readConfig c).interpret outcome = .ok p) :
    selected? c outcome = p.selector.toOption := by
  unfold selected?
  rw [h]
  rfl

/-- A provider configuration that selects a secret has it read next. -/
theorem reads_of_selected {p : ProviderConfig} {s : SecretKeySelector}
    {a : Except Kube.Failure Secret} (h : Asked (readConfig c) es (.ok p))
    (hs : p.selector = .ok s) (h' : Asked (readSecret s) es' a) (ha : Addressed c (es ++ es')) :
    Reads c (es ++ es') := by
  obtain ⟨outcome, rfl, hi⟩ := sent_of_asked h (Kube.Request.read_eq_ok ha.config)
  have hselected : selected? c outcome = some s := by
    rw [selected?_of_ok hi, hs]
    rfl
  have hread := ha.secret outcome s List.mem_cons_self hselected
  obtain ⟨outcome', rfl, -⟩ := sent_of_asked h' (Kube.Request.read_eq_ok hread)
  exact .secret outcome outcome' hselected

/-- **Connecting sends** at most two requests, the second for what the first selects. -/
theorem reads_of_connecting {r : Except Error Session} (h : Connecting apiUrl c es r)
    (ha : Addressed c es) : Reads c es := by
  cases h with
  | noConfig h₁ =>
    obtain ⟨outcome, rfl, hi⟩ := sent_of_asked h₁ (Kube.Request.read_eq_ok ha.config)
    refine .config outcome ?_
    unfold selected?
    rw [hi]
    rfl
  | @noSelector _ p f h₁ hs =>
    obtain ⟨outcome, rfl, hi⟩ := sent_of_asked h₁ (Kube.Request.read_eq_ok ha.config)
    refine .config outcome ?_
    rw [selected?_of_ok hi, hs]
    rfl
  | noSecret h₁ hs h₂ => exact reads_of_selected h₁ hs h₂ ha
  | noToken h₁ hs h₂ _ => exact reads_of_selected h₁ hs h₂ ha
  | noClient h₁ hs h₂ _ _ => exact reads_of_selected h₁ hs h₂ ha
  | connected h₁ hs h₂ _ _ => exact reads_of_selected h₁ hs h₂ ha

/-- **Whatever connecting fails with** is a failure of the credentials. -/
theorem auth_of_connecting {e : Error} (h : Connecting apiUrl c es (.error e)) :
    ∃ f : CredentialsFailure, e = .auth f.message := by
  cases h with
  | noConfig _ => exact ⟨_, rfl⟩
  | noSelector _ _ => exact ⟨_, rfl⟩
  | noSecret _ _ _ => exact ⟨_, rfl⟩
  | noToken _ _ _ _ => exact ⟨_, rfl⟩
  | noClient _ _ _ _ _ => exact ⟨_, rfl⟩

/-- A session that was connected has the address it was started at and the token that was read. -/
theorem extracted_of_connecting (h : Connecting apiUrl c es (.ok session)) :
    ∃ token, session = ⟨apiUrl, token⟩ ∧ Extracted c es token := by
  obtain ⟨p, s, secret, token, hp, hs, hsecret, ht, hstart⟩ :=
    connected_of_connecting h fun _ => id
  exact ⟨token, Session.eq_of_start hstart, p, s, secret, hp, hs, hsecret, ht⟩

/-! ## Requests of a session -/

/-- No request goes to the remote API. -/
def Shut (es : Trace) : Prop := ∀ request outcome, Event.database request outcome ∉ es

/-- **Every request to the remote API is made by the session.** -/
def Signed (session : Session) (es : Trace) : Prop :=
  ∀ request outcome, Event.database request outcome ∈ es →
    ∃ call, session.request call = .ok request

theorem shut_nil : Shut [] := fun _ _ => nofun

theorem Shut.signed (h : Shut es) : Signed session es :=
  fun request outcome he => absurd he (h request outcome)

theorem Shut.append (h : Shut es) (h' : Shut es') : Shut (es ++ es') :=
  fun request outcome he => (List.mem_append.1 he).elim (h request outcome) (h' request outcome)

theorem Signed.append (h : Signed session es) (h' : Signed session es') :
    Signed session (es ++ es') :=
  fun request outcome he => (List.mem_append.1 he).elim (h request outcome) (h' request outcome)

theorem shut_record (event : Metrics.Event) : Shut [.record event] := by
  intro request outcome
  simp

theorem Within.shut {kinds : List Kind} (h : Within kinds es)
    (hk : .fetch ∉ kinds ∧ .create ∉ kinds ∧ .delete ∉ kinds) : Shut es :=
  fun _ _ => h.database_not_mem hk

theorem signed_of_called {call : DatabaseCall} {a : Except CallFailure call.Answer}
    (h : Called session call es a) : Signed session es :=
  fun _ _ he => ⟨call, request_of_called h he⟩

theorem signed_of_observe {p : Except Error Sighting × Cluster}
    (h : Carried (observe session c) es p) : Signed session es :=
  fun _ _ he => ⟨_, (request_of_observe h he).2⟩

theorem signed_of_delete {p : Except Error Unit × Cluster} (h : Carried (delete session c) es p) :
    Signed session es :=
  fun _ _ he => ⟨_, (request_of_delete h he).2⟩

/-- **Creating**, the request for the details of a new database included. -/
theorem signed_of_create {p : Except Error ConnectionDetails × Cluster}
    (h : Carried (create session c) es p) : Signed session es := by
  have hask {now : Instant} {es es' : Trace} {a : Except CallFailure (Option Database)}
      {success : Bool} (hc : Called session (ask c) es a) (h : Signed session es') :
      Signed session (Event.clock now :: es ++ counted "create" success :: es') := by
    intro request outcome he
    have hmem : Event.database request outcome ∈ es ∨ Event.database request outcome ∈ es' := by
      simpa using he
    exact hmem.elim (signed_of_called hc request outcome) (h request outcome)
  have hnothing : Signed session [] := shut_nil.signed
  cases Creating.of_carried h with
  | unnamed _ now => exact fun _ _ he => by simp at he
  | failed _ now hc => exact hask hc hnothing
  | empty _ now hc => exact hask hc hnothing
  | bound _ _ now hc => exact hask hc hnothing
  | detailed _ _ now hc hd =>
    refine hask hc ?_
    cases hd with
    | own _ => exact hnothing
    | fetched _ hg => exact signed_of_called hg
    | unfetched _ hg => exact signed_of_called hg

theorem signed_of_introducing {r : Except Error Action} (h : Introducing session c es r) :
    Signed session es := by
  cases h with
  | unnamed hc _ hn =>
    exact (signed_of_create hc).append ((within_of_naming hn).shut (by decide)).signed
  | named hc hn hp =>
    have hshut : Shut _ := ((within_of_named hn).append (within_of_presenting hp)).shut (by decide)
    exact (signed_of_create hc).append hshut.signed

/-! ## The gate -/

/-- **The gate to the remote API**: nothing is sent, or connecting succeeds first and all that is
sent is made by the session that it gave. -/
inductive Gated (apiUrl : String) (c : Cluster) : Trace → Prop
  | shut {tr : Trace} (h : Shut tr) : Gated apiUrl c tr
  | opened {before es rest : Trace} {session : Session} (hb : Shut before)
      (h : Carried (connect apiUrl c) es (.ok session)) (hs : Signed session rest) :
      Gated apiUrl c (before ++ (es ++ rest))

theorem Gated.append_left (h : Gated apiUrl c tr) (hb : Shut before) :
    Gated apiUrl c (before ++ tr) := by
  cases h with
  | shut h => exact .shut (hb.append h)
  | opened hb' h hs =>
    rw [← List.append_assoc]
    exact .opened (hb.append hb') h hs

theorem Gated.append_right (h : Gated apiUrl c tr) (ha : Shut after) :
    Gated apiUrl c (tr ++ after) := by
  cases h with
  | shut h => exact .shut (h.append ha)
  | opened hb h hs =>
    rw [List.append_assoc, List.append_assoc]
    exact .opened hb h (hs.append ha.signed)

theorem shut_of_connect {r : Except Error Session} (h : Carried (connect apiUrl c) es r) :
    Shut es :=
  (within_of_connect h).shut (by decide)

theorem gated_of_connected (h : Carried (connect apiUrl c) es (.ok session))
    (hs : Signed session es') : Gated apiUrl c (es ++ es') := by
  rw [← List.nil_append (es ++ es')]
  exact .opened shut_nil h hs

theorem gated_of_applying {interval : Nat} {r : Except Error Action}
    (h : Applying apiUrl interval c es r) : Gated apiUrl c es := by
  cases h with
  | unconnected hc => exact .shut (shut_of_connect hc)
  | unobserved hc ho => exact gated_of_connected hc (signed_of_observe ho)
  | absent hc ho hi =>
    exact gated_of_connected hc ((signed_of_observe ho).append (signed_of_introducing hi))
  | present hc ho hm =>
    have hshut : Shut _ := (within_of_maintaining hm).shut (by decide)
    exact gated_of_connected hc ((signed_of_observe ho).append hshut.signed)

theorem gated_of_cleaning {r : Except Error Action} (h : Cleaning apiUrl c es r) :
    Gated apiUrl c es := by
  have hfirst : Shut [.record (.forgotten c.anyName)] := shut_record _
  cases h with
  | orphaned _ => exact .shut hfirst
  | unconnected _ hc => exact .shut (hfirst.append (shut_of_connect hc))
  | undeleted _ hc hd => exact (gated_of_connected hc (signed_of_delete hd)).append_left hfirst
  | deleted _ hc hd hs =>
    have hrecorded : Shut _ := (within_of_recordStatus hs).shut (by decide)
    exact (gated_of_connected hc ((signed_of_delete hd).append hrecorded.signed)).append_left hfirst

/-- **Every reconcile is gated.** -/
theorem gated_of_run {r : Except Error Action} (h : (exchanges config c).Run tr r) :
    Gated config.apiUrl c tr := by
  obtain ⟨es, hg, rfl⟩ := run_exchanges_iff.1 h
  have hedit {call : Kube.Call} {es : Trace} {a : Except Kube.Failure call.Answer}
      (h : Asked call es a) : Shut es := fun _ _ => database_not_mem_asked h
  have hwork : Gated config.apiUrl c es := by
    cases hg with
    | applied _ _ ha => exact gated_of_applying ha
    | uncleaned _ _ _ hc => exact gated_of_cleaning hc
    | released _ _ _ hc ha => exact (gated_of_cleaning hc).append_right (hedit ha)
    | marked _ _ _ ha => exact .shut (hedit ha)
    | nameless _ _ => exact .shut shut_nil
    | ignored _ _ => exact .shut shut_nil
  exact (hwork.append_left (shut_record _)).append_right (shut_record _)

/-- What is not in the front of a list comes after it. -/
theorem append_of_not_mem {front rest : Trace} (h : front ++ rest = pre ++ e :: post)
    (he : e ∉ front) : ∃ after, pre = front ++ after ∧ rest = after ++ e :: post := by
  rcases List.append_eq_append_iff.1 h with ⟨after, hpre, hrest⟩ | ⟨after, hfront, hrest⟩
  · exact ⟨after, hpre, hrest⟩
  · cases after with
    | nil => exact ⟨[], by rw [hfront, List.append_nil, List.append_nil], hrest.symm⟩
    | cons e' after =>
      cases hrest
      exact absurd (hfront ▸ List.mem_append_right _ List.mem_cons_self) he

/-- **What goes before a request** through the gate is connecting, which succeeded. -/
theorem Gated.connected {request : DatabaseRequest} {outcome : Http.Outcome}
    (h : Gated apiUrl c tr) (htr : tr = pre ++ .database request outcome :: post) :
    ∃ before es after session, pre = before ++ (es ++ after) ∧
      Carried (connect apiUrl c) es (.ok session) ∧ ∃ call, session.request call = .ok request := by
  have hmem : Event.database request outcome ∈ tr := by
    rw [htr]
    exact List.mem_append_right _ List.mem_cons_self
  cases h with
  | shut h => exact absurd hmem (h request outcome)
  | @opened before es rest session hb hc hs =>
    obtain ⟨after, rfl, hrest⟩ := append_of_not_mem htr (hb request outcome)
    obtain ⟨after, rfl, rfl⟩ := append_of_not_mem hrest (shut_of_connect hc request outcome)
    exact ⟨before, es, after, session, rfl, hc,
      hs request outcome (List.mem_append_right _ List.mem_cons_self)⟩

/-- Databases are created by requests to the remote API. -/
theorem database_of_created {db : Database} (h : created? e = some db) :
    ∃ request outcome, e = .database request outcome := by
  obtain ⟨q, outcome⟩ := e
  cases q with
  | database request => exact ⟨request, outcome, rfl⟩
  | _ => cases h

/-- **Credentials gate every call of the remote API.** Connecting reads the provider configuration
and then the secret that it selects, and nothing else; it fails for want of credentials only. No
request goes to the remote API in a reconcile before connecting has succeeded, and each one bears
the token that was read. -/
theorem credentials_gate (config : Config) (c : Cluster) :
    (∀ es result, Carried (connect config.apiUrl c) es result →
      (Addressed c es → Reads c es) ∧
      (∀ session, result = .ok session ↔ Connected config.apiUrl c es session) ∧
      ∀ e, result = .error e → ∃ f : CredentialsFailure, e = .auth f.message) ∧
    ∀ (tr : Trace) r, (exchanges config c).Run tr r → ∀ pre request outcome post,
      tr = pre ++ Event.database request outcome :: post →
        ∃ before es after token, pre = before ++ (es ++ after) ∧
          Carried (connect config.apiUrl c) es (.ok ⟨config.apiUrl, token⟩) ∧
          Extracted c es token ∧ Session.Bears token request := by
  constructor
  · intro es result h
    have hc := Connecting.of_carried h
    refine ⟨reads_of_connecting hc, fun session => ⟨?_, connecting_of_connected hc⟩, ?_⟩
    · rintro rfl
      exact connected_of_connecting hc fun _ => id
    · rintro e rfl
      exact auth_of_connecting hc
  · intro tr r hr pre request outcome post htr
    obtain ⟨before, es, after, session, hpre, hc, call, hcall⟩ := (gated_of_run hr).connected htr
    obtain ⟨token, rfl, htoken⟩ := extracted_of_connecting (.of_carried hc)
    exact ⟨before, es, after, token, hpre, hc, htoken, Session.bears_of_request hcall⟩

namespace Sample

/-- A session for the cluster, from a store that has its credentials. -/
def playConnect : Trace × Except Error Session :=
  Prog.play (fun _ => givesA) 0 ((connect Sample.config.apiUrl (cluster "")).handle carryOut)

theorem carried_playConnect :
    Carried (connect Sample.config.apiUrl (cluster "")) playConnect.1 playConnect.2 :=
  Prog.run_play (I := interface) _ 0 _

theorem stored_configRequest : stored (configRequest (cluster "")) = storedConfig := by
  unfold stored
  rw [if_neg (by decide), if_pos (by decide)]

theorem selected_stored :
    selected? (cluster "") (response 200 storedConfig) = some ⟨"n", "s", "token"⟩ := by
  decide +kernel

theorem addressed_playConnect : Addressed (cluster "") playConnect.1 where
  config := ⟨by decide, List.all_eq_true.1 (by decide), List.all_eq_true.1 (by decide), by decide⟩
  secret := by
    intro outcome s he hs
    have ho : outcome = response 200 (stored (configRequest (cluster ""))) :=
      Prog.answer_of_mem_play (I := interface) givesA 0 _ _ he
    rw [ho, stored_configRequest, selected_stored] at hs
    cases hs
    exact ⟨by decide, List.all_eq_true.1 (by decide), List.all_eq_true.1 (by decide), by decide⟩

end Sample

open Sample in
/-- A cluster without a database has one created, with the token in its secret. -/
theorem credentials_gate_creating : Reads (cluster "") playConnect.1 ∧
    ∃ pre request outcome post token,
      (play givesA (cluster "")).1 = pre ++ Event.database request outcome :: post ∧
        Extracted (cluster "") pre token ∧ Session.Bears token request := by
  obtain ⟨hconnect, hrun⟩ := credentials_gate Sample.config (cluster "")
  refine ⟨(hconnect _ _ carried_playConnect).1 addressed_playConnect, ?_⟩
  obtain ⟨-, ⟨e, he, hc⟩, -⟩ := named_givesA
  obtain ⟨db, hdb, -⟩ := (Option.any_eq_true _ _).1 hc
  obtain ⟨request, outcome, rfl⟩ := database_of_created hdb
  obtain ⟨pre, post, htr⟩ := List.append_of_mem he
  obtain ⟨before, es, after, token, rfl, -, htoken, hbears⟩ :=
    hrun _ _ (run_play givesA (cluster "")) pre request outcome post htr
  refine ⟨_, request, outcome, post, token, htr, ?_, hbears⟩
  exact htoken.mono fun e he => List.mem_append_right _ (List.mem_append_left _ he)

end Exchange

end ClusterKeeper
