import ClusterKeeper.Lifecycle
import ClusterKeeper.Proofs.Exchange

/-!
# What the verbs can come to

Each verb, carried out over HTTP, in all the ways that it can go: the exchanges it makes, its
result, and the cluster as it leaves it.

* `Connecting`: a session takes a provider configuration and the secret it selects.
* `Observing`, `Adopting`: an unbound cluster is not looked for, and only an answer that there is
  no database counts as absence.
* `Creating`, `Fetching`: a cluster is bound exactly when a database came with the answer.
* `Deleting`: a database that is gone is deleted.
-/

namespace ClusterKeeper.Lifecycle

open Exchange

/-- The call that reads the provider configuration of a cluster. -/
abbrev readConfig (c : Cluster) : Kube.Call := .getProviderConfig c.spec.providerConfigRef.name

/-- The call that reads the secret at a selector. -/
abbrev readSecret (s : SecretKeySelector) : Kube.Call := .getSecret s.ns s.name

/-- **Connecting**: the provider configuration is read, then the secret that it selects. -/
inductive Connecting (apiUrl : String) (c : Cluster) : Trace → Except Error Session → Prop
  | noConfig {es : Trace} {f : Kube.Failure} (h : Asked (readConfig c) es (.error f)) :
      Connecting apiUrl c es
        (.error (CredentialsFailure.noProviderConfig c.spec.providerConfigRef.name f).error)
  | noSelector {es : Trace} {p : ProviderConfig} {f : CredentialsFailure}
      (h : Asked (readConfig c) es (.ok p)) (hs : p.selector = .error f) :
      Connecting apiUrl c es (.error f.error)
  | noSecret {es es' : Trace} {p : ProviderConfig} {s : SecretKeySelector} {f : Kube.Failure}
      (h : Asked (readConfig c) es (.ok p)) (hs : p.selector = .ok s)
      (h' : Asked (readSecret s) es' (.error f)) :
      Connecting apiUrl c (es ++ es') (.error (CredentialsFailure.noSecret
        (.kube s!"Failed to get secret {s.ns}/{s.name}: {f.message}")).error)
  | noToken {es es' : Trace} {p : ProviderConfig} {s : SecretKeySelector} {secret : Secret}
      {f : CredentialsFailure} (h : Asked (readConfig c) es (.ok p)) (hs : p.selector = .ok s)
      (h' : Asked (readSecret s) es' (.ok secret)) (ht : p.token secret = .error f) :
      Connecting apiUrl c (es ++ es') (.error f.error)
  | noClient {es es' : Trace} {p : ProviderConfig} {s : SecretKeySelector} {secret : Secret}
      {token : String} {f : CallFailure} (h : Asked (readConfig c) es (.ok p))
      (hs : p.selector = .ok s) (h' : Asked (readSecret s) es' (.ok secret))
      (ht : p.token secret = .ok token) (hc : Session.start apiUrl token = .error f) :
      Connecting apiUrl c (es ++ es') (.error (CredentialsFailure.noClient f).error)
  | connected {es es' : Trace} {p : ProviderConfig} {s : SecretKeySelector} {secret : Secret}
      {token : String} {session : Session} (h : Asked (readConfig c) es (.ok p))
      (hs : p.selector = .ok s) (h' : Asked (readSecret s) es' (.ok secret))
      (ht : p.token secret = .ok token) (hc : Session.start apiUrl token = .ok session) :
      Connecting apiUrl c (es ++ es') (.ok session)

theorem Connecting.of_carried {apiUrl : String} {c : Cluster} {es : Trace}
    {r : Except Error Session} (h : Carried (connect apiUrl c) es r) :
    Connecting apiUrl c es r := by
  unfold connect at h
  replace h := carried_bind.1 h
  obtain ⟨es₁, token, es₂, ht, hr, rfl⟩ := h
  rw [carried_ofAccess, Kube.token, accessed_ask] at ht
  obtain ⟨es₃, config, es₄, hp, ht, rfl⟩ := ht
  cases config with
  | error f =>
    obtain ⟨rfl, rfl⟩ := accessed_done.1 ht
    obtain ⟨rfl, rfl⟩ := carried_done.1 hr
    simpa using Connecting.noConfig hp
  | ok p =>
    simp only at ht
    split at ht
    · rename_i f hs
      obtain ⟨rfl, rfl⟩ := accessed_done.1 ht
      obtain ⟨rfl, rfl⟩ := carried_done.1 hr
      simpa using Connecting.noSelector hp hs
    · rename_i s hs
      rw [accessed_bind] at ht
      obtain ⟨es₅, secret, es₆, ha, ht, rfl⟩ := ht
      obtain ⟨answer, hq, rfl⟩ := accessed_call.1 ha
      cases answer with
      | error f =>
        obtain ⟨rfl, rfl⟩ := accessed_done.1 ht
        obtain ⟨rfl, rfl⟩ := carried_done.1 hr
        simpa using Connecting.noSecret hp hs hq
      | ok secret =>
        obtain ⟨rfl, rfl⟩ := accessed_done.1 ht
        cases hk : p.token secret with
        | error f =>
          rw [hk] at hr
          obtain ⟨rfl, rfl⟩ := carried_done.1 hr
          simpa using Connecting.noToken hp hs hq hk
        | ok token =>
          rw [hk] at hr
          obtain ⟨rfl, rfl⟩ := carried_done.1 hr
          cases hc : Session.start apiUrl token with
          | error f =>
            rw [List.append_nil, List.append_nil]
            exact Connecting.noClient hp hs hq hk hc
          | ok session =>
            rw [List.append_nil, List.append_nil]
            exact Connecting.connected hp hs hq hk hc

/-- A call of the remote API that was counted. -/
abbrev counted (operation : String) (success : Bool) : Event :=
  .record (.externalCall operation success)

/-- **Adopting an observed database**: unset parameters that it sets are stored first. -/
inductive Adopting (c : Cluster) (db : Database) :
    Trace → Except Error Sighting × Cluster → Prop
  | settled (h : (c.lateInitialize db).spec.forProvider = c.spec.forProvider) (now : Instant) :
      Adopting c db [.clock now]
        (.ok { present := true, upToDate := true }, (c.observed db).settleStatus now)
  | unstored (h : (c.lateInitialize db).spec.forProvider ≠ c.spec.forProvider) {es : Trace}
      {f : Kube.Failure}
      (hr : Asked (.replaceCluster c.anyName (c.lateInitialize db)) es (.error f)) :
      Adopting c db es (.error (.kube s!"{Error.updateContext}: {(Error.kube f.message).message}"),
        c.lateInitialize db)
  | stored (h : (c.lateInitialize db).spec.forProvider ≠ c.spec.forProvider) {es : Trace}
      {kept : Cluster} (hr : Asked (.replaceCluster c.anyName (c.lateInitialize db)) es (.ok kept))
      (now : Instant) :
      Adopting c db (es ++ [.clock now]) (.ok { present := true, upToDate := true },
        (({ c.lateInitialize db with metadata := kept.metadata }).observed db).settleStatus now)

theorem carried_settle {c : Cluster} {db : Database} {es : Trace}
    {r : Except Error Sighting × Cluster} (h : Carried (settle c db) es r) :
    ∃ now, es = [.clock now] ∧
      r = (.ok { present := true, upToDate := true }, (c.observed db).settleStatus now) := by
  unfold settle at h
  obtain ⟨now, es', h', rfl⟩ := carried_clock_bind.1 h
  obtain ⟨rfl, rfl⟩ := carried_done.1 h'
  exact ⟨now, rfl, rfl⟩

theorem Adopting.of_carried {c : Cluster} {db : Database} {es : Trace}
    {r : Except Error Sighting × Cluster} (h : Carried (adopt c db) es r) : Adopting c db es r := by
  unfold adopt at h
  simp only at h
  split at h
  · rename_i hl
    obtain ⟨now, rfl, rfl⟩ := carried_settle h
    exact .settled hl now
  · rename_i hl
    obtain ⟨es₁, stored, es₂, hs, h', rfl⟩ := carried_bind.1 h
    obtain ⟨answer, hq, rfl⟩ := accessed_call.1 (carried_ofAccess.1 hs)
    cases answer with
    | error f =>
      obtain ⟨rfl, rfl⟩ := carried_done.1 h'
      rw [List.append_nil]
      exact .unstored hl hq
    | ok kept =>
      obtain ⟨now, rfl, rfl⟩ := carried_settle h'
      exact .stored hl hq now

/-- **Observing**: an unbound cluster is not looked for, and of the answers only that there is
no such database counts as absence. -/
inductive Observing (session : Session) (c : Cluster) :
    Trace → Except Error Sighting × Cluster → Prop
  | unbound (h : c.externalName = "") : Observing session c [] (.ok {}, c)
  | missing (h : c.externalName ≠ "") {es : Trace} {f : CallFailure}
      (hc : Called session (.get c.externalName) es (.error f)) (hf : f.isNotFound = true) :
      Observing session c (es ++ [counted "get" true]) (.ok {}, c)
  | failed (h : c.externalName ≠ "") {es : Trace} {f : CallFailure}
      (hc : Called session (.get c.externalName) es (.error f)) (hf : f.isNotFound = false) :
      Observing session c (es ++ [counted "get" false]) (.error (.remote Error.getContext f), c)
  | found (h : c.externalName ≠ "") {es es' : Trace} {db : Database}
      {r : Except Error Sighting × Cluster} (hc : Called session (.get c.externalName) es (.ok db))
      (ha : Adopting c db es' r) : Observing session c (es ++ counted "get" true :: es') r

theorem Observing.of_carried {session : Session} {c : Cluster} {es : Trace}
    {r : Except Error Sighting × Cluster} (h : Carried (observe session c) es r) :
    Observing session c es r := by
  unfold observe at h
  split at h
  · rename_i hn
    obtain ⟨rfl, rfl⟩ := carried_done.1 h
    exact .unbound hn
  · rename_i hn
    obtain ⟨es₁, answer, es₂, hc, h₁, rfl⟩ := carried_database_bind.1 h
    cases answer with
    | error f =>
      obtain ⟨es₃, h₂, rfl⟩ := carried_record_bind.1 h₁
      cases hf : f.isNotFound with
      | true =>
        rw [hf] at h₂
        obtain ⟨rfl, rfl⟩ := carried_done.1 h₂
        exact .missing hn hc hf
      | false =>
        rw [hf] at h₂
        obtain ⟨rfl, rfl⟩ := carried_done.1 h₂
        exact .failed hn hc hf
    | ok db =>
      obtain ⟨es₃, h₂, rfl⟩ := carried_record_bind.1 h₁
      exact .found hn hc (.of_carried h₂)

/-- **Connection details of a new database**: its own, or else those of the database fetched. -/
inductive Fetching (session : Session) (db : Database) : Trace → ConnectionDetails → Prop
  | own (h : db.connection.isSome = true) : Fetching session db [] (.ofDatabase db)
  | fetched (h : db.connection.isSome = false) {es : Trace} {later : Database}
      (hc : Called session (.get db.id) es (.ok later)) :
      Fetching session db es (.ofDatabase later)
  | unfetched (h : db.connection.isSome = false) {es : Trace} {f : CallFailure}
      (hc : Called session (.get db.id) es (.error f)) : Fetching session db es .empty

theorem Fetching.of_carried {session : Session} {db : Database} {es : Trace}
    {details : ConnectionDetails} (h : Carried (freshDetails session db) es details) :
    Fetching session db es details := by
  unfold freshDetails at h
  split at h
  · rename_i ho
    obtain ⟨rfl, rfl⟩ := carried_done.1 h
    exact .own ho
  · rename_i ho
    rw [Bool.not_eq_true] at ho
    obtain ⟨es₁, answer, es₂, hc, h', rfl⟩ := carried_database_bind.1 h
    cases answer with
    | error f =>
      obtain ⟨rfl, rfl⟩ := carried_done.1 h'
      rw [List.append_nil]
      exact .unfetched ho hc
    | ok later =>
      obtain ⟨rfl, rfl⟩ := carried_done.1 h'
      rw [List.append_nil]
      exact .fetched ho hc

/-- The call that creates the database of a cluster. -/
abbrev ask (c : Cluster) : DatabaseCall :=
  .create (c.spec.forProvider.createRequest (databaseName c))

/-- **Creating**: the cluster is bound to the database that came with the answer, if one did. -/
inductive Creating (session : Session) (c : Cluster) :
    Trace → Except Error ConnectionDetails × Cluster → Prop
  | unnamed (h : databaseName c = "") (now : Instant) :
      Creating session c [.clock now] (.error .nameRequired, c.setReady .creating now)
  | failed (h : databaseName c ≠ "") (now : Instant) {es : Trace} {f : CallFailure}
      (hc : Called session (ask c) es (.error f)) :
      Creating session c (.clock now :: es ++ [counted "create" false])
        (.error (.remote Error.createContext f), c.setReady .creating now)
  | empty (h : databaseName c ≠ "") (now : Instant) {es : Trace}
      (hc : Called session (ask c) es (.ok none)) :
      Creating session c (.clock now :: es ++ [counted "create" false])
        (.error (.emptyResponse Error.createContext), c.setReady .creating now)
  | bound (h : databaseName c ≠ "") (hs : c.spec.connectionSecretRef = none) (now : Instant)
      {es : Trace} {db : Database} (hc : Called session (ask c) es (.ok (some db))) :
      Creating session c (.clock now :: es ++ [counted "create" true])
        (.ok .empty, (c.setReady .creating now).setExternalName db.id)
  | detailed (h : databaseName c ≠ "") (hs : c.spec.connectionSecretRef.isSome = true)
      (now : Instant) {es es' : Trace} {db : Database} {details : ConnectionDetails}
      (hc : Called session (ask c) es (.ok (some db))) (hd : Fetching session db es' details) :
      Creating session c (.clock now :: es ++ counted "create" true :: es')
        (.ok details, (c.setReady .creating now).setExternalName db.id)

theorem Creating.of_carried {session : Session} {c : Cluster} {es : Trace}
    {r : Except Error ConnectionDetails × Cluster} (h : Carried (create session c) es r) :
    Creating session c es r := by
  unfold create at h
  obtain ⟨now, es₁, h₁, rfl⟩ := carried_clock_bind.1 h
  simp only at h₁
  split at h₁
  · rename_i hn
    obtain ⟨rfl, rfl⟩ := carried_done.1 h₁
    exact .unnamed (c := c) hn now
  · rename_i hn
    obtain ⟨es₂, answer, es₃, hc, h₂, rfl⟩ := carried_database_bind.1 h₁
    cases answer with
    | error f =>
      obtain ⟨es₄, h₃, rfl⟩ := carried_record_bind.1 h₂
      obtain ⟨rfl, rfl⟩ := carried_done.1 h₃
      exact .failed (c := c) hn now hc
    | ok answer =>
      cases answer with
      | none =>
        obtain ⟨es₄, h₃, rfl⟩ := carried_record_bind.1 h₂
        obtain ⟨rfl, rfl⟩ := carried_done.1 h₃
        exact .empty (c := c) hn now hc
      | some db =>
        obtain ⟨es₄, h₃, rfl⟩ := carried_record_bind.1 h₂
        split at h₃
        · rename_i hs
          obtain ⟨es₅, details, es₆, hd, h₄, rfl⟩ := carried_bind.1 h₃
          obtain ⟨rfl, rfl⟩ := carried_done.1 h₄
          rw [List.append_nil]
          exact .detailed (c := c) hn hs now hc (.of_carried hd)
        · rename_i hs
          obtain ⟨rfl, rfl⟩ := carried_done.1 h₃
          exact .bound (c := c) hn (Option.not_isSome_iff_eq_none.1 hs) now hc

/-- **Deleting**: a database that is gone counts as deleted. -/
inductive Deleting (session : Session) (c : Cluster) :
    Trace → Except Error Unit × Cluster → Prop
  | unbound (h : c.externalName = "") (now : Instant) :
      Deleting session c [.clock now] (.ok (), c.setReady .deleting now)
  | deleted (h : c.externalName ≠ "") (now : Instant) {es : Trace}
      (hc : Called session (.delete c.externalName) es (.ok ())) :
      Deleting session c (.clock now :: es ++ [counted "delete" true])
        (.ok (), c.setReady .deleting now)
  | missing (h : c.externalName ≠ "") (now : Instant) {es : Trace} {f : CallFailure}
      (hc : Called session (.delete c.externalName) es (.error f)) (hf : f.isNotFound = true) :
      Deleting session c (.clock now :: es ++ [counted "delete" true])
        (.ok (), c.setReady .deleting now)
  | failed (h : c.externalName ≠ "") (now : Instant) {es : Trace} {f : CallFailure}
      (hc : Called session (.delete c.externalName) es (.error f)) (hf : f.isNotFound = false) :
      Deleting session c (.clock now :: es ++ [counted "delete" false])
        (.error (.remote Error.deleteContext f), c.setReady .deleting now)

theorem Deleting.of_carried {session : Session} {c : Cluster} {es : Trace}
    {r : Except Error Unit × Cluster} (h : Carried (delete session c) es r) :
    Deleting session c es r := by
  unfold delete at h
  obtain ⟨now, es₁, h₁, rfl⟩ := carried_clock_bind.1 h
  simp only at h₁
  split at h₁
  · rename_i hn
    obtain ⟨rfl, rfl⟩ := carried_done.1 h₁
    exact .unbound (c := c) hn now
  · rename_i hn
    obtain ⟨es₂, answer, es₃, hc, h₂, rfl⟩ := carried_database_bind.1 h₁
    cases answer with
    | error f =>
      obtain ⟨es₄, h₃, rfl⟩ := carried_record_bind.1 h₂
      cases hf : f.isNotFound with
      | true =>
        rw [hf] at h₃
        obtain ⟨rfl, rfl⟩ := carried_done.1 h₃
        exact .missing (c := c) hn now hc hf
      | false =>
        rw [hf] at h₃
        obtain ⟨rfl, rfl⟩ := carried_done.1 h₃
        exact .failed (c := c) hn now hc hf
    | ok u =>
      obtain ⟨es₄, h₃, rfl⟩ := carried_record_bind.1 h₂
      obtain ⟨rfl, rfl⟩ := carried_done.1 h₃
      exact .deleted (c := c) hn now hc

end ClusterKeeper.Lifecycle
