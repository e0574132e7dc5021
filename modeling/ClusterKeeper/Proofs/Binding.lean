import ClusterKeeper.Proofs.Calls
import ClusterKeeper.Proofs.MergePatch
import ClusterKeeper.Proofs.Requests

/-!
# What the store holds of the identifier

The identifier of the remote database is kept with the cluster in the object store, and nowhere
else. Here it is followed through everything a reconcile exchanges.

* `storedName`: the identifier after some exchanges.
* `Keeps`, `Binds`: exchanges that leave it, and those that set it.
* `Within.neutral`: exchanges that have nothing to do with it, as those of most parts.
-/

namespace ClusterKeeper

namespace Exchange

/-- Where the store keeps the cluster with a name. -/
def clusterPath (name : String) : String := s!"{Kube.Call.clusterPlace}/{name}"

/-- The identifier that a document gives, if it gives one. -/
def annotated? (document : Json) : Option String :=
  (((document.get? "metadata").bind (Json.get? "annotations")).bind
    (Json.get? Cluster.externalNameKey)).bind Json.text?

/-- Whether a list of edits touches nothing but finalizers. -/
def onFinalizers : Json → Bool
  | .arr edits => edits.all fun edit => ((edit.get? "path").bind Json.text?).any fun path =>
      Kube.FinalizerEdit.place.toList.isPrefixOf path.toList
  | _ => false

/-- The identifier of the cluster with a name once a request took effect, if it was `id` before.
What is not known to leave it is taken to lose it. -/
def renamed (name : String) (request : Kube.Request) (id : String) : String :=
  if request.path ≠ clusterPath name ∨ request.method = .get then id
  else
    match request.method, request.contentType, request.body with
    | .put, some "application/json", some document => (annotated? document).getD ""
    | .patch, some "application/merge-patch+json", some patch =>
      (annotated? ((Kube.Call.externalNameBody id).merge patch)).getD ""
    | .patch, some "application/json-patch+json", some edits =>
      if onFinalizers edits then id else ""
    | _, _, _ => ""

/-- Whether the outcome is a response with a status of success. -/
def accepted : Http.Outcome → Bool
  | .response r => Http.isSuccess r.status
  | .noResponse => false

/-- The identifier after one exchange: only what is accepted takes effect. -/
def renamedBy (name : String) (id : String) : Event → String
  | ⟨.kube request, outcome⟩ => if accepted outcome then renamed name request id else id
  | _ => id

/-- The identifier after some exchanges. -/
def storedName (name start : String) (tr : Trace) : String := tr.foldl (renamedBy name) start

/-- Whether an exchange records an identifier for the cluster with a name, and is accepted. -/
def naming (name : String) : Event → Bool
  | ⟨.kube request, outcome⟩ =>
    accepted outcome && request.method = .patch && request.path = clusterPath name &&
      request.contentType = some "application/merge-patch+json" &&
      (request.body.bind annotated?).isSome
  | _ => false

/-- The database that a request to create one was answered with, if one was. -/
def created? : Event → Option Database
  | ⟨.database request, .response r⟩ =>
    if request.method = .post ∧ Http.isSuccess r.status then (DatabaseCall.opened r).toOption.join
    else none
  | _ => none

/-- Whether a database was asked for and the answer is that there is none. -/
def vanished : Event → Bool
  | ⟨.database request, .response r⟩ => request.method = .get && r.status = 404
  | _ => false

/-- The databases created, as far as answers tell. -/
def creations (tr : Trace) : Nat := tr.countP fun e => (created? e).isSome

/-- How often a database was found gone. -/
def losses (tr : Trace) : Nat := tr.countP vanished

variable {name : String}

@[simp] theorem storedName_nil (start : String) : storedName name start [] = start := rfl

@[simp] theorem storedName_cons (start : String) (e : Event) (tr : Trace) :
    storedName name start (e :: tr) = storedName name (renamedBy name start e) tr := rfl

theorem storedName_append (start : String) (tr tr' : Trace) :
    storedName name start (tr ++ tr') = storedName name (storedName name start tr) tr' :=
  List.foldl_append

/-- The exchange neither creates a database nor says anything of the identifier. -/
structure Neutral (name : String) (e : Event) : Prop where
  created : created? e = none
  naming : naming name e = false
  renamed : ∀ id, renamedBy name id e = id

/-- The exchange creates no database, and leaves the identifier `id` as it is. -/
structure Keeps (name id : String) (e : Event) : Prop where
  created : created? e = none
  renamed : renamedBy name id e = id

/-- The exchange creates no database, and if it records an identifier, then `x`. -/
structure Binds (name x : String) (e : Event) : Prop where
  created : created? e = none
  renamed : ∀ id, renamedBy name id e = if naming name e then x else id

theorem Neutral.keeps {id : String} {e : Event} (h : Neutral name e) : Keeps name id e :=
  ⟨h.created, h.renamed id⟩

theorem Neutral.binds {x : String} {e : Event} (h : Neutral name e) : Binds name x e :=
  ⟨h.created, fun id => by rw [h.naming]; exact h.renamed id⟩

theorem renamedBy_kube {request : Kube.Request} {outcome : Http.Outcome} {id : String} :
    renamedBy name id (.kube request outcome) =
      if accepted outcome then renamed name request id else id := rfl

theorem naming_kube {request : Kube.Request} {outcome : Http.Outcome} :
    naming name (.kube request outcome) =
      (accepted outcome && request.method = .patch && request.path = clusterPath name &&
        request.contentType = some "application/merge-patch+json" &&
        (request.body.bind annotated?).isSome) := rfl

theorem renamedBy_of_renamed {request : Kube.Request} {outcome : Http.Outcome} {id : String}
    (h : renamed name request id = id) : renamedBy name id (.kube request outcome) = id := by
  rw [renamedBy_kube, h, ite_self]

/-- A call that reads says nothing of the identifier. -/
theorem neutral_of_get {request : Kube.Request} {outcome : Http.Outcome}
    (h : request.method = .get) : Neutral name (.kube request outcome) := by
  refine ⟨rfl, ?_, fun id => renamedBy_of_renamed ?_⟩
  · rw [naming_kube, h]
    simp
  · unfold renamed
    rw [if_pos (Or.inr h)]

/-- A document of the store names the identifier of its cluster. -/
theorem annotated?_toJson (c : Cluster) : (annotated? c.toJson).getD "" = c.externalName := by
  have ha : c.metadata.toJson.get? "annotations" =
      c.metadata.annotations.map (Dict.toJson .str) := by
    unfold Metadata.toJson
    rw [Json.get?_fields (by simp)]
    rfl
  have hd (d : Dict String) (key : String) : (d.toJson .str).get? key = (d.get? key).map .str := by
    unfold Dict.toJson Dict.map Dict.get? Json.get?
    simp only
    induction d.entries with
    | nil => rfl
    | cons e rest ih =>
      rw [List.map_cons, List.lookup_cons, List.lookup_cons]
      cases key == e.1 with
      | true => rfl
      | false => exact ih
  have hm : annotated? c.toJson = ((c.metadata.toJson.get? "annotations").bind
    (Json.get? Cluster.externalNameKey)).bind Json.text? := rfl
  rw [hm, ha]
  unfold Cluster.externalName
  cases c.metadata.annotations with
  | none => rfl
  | some d =>
    simp only [Option.map_some, Option.bind_some, hd]
    cases d.get? Cluster.externalNameKey <;> rfl

theorem onFinalizers_toJson (edit : Kube.FinalizerEdit) : onFinalizers edit.toJson = true := by
  cases edit with
  | create finalizer => rfl
  | append others finalizer => rfl
  | remove index finalizer =>
    have hl : (s!"{Kube.FinalizerEdit.place}/{index}").toList =
        Kube.FinalizerEdit.place.toList ++ ("/".toList ++ (toString index).toList) := by
      show (Kube.FinalizerEdit.place ++ "/" ++ toString index).toList = _
      rw [String.toList_append, String.toList_append, List.append_assoc]
    have hp : Kube.FinalizerEdit.place.toList.isPrefixOf
        (s!"{Kube.FinalizerEdit.place}/{index}").toList = true := by
      rw [hl]
      exact List.isPrefixOf_iff_prefix.2 (List.prefix_append _ _)
    unfold onFinalizers Kube.FinalizerEdit.toJson
    simp only [List.all_cons, List.all_nil, Bool.and_true, Bool.and_eq_true]
    exact ⟨hp, hp⟩

/-- **Statuses** are written without a word on the identifier. -/
theorem neutral_of_setStatus {name' : String} {status : Status} {request : Kube.Request}
    (h : (Kube.Call.setStatus name' status).request = .ok request) (outcome : Http.Outcome) :
    Neutral name (.kube request outcome) := by
  have ht := Kube.Request.targets_of_write h
  refine ⟨rfl, ?_, fun id => renamedBy_of_renamed ?_⟩
  · have hb : (some (Kube.Call.nested "status" status.toJson)).bind annotated? = none := rfl
    rw [naming_kube, ht.body, hb]
    simp
  · unfold renamed
    rw [ht.method, ht.contentType, ht.body]
    split
    · rfl
    · rfl

/-- **Secrets** are kept elsewhere. -/
theorem neutral_of_applySecret {reference : SecretReference} {secret : Secret}
    {request : Kube.Request} (h : (Kube.Call.applySecret reference secret).request = .ok request)
    (outcome : Http.Outcome) : Neutral name (.kube request outcome) := by
  have ht := Kube.Request.targets_of_write h
  have hp : request.path ≠ clusterPath name := by
    intro hp
    refine Kube.path_of_applySecret h
      ("database.do.crossplane.io/v1alpha1/dodatabaseclusters/".toList ++ name.toList) ?_
    rw [hp]
    show ("/apis/database.do.crossplane.io/v1alpha1/dodatabaseclusters" ++ "/" ++ name).toList = _
    rw [String.toList_append]
    rfl
  refine ⟨rfl, ?_, fun id => renamedBy_of_renamed ?_⟩
  · rw [naming_kube, ht.contentType]
    simp
  · unfold renamed
    rw [if_pos (Or.inl hp)]

/-- **Edits of the finalizers** touch nothing else. -/
theorem neutral_of_editFinalizers {name' : String} {edit : Kube.FinalizerEdit}
    {request : Kube.Request} (h : (Kube.Call.editFinalizers name' edit).request = .ok request)
    (outcome : Http.Outcome) : Neutral name (.kube request outcome) := by
  have ht := Kube.Request.targets_of_write h
  refine ⟨rfl, ?_, fun id => renamedBy_of_renamed ?_⟩
  · rw [naming_kube, ht.contentType]
    simp
  · unfold renamed
    rw [ht.method, ht.contentType, ht.body]
    split
    · rfl
    · exact if_pos (onFinalizers_toJson edit)

/-- **A cluster that is stored** keeps the identifier that it has. -/
theorem keeps_of_replaceCluster {name' : String} {c : Cluster} {request : Kube.Request}
    (h : (Kube.Call.replaceCluster name' c).request = .ok request) (outcome : Http.Outcome) :
    Keeps name c.externalName (.kube request outcome) := by
  have ht := Kube.Request.targets_of_write h
  refine ⟨rfl, renamedBy_of_renamed ?_⟩
  unfold renamed
  rw [ht.method, ht.contentType, ht.body]
  split
  · rfl
  · exact annotated?_toJson c

/-- **An identifier that is recorded** is the one that is kept from then on. -/
theorem binds_of_setExternalName {name' x : String} {request : Kube.Request}
    (h : (Kube.Call.setExternalName name' x).request = .ok request) (outcome : Http.Outcome) :
    Binds name x (.kube request outcome) := by
  have ht := Kube.Request.targets_of_write h
  refine ⟨rfl, fun id => ?_⟩
  rw [naming_kube, renamedBy_kube, ht.method, ht.contentType, ht.body]
  unfold renamed
  rw [ht.method, ht.contentType, ht.body]
  have hx : (some (Kube.Call.externalNameBody x)).bind annotated? = some x := rfl
  rw [hx]
  cases accepted outcome with
  | false => rfl
  | true =>
    by_cases hp : request.path = clusterPath name
    · rw [if_pos rfl, if_neg (by simp [hp]), if_pos (by simp [hp])]
      rfl
    · rw [if_pos rfl, if_pos (Or.inl hp), if_neg (by simp [hp])]

/-- **A call that neither stores a cluster nor names one** says nothing of the identifier. -/
theorem neutral_of_request {call : Kube.Call} {request : Kube.Request}
    (hr : call.request = .ok request) (hs : .ofKube call ≠ Kind.store)
    (hn : .ofKube call ≠ Kind.name) (outcome : Http.Outcome) :
    Neutral name (.kube request outcome) := by
  cases call with
  | getProviderConfig _ => exact neutral_of_get (Kube.Request.targets_of_read hr).method
  | getSecret _ _ => exact neutral_of_get (Kube.Request.targets_of_read hr).method
  | replaceCluster _ _ => exact absurd rfl hs
  | editFinalizers _ _ => exact neutral_of_editFinalizers hr outcome
  | setExternalName _ _ => exact absurd rfl hn
  | setStatus _ _ => exact neutral_of_setStatus hr outcome
  | applySecret _ _ => exact neutral_of_applySecret hr outcome

/-- Exchanges without such calls leave the identifier. -/
theorem Within.renamedBy_eq {kinds : List Kind} {es : Trace} (h : Within kinds es)
    (hk : .store ∉ kinds ∧ .name ∉ kinds) (id : String) :
    ∀ e ∈ es, renamedBy name id e = id := by
  intro e he
  cases h e he with
  | clock now => rfl
  | pause millis => rfl
  | record _ => rfl
  | database _ _ outcome => rfl
  | kube hc hr outcome =>
    have hneutral : Neutral name (.kube _ outcome) := neutral_of_request hr
      (ne_of_mem_of_not_mem hc hk.1) (ne_of_mem_of_not_mem hc hk.2) outcome
    exact hneutral.renamed id

/-- Exchanges that create no database are answered with none. -/
theorem Within.created_none {kinds : List Kind} {es : Trace} (h : Within kinds es)
    (hk : .create ∉ kinds) : ∀ e ∈ es, created? e = none := by
  intro e he
  cases h e he with
  | clock now => rfl
  | pause millis => rfl
  | record _ => rfl
  | kube _ _ outcome => rfl
  | database _ _ outcome =>
    cases outcome with
    | noResponse => rfl
    | response r => exact if_neg fun hp => hk (h.kind_mem he hp.1 rfl)

/-- **Exchanges without such calls** that create no database either are neutral. -/
theorem Within.neutral {kinds : List Kind} {es : Trace} (h : Within kinds es)
    (hk : .store ∉ kinds ∧ .name ∉ kinds ∧ .create ∉ kinds) : ∀ e ∈ es, Neutral name e := by
  intro e he
  have hcreated := h.created_none hk.2.2 e he
  cases h e he with
  | clock now => exact ⟨hcreated, rfl, fun _ => rfl⟩
  | pause millis => exact ⟨hcreated, rfl, fun _ => rfl⟩
  | record _ => exact ⟨hcreated, rfl, fun _ => rfl⟩
  | database _ _ outcome => exact ⟨hcreated, rfl, fun _ => rfl⟩
  | kube hc hr outcome =>
    exact neutral_of_request hr (ne_of_mem_of_not_mem hc hk.1) (ne_of_mem_of_not_mem hc hk.2.1)
      outcome

end Exchange

end ClusterKeeper
