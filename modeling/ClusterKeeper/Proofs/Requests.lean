import ClusterKeeper.Kube.Api
import Mathlib.Data.List.TakeDrop
import Mathlib.Data.List.TakeWhile

/-!
# Requests of the object store

What a request says, read off the call that it is made of.

* `Targets`: a request of a method to the path in a target.
* `targets_of_read`, `targets_of_write`: the requests that are made.
* `path_of_secret`: a request for a secret goes where nothing else is kept.
* `Sendable`, `patchOf`: the patch that can be sent to a target.
-/

namespace ClusterKeeper.Kube

open Call

/-- Whether a path goes on with a character. -/
def goesOn (c : Char) : Bool := c ≠ '?' ∧ c ≠ '#'

namespace Request

/-- The request goes to the path in `target`. -/
structure Targets (r : Request) (method : Http.Method) (target : String)
    (contentType : Option String) (body : Option Json) : Prop where
  method : r.method = method
  path : r.path.toList = target.toList.takeWhile goesOn
  contentType : r.contentType = contentType
  body : r.body = body

variable {r : Request} {method : Http.Method} {place name part settings target : String}
  {contentType : Option String} {body : Option Json}

theorem path_of_cut {target path : List Char} {query : Option (List Char)}
    (h : Http.Target.cut? target = some (path, query)) : path = target.takeWhile goesOn := by
  unfold Http.Target.cut? at h
  rw [List.span_eq_takeWhile_dropWhile] at h
  simp only [Option.ite_none_right_eq_some, Option.some.injEq, Prod.mk.injEq] at h
  exact h.2.1.symm

theorem targets_of_target (h : ofTarget method target contentType body = .ok r) :
    r.Targets method target contentType body := by
  unfold ofTarget at h
  split at h
  · cases h
  · split at h
    · rename_i path query hc
      cases h
      exact ⟨rfl, by rw [← path_of_cut hc, String.toList_ofList], rfl, rfl⟩
    · cases h

theorem targets_of_read (h : read place name = .ok r) :
    r.Targets .get s!"{place}/{name}" none none := by
  unfold read at h
  split at h
  · cases h
  · exact targets_of_target h

theorem targets_of_write {type : String} {j : Json}
    (h : write method place name part settings type j = .ok r) :
    r.Targets method s!"{place}/{name}{part}?{settings}" (some type) (some j) := by
  unfold write at h
  split at h
  · cases h
  · exact targets_of_target h

/-- The start of a path, up to where the target may first break off. -/
theorem Targets.path_append (h : r.Targets method target contentType body) {start rest : List Char}
    (ht : target.toList = start ++ rest) (hs : ∀ c ∈ start, goesOn c = true) :
    r.path.toList = start ++ rest.takeWhile goesOn := by
  rw [h.path, ht, List.takeWhile_append_of_pos hs]

/-- A path of characters that may stand in it is cut off where the settings start. -/
theorem cut?_append {path : List Char} (hin : ∀ c ∈ path, Http.Target.inPath c = true)
    (hgo : ∀ c ∈ path, goesOn c = true) :
    Http.Target.cut? (path ++ ['?']) = some (path, some []) := by
  have htake : (path ++ ['?']).takeWhile (fun c => decide (c ≠ '?' ∧ c ≠ '#')) = path := by
    have happ : (path ++ ['?']).takeWhile goesOn = path ++ ['?'].takeWhile goesOn :=
      List.takeWhile_append_of_pos hgo
    exact happ.trans (List.append_nil _)
  have hdrop : (path ++ ['?']).dropWhile (fun c => decide (c ≠ '?' ∧ c ≠ '#')) = ['?'] :=
    List.dropWhile_append_of_pos hgo
  unfold Http.Target.cut?
  rw [List.span_eq_takeWhile_dropWhile, htake, hdrop]
  simp only [List.all_eq_true.2 hin]
  rfl

/-- **A request that can be sent**, without settings. -/
theorem write_eq_ok {path : String} (hn : name ≠ "") (hpath : s!"{place}/{name}{part}" = path)
    (hin : ∀ c ∈ path.toList, Http.Target.inPath c = true)
    (hgo : ∀ c ∈ path.toList, Kube.goesOn c = true)
    (hl : Http.Target.isTooLong (path.toList ++ ['?']) = false) (hs : settings = "")
    (type : String) (j : Json) :
    write method place name part settings type j =
      .ok ⟨method, path, some "", some type, some j⟩ := by
  have ht : s!"{place}/{name}{part}?{settings}".toList = path.toList ++ ['?'] := by
    rw [← hpath, hs, String.toList_append, String.toList_append]
    exact List.append_nil _
  unfold write ofTarget
  rw [if_neg hn, ht, hl, cut?_append hin hgo]
  simp only [Bool.false_eq_true, if_false, Option.map_some, String.ofList_toList]

end Request

namespace Call

/-- The type of the body in the request of a call. -/
def typeOf : Call → Option String
  | .getProviderConfig _ | .getSecret _ _ => none
  | .replaceCluster _ _ => some "application/json"
  | .editFinalizers _ _ => some "application/json-patch+json"
  | .setExternalName _ _ | .setStatus _ _ => some "application/merge-patch+json"
  | .applySecret _ _ => some "application/apply-patch+yaml"

/-- A request says of what type its body is. -/
theorem contentType_of_request {call : Call} {r : Request} (h : call.request = .ok r) :
    r.contentType = typeOf call := by
  cases call with
  | getProviderConfig _ => exact (Request.targets_of_read h).contentType
  | getSecret _ _ => exact (Request.targets_of_read h).contentType
  | replaceCluster _ _ => exact (Request.targets_of_write h).contentType
  | editFinalizers _ _ => exact (Request.targets_of_write h).contentType
  | setExternalName _ _ => exact (Request.targets_of_write h).contentType
  | setStatus _ _ => exact (Request.targets_of_write h).contentType
  | applySecret _ _ => exact (Request.targets_of_write h).contentType

end Call

/-- A name that requests can be addressed to: not empty, of characters that a path holds, and not
too long for a target. -/
structure Addressable (name : String) : Prop where
  ne_empty : name ≠ ""
  inPath : ∀ c ∈ name.toList, Http.Target.inPath c = true
  goesOn : ∀ c ∈ name.toList, goesOn c = true
  short : Http.Target.isTooLong (s!"{clusterPlace}/{name}".toList ++ ['?']) = false

theorem forall_mem_path {name : String} {p : Char → Bool} (place : String)
    (hplace : ∀ c ∈ place.toList, p c) (hslash : p '/') (hname : ∀ c ∈ name.toList, p c) :
    ∀ c ∈ s!"{place}/{name}".toList, p c := by
  intro c hc
  rw [String.toList_append, String.toList_append, List.mem_append, List.mem_append] at hc
  rcases hc with (hc | hc) | hc
  · exact hplace c hc
  · rw [List.mem_singleton.1 hc]
    exact hslash
  · exact hname c hc

/-- An identifier is recorded where the cluster with the name is kept. -/
theorem path_of_setExternalName {name id : String} {r : Request}
    (h : (setExternalName name id).request = .ok r) (hname : ∀ c ∈ name.toList, goesOn c = true) :
    r.path = s!"{clusterPlace}/{name}" := by
  have ht : (clusterPlace ++ "/" ++ name ++ "" ++ "?" ++ "").toList =
      (clusterPlace ++ "/" ++ name).toList ++ "?".toList := by
    rw [String.append_empty, String.append_empty, String.toList_append]
  have hgo := forall_mem_path clusterPlace (List.all_eq_true.1 (by decide)) rfl hname
  have hp := (Request.targets_of_write h).path_append ht hgo
  have hnone : "?".toList.takeWhile goesOn = [] := by decide
  rw [hnone, List.append_nil] at hp
  exact String.toList_inj.1 hp

/-- The finalizers of an object with such a name can be edited. -/
theorem request_editFinalizers {name : String} (h : Addressable name) (edit : FinalizerEdit) :
    (editFinalizers name edit).request = .ok ⟨.patch, s!"{clusterPlace}/{name}", some "",
      some "application/json-patch+json", some edit.toJson⟩ := by
  have hpath : clusterPlace ++ "/" ++ name ++ "" = clusterPlace ++ "/" ++ name :=
    String.append_empty
  have hin := forall_mem_path clusterPlace (List.all_eq_true.1 (by decide)) rfl h.inPath
  have hgo := forall_mem_path clusterPlace (List.all_eq_true.1 (by decide)) rfl h.goesOn
  exact Request.write_eq_ok h.ne_empty hpath hin hgo h.short rfl _ _

/-- A request for a secret goes where no object of another kind is kept. -/
theorem Request.Targets.path_of_secret {r : Request} {method : Http.Method} {ns target : String}
    {contentType : Option String} {body : Option Json}
    (h : r.Targets method target contentType body) {rest : List Char}
    (ht : target.toList = (secretPlace ns).toList ++ rest) (path : List Char) :
    r.path.toList ≠ "/apis/".toList ++ path := by
  have hs : target.toList = "/api/v1/".toList ++
      ("namespaces/".toList ++ (ns.toList ++ ("/secrets".toList ++ rest))) := by
    rw [ht]
    show ("/api/v1/namespaces/" ++ ns ++ "/secrets").toList ++ rest = _
    simp only [String.toList_append, List.append_assoc]
    rfl
  rw [h.path_append hs (List.all_eq_true.1 (by decide))]
  intro hp
  have h4 : some '/' = some 's' := congrArg (fun cs => cs[4]?) hp
  exact absurd h4 (by decide)

theorem path_of_getSecret {ns name : String} {r : Request}
    (h : (getSecret ns name).request = .ok r) (path : List Char) :
    r.path.toList ≠ "/apis/".toList ++ path := by
  have ht : (secretPlace ns ++ "/" ++ name).toList =
      (secretPlace ns).toList ++ ("/".toList ++ name.toList) := by
    simp only [String.toList_append, List.append_assoc]
  exact (Request.targets_of_read h).path_of_secret ht path

theorem path_of_applySecret {reference : SecretReference} {secret : Secret} {r : Request}
    (h : (applySecret reference secret).request = .ok r) (path : List Char) :
    r.path.toList ≠ "/apis/".toList ++ path := by
  have ht : (secretPlace reference.ns ++ "/" ++ reference.name ++ "" ++ "?" ++
      applySettings).toList = (secretPlace reference.ns).toList ++
        ("/".toList ++ (reference.name.toList ++ ("?".toList ++ applySettings.toList))) := by
    simp only [String.toList_append, List.append_assoc, String.toList_empty, List.nil_append]
  exact (Request.targets_of_write h).path_of_secret ht path

/-! ## Patches -/

/-- **A target that requests can be sent to**: not too long, and each character may stand where it
does. -/
def Sendable (target : String) : Prop :=
  Http.Target.isTooLong target.toList = false ∧ (Http.Target.cut? target.toList).isSome = true

instance (target : String) : Decidable (Sendable target) := inferInstanceAs (Decidable (_ ∧ _))

/-- The patch that is sent to a target. Its path ends at the first question mark or number sign, and
its query at the next number sign. -/
def patchOf (target type : String) (body : Json) : Request where
  method := .patch
  path := String.ofList (target.toList.takeWhile goesOn)
  query :=
    match target.toList.dropWhile goesOn with
    | '?' :: rest => some (String.ofList (rest.takeWhile (· ≠ '#')))
    | _ => none
  contentType := some type
  body := some body

theorem ofTarget_eq_patchOf {target : String} (h : Sendable target) (type : String) (body : Json) :
    Request.ofTarget .patch target (some type) (some body) = .ok (patchOf target type body) := by
  obtain ⟨hshort, hcut⟩ := h
  obtain ⟨⟨path, query⟩, hcut⟩ := Option.isSome_iff_exists.1 hcut
  unfold Request.ofTarget
  rw [hshort, hcut]
  unfold Http.Target.cut? at hcut
  rw [List.span_eq_takeWhile_dropWhile] at hcut
  simp only [Option.ite_none_right_eq_some, Option.some.injEq, Prod.mk.injEq] at hcut
  obtain ⟨-, hpath, hquery⟩ := hcut
  subst hpath hquery
  have hgo : (fun c => decide (c ≠ '?' ∧ c ≠ '#')) = goesOn := rfl
  rw [hgo]
  unfold patchOf
  simp only [Bool.false_eq_true, if_false]
  congr 2
  generalize target.toList.dropWhile goesOn = rest
  cases rest with
  | nil => rfl
  | cons first rest =>
    by_cases hfirst : first = '?'
    · subst hfirst
      rfl
    · simp [hfirst]

theorem write_eq_patchOf {place name part settings target : String} (hn : name ≠ "")
    (ht : s!"{place}/{name}{part}?{settings}" = target) (h : Sendable target) (type : String)
    (body : Json) :
    Request.write .patch place name part settings type body = .ok (patchOf target type body) := by
  unfold Request.write
  rw [if_neg hn, ht]
  exact ofTarget_eq_patchOf h type body

end ClusterKeeper.Kube
