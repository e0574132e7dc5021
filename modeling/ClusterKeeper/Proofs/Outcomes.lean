import ClusterKeeper.Database.Api

/-!
# What the remote API is asked and says

The requests of its calls, and what their outcomes come to.

* `method_of_request`: the method of a call.
* `status_of_isNotFound`: only a status says that there is no database.
* `isGone_interpret_iff`: what answers to a deletion leave no database.
-/

namespace ClusterKeeper

variable {session : Session}

theorem method_of_requestAt {method : Http.Method} {path : String} {body : Option Json}
    {request : DatabaseRequest} (h : session.requestAt method path body = .ok request) :
    request.method = method := by
  unfold Session.requestAt at h
  repeat' split at h
  all_goals cases h
  rfl

/-- The method that a call of the remote API is made with. -/
def methodOf : DatabaseCall → Http.Method
  | .get _ => .get
  | .create _ => .post
  | .delete _ => .delete

theorem method_of_request {call : DatabaseCall} {request : DatabaseRequest}
    (h : session.request call = .ok request) : request.method = methodOf call := by
  cases call with
  | get i => rw [Session.request] at h; exact method_of_requestAt h
  | create asked => rw [Session.request] at h; exact method_of_requestAt h
  | delete i => rw [Session.request] at h; exact method_of_requestAt h

/-- A call whose request cannot be formed says nothing of a database. -/
theorem isNotFound_of_request_error {call : DatabaseCall} {f : CallFailure}
    (h : session.request call = .error f) : f.isNotFound = false := by
  have hat {method : Http.Method} {path : String} {body : Option Json}
      (h : session.requestAt method path body = .error f) : f.isNotFound = false := by
    unfold Session.requestAt at h
    repeat' split at h
    all_goals cases h
    all_goals rfl
  cases call with
  | get i => rw [Session.request] at h; exact hat h
  | create asked => rw [Session.request] at h; exact hat h
  | delete i => rw [Session.request] at h; exact hat h

/-- A response makes a database missing only by its status. -/
theorem status_of_isNotFound {url : Url} {i : String} {outcome : Http.Outcome} {f : CallFailure}
    (h : DatabaseCall.interpret url outcome (.get i) = .error f) (hf : f.isNotFound = true) :
    ∃ r, outcome = .response r ∧ r.status = 404 := by
  unfold DatabaseCall.interpret at h
  cases outcome with
  | noResponse => cases h; cases hf
  | response r =>
    refine ⟨r, rfl, ?_⟩
    by_cases hs : Http.isSuccess r.status = true
    · simp only [DatabaseCall.arrived, DatabaseCall.checked, hs, if_true, bind, Except.bind] at h
      cases ho : DatabaseCall.opened r with
      | error f' =>
        rw [ho] at h
        cases h
        unfold DatabaseCall.opened at ho
        split at ho
        · cases ho
        · cases ho; cases hf
      | ok database? =>
        rw [ho] at h
        cases database? with
        | none => cases h; cases hf
        | some database => cases h
    · simp only [DatabaseCall.arrived, DatabaseCall.checked, hs, bind, Except.bind] at h
      cases h
      simpa [CallFailure.isNotFound] using hf

/-- Whether there is no database after the answer to a call that deletes it. -/
def isGone : Except CallFailure Unit → Bool
  | .ok _ => true
  | .error f => f.isNotFound

/-- **A deletion is done** by a response of success, and by the one that there is no database. -/
theorem isGone_interpret_iff {url : Url} {i : String} {outcome : Http.Outcome} :
    isGone (DatabaseCall.interpret url outcome (.delete i)) = true ↔
      ∃ r, outcome = .response r ∧ (Http.isSuccess r.status = true ∨ r.status = 404) := by
  unfold DatabaseCall.interpret
  cases outcome with
  | noResponse => simp [DatabaseCall.arrived, isGone, CallFailure.isNotFound, bind, Except.bind]
  | response r =>
    simp only [Http.Outcome.response.injEq, exists_eq_left']
    by_cases hs : Http.isSuccess r.status = true
    · simp only [DatabaseCall.arrived, DatabaseCall.checked, hs, if_true, bind, Except.bind,
        true_or, isGone]
    · simp only [DatabaseCall.arrived, DatabaseCall.checked, hs, bind, Except.bind, false_or,
        Bool.false_eq_true, if_false, isGone, CallFailure.isNotFound, beq_iff_eq]

end ClusterKeeper
