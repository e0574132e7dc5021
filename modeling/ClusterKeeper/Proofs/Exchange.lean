import ClusterKeeper.Exchange
import ClusterKeeper.Proofs.Run

/-!
# Work as exchanges

A call makes one exchange, or none if its request cannot be formed, and what it gives is read
in the outcome. Work makes the exchanges of its calls, one after another.

* `Asked`, `Called`: what a call of the object store and one of the remote API can come to.
* `Carried`: what work can come to.
* `carried_bind`: work after work makes the exchanges of the first and then of the second.
-/

namespace ClusterKeeper.Exchange

open Prog

/-- A request with its outcome, or something else that is asked with its answer. -/
abbrev Event : Type := interface.Event

/-- What was exchanged, in order. -/
abbrev Trace : Type := List Event

/-- The time that was told. -/
abbrev Event.clock (now : Instant) : Event := ⟨.clock, now⟩

/-- Something that was counted. -/
abbrev Event.record (event : Metrics.Event) : Event := ⟨.record event, ()⟩

/-- A wait. -/
abbrev Event.pause (millis : Nat) : Event := ⟨.pause millis, ()⟩

/-- A request to the remote API and its outcome. -/
abbrev Event.database (request : DatabaseRequest) (outcome : Http.Outcome) : Event :=
  ⟨.database request, outcome⟩

/-- A request to the object store and its outcome. -/
abbrev Event.kube (request : Kube.Request) (outcome : Http.Outcome) : Event :=
  ⟨.kube request, outcome⟩

/-- **A call of the object store**: no request can be formed, or one is sent and its outcome
read. -/
inductive Asked (call : Kube.Call) : Trace → Except Kube.Failure call.Answer → Prop
  | refused {f : Kube.Failure} (h : call.request = .error f) : Asked call [] (.error f)
  | sent {request : Kube.Request} (h : call.request = .ok request) (outcome : Http.Outcome) :
      Asked call [.kube request outcome] (call.interpret outcome)

/-- **A call of the remote API**, likewise. -/
inductive Called (session : Session) (call : DatabaseCall) :
    Trace → Except CallFailure call.Answer → Prop
  | refused {f : CallFailure} (h : session.request call = .error f) :
      Called session call [] (.error f)
  | sent {request : DatabaseRequest} (h : session.request call = .ok request)
      (outcome : Http.Outcome) :
      Called session call [.database request outcome] (call.interpret request.url outcome)

theorem asked_iff {call : Kube.Call} {es : Trace} {a : Except Kube.Failure call.Answer} :
    Asked call es a ↔ (∃ f, call.request = .error f ∧ es = [] ∧ a = .error f) ∨
      ∃ request outcome, call.request = .ok request ∧ es = [.kube request outcome] ∧
        a = call.interpret outcome := by
  constructor
  · intro h
    cases h with
    | refused hf => exact Or.inl ⟨_, hf, rfl, rfl⟩
    | sent hr outcome => exact Or.inr ⟨_, outcome, hr, rfl, rfl⟩
  · rintro (⟨f, hf, rfl, rfl⟩ | ⟨request, outcome, hr, rfl, rfl⟩)
    · exact .refused hf
    · exact .sent hr outcome

theorem called_iff {session : Session} {call : DatabaseCall} {es : Trace}
    {a : Except CallFailure call.Answer} :
    Called session call es a ↔ (∃ f, session.request call = .error f ∧ es = [] ∧ a = .error f) ∨
      ∃ request outcome, session.request call = .ok request ∧
        es = [.database request outcome] ∧ a = call.interpret request.url outcome := by
  constructor
  · intro h
    cases h with
    | refused hf => exact Or.inl ⟨_, hf, rfl, rfl⟩
    | sent hr outcome => exact Or.inr ⟨_, outcome, hr, rfl, rfl⟩
  · rintro (⟨f, hf, rfl, rfl⟩ | ⟨request, outcome, hr, rfl, rfl⟩)
    · exact .refused hf
    · exact .sent hr outcome

/-- A call whose request can be formed is one exchange. -/
theorem sent_of_asked {call : Kube.Call} {request : Kube.Request} {es : Trace}
    {a : Except Kube.Failure call.Answer} (h : Asked call es a) (hr : call.request = .ok request) :
    ∃ outcome, es = [.kube request outcome] ∧ call.interpret outcome = a := by
  cases h with
  | refused hf => cases hr.symm.trans hf
  | sent hr' outcome =>
    cases hr.symm.trans hr'
    exact ⟨outcome, rfl, rfl⟩

theorem run_kube_iff {call : Kube.Call} {es : Trace} {a : Except Kube.Failure call.Answer} :
    (kube call).Run es a ↔ Asked call es a := by
  unfold kube
  constructor
  · intro h
    split at h
    · rename_i f hf
      obtain ⟨rfl, rfl⟩ := run_done_iff.1 h
      exact .refused hf
    · rename_i request hr
      obtain ⟨outcome, es', rfl, h'⟩ := run_ask_iff.1 h
      obtain ⟨rfl, rfl⟩ := run_done_iff.1 h'
      exact .sent hr outcome
  · intro h
    cases h with
    | refused hf => rw [hf]; exact .done _
    | sent hr outcome => rw [hr]; exact run_ask_iff.2 ⟨outcome, [], rfl, .done _⟩

theorem run_database_iff {session : Session} {call : DatabaseCall} {es : Trace}
    {a : Except CallFailure call.Answer} :
    (database session call).Run es a ↔ Called session call es a := by
  unfold database
  constructor
  · intro h
    split at h
    · rename_i f hf
      obtain ⟨rfl, rfl⟩ := run_done_iff.1 h
      exact .refused hf
    · rename_i request hr
      obtain ⟨outcome, es', rfl, h'⟩ := run_ask_iff.1 h
      obtain ⟨rfl, rfl⟩ := run_done_iff.1 h'
      exact .sent hr outcome
  · intro h
    cases h with
    | refused hf => rw [hf]; exact .done _
    | sent hr outcome => rw [hr]; exact run_ask_iff.2 ⟨outcome, [], rfl, .done _⟩

/-- Work can make the exchanges `es` and give `a`. -/
def Carried {α : Type} (work : Work α) (es : Trace) (a : α) : Prop :=
  (work.handle carryOut).Run es a

variable {α β : Type}

@[simp] theorem carried_done {es : Trace} {a b : α} :
    Carried (.done a) es b ↔ es = [] ∧ b = a := run_done_iff

theorem carried_bind {w : Work α} {f : α → Work β} {es : Trace} {b : β} :
    Carried (w.bind f) es b ↔
      ∃ es₁ a es₂, Carried w es₁ a ∧ Carried (f a) es₂ b ∧ es = es₁ ++ es₂ := by
  unfold Carried
  rw [handle_bind, run_bind_iff]

@[simp] theorem carried_clock {es : Trace} {now : Instant} :
    Carried Work.clock es now ↔ es = [.clock now] := by
  unfold Carried Work.clock
  rw [handle_query]
  exact run_query_iff

@[simp] theorem carried_record {event : Metrics.Event} {es : Trace} {u : Unit} :
    Carried (Work.record event) es u ↔ es = [.record event] := by
  unfold Carried Work.record
  rw [handle_query]
  exact run_query_iff

@[simp] theorem carried_database {session : Session} {call : DatabaseCall} {es : Trace}
    {a : Except CallFailure call.Answer} :
    Carried (Work.database session call) es a ↔ Called session call es a := by
  unfold Carried Work.database
  rw [handle_query]
  exact run_database_iff

theorem carried_clock_bind {f : Instant → Work β} {es : Trace} {b : β} :
    Carried (Work.clock >>= f) es b ↔
      ∃ now es', Carried (f now) es' b ∧ es = .clock now :: es' := by
  rw [bind_eq, carried_bind]
  constructor
  · rintro ⟨es₁, now, es₂, hn, h, rfl⟩
    obtain rfl := carried_clock.1 hn
    exact ⟨now, es₂, h, rfl⟩
  · rintro ⟨now, es', h, rfl⟩
    exact ⟨[.clock now], now, es', carried_clock.2 rfl, h, rfl⟩

theorem carried_record_bind {event : Metrics.Event} {f : Unit → Work β} {es : Trace} {b : β} :
    Carried (Work.record event >>= f) es b ↔
      ∃ es', Carried (f ()) es' b ∧ es = .record event :: es' := by
  rw [bind_eq, carried_bind]
  constructor
  · rintro ⟨es₁, u, es₂, hu, h, rfl⟩
    obtain rfl := carried_record.1 hu
    exact ⟨es₂, h, rfl⟩
  · rintro ⟨es', h, rfl⟩
    exact ⟨[.record event], (), es', carried_record.2 rfl, h, rfl⟩

theorem carried_database_bind {session : Session} {call : DatabaseCall}
    {f : Except CallFailure call.Answer → Work β} {es : Trace} {b : β} :
    Carried (Work.database session call >>= f) es b ↔
      ∃ es₁ a es₂, Called session call es₁ a ∧ Carried (f a) es₂ b ∧ es = es₁ ++ es₂ := by
  rw [bind_eq, carried_bind]
  simp only [carried_database]

/-- **Work on the object store alone** can make the exchanges `es` and give `r`. -/
def Accessed (access : Kube.Access α) (es : Trace) (r : Except Error α) : Prop :=
  (Prog.handle kube access).Run es r

@[simp] theorem carried_ofAccess {access : Kube.Access α} {es : Trace} {r : Except Error α} :
    Carried (Work.ofAccess access) es r ↔ Accessed access es r := by
  unfold Carried Work.ofAccess Accessed
  rw [handle_handle]
  have h : (fun call : Kube.Call =>
      Prog.handle carryOut (query (I := Outside.interface) (Outside.Question.kube call))) = kube :=
    funext fun call => handle_query (I := Outside.interface) carryOut (.kube call)
  rw [h]

@[simp] theorem accessed_done {es : Trace} {r r' : Except Error α} :
    Accessed (.done r : Kube.Access α) es r' ↔ es = [] ∧ r' = r := run_done_iff

theorem accessed_bind {p : Kube.Access α} {f : Except Error α → Kube.Access β} {es : Trace}
    {r : Except Error β} :
    Accessed (Prog.bind p f : Kube.Access β) es r ↔
      ∃ es₁ a es₂, Accessed p es₁ a ∧ Accessed (f a) es₂ r ∧ es = es₁ ++ es₂ := by
  unfold Accessed
  rw [handle_bind, run_bind_iff]

theorem accessed_ask {call : Kube.Call} {next : Except Kube.Failure call.Answer → Kube.Access α}
    {es : Trace} {r : Except Error α} :
    Accessed (.ask call next : Kube.Access α) es r ↔
      ∃ es₁ a es₂, Asked call es₁ a ∧ Accessed (next a) es₂ r ∧ es = es₁ ++ es₂ := by
  unfold Accessed
  rw [handle_ask, run_bind_iff]
  simp only [run_kube_iff]

theorem accessed_call {call : Kube.Call} {error : Kube.Failure → Error} {es : Trace}
    {r : Except Error call.Answer} :
    Accessed (Kube.call call error) es r ↔ ∃ a, Asked call es a ∧ r = a.mapError error := by
  unfold Kube.call
  rw [accessed_ask]
  constructor
  · rintro ⟨es₁, a, es₂, ha, h, rfl⟩
    obtain ⟨rfl, rfl⟩ := accessed_done.1 h
    exact ⟨a, by rwa [List.append_nil], rfl⟩
  · rintro ⟨a, ha, rfl⟩
    exact ⟨es, a, [], ha, accessed_done.2 ⟨rfl, rfl⟩, (List.append_nil es).symm⟩

/-- A session with the remote API, for samples of what is exchanged with it. -/
def Sample.signedIn : Session := ⟨"http://d", "t"⟩

end ClusterKeeper.Exchange
