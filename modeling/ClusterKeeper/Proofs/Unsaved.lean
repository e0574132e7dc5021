import ClusterKeeper.Proofs.Counting
import ClusterKeeper.Proofs.LateInitialization

/-!
# Parameters that the store does not have

An observation takes unset parameters from the database and has the store accept them. Where the
store refuses, the cluster in memory keeps them: the next observation compares with what it is
given, finds nothing new, and stores nothing. What was refused stays unsaved until the database
sets yet another parameter.

* `Looking`: what an observation asks, and what becomes of the cluster.
* `Deposit`: the parameters that the store accepted last, and whether it refused any since.
* `tracks_of_looking`, `tracks_of_watched`: how the cluster in memory differs from them, kept by
  one observation and by any number.
* `countP_asksStore_le`: few observations have the store asked at all.
* `saved_iff_not_refused`: when the cluster in memory and the store do not differ.
-/

namespace ClusterKeeper

namespace Lifecycle

open Prog

variable {session : Session} {c c' c₀ : Cluster} {es es' : List Outside.Event}
  {r : Except Error Sighting}

/-- The store is asked to take a cluster, with its answer. -/
abbrev offer (c : Cluster) (answer : Except Kube.Failure Cluster) : Outside.Event :=
  ⟨.kube (.replaceCluster c.anyName c), answer⟩

/-! ## One observation -/

/-- **Observing** a cluster leaves its parameters alone, or takes those that the database sets; then
it offers them to the store and keeps them whatever the answer. -/
inductive Looking (session : Session) (c : Cluster) :
    List Outside.Event → Except Error Sighting × Cluster → Prop
  | unbound (h : c.externalName = "") : Looking session c [] (.ok {}, c)
  | unseen (f : CallFailure) {r : Except Error Sighting} (hr : ∀ s, r = .ok s → s.present = false) :
      Looking session c [fetch session c.externalName (.error f), tally "get" f.isNotFound] (r, c)
  | unchanged {db : Database} (h : c.spec.forProvider.lateInitialize db = c.spec.forProvider)
      (now : Instant) :
      Looking session c
        [fetch session c.externalName (.ok db), tally "get" true, told now]
        (.ok { present := true, upToDate := true }, (c.observed db).settleStatus now)
  | refused {db : Database} (h : c.spec.forProvider.lateInitialize db ≠ c.spec.forProvider)
      (f : Kube.Failure) {e : Error} :
      Looking session c
        [fetch session c.externalName (.ok db), tally "get" true,
          offer (c.lateInitialize db) (.error f)]
        (.error e, c.lateInitialize db)
  | accepted {db : Database} (h : c.spec.forProvider.lateInitialize db ≠ c.spec.forProvider)
      (kept : Cluster) (now : Instant) :
      Looking session c
        [fetch session c.externalName (.ok db), tally "get" true,
          offer (c.lateInitialize db) (.ok kept), told now]
        (.ok { present := true, upToDate := true },
          (({ c.lateInitialize db with metadata := kept.metadata }).observed db).settleStatus now)

theorem forProvider_settleStatus (c : Cluster) (db : Database) (now : Instant) :
    ((c.observed db).settleStatus now).spec.forProvider = c.spec.forProvider := by
  unfold Cluster.settleStatus
  split <;> rfl

theorem run_settle {db : Database} {p : Except Error Sighting × Cluster}
    (h : (settle c db).Run es p) : ∃ now, es = [told now] ∧
      p = (.ok { present := true, upToDate := true }, (c.observed db).settleStatus now) := by
  obtain ⟨now, es', rfl, h'⟩ := run_query_bind.1 h
  obtain ⟨rfl, rfl⟩ := run_done_iff.1 h'
  exact ⟨now, rfl, rfl⟩

theorem run_replace {answer : Except Error Cluster}
    (h : (Work.ofAccess (Kube.replace c)).Run es answer) :
    ∃ a : Except Kube.Failure Cluster, es = [offer c a] ∧
      answer = a.mapError fun f => .kube f.message := by
  obtain ⟨a, es', rfl, h'⟩ := run_ask_iff.1 h
  obtain ⟨rfl, rfl⟩ := run_done_iff.1 h'
  exact ⟨a, rfl, rfl⟩

/-- What follows a database that was fetched. -/
theorem looking_of_adopt {db : Database} {p : Except Error Sighting × Cluster}
    (h : (adopt c db).Run es p) :
    Looking session c (fetch session c.externalName (.ok db) :: tally "get" true :: es) p := by
  unfold adopt at h
  simp only at h
  split at h
  · rename_i hl
    obtain ⟨now, rfl, rfl⟩ := run_settle h
    exact .unchanged hl now
  · rename_i hl
    obtain ⟨es₁, stored, es₂, hs, h₁, rfl⟩ := run_bind_iff.1 h
    obtain ⟨answer, rfl, rfl⟩ := run_replace hs
    cases answer with
    | error f =>
      obtain ⟨rfl, rfl⟩ := run_done_iff.1 h₁
      exact .refused hl f
    | ok kept =>
      obtain ⟨now, rfl, rfl⟩ := run_settle h₁
      exact .accepted hl kept now

theorem Looking.of_run {p : Except Error Sighting × Cluster} (h : (observe session c).Run es p) :
    Looking session c es p := by
  unfold observe at h
  split at h
  · rename_i hn
    obtain ⟨rfl, rfl⟩ := run_done_iff.1 h
    exact .unbound hn
  · obtain ⟨answer, es₁, rfl, h₁⟩ := run_query_bind.1 h
    cases answer with
    | error f =>
      obtain ⟨_, es₂, rfl, h₂⟩ := run_query_bind.1 h₁
      split at h₂
      · obtain ⟨rfl, rfl⟩ := run_done_iff.1 h₂
        exact .unseen f fun s hs => by cases hs; rfl
      · obtain ⟨rfl, rfl⟩ := run_done_iff.1 h₂
        exact .unseen f fun s hs => by cases hs
    | ok db =>
      obtain ⟨_, es₂, rfl, h₂⟩ := run_query_bind.1 h₁
      exact looking_of_adopt h₂

/-! ## What the store has -/

/-- **What the store is known to have**: the parameters that it accepted last, and whether it
refused any since. -/
structure Deposit where
  accepted : Parameters
  refused : Bool := false

namespace Deposit

/-- What one more answer says of it. -/
def next (d : Deposit) : Outside.Event → Deposit
  | ⟨.kube (.replaceCluster _ sent), .ok _⟩ => { accepted := sent.spec.forProvider }
  | ⟨.kube (.replaceCluster _ _), .error _⟩ => { d with refused := true }
  | _ => d

/-- What the answers to a cluster's observations say of it, from the parameters that it had at
first. -/
def after (c₀ : Cluster) (es : List Outside.Event) : Deposit :=
  es.foldl next { accepted := c₀.spec.forProvider }

theorem after_append (es es' : List Outside.Event) :
    after c₀ (es ++ es') = es'.foldl next (after c₀ es) := List.foldl_append

/-- **The parameters in memory** are those that the store accepted last, or have fewer unset if it
refused any since. -/
structure Tracks (d : Deposit) (p : Parameters) : Prop where
  saved : d.refused = false → p = d.accepted
  unsaved : d.refused = true → p.unset < d.accepted.unset

variable {d : Deposit} {p : Parameters}

theorem Tracks.unset_le (h : d.Tracks p) : p.unset ≤ d.accepted.unset := by
  cases hd : d.refused with
  | false => exact (congrArg Parameters.unset (h.saved hd)).le
  | true => exact (h.unsaved hd).le

theorem Tracks.eq_iff (h : d.Tracks p) : p = d.accepted ↔ d.refused = false := by
  constructor
  · rintro rfl
    cases hd : d.refused with
    | false => rfl
    | true => exact absurd (h.unsaved hd) (lt_irrefl _)
  · exact h.saved

theorem tracks_accepted (p : Parameters) : Tracks { accepted := p } p :=
  ⟨fun _ => rfl, nofun⟩

/-- **One observation** keeps track. -/
theorem tracks_of_looking {p : Except Error Sighting × Cluster} (h : Looking session c es p)
    (hd : d.Tracks c.spec.forProvider) : (es.foldl next d).Tracks p.2.spec.forProvider := by
  cases h with
  | unbound _ => exact hd
  | unseen f _ => exact hd
  | unchanged _ now => rwa [forProvider_settleStatus]
  | @refused db hl f e =>
    -- what was taken makes up for what was refused before
    exact ⟨nofun, fun _ => (Parameters.unset_lateInitialize_lt hl).trans_le hd.unset_le⟩
  | accepted _ kept now =>
    rw [forProvider_settleStatus]
    exact tracks_accepted _

end Deposit

/-! ## Any number of observations -/

/-- A cluster in memory that is observed over and over: what was asked and answered, and the cluster
as it is now. -/
inductive Watched (c₀ : Cluster) : List Outside.Event → Cluster → Prop
  | start : Watched c₀ [] c₀
  | observed {es es' : List Outside.Event} {session : Session} {c c' : Cluster}
      {r : Except Error Sighting} (h : Watched c₀ es c) (ho : (observe session c).Run es' (r, c')) :
      Watched c₀ (es ++ es') c'

/-- **Any number of observations** keep track. -/
theorem tracks_of_watched (h : Watched c₀ es c) :
    (Deposit.after c₀ es).Tracks c.spec.forProvider := by
  induction h with
  | start => exact Deposit.tracks_accepted _
  | observed _ ho ih =>
    rw [Deposit.after_append]
    exact Deposit.tracks_of_looking (.of_run ho) ih

/-- The store is asked for something. -/
def asksStore : Outside.Event → Bool
  | ⟨.kube _, _⟩ => true
  | _ => false

/-- **The store is asked** just if the database sets a parameter that is unset in memory. -/
theorem any_asksStore_iff {p : Except Error Sighting × Cluster} (h : Looking session c es p) :
    es.any asksStore = true ↔ ∃ db, fetch session c.externalName (.ok db) ∈ es ∧
      c.spec.forProvider.lateInitialize db ≠ c.spec.forProvider := by
  cases h with
  | unbound _ => simp
  | unseen f _ => simp [asksStore]
  | @unchanged db h now => simp [asksStore, h]
  | @refused db h f e => simp [asksStore, h]
  | @accepted db h kept now => simp [asksStore, h]

/-- **Step.** What is offered to the store fills a place in memory. -/
theorem countP_asksStore_of_looking {p : Except Error Sighting × Cluster}
    (h : Looking session c es p) :
    es.countP asksStore + p.2.spec.forProvider.unset ≤ c.spec.forProvider.unset := by
  cases h with
  | unbound _ => simp
  | unseen f _ => simp [asksStore]
  | unchanged _ now => simp [asksStore, forProvider_settleStatus]
  | @refused db hl f e =>
    have hless : (c.lateInitialize db).spec.forProvider.unset < c.spec.forProvider.unset :=
      Parameters.unset_lateInitialize_lt hl
    have hone : [fetch session c.externalName (.ok db), tally "get" true,
        offer (c.lateInitialize db) (.error f)].countP asksStore = 1 := rfl
    rw [hone]
    change 1 + (c.lateInitialize db).spec.forProvider.unset ≤ c.spec.forProvider.unset
    omega
  | @accepted db hl kept now =>
    have hless : (c.lateInitialize db).spec.forProvider.unset < c.spec.forProvider.unset :=
      Parameters.unset_lateInitialize_lt hl
    have hone : [fetch session c.externalName (.ok db), tally "get" true,
        offer (c.lateInitialize db) (.ok kept), told now].countP asksStore = 1 := rfl
    rw [hone, forProvider_settleStatus]
    change 1 + (c.lateInitialize db).spec.forProvider.unset ≤ c.spec.forProvider.unset
    omega

/-- **Run.** However often a cluster in memory is observed, and whatever the store answers, at most
three times is it offered to the store. -/
theorem countP_asksStore_le (h : Watched c₀ es c) : es.countP asksStore ≤ 3 := by
  have hfilled : es.countP asksStore + c.spec.forProvider.unset ≤ c₀.spec.forProvider.unset := by
    induction h with
    | start => simp
    | @observed es es' session c c' r _ ho ih =>
      have hstep : es'.countP asksStore + c'.spec.forProvider.unset ≤ c.spec.forProvider.unset :=
        countP_asksStore_of_looking (.of_run ho)
      rw [List.countP_append]
      omega
  have hthree := c₀.spec.forProvider.unset_le_three
  omega

/-- **What a database sets is set in memory**, whatever the store answered. -/
theorem lateInitialize_of_looking {p : Except Error Sighting × Cluster} {db : Database}
    (h : Looking session c es p) (he : fetch session c.externalName (.ok db) ∈ es) :
    p.2.spec.forProvider.lateInitialize db = p.2.spec.forProvider := by
  cases h with
  | unbound _ => cases he
  | unseen f _ => simp at he
  | unchanged hl now =>
    obtain rfl : db = _ := by simpa using he
    rwa [forProvider_settleStatus]
  | refused _ f =>
    obtain rfl : db = _ := by simpa using he
    exact Parameters.lateInitialize_lateInitialize _ _
  | accepted _ kept now =>
    obtain rfl : db = _ := by simpa using he
    rw [forProvider_settleStatus]
    exact Parameters.lateInitialize_lateInitialize _ _

/-- **A refused parameter stays unsaved.** After any number of observations of a cluster in memory
its parameters are those that the store accepted last, or the first ones, exactly if the store has
refused none since. An observation asks the store just if the database sets a parameter that is
unset in memory, and what it sets is set there from then on, whatever the store answers. -/
theorem saved_iff_not_refused (h : Watched c₀ es c) :
    (c.spec.forProvider = (Deposit.after c₀ es).accepted ↔
      (Deposit.after c₀ es).refused = false) ∧
    ∀ session es' r c', (observe session c).Run es' (r, c') →
      (es'.any asksStore = true ↔ ∃ db, fetch session c.externalName (.ok db) ∈ es' ∧
        c.spec.forProvider.lateInitialize db ≠ c.spec.forProvider) ∧
      ∀ db, fetch session c.externalName (.ok db) ∈ es' →
        c'.spec.forProvider.lateInitialize db = c'.spec.forProvider := by
  refine ⟨(tracks_of_watched h).eq_iff, fun session es' r c' ho => ?_⟩
  exact ⟨any_asksStore_iff (.of_run ho), fun db => lateInitialize_of_looking (.of_run ho)⟩

namespace Sample

/-- A remote API that has a database with an engine, and a store that refuses everything. -/
def refuses : (q : Outside.Question) → Outside.Answer q
  | .database _ (.get id) => .ok { id, engine := "pg" }
  | q => answers q

/-- One observation of a cluster. -/
def look (c : Cluster) : List Outside.Event × (Except Error Sighting × Cluster) :=
  Prog.play (fun _ => refuses) 0 (observe opened c)

theorem run_look (c : Cluster) :
    (observe opened c).Run (look c).1 ((look c).2.1, (look c).2.2) :=
  Prog.run_play (I := Outside.interface) (fun _ => refuses) 0 (observe opened c)

/-- A cluster of which nothing is known but its database. -/
def bare : Cluster := Exchange.Sample.cluster "a"

/-- The cluster after an observation that the store refused. -/
def filled : Cluster := (look bare).2.2

theorem watched_filled : Watched bare ((look bare).1 ++ (look filled).1) (look filled).2.2 :=
  .observed (.observed .start (run_look bare)) (run_look filled)

theorem refused_filled :
    (Deposit.after bare ((look bare).1 ++ (look filled).1)).refused = true := by
  decide +kernel

end Sample

open Sample in
/-- A parameter that was refused once is reported with a database, and is not in the store. -/
theorem saved_iff_not_refused_once : (look filled).2.2.spec.forProvider ≠
    (Deposit.after bare ((look bare).1 ++ (look filled).1)).accepted := by
  intro h
  have hrefused := (saved_iff_not_refused watched_filled).1.1 h
  exact Bool.false_ne_true (hrefused.symm.trans refused_filled)

open Sample in
/-- **What an observation reports need not be stored**: after the store refused once, the second
observation finds the database and leaves parameters in memory that the store does not have. -/
theorem found_unsaved : ¬ ∀ (c₀ c c' : Cluster) (es es' : List Outside.Event) (session : Session)
    (s : Sighting), Watched c₀ es c → (observe session c).Run es' (.ok s, c') → s.present = true →
      c'.spec.forProvider = (Deposit.after c₀ (es ++ es')).accepted := by
  intro h
  have hok : (look filled).2.1 = .ok { present := true, upToDate := true } := by decide +kernel
  have hrun := run_look filled
  rw [hok] at hrun
  have hsaved := h bare filled _ _ _ opened _ (.observed .start (run_look bare)) hrun rfl
  have hunsaved : (look filled).2.2.spec.forProvider ≠
      (Deposit.after bare (([] ++ (look bare).1) ++ (look filled).1)).accepted := by
    decide +kernel
  exact hunsaved hsaved

end Lifecycle

end ClusterKeeper
