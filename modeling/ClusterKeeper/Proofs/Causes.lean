import Mathlib.Data.List.Infix
import ClusterKeeper.Error

/-!
# The causes of an error

Three kinds of errors are wrapped in each other: those of a reconcile, what kept a finalizer from
its work, and failed calls. Each names its cause, and its text contains that of the cause, so
nothing is lost however deep errors are nested.

* `FinalizerFailure`: what an error about finalizers says without its label.
* `Cause.source?`: the cause that an error names, and `Cause.Chain`: its causes to the last.
* `contains_of_source?`: the text of an error contains that of the cause that it names.
* `exists_chain`: the causes of an error have an end, and their texts are its `sources`.
* `Error.layers`, `Error.innermost`: what the work of finalizers adds, and what it is added to.
* `Error.no_cause_lost`: the causes of an error, all in its text.
-/

namespace ClusterKeeper

/-- Why a finalizer did not do its work. -/
inductive FinalizerFailure where
  | apply (cause : Error)
  | cleanup (cause : Error)
  | add (cause : Kube.Failure)
  | remove (cause : Kube.Failure)
  | unnamed
  | invalid

/-- The failure in words. -/
def FinalizerFailure.message : FinalizerFailure → String
  | .apply cause => s!"failed to apply object: {cause.message}"
  | .cleanup cause => s!"failed to clean up object: {cause.message}"
  | .add cause => s!"failed to add finalizer: {cause.message}"
  | .remove cause => s!"failed to remove finalizer: {cause.message}"
  | .unnamed => "object has no name"
  | .invalid => "invalid finalizer"

/-- What an error about finalizers is about. -/
def Error.finalizerFailure? : Error → Option FinalizerFailure
  | .applyFailed cause => some (.apply cause)
  | .cleanupFailed cause => some (.cleanup cause)
  | .addFinalizer cause => some (.add cause)
  | .removeFinalizer cause => some (.remove cause)
  | .unnamedObject => some .unnamed
  | .invalidFinalizer => some .invalid
  | _ => none

/-- What can stand in a chain of causes. -/
inductive Cause where
  | error (e : Error)
  | finalizer (f : FinalizerFailure)
  | call (f : CallFailure)
  | store (f : Kube.Failure)
  /-- What an exchange or the object store says, of which only the text is known. -/
  | text (s : String)

namespace Cause

/-- The cause in words. -/
def message : Cause → String
  | .error e => e.message
  | .finalizer f => f.message
  | .call f => f.message
  | .store f => f.message
  | .text s => s

/-- The cause that an error names, if it names one. -/
def source? : Cause → Option Cause
  | .error (.remote _ f) => some (.call f)
  | .error e => e.finalizerFailure?.map .finalizer
  | .finalizer (.apply e) | .finalizer (.cleanup e) => some (.error e)
  | .finalizer (.add f) | .finalizer (.remove f) => some (.store f)
  | .finalizer _ => none
  | .call (.http f) => some (.text f.message)
  | .call _ => none
  | .store (.refused why) => some (.text why.message)
  | .store (.api report) => some (.text report.short)
  | .store (.service cause) | .store (.decoding cause) => some (.text cause)
  | .store (.encoding fault) => some (.text fault.message)
  | .store (.unreadable _) => none
  | .text _ => none

/-- **A chain of causes**: each is the one that the error before it names, and the last names
none. -/
inductive Chain : Cause → List Cause → Prop
  | last {c : Cause} (h : c.source? = none) : Chain c []
  | next {c d : Cause} {cs : List Cause} (h : c.source? = some d) (hd : Chain d cs) :
      Chain c (d :: cs)

/-- The text of one cause contains that of another. -/
def Contains (c d : Cause) : Prop := d.message.toList <:+: c.message.toList

variable {c d : Cause} {cs : List Cause}

theorem contains_of_append (before after : String) (h : c.message = before ++ d.message ++ after) :
    c.Contains d := by
  refine ⟨before.toList, after.toList, ?_⟩
  rw [h, String.toList_append, String.toList_append]

theorem contains_of_ending (before : String) (h : c.message = before ++ d.message) :
    c.Contains d := contains_of_append before "" (by rw [h, String.append_empty])

/-- An error about finalizers is what it is about, with a label in front. -/
theorem message_of_finalizerFailure? {e : Error} {f : FinalizerFailure}
    (h : e.finalizerFailure? = some f) : e.message = Error.finalizerLabel ++ f.message := by
  cases e with
  | applyFailed cause => cases h; exact String.append_assoc
  | cleanupFailed cause => cases h; exact String.append_assoc
  | addFinalizer cause => cases h; exact String.append_assoc
  | removeFinalizer cause => cases h; exact String.append_assoc
  | unnamedObject => cases h; rfl
  | invalidFinalizer => cases h; rfl
  | _ => cases h

theorem contains_of_error {e : Error} (h : source? (.error e) = some d) :
    Contains (.error e) d := by
  by_cases hremote : ∃ context f, e = .remote context f
  · obtain ⟨context, f, rfl⟩ := hremote
    cases h
    exact contains_of_ending (context ++ ": ") rfl
  · have hsource : source? (.error e) = e.finalizerFailure?.map .finalizer := by
      cases e with
      | remote context f => exact absurd ⟨context, f, rfl⟩ hremote
      | _ => rfl
    rw [hsource] at h
    obtain ⟨f, hf, rfl⟩ := Option.map_eq_some_iff.1 h
    exact contains_of_ending Error.finalizerLabel (message_of_finalizerFailure? hf)

/-- **An error contains its cause.** -/
theorem contains_of_source? (h : c.source? = some d) : c.Contains d := by
  cases c with
  | error e => exact contains_of_error h
  | finalizer f =>
    cases f with
    | apply e => cases h; exact contains_of_ending "failed to apply object: " rfl
    | cleanup e => cases h; exact contains_of_ending "failed to clean up object: " rfl
    | add f => cases h; exact contains_of_ending "failed to add finalizer: " rfl
    | remove f => cases h; exact contains_of_ending "failed to remove finalizer: " rfl
    | unnamed => cases h
    | invalid => cases h
  | call f =>
    cases f with
    | http f => cases h; exact contains_of_ending "HTTP request failed: " rfl
    | _ => cases h
  | store f =>
    cases f with
    | refused why => cases h; exact contains_of_ending "Failed to build request: " rfl
    | api report =>
      cases h
      refine contains_of_append "ApiError: " (" (" ++ report.full ++ ")") ?_
      have htext : message (.store (.api report)) =
          "ApiError: " ++ report.short ++ " (" ++ report.full ++ ")" := rfl
      have hshort : message (.text report.short) = report.short := rfl
      rw [htext, hshort, String.append_assoc, String.append_assoc, String.append_assoc,
        String.append_assoc, String.append_assoc]
    | service cause => cases h; exact contains_of_ending "ServiceError: " rfl
    | encoding fault => cases h; exact contains_of_ending "UTF-8 Error: " rfl
    | decoding cause => cases h; exact contains_of_ending "Error deserializing response: " rfl
    | unreadable why => cases h
  | text s => cases h

/-- **All along a chain** each cause is contained in the one before it. -/
theorem Chain.isChain (h : Chain c cs) : (c :: cs).IsChain Contains := by
  induction h with
  | last _ => exact .singleton _
  | next h _ ih => exact .cons_cons (contains_of_source? h) ih

/-- What contains a cause contains its causes. -/
theorem Chain.contains (h : Chain c cs) : ∀ d ∈ cs, c.Contains d := by
  induction h with
  | last _ => exact List.forall_mem_nil _
  | next h _ ih =>
    have hcause := contains_of_source? h
    exact List.forall_mem_cons.2 ⟨hcause, fun d hd => (ih d hd).trans hcause⟩

/-! ## Chains -/

/-- A text is the last cause. -/
theorem exists_chain_text {s : String} (h : c.source? = some (.text s)) :
    ∃ cs, Chain c cs ∧ cs.map message = [s] := ⟨[.text s], .next h (.last rfl), rfl⟩

theorem exists_chain_call (f : CallFailure) :
    ∃ cs, Chain (.call f) cs ∧ cs.map message = f.sources := by
  cases f with
  | http f => exact exists_chain_text rfl
  | _ => exact ⟨[], .last rfl, rfl⟩

theorem exists_chain_store (f : Kube.Failure) :
    ∃ cs, Chain (.store f) cs ∧ cs.map message = f.sources := by
  cases f with
  | unreadable why => exact ⟨[], .last rfl, rfl⟩
  | _ => exact exists_chain_text rfl

/-- A layer of an error about finalizers adds two causes to those of what it is about. -/
theorem exists_chain_wrapped {e : Error} {f : FinalizerFailure} {texts : List String}
    (he : source? (.error e) = some (.finalizer f)) (hf : source? (.finalizer f) = some c)
    (hs : e.sources = f.message :: c.message :: texts)
    (hc : ∃ cs, Chain c cs ∧ cs.map message = texts) :
    ∃ cs, Chain (.error e) cs ∧ cs.map message = e.sources := by
  obtain ⟨cs, hchain, rfl⟩ := hc
  exact ⟨.finalizer f :: c :: cs, .next he (.next hf hchain), hs.symm⟩

/-- **The causes of an error have an end**, however deep it is nested. -/
theorem exists_chain (e : Error) :
    ∃ cs, Chain (.error e) cs ∧ cs.map message = e.sources := by
  induction e with
  | remote context f =>
    obtain ⟨cs, hchain, hs⟩ := exists_chain_call f
    exact ⟨.call f :: cs, .next rfl hchain, congrArg (f.message :: ·) hs⟩
  | applyFailed cause ih => exact exists_chain_wrapped rfl rfl rfl ih
  | cleanupFailed cause ih => exact exists_chain_wrapped rfl rfl rfl ih
  | addFinalizer f => exact exists_chain_wrapped rfl rfl rfl (exists_chain_store f)
  | removeFinalizer f => exact exists_chain_wrapped rfl rfl rfl (exists_chain_store f)
  | unnamedObject => exact ⟨[.finalizer .unnamed], .next rfl (.last rfl), rfl⟩
  | invalidFinalizer => exact ⟨[.finalizer .invalid], .next rfl (.last rfl), rfl⟩
  | _ => exact ⟨[], .last rfl, rfl⟩

/-- A chain goes on with the cause that is named. -/
theorem Chain.of_source? (h : Chain c cs) (hs : c.source? = some d) :
    ∃ ds, cs = d :: ds ∧ Chain d ds := by
  cases h with
  | last hnone =>
    rw [hs] at hnone
    cases hnone
  | next hsome hd =>
    obtain rfl := Option.some.inj (hs.symm.trans hsome)
    exact ⟨_, rfl, hd⟩

end Cause

namespace Error

open Cause

/-- The error that the work of finalizers was ended by. -/
def innermost : Error → Error
  | .applyFailed cause | .cleanupFailed cause => cause.innermost
  | e => e

/-- The layers of errors about finalizers around it, outermost first: in each the error and what it
says without its label. -/
def layers : Error → List Cause
  | .applyFailed cause => .error (.applyFailed cause) :: .finalizer (.apply cause) :: cause.layers
  | .cleanupFailed cause =>
    .error (.cleanupFailed cause) :: .finalizer (.cleanup cause) :: cause.layers
  | _ => []

theorem exists_chain_innermost {e : Error} {cs : List Cause} (h : Chain (.error e) cs) :
    ∃ own, Chain (.error e.innermost) own ∧
      .error e :: cs = e.layers ++ .error e.innermost :: own := by
  induction e generalizing cs with
  | applyFailed cause ih =>
    obtain ⟨_, rfl, hf⟩ := h.of_source? (d := .finalizer (.apply cause)) rfl
    obtain ⟨_, rfl, he⟩ := hf.of_source? (d := .error cause) rfl
    obtain ⟨own, hown, hcs⟩ := ih he
    exact ⟨own, hown, congrArg (_ :: _ :: ·) hcs⟩
  | cleanupFailed cause ih =>
    obtain ⟨_, rfl, hf⟩ := h.of_source? (d := .finalizer (.cleanup cause)) rfl
    obtain ⟨_, rfl, he⟩ := hf.of_source? (d := .error cause) rfl
    obtain ⟨own, hown, hcs⟩ := ih he
    exact ⟨own, hown, congrArg (_ :: _ :: ·) hcs⟩
  | _ => exact ⟨cs, h, rfl⟩

/-- **No cause is lost in the text of an error.** Its causes have an end, and their texts are its
`sources`. They lead through every layer of finalizer errors, to the innermost error and its own
causes. The text of each contains that of the next, and so the text of the error that of them
all. -/
theorem no_cause_lost (e : Error) : ∃ chain own : List Cause,
    Chain (.error e) chain ∧ chain.map Cause.message = e.sources ∧
    Chain (.error e.innermost) own ∧
    .error e :: chain = e.layers ++ .error e.innermost :: own ∧
    (Cause.error e :: chain).IsChain Contains ∧
    ∀ c ∈ chain, Contains (.error e) c := by
  obtain ⟨chain, hchain, hsources⟩ := exists_chain e
  obtain ⟨own, hown, hlayers⟩ := exists_chain_innermost hchain
  exact ⟨chain, own, hchain, hsources, hown, hlayers, hchain.isChain, hchain.contains⟩

end Error

end ClusterKeeper
