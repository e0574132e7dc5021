import ClusterKeeper.Credentials
import ClusterKeeper.Kube.Api
import ClusterKeeper.Prog

/-!
# Work on the object store

Programs that ask the object store and nothing else.

* `Kube.token`: the token of the remote API, read from a provider configuration and
  the secret that it selects.
* `Kube.replace`, `Kube.publish`: storing a cluster, and a connection secret.
-/

namespace ClusterKeeper.Kube

/-- Calls of the object store and how they end. -/
@[reducible] def interface : Interface where
  Question := Call
  Answer call := Except Failure call.Answer

/-- Work that asks the object store and nothing else. -/
abbrev Access (α : Type) := Prog interface (Except Error α)

/-- Make a call, and an error of its failure. -/
def call (c : Call) (error : Failure → Error) : Access c.Answer :=
  .ask c fun answer => .done (answer.mapError error)

/-- Read a secret. -/
def secret (ns name : String) : Access Secret :=
  call (.getSecret ns name) fun f => .kube s!"Failed to get secret {ns}/{name}: {f.message}"

/-- Store a cluster in the place of the one with its name. -/
def replace (c : Cluster) : Access Cluster :=
  call (.replaceCluster c.anyName c) fun f => .kube f.message

/-- Record the identifier that the remote API gave. -/
def persistExternalName (c : Cluster) : Access Cluster :=
  call (.setExternalName c.anyName c.externalName) fun f =>
    .kube s!"Failed to set external name: {f.message}"

/-- Record the status of a cluster, if it has one. -/
def recordStatus (c : Cluster) : Access Unit :=
  match c.status with
  | none => .done (.ok ())
  | some status =>
    (call (.setStatus c.anyName status) fun f =>
        .kube s!"Failed to update status: {f.message}").bind
      fun result => .done (result.map fun _ => ())

/-- Write connection details to a secret. -/
def applyConnectionSecret (c : Cluster) (reference : SecretReference)
    (details : ConnectionDetails) : Access Unit :=
  (call (.applySecret reference (c.connectionSecret reference details)) fun f =>
      .kube s!"Failed to apply connection secret: {f.message}").bind
    fun result => .done (result.map fun _ => ())

/-- Write connection details, if there are any, to the secret that the cluster asks
for, if it asks for one. -/
def publish (c : Cluster) (details : ConnectionDetails) : Access Unit :=
  if details.isEmpty then .done (.ok ())
  else
    match c.spec.connectionSecretRef with
    | some reference => applyConnectionSecret c reference details
    | none => .done (.ok ())

/-- The token of the remote API, by the name of a provider configuration. -/
def token (providerConfig : String) : Access String :=
  .ask (.getProviderConfig providerConfig) fun
    | .error f => .done (.error (CredentialsFailure.noProviderConfig providerConfig f).error)
    | .ok config =>
      match config.selector with
      | .error failure => .done (.error failure.error)
      | .ok selector =>
        (secret selector.ns selector.name).bind fun
          | .error e => .done (.error (CredentialsFailure.noSecret e).error)
          | .ok s => .done ((config.token s).mapError CredentialsFailure.error)

end ClusterKeeper.Kube
