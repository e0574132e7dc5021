import ClusterKeeper.Cluster.Basic
import ClusterKeeper.ConnectionDetails

/-!
# Connection secrets

Connection details are published as a secret that belongs to the cluster, and so
goes when the cluster goes.

* `Cluster.connectionSecret`: the secret.
-/

namespace ClusterKeeper.Cluster

/-- The cluster as the owner of another object. -/
def ownerReference (c : Cluster) : OwnerReference where
  apiVersion := apiVersion
  blockOwnerDeletion := some true
  controller := some true
  kind := kind
  name := c.anyName
  uid := c.metadata.uid.getD ""

/-- The type of connection secrets. -/
def connectionSecretType : String := "connection.crossplane.io/v1alpha1"

/-- The secret that publishes connection details at a reference. -/
def connectionSecret (c : Cluster) (reference : SecretReference) (details : ConnectionDetails) :
    Secret where
  metadata := {
    name := some reference.name
    ns := some reference.ns
    ownerReferences := some [c.ownerReference] }
  type := some connectionSecretType
  data := some details

end ClusterKeeper.Cluster
