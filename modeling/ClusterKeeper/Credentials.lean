import ClusterKeeper.Error
import ClusterKeeper.ProviderConfig
import ClusterKeeper.Resource.Secret
import ClusterKeeper.Text.Blank

/-!
# Credentials

The token of the remote API is the trimmed text under a key of a secret that a
provider configuration names.

* `ProviderConfig.selector`: the key, secret and namespace.
* `ProviderConfig.token`: the token in a secret.
-/

namespace ClusterKeeper

/-- Why there are no credentials. -/
inductive CredentialsFailure where
  | noProviderConfig (name : String) (cause : Kube.Failure)
  | unsupportedSource (source : String) (name : String)
  | noSecretRef (name : String)
  | noSecret (cause : Error)
  | noToken (cause : Secret.Failure)
  | blankToken (ns : String) (name : String)
  | noClient (cause : CallFailure)
  deriving DecidableEq, Repr

namespace CredentialsFailure

/-- The failure in words. -/
def message : CredentialsFailure → String
  | .noProviderConfig name cause => s!"cannot get ProviderConfig {name}: {cause.message}"
  | .unsupportedSource source name =>
    s!"unsupported credentials source {Text.quoted source} in ProviderConfig {name}"
  | .noSecretRef name => s!"ProviderConfig {name} has no credentials secretRef"
  | .noSecret cause => cause.message
  | .noToken cause => (Error.secret cause.message).message
  | .blankToken ns name => s!"empty DigitalOcean token in secret {ns}/{name}"
  | .noClient cause => s!"cannot build DigitalOcean client: {cause.message}"

/-- The failure as an error of a reconcile. -/
def error (f : CredentialsFailure) : Error := .auth f.message

end CredentialsFailure

namespace ProviderConfig

/-- The key, secret and namespace that hold the token. -/
def selector (p : ProviderConfig) : Except CredentialsFailure SecretKeySelector :=
  if p.credentials.source ≠ ProviderCredentials.secretSource then
    .error (.unsupportedSource p.credentials.source p.anyName)
  else
    match p.credentials.secretRef with
    | some selector => .ok selector
    | none => .error (.noSecretRef p.anyName)

/-- The token in a secret. -/
def token (p : ProviderConfig) (secret : Secret) : Except CredentialsFailure String :=
  match p.selector with
  | .error failure => .error failure
  | .ok selector =>
    match secret.text selector.key with
    | .error failure => .error (.noToken failure)
    | .ok text =>
      let token := Text.trim text
      if token = "" then .error (.blankToken selector.ns selector.name) else .ok token

end ProviderConfig

end ClusterKeeper
