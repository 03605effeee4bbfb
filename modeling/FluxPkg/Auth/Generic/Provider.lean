import FluxPkg.Platform.Host

/-!
# The generic authentication provider

The model of `auth/generic/provider.go`. A controller finds its own service account in
the subject of its own token: `newControllerToken` reads the well-known token file,
takes the subject of the JWT in it, splits it on `':'`, requires four parts, and reads
the namespace from the third and the name from the fourth. It then asks the API server
for a token for that account. `getIdentity` writes a service account as such a subject.

A Go panic is modelled as `none`, so a call that can panic returns an
`ExceptT GoError Option`. `getExpirationFromToken` returns `&exp.Time` for the
`*NumericDate` that `GetExpirationTime` gives, which is nil for a token without an `exp`
claim, so on such a token it panics, and so do `newControllerToken` and
`newTokenForServiceAccount` through it. `newRESTConfig` takes the first access token as
Go does, with `accessTokens[0].(*Token)`: without a token, or with another provider's
first, the Go code panics.

The file system and the JWT parser are given by `Environment`, the API server by
`Client`, and `auth.ParseClusterAddress`, which is not under src/, by the environment as
well. A wrapped Go error is modelled by its text.
-/

namespace FluxPkg.Auth.Generic

open Platform

/-- The object metadata of a `corev1.ServiceAccount` that the provider reads and
writes. -/
structure ServiceAccount where
  name : String
  «namespace» : String
  deriving DecidableEq, Repr

/-- The claims of a parsed JWT that the provider reads: `GetSubject`, and
`GetExpirationTime` in Unix seconds, `none` for the nil date of a token without an `exp`
claim. -/
structure Claims where
  subject : Except GoError String
  expirationTime : Except GoError (Option Int)

/-- The services the provider calls: `os.ReadFile` behind the default implementation,
`jwt.NewParser().ParseUnverified` with map claims, and `auth.ParseClusterAddress`. -/
structure Environment where
  readFile : String → Except GoError String
  parseUnverified : String → Except GoError Claims
  parseClusterAddress : String → Except GoError String

/-- `Implementation`: the file reader a provider may be given. -/
structure Implementation where
  readFile : String → Except GoError String

/-- `Provider`, with its optional implementation. -/
structure Provider where
  implementation : Option Implementation

/-- The Kubernetes client: `SubResource("token").Create` for a service account and
audiences, returning the status token of the request. -/
structure Client where
  createToken : ServiceAccount → List String → Except GoError String

/-- `auth.Options` after `Apply`: the fields the provider reads. -/
structure Options where
  client : Option Client
  audiences : List String
  clusterAddress : String
  caData : String

/-- `Token`: the token and the time it expires at. -/
structure Token where
  token : String
  expiresAt : Int
  deriving DecidableEq, Repr

/-- `auth.RESTConfig`; `caData` is `none` for a nil byte slice. -/
structure RESTConfig where
  host : String
  caData : Option String
  bearerToken : String
  expiresAt : Int
  deriving DecidableEq, Repr

/-- `auth.Option` values the provider returns. -/
inductive AuthOption where
  | withAudiences (audiences : List String)
  deriving DecidableEq, Repr

/-- `auth.Token` as `NewRESTConfig` receives it: this provider's `*Token`, or a token
another provider made, which the type assertion to `*Token` rejects. -/
inductive AccessToken where
  | generic (token : Token)
  | other
  deriving DecidableEq, Repr

/-- `ProviderName`. -/
def providerName : String := "generic"

/-- `GetName`. -/
def Provider.getName (_ : Provider) : String := providerName

/-- The well-known Kubernetes service account token file. -/
def tokenFile : String := "/var/run/secrets/kubernetes.io/serviceaccount/token"

/-- `fmt.Errorf("<context>: %w", err)`. -/
def wrap (context : String) (err : GoError) : GoError := ⟨context ++ ": " ++ err.message⟩

/-- `impl`: the given implementation, or the default one, which reads through
`os.ReadFile`. -/
def Provider.impl (p : Provider) (env : Environment) : Implementation :=
  p.implementation.getD ⟨env.readFile⟩

/-- `getExpirationFromToken`. Reading `exp.Time` through the nil date of a token without
an `exp` claim panics. -/
def getExpirationFromToken (env : Environment) (token : String) : ExceptT GoError Option Int := do
  let tok ← liftExcept <|
    (env.parseUnverified token).mapError (wrap "failed to parse service account token")
  let exp ← liftExcept <| tok.expirationTime.mapError
    (wrap "failed to get expiration time from service account token")
  let some exp := exp | ExceptT.lift none
  return exp

/-- The lines of `NewControllerToken` that read the service account from the subject:
four colon-separated parts, the namespace third and the name fourth. -/
def serviceAccountOfSubject (sub : String) : Except GoError ServiceAccount :=
  let parts := Strings.split sub ':'
  if parts.length != 4 then .error ⟨"invalid subject format in service account token: " ++ sub⟩
  else .ok { name := parts.getD 3 "", «namespace» := parts.getD 2 "" }

/-- `client.ObjectKeyFromObject(&serviceAccount)` printed with `%s`. -/
def objectKey (serviceAccount : ServiceAccount) : String :=
  serviceAccount.namespace ++ "/" ++ serviceAccount.name

/-- `NewControllerToken`. -/
def newControllerToken (env : Environment) (p : Provider) (o : Options) :
    ExceptT GoError Option Token := do
  let some client := o.client
    | throw ⟨"client is required to create a controller token"⟩
  let b ← liftExcept <| ((p.impl env).readFile tokenFile).mapError
    (wrap ("failed to read service account token file " ++ tokenFile))
  let tok ← liftExcept <|
    (env.parseUnverified b).mapError (wrap "failed to parse service account token")
  let sub ← liftExcept <|
    tok.subject.mapError (wrap "failed to get subject from service account token")
  let serviceAccount ← liftExcept <| serviceAccountOfSubject sub
  let token ← liftExcept <| (client.createToken serviceAccount o.audiences).mapError
    (wrap ("failed to create kubernetes token for controller service account '" ++
      objectKey serviceAccount ++ "'"))
  let exp ← getExpirationFromToken env token
  return { token := token, expiresAt := exp }

/-- `GetAudiences`: the TokenRequest default audiences. -/
def getAudiences (_ : ServiceAccount) : Except GoError (List String) := .ok []

/-- `GetIdentity`. -/
def getIdentity (serviceAccount : ServiceAccount) : Except GoError String :=
  .ok ("system:serviceaccount:" ++ serviceAccount.namespace ++ ":" ++ serviceAccount.name)

/-- `NewTokenForServiceAccount`: the OIDC token itself, with its expiry. -/
def newTokenForServiceAccount (env : Environment) (oidcToken : String)
    (_ : ServiceAccount) : ExceptT GoError Option Token := do
  let exp ← getExpirationFromToken env oidcToken
  return { token := oidcToken, expiresAt := exp }

/-- `GetAccessTokenOptionsForCluster`: the configured audiences, or the cluster address
when there are none. -/
def getAccessTokenOptionsForCluster (o : Options) : Except GoError (List (List AuthOption)) :=
  let audiences := if o.audiences.length == 0 then [o.clusterAddress] else o.audiences
  .ok [[.withAudiences audiences]]

/-- `NewRESTConfig`. It reads `accessTokens[0].(*Token)` before anything else, so it
panics on an empty list and on a first token of another provider. -/
def newRESTConfig (env : Environment) (accessTokens : List AccessToken) (o : Options) :
    ExceptT GoError Option RESTConfig :=
  match accessTokens with
  | .generic token :: _ => ExceptT.mk <| some do
      let host := o.clusterAddress
      if host == "" then throw ⟨"cluster address is required to create a REST config"⟩
      let host ← (env.parseClusterAddress host).mapError
        (wrap ("failed to parse cluster address " ++ o.clusterAddress))
      let caData := if o.caData != "" then some o.caData else none
      return { host := host, caData := caData, bearerToken := token.token,
               expiresAt := token.expiresAt }
  | _ => ExceptT.lift none

end FluxPkg.Auth.Generic
