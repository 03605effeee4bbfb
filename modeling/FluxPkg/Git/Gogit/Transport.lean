import FluxPkg.Platform.Host

/-!
# Git transport authentication

The model of `git/gogit/transport.go`. `transportAuth` turns the authentication options of
a git transport into a go-git auth method: basic or bearer-token auth over HTTP(S), and
over SSH either the machine's default keys or the given identity checked against the given
known hosts. `CustomPublicKeys.clientConfig` builds the SSH client configuration and
rewrites its own host key algorithms on the way, so a `CustomPublicKeys` value is a state
that every call may change.

The SSH and known-hosts libraries are given by `SshLibrary`; the package-level settings
`git.KexAlgos` and `git.HostKeyAlgos`, which are not under src/, are fields of it too.
-/

namespace FluxPkg.Git.Gogit

open Platform

/-- `git.AuthOptions`: the fields the transport reads. -/
structure AuthOptions where
  transport : String
  username : String
  password : String
  bearerToken : String
  identity : List UInt8
  knownHosts : List UInt8
  clientCert : List UInt8
  clientKey : List UInt8
  caFile : List UInt8
  deriving DecidableEq, Repr

/-- A `gossh.HostKeyCallback`: whether a host's key is accepted. -/
structure HostKeyCallback where
  accepts : String → List UInt8 → Bool

/-- `ssh.PublicKeys`: the user and the host key callback the package sets. -/
structure PublicKeys where
  user : String
  hostKeyCallback : Option HostKeyCallback

/-- `ssh.PublicKeysCallback`, the default-key auth method, by its user. -/
structure PublicKeysCallback where
  user : String
  deriving DecidableEq, Repr

/-- `gossh.ClientConfig`: the fields the package writes. -/
structure ClientConfig where
  user : String
  keyExchanges : List String
  hostKeyAlgorithms : List String
  deriving DecidableEq, Repr

/-- `CustomPublicKeys`. -/
structure CustomPublicKeys where
  pk : PublicKeys
  callback : Option HostKeyCallback
  hkAlgos : List String

/-- The SSH and known-hosts libraries, and the package-level algorithm settings. -/
structure SshLibrary where
  /-- `ssh.DefaultAuthBuilder`; `none` for an auth method that is not a
  `*ssh.PublicKeysCallback`. -/
  defaultAuthBuilder : String → Except GoError (Option PublicKeysCallback)
  /-- `ssh.NewPublicKeys(user, pem, password)`. -/
  newPublicKeys : String → List UInt8 → String → Except GoError PublicKeys
  /-- `knownhosts.New`: the callback and the host key algorithms of known_hosts data. -/
  knownhostsNew : List UInt8 → Except GoError (HostKeyCallback × List String)
  /-- `(*ssh.PublicKeys).ClientConfig`. -/
  publicKeysClientConfig : PublicKeys → Except GoError ClientConfig
  /-- `(*ssh.PublicKeysCallback).ClientConfig`. -/
  publicKeysCallbackClientConfig : PublicKeysCallback → Except GoError ClientConfig
  /-- `git.KexAlgos`. -/
  kexAlgos : List String
  /-- `git.HostKeyAlgos`. -/
  hostKeyAlgos : List String

/-- `clientCert`. -/
def clientCert (opts : Option AuthOptions) : List UInt8 :=
  match opts with
  | none => []
  | some opts => opts.clientCert

/-- `clientKey`. -/
def clientKey (opts : Option AuthOptions) : List UInt8 :=
  match opts with
  | none => []
  | some opts => opts.clientKey

/-- `caBundle`. -/
def caBundle (opts : Option AuthOptions) : List UInt8 :=
  match opts with
  | none => []
  | some opts => opts.caFile

/-- The host key algorithms after the ssh-rsa rewrite: a lone `ssh-rsa` is preceded by
its SHA-2 variants. -/
def prioritiseRsaSha2 (hkAlgos : List String) : List String :=
  if hkAlgos.length == 1 && hkAlgos.getD 0 "" == "ssh-rsa" then
    ["rsa-sha2-512", "rsa-sha2-256", hkAlgos.getD 0 ""]
  else hkAlgos

/-- The first lines of `(*CustomPublicKeys).ClientConfig`: the known-hosts callback, when
there is one, is installed in the public keys. -/
def CustomPublicKeys.installCallback (a : CustomPublicKeys) : CustomPublicKeys :=
  match a.callback with
  | some callback => { a with pk := { a.pk with hostKeyCallback := some callback } }
  | none => a

/-- `(*CustomPublicKeys).ClientConfig`: the receiver afterwards and the result. The
callback is installed before the library is asked, so an error leaves it installed; the
host key algorithms are rewritten only on success. -/
def CustomPublicKeys.clientConfig (lib : SshLibrary) (a : CustomPublicKeys) :
    CustomPublicKeys × Except GoError ClientConfig :=
  let a := a.installCallback
  match lib.publicKeysClientConfig a.pk with
  | .error err => (a, .error err)
  | .ok config =>
      let config := if lib.kexAlgos.length > 0 then { config with keyExchanges := lib.kexAlgos }
        else config
      let hkAlgos := prioritiseRsaSha2 a.hkAlgos
      let config := { config with hostKeyAlgorithms := hkAlgos }
      let config := if lib.hostKeyAlgos.length > 0 then
          { config with hostKeyAlgorithms := lib.hostKeyAlgos }
        else config
      ({ a with hkAlgos := hkAlgos }, .ok config)

/-- `(*DefaultAuth).ClientConfig` of the `DefaultAuth` holding `pkCallack`: the default
keys' configuration, with none of the package's algorithm settings applied. -/
def DefaultAuth.clientConfig (lib : SshLibrary) (pkCallack : PublicKeysCallback) :
    Except GoError ClientConfig :=
  match lib.publicKeysCallbackClientConfig pkCallack with
  | .error err => .error err
  | .ok config => .ok config

end FluxPkg.Git.Gogit
