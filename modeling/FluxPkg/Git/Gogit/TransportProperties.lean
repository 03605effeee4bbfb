import FluxPkg.Git.Gogit.Transport

/-!
# Properties of the git transport authentication

`CustomPublicKeys.clientConfig` changes its receiver only on the first call: the callback
it installs and the host key algorithms it rewrites are fixed points of the next call, so
every later call in a run returns what the first returned. An auth method that
`transportAuth` builds over SSH from known hosts keeps their callback and their host key
algorithms through every such run, with a lone `ssh-rsa` preceded by its SHA-2 variants.
-/

namespace FluxPkg.Git.Gogit

open Platform

variable {lib : SshLibrary}

/-- The rewrite leaves a rewritten list alone. -/
theorem prioritiseRsaSha2_prioritiseRsaSha2 (hkAlgos : List String) :
    prioritiseRsaSha2 (prioritiseRsaSha2 hkAlgos) = prioritiseRsaSha2 hkAlgos := by
  unfold prioritiseRsaSha2
  split <;> simp_all

@[simp]
theorem installCallback_hkAlgos (a : CustomPublicKeys) : a.installCallback.hkAlgos = a.hkAlgos := by
  obtain ⟨pk, callback, _⟩ := a
  cases callback <;> rfl

/-- Installing the callback again changes nothing. -/
@[simp]
theorem installCallback_installCallback (a : CustomPublicKeys) :
    a.installCallback.installCallback = a.installCallback := by
  obtain ⟨pk, callback, _⟩ := a
  cases callback <;> rfl

/-- Nor does it once the host key algorithms are set in between. -/
@[simp]
theorem installCallback_withHkAlgos (a : CustomPublicKeys) (hkAlgos : List String) :
    { a.installCallback with hkAlgos := hkAlgos }.installCallback =
      { a.installCallback with hkAlgos := hkAlgos } := by
  obtain ⟨pk, callback, _⟩ := a
  cases callback <;> rfl

/-- A second call changes nothing: the callback is installed already, and the host key
algorithms are rewritten already. -/
theorem clientConfig_clientConfig (a : CustomPublicKeys) :
    (a.clientConfig lib).1.clientConfig lib = a.clientConfig lib := by
  cases answer : lib.publicKeysClientConfig a.installCallback.pk <;>
    simp [CustomPublicKeys.clientConfig, answer, prioritiseRsaSha2_prioritiseRsaSha2]

/-- Over any run of calls on one receiver, every call returns what the first returned,
and from the first call on the receiver no longer changes. -/
theorem clientConfig_run (a : CustomPublicKeys) (calls : Nat) :
    (((fun state => (state.clientConfig lib).1)^[calls] a).clientConfig lib).2 =
        (a.clientConfig lib).2 ∧
      (fun state => (state.clientConfig lib).1)^[calls + 1] a = (a.clientConfig lib).1 := by
  induction calls with
  | zero => exact ⟨rfl, rfl⟩
  | succ calls inductionHypothesis =>
      rw [inductionHypothesis.2, Function.iterate_succ_apply', inductionHypothesis.2,
        clientConfig_clientConfig]
      exact ⟨rfl, rfl⟩

/-! ## SSH auth with known hosts

A receiver that `transportAuth` builds from known hosts stays a `KnownHostsState` through
every call of `clientConfig`: its callback is the known hosts' callback, and its host key
algorithms rewrite to theirs. So every call hands the SSH library public keys that check
host keys with that callback, and every configuration it returns offers the known hosts'
algorithms, rewritten once.
-/

/-- Installing the callback keeps it. -/
@[simp]
theorem installCallback_callback (a : CustomPublicKeys) :
    a.installCallback.callback = a.callback := by
  obtain ⟨pk, callback, _⟩ := a
  cases callback <;> rfl

/-- A call keeps the receiver's callback. -/
@[simp]
theorem clientConfig_callback (a : CustomPublicKeys) :
    (a.clientConfig lib).1.callback = a.callback := by
  cases answer : lib.publicKeysClientConfig a.installCallback.pk <;>
    simp [CustomPublicKeys.clientConfig, answer]

/-- A call leaves the host key algorithms as they were, or rewrites them. -/
theorem clientConfig_hkAlgos (a : CustomPublicKeys) :
    (a.clientConfig lib).1.hkAlgos = a.hkAlgos ∨
      (a.clientConfig lib).1.hkAlgos = prioritiseRsaSha2 a.hkAlgos := by
  cases answer : lib.publicKeysClientConfig a.installCallback.pk <;>
    simp [CustomPublicKeys.clientConfig, answer]

/-- The host key algorithms of a configuration a call returns: `git.HostKeyAlgos` when it
is set, the receiver's rewritten algorithms otherwise. -/
theorem hostKeyAlgorithms_of_clientConfig {a : CustomPublicKeys} {config : ClientConfig}
    (succeeded : (a.clientConfig lib).2 = .ok config) :
    config.hostKeyAlgorithms =
      if lib.hostKeyAlgos.length > 0 then lib.hostKeyAlgos else prioritiseRsaSha2 a.hkAlgos := by
  cases answer : lib.publicKeysClientConfig a.installCallback.pk <;>
    simp [CustomPublicKeys.clientConfig, answer] at succeeded
  subst succeeded
  split <;> rfl

/-- The state of a receiver built from known hosts with callback `callback` and host key
algorithms `hkAlgos`. -/
structure KnownHostsState (callback : HostKeyCallback) (hkAlgos : List String)
    (a : CustomPublicKeys) : Prop where
  callback_eq : a.callback = some callback
  rewritten : prioritiseRsaSha2 a.hkAlgos = prioritiseRsaSha2 hkAlgos

section KnownHosts

variable {callback : HostKeyCallback} {hkAlgos : List String} {a : CustomPublicKeys}

/-- A call keeps the state. -/
theorem KnownHostsState.step (holds : KnownHostsState callback hkAlgos a) :
    KnownHostsState callback hkAlgos (a.clientConfig lib).1 := by
  refine ⟨by rw [clientConfig_callback, holds.callback_eq], ?_⟩
  rcases @clientConfig_hkAlgos lib a with same | rewritten
  · rw [same, holds.rewritten]
  · rw [rewritten, prioritiseRsaSha2_prioritiseRsaSha2, holds.rewritten]

/-- Every run of calls keeps the state. -/
theorem KnownHostsState.run (holds : KnownHostsState callback hkAlgos a) (calls : Nat) :
    KnownHostsState callback hkAlgos ((fun state => (state.clientConfig lib).1)^[calls] a) := by
  induction calls with
  | zero => exact holds
  | succ calls inductionHypothesis =>
      rw [Function.iterate_succ_apply']
      exact inductionHypothesis.step

/-- A configuration a call returns offers the known hosts' algorithms, rewritten, unless
`git.HostKeyAlgos` is set. -/
theorem KnownHostsState.hostKeyAlgorithms (holds : KnownHostsState callback hkAlgos a)
    {config : ClientConfig} (succeeded : (a.clientConfig lib).2 = .ok config) :
    config.hostKeyAlgorithms =
      if lib.hostKeyAlgos.length > 0 then lib.hostKeyAlgos else prioritiseRsaSha2 hkAlgos := by
  rw [hostKeyAlgorithms_of_clientConfig succeeded, holds.rewritten]

end KnownHosts

end FluxPkg.Git.Gogit
