import FluxPkg.Auth.Generic.Provider

/-!
# Service account subjects round trip

`getIdentity` writes a service account as `system:serviceaccount:<namespace>:<name>`, and
`newControllerToken` reads one back from a token subject by splitting it on `':'`. The
split of a written subject is the two fixed words followed by the splits of the namespace
and of the name, so it has four parts exactly when neither holds a colon, and then the
third and fourth parts are the namespace and the name. A controller whose token subject is
such an identity therefore asks the API server for a token for that very account.
-/

namespace FluxPkg.Auth.Generic

open Platform

/-- The split of a written subject: the two fixed words, then the namespace's pieces,
then the name's. -/
theorem split_identity (serviceAccount : ServiceAccount) :
    Strings.split ("system:serviceaccount:" ++ serviceAccount.namespace ++ ":" ++
        serviceAccount.name) ':' =
      "system" :: "serviceaccount" ::
        (Strings.split serviceAccount.namespace ':' ++ Strings.split serviceAccount.name ':') := by
  have prefixWords : ("system:serviceaccount:" : String) =
      "system:serviceaccount" ++ String.singleton ':' := by decide
  have fixedWords : Strings.split "system:serviceaccount" ':' = ["system", "serviceaccount"] := by
    decide
  rw [prefixWords, String.append_assoc, String.append_assoc, Strings.split_append_sep,
    show (":" : String) = String.singleton ':' from rfl, ← String.append_assoc,
    Strings.split_append_sep, fixedWords]
  rfl

/-- Reading a written subject back gives the account when neither part holds a colon,
and the format error otherwise. -/
theorem serviceAccountOfSubject_identity (serviceAccount : ServiceAccount) :
    serviceAccountOfSubject ("system:serviceaccount:" ++ serviceAccount.namespace ++ ":" ++
        serviceAccount.name) =
      if ':' ∉ serviceAccount.namespace.data ∧ ':' ∉ serviceAccount.name.data then
        .ok serviceAccount
      else
        .error ⟨"invalid subject format in service account token: " ++
          ("system:serviceaccount:" ++ serviceAccount.namespace ++ ":" ++ serviceAccount.name)⟩ := by
  have namespacePieces := Strings.length_split_eq_one_iff serviceAccount.namespace ':'
  have namePieces := Strings.length_split_eq_one_iff serviceAccount.name ':'
  have namespaceNonempty :=
    List.length_pos_of_ne_nil (Strings.split_ne_nil serviceAccount.namespace ':')
  have nameNonempty := List.length_pos_of_ne_nil (Strings.split_ne_nil serviceAccount.name ':')
  by_cases plain : ':' ∉ serviceAccount.namespace.data ∧ ':' ∉ serviceAccount.name.data
  · simp [serviceAccountOfSubject, split_identity, Strings.split_of_not_mem plain.1,
      Strings.split_of_not_mem plain.2, plain]
  · have fourParts : (Strings.split serviceAccount.namespace ':').length +
        (Strings.split serviceAccount.name ':').length ≠ 2 := by
      rw [← namespacePieces, ← namePieces] at plain
      omega
    simp only [serviceAccountOfSubject, split_identity, plain, if_false, List.length_cons]
    simp [fourParts]

/-- `getIdentity` writes a subject that `newControllerToken`'s parse accepts exactly when
neither the namespace nor the name holds a colon; an accepted subject yields the same
namespace and name, whose identity is the subject again. -/
theorem serviceAccountOfSubject_getIdentity (serviceAccount : ServiceAccount) :
    ∃ subject, getIdentity serviceAccount = .ok subject ∧
      ((∃ parsed, serviceAccountOfSubject subject = .ok parsed) ↔
        ':' ∉ serviceAccount.namespace.data ∧ ':' ∉ serviceAccount.name.data) ∧
      ∀ parsed, serviceAccountOfSubject subject = .ok parsed →
        parsed.namespace = serviceAccount.namespace ∧ parsed.name = serviceAccount.name ∧
          getIdentity parsed = .ok subject := by
  refine ⟨_, rfl, ?_, ?_⟩
  · by_cases plain : ':' ∉ serviceAccount.namespace.data ∧ ':' ∉ serviceAccount.name.data
    · simp [serviceAccountOfSubject_identity, plain]
    · simp only [serviceAccountOfSubject_identity, plain, if_false]
      simp [plain]
  · intro parsed accepted
    rw [serviceAccountOfSubject_identity] at accepted
    split at accepted
    · cases accepted
      exact ⟨rfl, rfl, rfl⟩
    · cases accepted

/-- A controller whose token subject is the identity of an account without colons asks
the API server for a token for exactly that account, with the configured audiences. -/
theorem newControllerToken_of_identity {env : Environment} {p : Provider} {o : Options}
    {client : Client} (configured : o.client = some client) {contents : String}
    (read : (p.impl env).readFile tokenFile = .ok contents) {claims : Claims}
    (parsed : env.parseUnverified contents = .ok claims) {serviceAccount : ServiceAccount}
    (subject : claims.subject = getIdentity serviceAccount)
    (plain : ':' ∉ serviceAccount.namespace.data ∧ ':' ∉ serviceAccount.name.data) :
    newControllerToken env p o =
      (do
        let token ← liftExcept <| (client.createToken serviceAccount o.audiences).mapError
          (wrap ("failed to create kubernetes token for controller service account '" ++
            objectKey serviceAccount ++ "'"))
        let exp ← getExpirationFromToken env token
        return { token := token, expiresAt := exp }) := by
  simp [newControllerToken, configured, read, parsed, subject, getIdentity,
    serviceAccountOfSubject_identity, plain, Except.mapError, liftExcept]

/-- The source controller of `flux-system` asks for a token for itself. -/
theorem newControllerToken_of_identity_sourceController :
    let serviceAccount : ServiceAccount := ⟨"source-controller", "flux-system"⟩
    let client : Client := ⟨fun _ _ => .ok "minted"⟩
    let claims : Claims :=
      ⟨.ok "system:serviceaccount:flux-system:source-controller", .ok (some 3600)⟩
    let env : Environment := ⟨fun _ => .ok "controller", fun _ => .ok claims,
      fun address => .ok address⟩
    let o : Options := ⟨some client, ["sts.amazonaws.com"], "", ""⟩
    (o.client = some client ∧
      (({ implementation := none } : Provider).impl env).readFile tokenFile = .ok "controller" ∧
      env.parseUnverified "controller" = .ok claims ∧
      claims.subject = getIdentity serviceAccount ∧
      (':' ∉ serviceAccount.namespace.data ∧ ':' ∉ serviceAccount.name.data)) ∧
    newControllerToken env ⟨none⟩ o =
      (do
        let token ← liftExcept <| (client.createToken serviceAccount o.audiences).mapError
          (wrap ("failed to create kubernetes token for controller service account '" ++
            objectKey serviceAccount ++ "'"))
        let exp ← getExpirationFromToken env token
        return { token := token, expiresAt := exp }) := by
  intro serviceAccount client claims env o
  exact ⟨⟨rfl, rfl, rfl, rfl, by decide⟩, @newControllerToken_of_identity env ⟨none⟩ o client rfl
    "controller" rfl claims rfl serviceAccount rfl (by decide)⟩

end FluxPkg.Auth.Generic
