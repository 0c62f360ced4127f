import VoldDecrypt.Unwrap
import VoldDecrypt.WeaverData

/-!
# `Decrypt_User_Synth_Pass`

The driver of the synthetic-password unlock, in the order the source runs it:

1. the password token, scrypt of the credential (`passwordTokenStep`), or for the default
   credential `"!"` the 16 bytes `"default-password"` copied over the uninitialized
   32-byte `password_token`;
2. the application id, `token ‖ PersonalizedHashBinary(…)` of the weaver payload when
   `<handle>.weaver` exists, else of `<handle>.secdis`, after a gatekeeper verification
   whose auth token goes to the authorization service (`applicationIdStep`);
3. `unwrapSyntheticPasswordBlob`, then `Decrypt_CE_storage` with the secret.

Each stage returns `none` where the source returns `Free_Return(false, …)`. The first two stages
touch memory, the key files, the weaver, the gatekeepers and the authorization service only; the
third touches memory, `<handle>.spblob`, the keystore and the storage only, so every auth token is
handed over before the keystore is asked to begin.

`Get_Password_Data` copies as many bytes as the record declares: its reads are checked against
the memory mapped after the string, and one that runs past it faults.
-/
namespace VoldDecrypt

/-- The credential `"!"`, which selects the default password. -/
def defaultCredential : Bytes := ascii "!"

/-- `std::string defpassword = "default-password"`. -/
def defaultPassword : Bytes := ascii "default-password"

/-- `memcpy(password_token, defpassword.data(), defpassword.length())` over the prior
contents of the 32-byte stack array. -/
def defaultPasswordToken (mem : Memory) : Bytes :=
  defaultPassword ++ mem.passwordToken.drop defaultPassword.length

/-- `fakeUid`: the gatekeeper's uid for a user. -/
def fakeUid (uid : UInt32) : UInt32 := 100000 + uid

/-- `Decrypt_CE_storage`: unlock the CE key with the secret, then prepare the storage. -/
def decryptCEStorage (env : Env) (userId : UInt32) (secret : Bytes) : Run Bool := do
  Run.emit (.unlockCeStorage userId secret)
  if !env.unlockCeStorage userId secret then pure false else do
  Run.emit (.prepareUserStorage userId)
  pure (env.prepareUserStorage userId)

/-- `GateKeeperResponse` as the secdis path records a verification. -/
inductive GKResponse where
  | ok (payload : Bytes)
  | retry (timeout : Nat)
  | error
  deriving DecidableEq, Repr

/-- The verification of the secdis path up to its response; `none` where the source returns.
The AIDL service is used when declared and reachable, the HIDL one otherwise. -/
def gatekeeperResponse (P : Platform) (env : Env) (userId : UInt32) (pwd : PasswordData)
    (token : Bytes) : Run (Option GKResponse) := do
  Run.emit .gatekeeperIsDeclared
  let aidl ← (if env.gatekeeperDeclared then do
      Run.emit .gatekeeperAidlConnect
      pure env.aidlGatekeeper
    else pure none)
  let hidl ← (if aidl.isNone then do
      Run.emit .gatekeeperHidlConnect
      pure env.hidlGatekeeper
    else pure none)
  let handle := pwd.passwordHandle.getD []
  let gkPwdToken := P.personalizedHashBinary personalizationUserGkAuth token
  match aidl, hidl with
  | some verify, _ =>
    if pwd.handleLen ≤ 0 then pure none else do
    Run.emit (.gatekeeperAidlVerify (fakeUid userId) 0 handle gkPwdToken)
    -- a failed transaction leaves `rsp` as declared
    let rsp := (verify (fakeUid userId) 0 handle gkPwdToken).getD AidlVerifyResponse.initial
    if P.aidlStatusOk ≤ rsp.statusCode then
      pure (some (.ok (P.authToken2AidlVec rsp.hardwareAuthToken)))
    else if rsp.statusCode = P.aidlRetryTimeout then pure none
    else pure none
  | none, some verify =>
    if pwd.handleLen ≤ 0 then pure none else do
    Run.emit (.gatekeeperHidlVerify (fakeUid userId) 0 handle gkPwdToken)
    match verify (fakeUid userId) 0 handle gkPwdToken with
    | none => pure none
    | some rsp =>
      pure (some (if P.hidlStatusOk ≤ rsp.code then .ok rsp.data
        else if rsp.code = P.hidlRetryTimeout then .retry rsp.timeout else .error))
  | none, none => pure none

/-- Hand the auth token of an `OK` response with a payload to the authorization service.
A missing service is logged and then called anyway; the call's result is ignored. -/
def forwardAuthToken (env : Env) (mem : Memory) : GKResponse → Run Unit
  | .ok payload =>
    if payload.length = 0 then pure () else do
    let decoded := decodeHwAuthToken ⟨payload, mem.rest .authToken⟩
    Run.reads .authToken decoded.2
    Run.emit .authorizationConnect
    match env.authorization with
    | none => Run.fail .nullService
    | some accept => Run.emit (.addAuthToken decoded.1 (accept decoded.1))
  | _ => pure ()

/-- The auth tokens the authorization service `accept` holds once the secdis path has forwarded
the token of an `OK` answer carrying `payload`. -/
def forwardedTokens (accept : HardwareAuthToken → Bool) (mem : Memory) (payload : Bytes) :
    List HardwareAuthToken :=
  if payload.length = 0 then [] else
  let t := (decodeHwAuthToken ⟨payload, mem.rest .authToken⟩).1
  if accept t then [t] else []

/-- The gatekeeper block of the secdis path: `false` where the source returns. -/
def verifyGatekeeper (P : Platform) (env : Env) (mem : Memory) (userId : UInt32)
    (pwd : PasswordData) (token : Bytes) : Run Bool := do
  match ← gatekeeperResponse P env userId pwd token with
  | none => pure false
  | some r => do
    forwardAuthToken env mem r
    pure true

/-- `Get_Password_Data` once `pwd_data` holds the file: the decoder's reads in order, the first
one that runs past the memory mapped after the string faulting. -/
def loadPasswordData (mem : Memory) (pwdData : Bytes) : Run (Option PasswordData) := do
  let parsed := decodePasswordData (Buffer.ofString pwdData (mem.rest .pwd))
  Run.readsUpTo .pwd (pwdData.length + mem.pwdReadable) parsed.2
  pure parsed.1

/-- `Get_Password_Data` in a run: read `<handle>.pwd`, then decode it. -/
def passwordDataStep (env : Env) (mem : Memory) (spblobPath handleStr : String) :
    Run (Option PasswordData) := do
  Run.emit (.readFile (spblobPath ++ handleStr ++ ".pwd"))
  match getSpblobData env.fs spblobPath handleStr ".pwd" with
  | none => pure none
  | some pwdData => loadPasswordData mem pwdData

/-- The password token and the struct read on the way. -/
def passwordTokenStep (P : Platform) (env : Env) (mem : Memory) (spblobPath handleStr : String)
    (password : Bytes) : Run (Option (PasswordData × Bytes)) :=
  if password ≠ defaultCredential then do
    match ← passwordDataStep env mem spblobPath handleStr with
    | none => pure none
    | some pwd => pure ((getPasswordToken P pwd password).map (pwd, ·))
  else do
    Run.emit .copySqliteDb
    pure (some (PasswordData.initial, defaultPasswordToken mem))

/-- The 96-byte application id, through the weaver when `<handle>.weaver` exists. -/
def applicationIdStep (P : Platform) (env : Env) (mem : Memory) (userId : UInt32)
    (spblobPath handleStr : String) (password : Bytes) (pwd : PasswordData) (token : Bytes) :
    Run (Option Bytes) :=
  if isWeaver env.fs spblobPath handleStr then do
    Run.emit (.readFile (spblobPath ++ handleStr ++ ".weaver"))
    let parsed := getWeaverData env.fs (mem.rest .weaver) spblobPath handleStr
    Run.reads .weaver parsed.2
    match parsed.1 with
    | none => pure none
    | some wd => do
      let weaverKey := P.personalizedHashBinary personalisationWeaverKey token
      Run.emit .weaverConnect
      if !env.weaver.available then pure none else do
      Run.emit .weaverGetKeySize
      match env.weaver.keySize with
      | none => pure none
      | some _ => do
        Run.emit (.weaverVerify wd.slot weaverKey)
        match env.weaver.verify wd.slot weaverKey with
        | none => pure none
        | some payload =>
          pure (some (token ++ P.personalizedHashBinary personalisationWeaverPassword payload))
  else do
    Run.emit (.readFile (spblobPath ++ handleStr ++ ".secdis"))
    match getSecdis env.fs spblobPath handleStr with
    | none => pure none
    | some secdis =>
      let applicationId := token ++ P.personalizedHashBinary personalisationSecdiscardable secdis
      if password ≠ defaultCredential then do
        let ok ← verifyGatekeeper P env mem userId pwd token
        pure (if ok then some applicationId else none)
      else pure (some applicationId)

/-- `Decrypt_User_Synth_Pass`. -/
def decryptUserSynthPass (P : Platform) (env : Env) (mem : Memory) (userId : UInt32)
    (password : Bytes) : Run Bool := do
  let spblobPath := spblobDir userId
  let handleStr := env.getHandle userId
  match ← passwordTokenStep P env mem spblobPath handleStr password with
  | none => pure false
  | some (pwd, token) =>
    match ← applicationIdStep P env mem userId spblobPath handleStr password pwd token with
    | none => pure false
    | some applicationId => do
      let secret ← unwrapSyntheticPasswordBlob P env mem spblobPath handleStr userId applicationId
      if secret.isEmpty then pure false else decryptCEStorage env userId secret

section Stages

variable (P : Platform) (env : Env) (mem : Memory) (userId : UInt32)
  (spblobPath handleStr : String)

/-- A file whose reads all lie in the mapped memory is decoded, and every read is recorded. -/
theorem loadPasswordData_returns {d : Bytes}
    (h : ∀ sp ∈ (decodePasswordData (Buffer.ofString d (mem.rest .pwd))).2,
      sp.Within (d.length + mem.pwdReadable)) :
    (loadPasswordData mem d).Returns (decodePasswordData (Buffer.ofString d (mem.rest .pwd))).1
      ((decodePasswordData (Buffer.ofString d (mem.rest .pwd))).2.map (.read .pwd)) := fun tr => by
  rw [loadPasswordData, (Run.returns_readsUpTo h).bind_apply]
  rfl

/-- `Get_Password_Data` compares no declared length with the file `d`: its reads end at
`passwordReadEnd`, wherever `d` ends. It faults when they run past the memory mapped after the
string; otherwise it returns what the decoder fills, which it does exactly when the salt length it
reads is positive and the handle length it reads is not negative. Its reads stay in `d` exactly
when they end within it. -/
theorem getPasswordData_unchecked (d : Bytes) (tr : List Event) :
    let b := Buffer.ofString d (mem.rest .pwd)
    (loadPasswordData mem d tr).1 =
        (if passwordReadEnd b ≤ ↑(d.length + mem.pwdReadable) then .ret (decodePasswordData b).1
          else .fault .unmappedRead) ∧
      ((decodePasswordData b).1.isSome ↔ 0 < saltLenRead b ∧ 0 ≤ handleLenRead b) ∧
      ((∀ sp ∈ (decodePasswordData b).2, sp.Within d.length) ↔ passwordReadEnd b ≤ d.length) := by
  intro b
  refine ⟨?_, decodePasswordData_isSome b, decodePasswordData_spans_within b _⟩
  split
  · next h => rw [loadPasswordData_returns mem ((decodePasswordData_spans_within b _).2 h)]
  · next h =>
    have hout : ∃ sp ∈ (decodePasswordData b).2, ¬ sp.Within (d.length + mem.pwdReadable) := by
      simpa using mt (decodePasswordData_spans_within b _).1 h
    obtain ⟨evs, hf⟩ := Run.readsUpTo_fault hout tr
    rw [loadPasswordData, Run.bind_apply, hf]

/-- An eleven-byte `.pwd` declaring a one-byte salt is accepted: its salt is the string's
terminating NUL, read past the end of the file, and its handle length comes from the memory
after it. The same header declaring 2^31 - 1 salt bytes does not return `false`: the copy of the
salt runs into unmapped memory. -/
theorem getPasswordData_truncated_accepted :
    let d : Bytes := [0, 0, 0, 1, 1, 1, 1, 0, 0, 0, 1]
    (loadPasswordData Memory.zero d []).1 = .ret (some ⟨1, 1, 1, 1, 1, [0], 0, none⟩) ∧
      .read .pwd ⟨11, 1⟩ ∈ (loadPasswordData Memory.zero d []).2 ∧
      ¬ (⟨11, 1⟩ : Span).Within d.length ∧
      (loadPasswordData Memory.zero [0, 0, 0, 1, 1, 1, 1, 127, 255, 255, 255] []).1 =
        .fault .unmappedRead := by
  decide

/-- A `.pwd` record as the framework writes it is read inside the file and decoded. -/
theorem passwordDataStep_of_record {rec : PasswordRecord}
    (hpwd : getSpblobData env.fs spblobPath handleStr ".pwd" = some rec.serialize) :
    (passwordDataStep env mem spblobPath handleStr).Returns (some rec.decoded)
      (.readFile (spblobPath ++ handleStr ++ ".pwd") ::
        (decodePasswordData (Buffer.ofString rec.serialize (mem.rest .pwd))).2.map (.read .pwd)) :=
  fun tr => by
  have hload := loadPasswordData_returns mem fun sp hsp =>
    Nat.le_trans (decodePasswordData_serialize_within rec (mem.rest .pwd) sp hsp)
      (Nat.le_add_right _ _)
  rw [decodePasswordData_serialize] at hload
  simp [passwordDataStep, hpwd, hload (tr ++ _)]

/-- In a run, `Get_Password_Data` returns what `getPasswordData` decodes, after the file read and
the decoder's reads, as long as those reads stay in the memory mapped after the string. -/
theorem passwordDataStep_getPasswordData {d : Bytes}
    (hd : getSpblobData env.fs spblobPath handleStr ".pwd" = some d)
    (h : ∀ sp ∈ (getPasswordData env.fs (mem.rest .pwd) spblobPath handleStr).2,
      sp.Within (d.length + mem.pwdReadable)) :
    (passwordDataStep env mem spblobPath handleStr).Returns
      (getPasswordData env.fs (mem.rest .pwd) spblobPath handleStr).1
      (.readFile (spblobPath ++ handleStr ++ ".pwd") ::
        (getPasswordData env.fs (mem.rest .pwd) spblobPath handleStr).2.map (.read .pwd)) :=
  fun tr => by
  simp only [getPasswordData, hd] at h ⊢
  simp [passwordDataStep, hd, loadPasswordData_returns mem h (tr ++ _)]

/-- The default credential `"!"` gets the token `"default-password"` followed by the last 16
bytes the stack array held before the call. -/
theorem passwordTokenStep_default :
    (passwordTokenStep P env mem spblobPath handleStr defaultCredential).Returns
      (some (PasswordData.initial, defaultPassword ++ mem.passwordToken.drop 16)) [.copySqliteDb] :=
  fun tr => by simp [passwordTokenStep, defaultPasswordToken, defaultPassword, ascii]

/-- A `.pwd` record as the framework writes it gives the scrypt token of the credential. -/
theorem passwordTokenStep_of_record {rec : PasswordRecord} {password T : Bytes}
    (hc : password ≠ defaultCredential)
    (hpwd : getSpblobData env.fs spblobPath handleStr ".pwd" = some rec.serialize)
    (hN : rec.scryptN.toNat < 31) (hR : rec.scryptR.toNat < 31) (hP : rec.scryptP.toNat < 31)
    (hT : P.cryptoScrypt password rec.salt (2 ^ rec.scryptN.toNat) (2 ^ rec.scryptR.toNat)
      (2 ^ rec.scryptP.toNat) 32 = some T) :
    ∃ evs, (passwordTokenStep P env mem spblobPath handleStr password).Returns
      (some (rec.decoded, T)) evs ∧ unlockCalls evs = [] := by
  refine ⟨.readFile (spblobPath ++ handleStr ++ ".pwd") ::
      (decodePasswordData (Buffer.ofString rec.serialize (mem.rest .pwd))).2.map (.read .pwd),
    fun tr => ?_, by simp⟩
  simp [passwordTokenStep, hc,
    passwordDataStep_of_record env mem spblobPath handleStr hpwd tr,
    getPasswordToken, PasswordRecord.decoded, shiftLeftOne_of_lt, hN, hR, hP, hT]

/-- The gatekeeper of the secdis path answers `OK` to the verification of `handle` and
`gkPwdToken`, over AIDL when the service is declared and reachable and over HIDL otherwise, and
the authorization service `accept` is reachable; it then holds the tokens `toks`. -/
inductive GatekeeperAccepts (P : Platform) (env : Env) (mem : Memory) (userId : UInt32)
    (handle gkPwdToken : Bytes) : List HardwareAuthToken → Prop
  | aidl (verify : UInt32 → Nat → Bytes → Bytes → Option AidlVerifyResponse)
      (rsp : AidlVerifyResponse) (accept : HardwareAuthToken → Bool)
      (declared : env.gatekeeperDeclared = true) (service : env.aidlGatekeeper = some verify)
      (reply : verify (fakeUid userId) 0 handle gkPwdToken = some rsp)
      (ok : P.aidlStatusOk ≤ rsp.statusCode) (authorization : env.authorization = some accept) :
      GatekeeperAccepts P env mem userId handle gkPwdToken
        (forwardedTokens accept mem (P.authToken2AidlVec rsp.hardwareAuthToken))
  | hidl (verify : UInt32 → Nat → Bytes → Bytes → Option HidlVerifyResponse)
      (rsp : HidlVerifyResponse) (accept : HardwareAuthToken → Bool)
      (noAidl : env.gatekeeperDeclared = false ∨ env.aidlGatekeeper = none)
      (service : env.hidlGatekeeper = some verify)
      (reply : verify (fakeUid userId) 0 handle gkPwdToken = some rsp)
      (ok : P.hidlStatusOk ≤ rsp.code) (authorization : env.authorization = some accept) :
      GatekeeperAccepts P env mem userId handle gkPwdToken (forwardedTokens accept mem rsp.data)

/-- With the authorization service reachable, forwarding an `OK` answer leaves it holding the
forwarded tokens and makes no unlock call. -/
theorem forwardAuthToken_ok {accept : HardwareAuthToken → Bool}
    (h : env.authorization = some accept) (payload : Bytes) :
    ∃ evs, (forwardAuthToken env mem (.ok payload)).Returns () evs ∧ unlockCalls evs = [] ∧
      acceptedTokens evs = forwardedTokens accept mem payload := by
  by_cases hp : payload.length = 0
  · exact ⟨[], fun tr => by simp [forwardAuthToken, hp], rfl, by simp [forwardedTokens, hp]⟩
  · let d := decodeHwAuthToken ⟨payload, mem.rest .authToken⟩
    refine ⟨d.2.map (.read .authToken) ++ [.authorizationConnect, .addAuthToken d.1 (accept d.1)],
      fun tr => by simp [forwardAuthToken, hp, h, d], by simp [unlockCalls], ?_⟩
    simp only [forwardedTokens, hp, if_false, acceptedTokens]
    cases accept d.1 <;> simp [List.filterMap_map]

/-- The AIDL transport, whatever it answers: a failed transaction reads as the declared
response. -/
theorem gatekeeperResponse_aidl {pwd : PasswordData} (token : Bytes)
    {verify : UInt32 → Nat → Bytes → Bytes → Option AidlVerifyResponse}
    (hdecl : env.gatekeeperDeclared = true) (hsvc : env.aidlGatekeeper = some verify)
    (hlen : 0 < pwd.handleLen) :
    (gatekeeperResponse P env userId pwd token).Returns
      (let rsp := (verify (fakeUid userId) 0 (pwd.passwordHandle.getD [])
          (P.personalizedHashBinary personalizationUserGkAuth token)).getD
          AidlVerifyResponse.initial
        if P.aidlStatusOk ≤ rsp.statusCode then
          some (.ok (P.authToken2AidlVec rsp.hardwareAuthToken))
        else none)
      [.gatekeeperIsDeclared, .gatekeeperAidlConnect, .gatekeeperAidlVerify (fakeUid userId) 0
        (pwd.passwordHandle.getD []) (P.personalizedHashBinary personalizationUserGkAuth token)] :=
  fun tr => by
  have hlen' : ¬ pwd.handleLen ≤ 0 := by omega
  simp [gatekeeperResponse, hdecl, hsvc, hlen']
  split <;> simp [*]

/-- The HIDL transport, whatever it answers: the response its callback records. -/
theorem gatekeeperResponse_hidl {pwd : PasswordData} {token : Bytes}
    {verify : UInt32 → Nat → Bytes → Bytes → Option HidlVerifyResponse} {rsp : HidlVerifyResponse}
    (hno : env.gatekeeperDeclared = false ∨ env.aidlGatekeeper = none)
    (hsvc : env.hidlGatekeeper = some verify) (hlen : 0 < pwd.handleLen)
    (hrsp : verify (fakeUid userId) 0 (pwd.passwordHandle.getD [])
      (P.personalizedHashBinary personalizationUserGkAuth token) = some rsp) :
    (gatekeeperResponse P env userId pwd token).Returns
      (some (if P.hidlStatusOk ≤ rsp.code then .ok rsp.data
        else if rsp.code = P.hidlRetryTimeout then .retry rsp.timeout else .error))
      (.gatekeeperIsDeclared :: (if env.gatekeeperDeclared then [.gatekeeperAidlConnect] else []) ++
        [.gatekeeperHidlConnect, .gatekeeperHidlVerify (fakeUid userId) 0
          (pwd.passwordHandle.getD [])
          (P.personalizedHashBinary personalizationUserGkAuth token)]) :=
  fun tr => by
  have hlen' : ¬ pwd.handleLen ≤ 0 := by omega
  cases hd : env.gatekeeperDeclared
  · simp [gatekeeperResponse, hd, hsvc, hrsp, hlen']
  · have ha : env.aidlGatekeeper = none := by simpa [hd] using hno
    simp [gatekeeperResponse, hd, ha, hsvc, hrsp, hlen']

/-- The gatekeeper block goes on once there is a response, whatever the response. -/
theorem verifyGatekeeper_of_response {pwd : PasswordData} {token : Bytes} {r : GKResponse}
    {e₁ e₂ : List Event} (hgk : (gatekeeperResponse P env userId pwd token).Returns (some r) e₁)
    (hfw : (forwardAuthToken env mem r).Returns () e₂) :
    (verifyGatekeeper P env mem userId pwd token).Returns true (e₁ ++ (e₂ ++ [])) :=
  hgk.bind (hfw.bind (Run.returns_pure true))

/-- An accepting gatekeeper lets the secdis path go on, with the forwarded tokens accepted. -/
theorem verifyGatekeeper_of_accepts {pwd : PasswordData} {token : Bytes}
    {toks : List HardwareAuthToken} (hlen : 0 < pwd.handleLen)
    (h : GatekeeperAccepts P env mem userId (pwd.passwordHandle.getD [])
      (P.personalizedHashBinary personalizationUserGkAuth token) toks) :
    ∃ evs, (verifyGatekeeper P env mem userId pwd token).Returns true evs ∧
      unlockCalls evs = [] ∧ toks ⊆ acceptedTokens evs := by
  cases h with
  | aidl verify rsp accept declared service reply ok authorization =>
    have hgk := gatekeeperResponse_aidl P env userId token declared service hlen
    simp only [reply, Option.getD_some, if_pos ok] at hgk
    obtain ⟨e, hfw, hq, ha⟩ :=
      forwardAuthToken_ok env mem authorization (P.authToken2AidlVec rsp.hardwareAuthToken)
    exact ⟨_, verifyGatekeeper_of_response P env mem userId hgk hfw, by simp [hq],
      by simp [ha]⟩
  | hidl verify rsp accept noAidl service reply ok authorization =>
    have hgk := gatekeeperResponse_hidl P env userId noAidl service hlen reply
    rw [if_pos ok] at hgk
    obtain ⟨e, hfw, hq, ha⟩ := forwardAuthToken_ok env mem authorization rsp.data
    exact ⟨_, verifyGatekeeper_of_response P env mem userId hgk hfw, by split <;> simp [hq],
      by split <;> simp [ha]⟩

/-- The second half `S` of the application id `token ‖ S` for a credential other than `"!"`,
with the auth tokens the path leaves with the authorization service: the personalized weaver
payload when `<handle>.weaver` exists and the weaver releases it, with no token, else the
personalized `.secdis` contents once the gatekeeper accepts. -/
inductive ApplicationSecret (P : Platform) (env : Env) (mem : Memory) (userId : UInt32)
    (spblobPath handleStr : String) (pwd : PasswordData) (token : Bytes) :
    List HardwareAuthToken → Bytes → Prop
  | weaver (w payload : Bytes) (k : UInt32)
      (file : env.fs (spblobPath ++ handleStr ++ ".weaver") = some (.file w))
      (available : env.weaver.available = true) (keySize : env.weaver.keySize = some k)
      (verify : env.weaver.verify (weaverSlot w (mem.rest .weaver))
        (P.personalizedHashBinary personalisationWeaverKey token) = some payload) :
      ApplicationSecret P env mem userId spblobPath handleStr pwd token []
        (P.personalizedHashBinary personalisationWeaverPassword payload)
  | secdis (secdis : Bytes) (toks : List HardwareAuthToken)
      (noWeaver : env.fs (spblobPath ++ handleStr ++ ".weaver") = none)
      (file : getSecdis env.fs spblobPath handleStr = some secdis) (handle : 0 < pwd.handleLen)
      (gatekeeper : GatekeeperAccepts P env mem userId (pwd.passwordHandle.getD [])
        (P.personalizedHashBinary personalizationUserGkAuth token) toks) :
      ApplicationSecret P env mem userId spblobPath handleStr pwd token toks
        (P.personalizedHashBinary personalisationSecdiscardable secdis)

/-- The secdis path once the gatekeeper block has gone on. -/
theorem applicationIdStep_of_verified {password token secdis : Bytes} {pwd : PasswordData}
    {evs : List Event} (hc : password ≠ defaultCredential)
    (hnoWeaver : env.fs (spblobPath ++ handleStr ++ ".weaver") = none)
    (hsecdis : getSecdis env.fs spblobPath handleStr = some secdis)
    (hver : (verifyGatekeeper P env mem userId pwd token).Returns true evs) :
    (applicationIdStep P env mem userId spblobPath handleStr password pwd token).Returns
      (some (token ++ P.personalizedHashBinary personalisationSecdiscardable secdis))
      (.readFile (spblobPath ++ handleStr ++ ".secdis") :: evs) := fun tr => by
  have hw : isWeaver env.fs spblobPath handleStr = false := by
    simp [isWeaver, pathExists, hnoWeaver]
  simp [applicationIdStep, hw, hsecdis, hc, hver (tr ++ _)]

/-- The weaver path, whatever the credential, once the weaver releases its payload. -/
theorem applicationIdStep_of_weaver {password token w payload : Bytes} {pwd : PasswordData}
    {k : UInt32} (file : env.fs (spblobPath ++ handleStr ++ ".weaver") = some (.file w))
    (available : env.weaver.available = true) (keySize : env.weaver.keySize = some k)
    (verify : env.weaver.verify (weaverSlot w (mem.rest .weaver))
      (P.personalizedHashBinary personalisationWeaverKey token) = some payload) :
    (applicationIdStep P env mem userId spblobPath handleStr password pwd token).Returns
      (some (token ++ P.personalizedHashBinary personalisationWeaverPassword payload))
      (.readFile (spblobPath ++ handleStr ++ ".weaver") ::
        (decodeWeaverData (Buffer.ofString w (mem.rest .weaver))).2.map (.read .weaver) ++
        [.weaverConnect, .weaverGetKeySize, .weaverVerify (weaverSlot w (mem.rest .weaver))
          (P.personalizedHashBinary personalisationWeaverKey token)]) := fun tr => by
  have hw : isWeaver env.fs spblobPath handleStr = true := by simp [isWeaver, pathExists, file]
  have hslot : (decodeWeaverData (Buffer.ofString w (mem.rest .weaver))).1.slot =
      weaverSlot w (mem.rest .weaver) := rfl
  simp [applicationIdStep, hw, getWeaverData, readFileToString, file, available, keySize, hslot,
    verify]

/-- Each way of forming the application id, as the code runs it. -/
theorem applicationIdStep_of_secret {password token S : Bytes} {pwd : PasswordData}
    {toks : List HardwareAuthToken} (hc : password ≠ defaultCredential)
    (hS : ApplicationSecret P env mem userId spblobPath handleStr pwd token toks S) :
    ∃ evs, (applicationIdStep P env mem userId spblobPath handleStr password pwd token).Returns
      (some (token ++ S)) evs ∧ unlockCalls evs = [] ∧ toks ⊆ acceptedTokens evs := by
  cases hS with
  | weaver w payload k file available keySize verify =>
    exact ⟨_, applicationIdStep_of_weaver P env mem userId spblobPath handleStr file available
      keySize verify, by simp [unlockCalls], List.nil_subset _⟩
  | secdis secdis toks noWeaver file handle gatekeeper =>
    obtain ⟨evs, hver, hq, ha⟩ := verifyGatekeeper_of_accepts P env mem userId handle gatekeeper
    exact ⟨_, applicationIdStep_of_verified P env mem userId spblobPath handleStr hc noWeaver file
      hver, by simp [hq], by simpa using ha⟩

theorem unlockCalls_decryptCEStorage (env : Env) (userId : UInt32) (secret : Bytes)
    (tr : List Event) :
    unlockCalls (decryptCEStorage env userId secret tr).2 =
      unlockCalls tr ++ [(userId, secret)] := by
  unfold decryptCEStorage
  cases env.unlockCeStorage userId secret <;> simp

/-- `Decrypt_CE_storage` calls the unlock, then the storage preparation when the unlock
succeeded, and returns whether both succeeded. -/
theorem decryptCEStorage_apply (env : Env) (userId : UInt32) (secret : Bytes) (tr : List Event) :
    decryptCEStorage env userId secret tr =
      (.ret (env.unlockCeStorage userId secret && env.prepareUserStorage userId),
        tr ++ .unlockCeStorage userId secret ::
          if env.unlockCeStorage userId secret then [.prepareUserStorage userId] else []) := by
  unfold decryptCEStorage
  cases env.unlockCeStorage userId secret <;> simp

/-- `Decrypt_CE_storage` makes one unlock call and returns whether it and the storage
preparation succeeded. -/
theorem decryptCEStorage_result (env : Env) (userId : UInt32) (secret : Bytes)
    (tr : List Event) :
    ∃ e, decryptCEStorage env userId secret tr =
        (.ret (env.unlockCeStorage userId secret && env.prepareUserStorage userId), tr ++ e) ∧
      unlockCalls e = [(userId, secret)] :=
  ⟨_, decryptCEStorage_apply env userId secret tr, by split <;> simp⟩

theorem decryptCEStorage_appends (env : Env) (userId : UInt32) (secret : Bytes) :
    (decryptCEStorage env userId secret).Appends := by
  intro tr
  unfold decryptCEStorage
  cases env.unlockCeStorage userId secret <;> simp

/-- The driver once its first two stages have returned and `<handle>.spblob` is read. -/
theorem decryptUserSynthPass_of_stages {password token applicationId s : Bytes}
    {pwd : PasswordData} {e₁ e₂ : List Event}
    (h₁ : (passwordTokenStep P env mem (spblobDir userId) (env.getHandle userId) password).Returns
      (some (pwd, token)) e₁)
    (h₂ : (applicationIdStep P env mem userId (spblobDir userId) (env.getHandle userId) password pwd
      token).Returns (some applicationId) e₂)
    (hs : getSpblobData env.fs (spblobDir userId) (env.getHandle userId) ".spblob" = some s)
    (tr : List Event) :
    decryptUserSynthPass P env mem userId password tr =
      (unwrapSpblob P env mem userId applicationId s >>= fun secret =>
        if secret.isEmpty then pure false else decryptCEStorage env userId secret)
        (tr ++ e₁ ++ e₂ ++ [.readFile (spblobDir userId ++ env.getHandle userId ++ ".spblob")]) := by
  simp only [decryptUserSynthPass, h₁.bind_apply, h₂.bind_apply]
  exact unwrapSyntheticPasswordBlob_of_data P env mem userId applicationId hs _ _

end Stages

section Within

open Run

variable (P : Platform) (env : Env) (mem : Memory) (userId : UInt32)
  (spblobPath handleStr : String)

theorem passwordDataStep_within :
    (passwordDataStep env mem spblobPath handleStr).Within [.memory, .file] fun _ => True := by
  unfold passwordDataStep
  refine within_emit_bind (by rfl) ?_
  split
  · exact within_pure trivial
  · exact (within_readsUpTo _ _ _ (by rfl)).bind fun _ _ => within_pure trivial

theorem passwordTokenStep_within (password : Bytes) :
    (passwordTokenStep P env mem spblobPath handleStr password).Within [.memory, .file]
      fun _ => True := by
  unfold passwordTokenStep
  split
  · exact (passwordDataStep_within env mem spblobPath handleStr).bind fun _ _ => by
      split <;> exact within_pure trivial
  · exact within_emit_bind (by rfl) <| within_pure trivial

theorem gatekeeperResponse_within (pwd : PasswordData) (token : Bytes) :
    (gatekeeperResponse P env userId pwd token).Within [.gatekeeper] fun _ => True := by
  unfold gatekeeperResponse
  refine within_emit_bind (by rfl) <|
    Within.bind ?_ fun aidl (_ : True) => Within.bind ?_ fun hidl (_ : True) => ?_
  · split
    exacts [within_emit_bind (by rfl) <| within_pure trivial, within_pure trivial]
  · split
    exacts [within_emit_bind (by rfl) <| within_pure trivial, within_pure trivial]
  dsimp only
  split
  · split
    · exact within_pure trivial
    · exact within_emit_bind (by rfl) <| by split_ifs <;> exact within_pure trivial
  · split
    · exact within_pure trivial
    · exact within_emit_bind (by rfl) <| by split <;> exact within_pure trivial
  · exact within_pure trivial

theorem forwardAuthToken_within (r : GKResponse) :
    (forwardAuthToken env mem r).Within [.memory, .authorization] fun _ => True := by
  cases r with
  | ok payload =>
    simp only [forwardAuthToken]
    split
    · exact within_pure trivial
    refine (within_reads _ _ (by rfl)).bind fun _ _ => within_emit_bind (by rfl) ?_
    split
    exacts [within_fail _ _, within_emit (by rfl)]
  | retry t => exact within_pure trivial
  | error => exact within_pure trivial

theorem verifyGatekeeper_within (pwd : PasswordData) (token : Bytes) :
    (verifyGatekeeper P env mem userId pwd token).Within [.memory, .gatekeeper, .authorization]
      fun _ => True :=
  ((gatekeeperResponse_within P env userId pwd token).widen (by decide)).bind fun
    | none, _ => within_pure trivial
    | some r, _ => ((forwardAuthToken_within env mem r).widen (by decide)).bind
      fun _ _ => within_pure trivial

/-- Forming the application id touches memory, its key file, the weaver, the gatekeeper and the
authorization service only, on either path and whatever the services answer. -/
theorem applicationIdStep_within (password : Bytes) (pwd : PasswordData) (token : Bytes) :
    (applicationIdStep P env mem userId spblobPath handleStr password pwd token).Within
      [.memory, .file, .weaver, .gatekeeper, .authorization] fun _ => True := by
  unfold applicationIdStep
  split
  · refine within_emit_bind (by rfl) <| (within_reads _ _ (by rfl)).bind fun _ _ => ?_
    split
    · exact within_pure trivial
    refine within_emit_bind (by rfl) ?_
    split
    · exact within_pure trivial
    refine within_emit_bind (by rfl) ?_
    split
    · exact within_pure trivial
    refine within_emit_bind (by rfl) ?_
    split <;> exact within_pure trivial
  · refine within_emit_bind (by rfl) ?_
    split
    · exact within_pure trivial
    split
    · exact ((verifyGatekeeper_within P env mem userId pwd token).widen (by decide)).bind
        fun _ _ => within_pure trivial
    · exact within_pure trivial

end Within

end VoldDecrypt
