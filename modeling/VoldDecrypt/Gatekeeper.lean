import VoldDecrypt.WeaverPath

/-!
# Gatekeeper failures on the secdis path

The secdis path asks the gatekeeper to verify the credential, over AIDL when the service is
declared and reachable and over HIDL otherwise, and forwards the auth token of an `OK` answer to
the authorization service. The two transports do not fail alike. An AIDL answer other than `OK`
ends the path; a HIDL `ERROR` or `RETRY_TIMEOUT` is only recorded in `gkResponse`, and the path
goes on to the keystore. An AIDL transaction that fails leaves the response as declared, with
status 0, which is `STATUS_OK`. A missing authorization service is logged and then called.
-/
namespace VoldDecrypt

theorem PasswordRecord.handle_decoded (rec : PasswordRecord) :
    rec.decoded.passwordHandle.getD [] = rec.passwordHandle := by
  unfold PasswordRecord.decoded
  split <;> simp_all

section Secdis

variable (P : Platform) (env : Env) (mem : Memory) (userId : UInt32) {pwd : PasswordData}
  {token : Bytes}

/-- A HIDL answer other than `OK` is recorded as `ERROR` or `RETRY_TIMEOUT` and returned. -/
theorem gatekeeperResponse_hidl_failure {verify : UInt32 → Nat → Bytes → Bytes →
      Option HidlVerifyResponse} {rsp : HidlVerifyResponse}
    (hno : env.gatekeeperDeclared = false ∨ env.aidlGatekeeper = none)
    (hsvc : env.hidlGatekeeper = some verify) (hlen : 0 < pwd.handleLen)
    (hrsp : verify (fakeUid userId) 0 (pwd.passwordHandle.getD [])
      (P.personalizedHashBinary personalizationUserGkAuth token) = some rsp)
    (hfail : rsp.code < P.hidlStatusOk) :
    ∃ evs, (gatekeeperResponse P env userId pwd token).Returns
      (some (if rsp.code = P.hidlRetryTimeout then .retry rsp.timeout else .error)) evs ∧
      unlockCalls evs = [] := by
  have h := gatekeeperResponse_hidl P env userId hno hsvc hlen hrsp
  rw [if_neg (not_le.mpr hfail)] at h
  exact ⟨_, h, by split <;> rfl⟩

/-- After a HIDL `ERROR` or `RETRY_TIMEOUT` the application id is formed all the same. -/
theorem applicationIdStep_of_hidl_failure {spblobPath handleStr : String} {password secdis : Bytes}
    {verify : UInt32 → Nat → Bytes → Bytes → Option HidlVerifyResponse}
    {rsp : HidlVerifyResponse} (hc : password ≠ defaultCredential)
    (hnoWeaver : env.fs (spblobPath ++ handleStr ++ ".weaver") = none)
    (hsecdis : getSecdis env.fs spblobPath handleStr = some secdis)
    (hno : env.gatekeeperDeclared = false ∨ env.aidlGatekeeper = none)
    (hsvc : env.hidlGatekeeper = some verify) (hlen : 0 < pwd.handleLen)
    (hrsp : verify (fakeUid userId) 0 (pwd.passwordHandle.getD [])
      (P.personalizedHashBinary personalizationUserGkAuth token) = some rsp)
    (hfail : rsp.code < P.hidlStatusOk) :
    ∃ evs, (applicationIdStep P env mem userId spblobPath handleStr password pwd token).Returns
      (some (token ++ P.personalizedHashBinary personalisationSecdiscardable secdis)) evs ∧
      unlockCalls evs = [] := by
  obtain ⟨evs, hgk, hq⟩ := gatekeeperResponse_hidl_failure P env userId hno hsvc hlen hrsp hfail
  have hfw : (forwardAuthToken env mem
      (if rsp.code = P.hidlRetryTimeout then .retry rsp.timeout else .error)).Returns () [] := by
    intro tr
    split <;> simp [forwardAuthToken]
  exact ⟨_, applicationIdStep_of_verified P env mem userId spblobPath handleStr hc hnoWeaver hsecdis
    (verifyGatekeeper_of_response P env mem userId hgk hfw), by simpa using hq⟩

end Secdis

/-- After a HIDL `ERROR` or `RETRY_TIMEOUT` on the secdis path, the driver still asks a reachable
keystore that holds the key to begin the decryption. -/
theorem decryptUserSynthPass_hidl_failure_begins_operation (P : Platform) (env : Env)
    (mem : Memory) (userId : UInt32) (password : Bytes) (hc : password ≠ defaultCredential)
    (rec : PasswordRecord) (hN : rec.scryptN.toNat < 31) (hR : rec.scryptR.toNat < 31)
    (hP : rec.scryptP.toNat < 31)
    (hpwd : getSpblobData env.fs (spblobDir userId) (env.getHandle userId) ".pwd" =
      some rec.serialize)
    (T : Bytes) (hT : P.cryptoScrypt password rec.salt (2 ^ rec.scryptN.toNat)
      (2 ^ rec.scryptR.toNat) (2 ^ rec.scryptP.toNat) 32 = some T)
    (secdis : Bytes)
    (hnoWeaver : env.fs (spblobDir userId ++ env.getHandle userId ++ ".weaver") = none)
    (hsecdis : getSecdis env.fs (spblobDir userId) (env.getHandle userId) = some secdis)
    (hhandle : rec.passwordHandle ≠ [])
    (hno : env.gatekeeperDeclared = false ∨ env.aidlGatekeeper = none)
    (verify : UInt32 → Nat → Bytes → Bytes → Option HidlVerifyResponse)
    (hsvc : env.hidlGatekeeper = some verify) (rsp : HidlVerifyResponse)
    (hrsp : verify (fakeUid userId) 0 rec.passwordHandle
      (P.personalizedHashBinary personalizationUserGkAuth T) = some rsp)
    (hfail : rsp.code < P.hidlStatusOk)
    (v : UInt8) (hv : v = 2 ∨ v = 3) (n₁ E : Bytes) (hn₁ : n₁.length = 12)
    (hblob : getSpblobData env.fs (spblobDir userId) (env.getHandle userId) ".spblob" =
      some ([v, 0] ++ n₁ ++ E))
    (ks : Keystore) (hks : env.keystore = some ks)
    (hentry : ks.getKeyEntry (env.getAlias (env.getHandle userId)) = true) :
    .createOperation (env.getAlias (env.getHandle userId)) n₁ ∈
      (decryptUserSynthPass P env mem userId password []).2 := by
  have hlen : 0 < rec.decoded.handleLen := by
    simpa [PasswordRecord.decoded, List.length_pos] using hhandle
  obtain ⟨e₁, h₁, -⟩ := passwordTokenStep_of_record P env mem _ _ hc hpwd hN hR hP hT
  obtain ⟨e₂, h₂, -⟩ := applicationIdStep_of_hidl_failure P env mem userId hc hnoWeaver hsecdis hno
    hsvc hlen (by rw [PasswordRecord.handle_decoded]; exact hrsp) hfail
  rw [decryptUserSynthPass_of_stages P env mem userId h₁ h₂ hblob]
  refine Run.mem_bind_of_mem (fun secret => ?_)
    (unwrapSpblob_begins_operation P env mem userId _ hv hn₁ hks hentry _)
  split
  exacts [Run.appends_pure _, decryptCEStorage_appends env userId secret]

/-- User 0 on the secdis path, with no AIDL gatekeeper, a HIDL gatekeeper answering `ERROR`,
and a keystore that finds the key and refuses to begin. -/
def hidlErrorEnv : Env where
  fs := sampleSecdisFs
  getHandle _ := "h"
  getAlias h := h
  weaver := ⟨false, none, fun _ _ => none⟩
  gatekeeperDeclared := false
  aidlGatekeeper := none
  hidlGatekeeper := some fun _ _ _ _ => some ⟨-1, 0, []⟩
  authorization := none
  keystore := some ⟨fun _ => true, fun _ _ _ => false, fun _ _ _ => none⟩
  unlockCeStorage _ _ := true
  prepareUserStorage _ := true

theorem decryptUserSynthPass_hidl_error_sample :
    .createOperation "h" (List.replicate 12 0) ∈
      (decryptUserSynthPass Platform.sample hidlErrorEnv Memory.zero 0 sampleCredential []).2 :=
  decryptUserSynthPass_hidl_failure_begins_operation Platform.sample hidlErrorEnv Memory.zero 0
    sampleCredential (by decide) samplePasswordRecord (by decide) (by decide) (by decide)
    (by decide) sampleToken rfl [3, 4] (by decide) (by decide) (by decide) (Or.inl rfl) _ rfl _ rfl
    (by decide) 2 (Or.inl rfl) (List.replicate 12 0) [5] rfl (by decide) _ rfl rfl

end VoldDecrypt
