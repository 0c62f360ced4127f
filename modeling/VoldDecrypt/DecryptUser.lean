import VoldDecrypt.Unlock

/-!
# `Decrypt_User` and `Get_Password_Type`

The entry points of the engine. `Get_Password_Type` classifies the credential from the `.pwd`
record when `/data/system_de/<uid>/spblob/` exists, and otherwise from the legacy gatekeeper
key files, whose name it leaves in `filename`. `Decrypt_User` then unlocks

* the default credential `"!"` first with the literal secret `"!"`, and through
  `Decrypt_User_Synth_Pass` only when that unlock fails;
* any other credential through `Decrypt_User_Synth_Pass` when `/data/system_de/0/spblob`
  exists, the directory of user 0 whatever the user;
* otherwise through the legacy gatekeeper: the key file is verified by the HIDL gatekeeper and,
  whatever it answers, the storage is unlocked with `HashPassword(Password)`.

Whatever the credential and whatever the services answer, a run unlocks only its own user's
storage, at most once, or twice for `"!"`, and reports success only after an unlock and the
storage preparation succeeded.

`stat` of a directory finds it with or without a trailing `/`; a directory is looked up here
under its name without one.
-/
namespace VoldDecrypt

/-- The code `Get_Password_Type` returns for the `password_type` of a `.pwd` record: 1 for a
password or PIN, 2 for a pattern, 3 for a PIN, 0 to try the default password. -/
def passwordTypeCode (passwordType : Int) : Nat :=
  if passwordType = 2 then 1
  else if passwordType = 4 then 1
  else if passwordType = 1 then 2
  else if passwordType = 3 then 3
  else 0

/-- `stat(path, &st) == 0 && st.st_size > 0`. -/
def statNonEmpty (fs : FileSystem) (path : String) : Bool :=
  match fs path with
  | some n => 0 < n.size
  | none => false

/-- The directory `/data/system_de/<uid>/spblob`. -/
def spblobDirName (u : UInt32) : String := "/data/system_de/" ++ formatUserId u ++ "/spblob"

/-- Where the legacy gatekeeper key files of a user live. -/
def legacyKeyDir (u : UInt32) : String :=
  if u = 0 then "/data/system/" else "/data/system/users/" ++ formatUserId u ++ "/"

/-- `Get_Password_Type`: the type code, and `filename` as it leaves it; where it does not
assign `filename`, the caller's empty string stays. -/
def getPasswordType (env : Env) (mem : Memory) (userId : UInt32) : Run (Nat × String) :=
  if pathExists env.fs (spblobDirName userId) then do
    match ← passwordDataStep env mem (spblobDir userId) (env.getHandle userId) with
    | none => pure (0, "")
    | some pwd => pure (passwordTypeCode pwd.passwordType, "")
  else
    let path := legacyKeyDir userId
    if statNonEmpty env.fs (path ++ "gatekeeper.password.key") then
      pure (1, path ++ "gatekeeper.password.key")
    else if statNonEmpty env.fs (path ++ "gatekeeper.pattern.key") then
      pure (2, path ++ "gatekeeper.pattern.key")
    else pure (0, "")

/-- The legacy gatekeeper branch of `Decrypt_User` on the key file `filename`. The answer is
recorded in `ret` and never read; `token_hex` is then filled from `auth_token`, which only an
`OK` answer sets. -/
def legacyUnlock (P : Platform) (env : Env) (mem : Memory) (userId : UInt32) (password : Bytes)
    (filename : String) : Run Bool :=
  if !pathExists env.fs filename then pure false else
  match readFileToString env.fs filename with
  | none => pure false
  | some handle => do
    Run.emit .gatekeeperHidlConnect
    match env.hidlGatekeeper with
    | none => pure false
    | some verify => do
      Run.emit (.gatekeeperHidlVerify userId 0 handle password)
      match verify userId 0 handle password with
      | none => pure false
      | some rsp =>
        if ¬ P.hidlStatusOk ≤ rsp.code ∧ mem.authTokenLen ≠ 0 then Run.fail .wildPointer
        else decryptCEStorage env userId (P.hashPassword password)

/-- `Decrypt_User`. -/
def decryptUser (P : Platform) (env : Env) (mem : Memory) (userId : UInt32) (password : Bytes) :
    Run Bool :=
  if 9999 < userId.toNat then pure false else do
  let (passwordType, filename) ← getPasswordType env mem userId
  if passwordType = 0 ∧ password ≠ defaultCredential then pure false
  else if password = defaultCredential then do
    let unlocked ← decryptCEStorage env userId defaultCredential
    if unlocked then pure true else decryptUserSynthPass P env mem userId password
  else if pathExists env.fs (spblobDirName 0) then decryptUserSynthPass P env mem userId password
  else legacyUnlock P env mem userId password filename

/-- The probe reads at most the `.pwd` record. -/
theorem getPasswordType_within (env : Env) (mem : Memory) (userId : UInt32) :
    (getPasswordType env mem userId).Within [.memory, .file] fun _ => True := by
  unfold getPasswordType
  split
  · exact (passwordDataStep_within env mem _ _).bind fun _ _ => by
      split <;> exact Run.within_pure trivial
  · dsimp only
    split
    · exact Run.within_pure trivial
    split <;> exact Run.within_pure trivial

theorem legacyUnlock_unlocksOwn (P : Platform) (env : Env) (mem : Memory) (userId : UInt32)
    (password : Bytes) (filename : String) :
    UnlocksOwn env userId 1 (legacyUnlock P env mem userId password filename) := by
  unfold legacyUnlock
  split
  · exact unlocksOwn_pure_false
  split
  · exact unlocksOwn_pure_false
  refine unlocksOwn_emit_bind (by simp [Event.kind]) ?_
  split
  · exact unlocksOwn_pure_false
  refine unlocksOwn_emit_bind (by simp [Event.kind]) ?_
  split
  · exact unlocksOwn_pure_false
  split
  exacts [unlocksOwn_fail _, unlocksOwn_decryptCEStorage _]

/-- On a device without synthetic-password directories, `Decrypt_User` verifies the legacy key
file with the HIDL gatekeeper and then unlocks with `HashPassword(Password)` whatever the
gatekeeper answers, `ERROR` and `RETRY_TIMEOUT` included; only a failed transaction stops it.
A non-`OK` answer leaves `auth_token` unset, which is read unless the prior `auth_token_len`
is zero. -/
theorem decryptUser_legacy_ignores_answer (P : Platform) (env : Env) (mem : Memory)
    (userId : UInt32) (password : Bytes) (hu : userId.toNat ≤ 9999)
    (hc : password ≠ defaultCredential) (hsp : env.fs (spblobDirName userId) = none)
    (hsp0 : env.fs (spblobDirName 0) = none) (handle : Bytes)
    (hkey : env.fs (legacyKeyDir userId ++ "gatekeeper.password.key") = some (.file handle))
    (hne : handle ≠ []) (verify : UInt32 → Nat → Bytes → Bytes → Option HidlVerifyResponse)
    (hsvc : env.hidlGatekeeper = some verify) (rsp : HidlVerifyResponse)
    (hrsp : verify userId 0 handle password = some rsp)
    (hread : P.hidlStatusOk ≤ rsp.code ∨ mem.authTokenLen = 0) :
    unlockCalls (decryptUser P env mem userId password []).2 =
      [(userId, P.hashPassword password)] := by
  have hstat : statNonEmpty env.fs (legacyKeyDir userId ++ "gatekeeper.password.key") = true := by
    simp [statNonEmpty, hkey, Node.size, List.length_pos.mpr hne]
  have hgp : (getPasswordType env mem userId).Returns
      (1, legacyKeyDir userId ++ "gatekeeper.password.key") [] := fun tr => by
    simp [getPasswordType, pathExists, hsp, hstat]
  have hu' : ¬ 9999 < userId.toNat := by omega
  simp only [decryptUser, hu', if_false, hgp.bind_apply]
  simp [hc, pathExists, hsp0, legacyUnlock, hkey, readFileToString, hsvc, hrsp]
  rw [if_neg (by omega), unlockCalls_decryptCEStorage]
  rfl

/-- User 0 on a legacy device: a password key file, and a HIDL gatekeeper answering `ERROR`. -/
def legacyEnv : Env :=
  { Env.unreachable with
    fs := FileSystem.ofList [("/data/system/gatekeeper.password.key", .file [7])]
    hidlGatekeeper := some fun _ _ _ _ => some ⟨-1, 0, []⟩ }

/-- The gatekeeper answers `ERROR` to the sample credential, and the storage is unlocked all the
same. -/
theorem decryptUser_legacy_error_unlocks :
    (-1 : Int) < Platform.sample.hidlStatusOk ∧
      unlockCalls (decryptUser Platform.sample legacyEnv Memory.zero 0 sampleCredential []).2 =
        [(0, Platform.sample.hashPassword sampleCredential)] :=
  ⟨by decide, decryptUser_legacy_ignores_answer Platform.sample legacyEnv Memory.zero 0
    sampleCredential (by decide) (by decide) (by decide) (by decide) [7] (by decide) (by decide) _
    rfl _ rfl (.inr rfl)⟩

/-- For a credential other than `"!"` that the probe classifies, `Decrypt_User` runs
`Decrypt_User_Synth_Pass` when `/data/system_de/0/spblob` exists and otherwise the legacy
gatekeeper on the key file the probe named: the directory it stats is user 0's, whatever the
user, while the probe looked at the user's own. -/
theorem decryptUser_method (P : Platform) (env : Env) (mem : Memory) (userId : UInt32)
    (password : Bytes) (hu : userId.toNat ≤ 9999) (hc : password ≠ defaultCredential)
    {passwordType : Nat} {filename : String} {evs : List Event}
    (hp : (getPasswordType env mem userId).Returns (passwordType, filename) evs)
    (ht : passwordType ≠ 0) (tr : List Event) :
    decryptUser P env mem userId password tr =
      (if pathExists env.fs (spblobDirName 0) then decryptUserSynthPass P env mem userId password
        else legacyUnlock P env mem userId password filename) (tr ++ evs) := by
  have hu' : ¬ 9999 < userId.toNat := by omega
  simp only [decryptUser, hu', if_false, hp.bind_apply]
  simp [ht, hc]

/-- A device with two users: user 0 on the synthetic-password scheme, user 10 still on a legacy
password key file, and a HIDL gatekeeper that accepts every credential. -/
def mixedEnv : Env :=
  { Env.unreachable with
    fs := FileSystem.ofList [("/data/system_de/0/spblob", .other 4096),
      ("/data/system/users/10/gatekeeper.password.key", .file [7])]
    hidlGatekeeper := some fun _ _ _ _ => some ⟨0, 0, []⟩
    unlockCeStorage := fun _ _ => true
    prepareUserStorage := fun _ => true }

/-- User 10 has no spblob directory and its probe names the legacy password key, but
`Decrypt_User` runs `Decrypt_User_Synth_Pass` because user 0 has one: user 10's storage stays
locked, where the key file would have unlocked it. -/
theorem decryptUser_mixed_device :
    pathExists mixedEnv.fs (spblobDirName 10) = false ∧
      (getPasswordType mixedEnv Memory.zero 10).Returns
        (1, "/data/system/users/10/gatekeeper.password.key") [] ∧
      decryptUser Platform.sample mixedEnv Memory.zero 10 sampleCredential [] =
        decryptUserSynthPass Platform.sample mixedEnv Memory.zero 10 sampleCredential [] ∧
      unlockCalls (decryptUser Platform.sample mixedEnv Memory.zero 10 sampleCredential []).2 =
        [] ∧
      unlockCalls (legacyUnlock Platform.sample mixedEnv Memory.zero 10 sampleCredential
        "/data/system/users/10/gatekeeper.password.key" []).2 =
        [(10, Platform.sample.hashPassword sampleCredential)] := by
  have hdir : pathExists mixedEnv.fs (spblobDirName 10) = false := by decide
  have hgp : (getPasswordType mixedEnv Memory.zero 10).Returns
      (1, "/data/system/users/10/gatekeeper.password.key") [] := fun tr => by
    have hkey : legacyKeyDir 10 ++ "gatekeeper.password.key" =
        "/data/system/users/10/gatekeeper.password.key" := by decide
    have hstat : statNonEmpty mixedEnv.fs "/data/system/users/10/gatekeeper.password.key" = true :=
      by decide
    simp only [getPasswordType, hdir, hkey, hstat, if_true, Bool.false_eq_true, if_false]
    exact Run.returns_pure _ tr
  have hm := decryptUser_method Platform.sample mixedEnv Memory.zero 10 sampleCredential
    (by decide) (by decide) hgp (by decide) []
  rw [if_pos (by decide)] at hm
  refine ⟨hdir, hgp, hm, ?_, by decide⟩
  rw [hm]
  decide

/-- Whatever the files, the stack and the services answer, `Decrypt_User` calls
`fscrypt_unlock_ce_storage` for its own user only, and at most once, or twice for the default
credential `"!"`, whose literal unlock may be followed by the synthetic-password one; and it
returns `true` only after one of these unlocks and `fscrypt_prepare_user_storage` succeeded. -/
theorem decryptUser_unlocks_own_user (P : Platform) (env : Env) (mem : Memory)
    (userId : UInt32) (password : Bytes) :
    UnlocksOwn env userId (if password = defaultCredential then 2 else 1)
      (decryptUser P env mem userId password) := by
  have hsynth := decryptUserSynthPass_unlocksOwn P env mem userId password
  generalize hk : (if password = defaultCredential then 2 else 1) = k
  have hk₁ : 1 ≤ k := by split at hk <;> omega
  unfold decryptUser
  split
  · exact unlocksOwn_pure_false
  refine (getPasswordType_within env mem userId).bind_unlocksOwn rfl fun r _ => ?_
  obtain ⟨passwordType, filename⟩ := r
  dsimp only
  split
  · exact unlocksOwn_pure_false
  split
  · next hd => exact (unlocksOwn_decryptCEStorage_bind hsynth).mono (by rw [← hk, if_pos hd])
  · split
    exacts [hsynth.mono hk₁, (legacyUnlock_unlocksOwn P env mem userId password filename).mono hk₁]

end VoldDecrypt
