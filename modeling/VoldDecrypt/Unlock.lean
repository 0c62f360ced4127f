import VoldDecrypt.SynthPass

/-!
# What reaches `fscrypt_unlock_ce_storage`

The end-to-end round trip of the synthetic-password unwrap: a `.pwd` record as the framework
writes it, either way of forming the application id, a blob `v ‖ 0 ‖ n₁ ‖ E` whose keystore
decryption is the envelope `n₂ ‖ AES-GCM(first32(Personalize("application-id", T ‖ S)), n₂, sp)`:
the driver unlocks the user's storage with the disk secret of `sp`, and with nothing else.

The unwrap keeps `keystore_result_size - 12` in an `int`: an envelope whose ciphertext
`|sp| + 16` reaches 2^31 wraps to a negative size, `malloc` fails, and no unlock happens.

Whatever the files, the stack and the services answer, a run unlocks at most once, only its
own user, only with a disk secret derived for the version of its `.spblob` and never with the
empty one, and reports success only after the unlock and the storage preparation succeeded:
no stage before `Decrypt_CE_storage` touches the storage.
-/
namespace VoldDecrypt

/-- What a run that ended with `r` after the events `evs` did to the CE storage of `userId`:
no unlock call and no success, or one unlock call for `userId` with a non-empty secret that
satisfies `ok`, with success only when that unlock and the storage preparation succeeded. -/
def UnlocksOnce (env : Env) (userId : UInt32) (ok : Bytes → Prop) (r : Outcome Bool)
    (evs : List Event) : Prop :=
  (unlockCalls evs = [] ∧ r ≠ .ret true) ∨
    ∃ secret, secret ≠ [] ∧ ok secret ∧ unlockCalls evs = [(userId, secret)] ∧
      (r = .ret true → env.unlockCeStorage userId secret = true ∧
        env.prepareUserStorage userId = true)

/-- From any events before it, `x` appends events and ends as `UnlocksOnce` allows. -/
def UnlockSafe (env : Env) (userId : UInt32) (ok : Bytes → Prop) (x : Run Bool) : Prop :=
  ∀ tr, ∃ evs, (x tr).2 = tr ++ evs ∧ UnlocksOnce env userId ok (x tr).1 evs

/-- The secrets a run may hand to `fscrypt_unlock_ce_storage` for `userId`: a disk secret for
the blob `<handle>.spblob` holds. -/
def DerivedSecret (P : Platform) (env : Env) (userId : UInt32) (secret : Bytes) : Prop :=
  ∃ s, getSpblobData env.fs (spblobDir userId) (env.getHandle userId) ".spblob" = some s ∧
    IsDiskSecretFor P s secret

/-- What a run may do to the CE storage of `userId` in at most `n` attempts: every unlock call
it appends is for `userId`, there are at most `n` of them, and it returns `true` only after one of
them and the storage preparation succeeded. -/
def UnlocksOwn (env : Env) (userId : UInt32) (n : Nat) (x : Run Bool) : Prop :=
  ∀ tr, ∃ evs, (x tr).2 = tr ++ evs ∧ (∀ c ∈ unlockCalls evs, c.1 = userId) ∧
    (unlockCalls evs).length ≤ n ∧
    ((x tr).1 = .ret true → ∃ secret, (userId, secret) ∈ unlockCalls evs ∧
      env.unlockCeStorage userId secret = true ∧ env.prepareUserStorage userId = true)

section AnyRun

variable {env : Env} {userId : UInt32} {ok : Bytes → Prop}

theorem unlockSafe_pure_false : UnlockSafe env userId ok (pure false) :=
  fun tr => ⟨[], by simp, .inl ⟨rfl, by simp⟩⟩

theorem unlockSafe_decryptCEStorage {secret : Bytes} (h : secret ≠ []) (hok : ok secret) :
    UnlockSafe env userId ok (decryptCEStorage env userId secret) := fun tr => by
  obtain ⟨e, hrun, hq⟩ := decryptCEStorage_result env userId secret tr
  rw [hrun]
  exact ⟨e, rfl, .inr ⟨secret, h, hok, hq, fun ht => by simpa using ht⟩⟩

/-- A run that touches no storage, followed by a safe one, is safe. -/
theorem Run.Within.bind_unlockSafe {α : Type} {ks : List EventKind} {x : Run α} {p : α → Prop}
    {f : α → Run Bool} (hx : x.Within ks p) (hs : ks.contains .storage = false)
    (hf : ∀ a, p a → UnlockSafe env userId ok (f a)) :
    UnlockSafe env userId ok (x >>= f) := fun tr => by
  obtain ⟨e₁, h₁, k₁, p₁⟩ := hx tr
  have q₁ := unlockCalls_eq_nil_of_kinds k₁ hs
  rw [Run.bind_apply]
  rcases h : x tr with ⟨a | _, tr'⟩ <;> rw [h] at h₁ p₁ <;> subst h₁
  · obtain ⟨e₂, h₂, s₂⟩ := hf a (p₁ a rfl) (tr ++ e₁)
    have hq : unlockCalls (e₁ ++ e₂) = unlockCalls e₂ := by simp [q₁]
    exact ⟨e₁ ++ e₂, by simp [h₂], by unfold UnlocksOnce; rw [hq]; exact s₂⟩
  · exact ⟨e₁, rfl, .inl ⟨q₁, by simp⟩⟩

variable {n : Nat}

theorem unlocksOwn_pure_false : UnlocksOwn env userId n (pure false) := fun tr =>
  ⟨[], by simp, by simp⟩

theorem unlocksOwn_fail (f : Fault) : UnlocksOwn env userId n (Run.fail f) := fun tr =>
  ⟨[], by simp, by simp⟩

theorem UnlocksOwn.mono {m : Nat} {x : Run Bool} (hx : UnlocksOwn env userId m x) (h : m ≤ n) :
    UnlocksOwn env userId n x := fun tr =>
  let ⟨evs, he, o, l, s⟩ := hx tr
  ⟨evs, he, o, l.trans h, s⟩

/-- A run that touches no storage, followed by one that keeps to the bound, keeps to it. -/
theorem Run.Within.bind_unlocksOwn {α : Type} {ks : List EventKind} {x : Run α} {p : α → Prop}
    {f : α → Run Bool} (hx : x.Within ks p) (hs : ks.contains .storage = false)
    (hf : ∀ a, p a → UnlocksOwn env userId n (f a)) : UnlocksOwn env userId n (x >>= f) :=
  fun tr => by
  obtain ⟨e₁, h₁, k₁, p₁⟩ := hx tr
  have q₁ := unlockCalls_eq_nil_of_kinds k₁ hs
  rw [Run.bind_apply]
  rcases h : x tr with ⟨a | _, tr'⟩ <;> rw [h] at h₁ p₁ <;> subst h₁
  · obtain ⟨e₂, h₂, s₂⟩ := hf a (p₁ a rfl) (tr ++ e₁)
    have hq : unlockCalls (e₁ ++ e₂) = unlockCalls e₂ := by simp [q₁]
    exact ⟨e₁ ++ e₂, by simp [h₂], by rw [hq]; exact s₂⟩
  · exact ⟨e₁, rfl, by simp [q₁]⟩

theorem unlocksOwn_emit_bind {e : Event} {x : Run Bool} (he : e.kind ≠ .storage)
    (hx : UnlocksOwn env userId n x) : UnlocksOwn env userId n (Run.emit e >>= fun _ => x) :=
  fun tr => by
  have hq : ∀ evs, unlockCalls (e :: evs) = unlockCalls evs := by
    cases e <;> simp_all [Event.kind, unlockCalls]
  obtain ⟨evs, h, s⟩ := hx (tr ++ [e])
  exact ⟨e :: evs, by simp [h], by rw [hq]; exact s⟩

theorem unlocksOwn_decryptCEStorage (secret : Bytes) :
    UnlocksOwn env userId 1 (decryptCEStorage env userId secret) := fun tr => by
  obtain ⟨e, hrun, hq⟩ := decryptCEStorage_result env userId secret tr
  rw [hrun]
  exact ⟨e, rfl, by simp [hq], by simp [hq], fun ht => ⟨secret, by simp [hq], by simpa using ht⟩⟩

/-- The default credential's first attempt: the literal unlock, then `x` unless it succeeded. -/
theorem unlocksOwn_decryptCEStorage_bind {secret : Bytes} {x : Run Bool}
    (hx : UnlocksOwn env userId n x) :
    UnlocksOwn env userId (n + 1)
      (decryptCEStorage env userId secret >>= fun unlocked => if unlocked then pure true else x) :=
  fun tr => by
  obtain ⟨e, hrun, hq⟩ := decryptCEStorage_result env userId secret tr
  rw [Run.bind_apply, hrun]
  cases hb : (env.unlockCeStorage userId secret && env.prepareUserStorage userId)
  · obtain ⟨evs, h, o, l, s⟩ := hx (tr ++ e)
    refine ⟨e ++ evs, by simp [h], ?_, by simp [hq]; omega, fun ht => ?_⟩
    · simpa [hq] using o
    · obtain ⟨s', hm, hs⟩ := s ht
      exact ⟨s', by simp [hq, hm], hs⟩
  · exact ⟨e, by simp, by simp [hq], by simp [hq],
      fun _ => ⟨secret, by simp [hq], by simpa using hb⟩⟩

end AnyRun

section Driver

variable (P : Platform) (env : Env) (mem : Memory) (userId : UInt32) (password : Bytes)

/-- Every property of runs that a prefix touching no storage keeps, that `pure false` has, and
that `Decrypt_CE_storage` has on a non-empty derived secret, holds of `Decrypt_User_Synth_Pass`:
its stages before `Decrypt_CE_storage` touch no storage, on every branch and whatever the files,
the stack and the services answer. -/
theorem decryptUserSynthPass_of_closed (Q : Run Bool → Prop)
    (hbind : ∀ {α : Type} {ks : List EventKind} {x : Run α} {p : α → Prop} {f : α → Run Bool},
      x.Within ks p → ks.contains .storage = false → (∀ a, p a → Q (f a)) → Q (x >>= f))
    (hfalse : Q (pure false))
    (hce : ∀ secret, secret ≠ [] → DerivedSecret P env userId secret →
      Q (decryptCEStorage env userId secret)) :
    Q (decryptUserSynthPass P env mem userId password) := by
  unfold decryptUserSynthPass
  refine hbind (passwordTokenStep_within P env mem _ _ password) rfl fun
    | none, _ => hfalse
    | some (pwd, token), _ =>
      hbind (applicationIdStep_within P env mem userId _ _ password pwd token) rfl fun
        | none, _ => hfalse
        | some applicationId, _ =>
          hbind (unwrapSyntheticPasswordBlob_within P env mem userId applicationId _ _) rfl
            fun secret hsecret => ?_
  split
  · exact hfalse
  · next hne =>
    have hne' : secret ≠ [] := by simpa using hne
    exact hce secret hne' (hsecret.resolve_left hne')

/-- Whatever the files, the stack and the services answer, `Decrypt_User_Synth_Pass` calls
`fscrypt_unlock_ce_storage` at most once, for its own user, with a non-empty disk secret
derived for the version of its `.spblob`, and returns `true` only after that call and
`prepare_user_storage` succeeded. -/
theorem decryptUserSynthPass_unlockSafe :
    UnlockSafe env userId (DerivedSecret P env userId)
      (decryptUserSynthPass P env mem userId password) :=
  decryptUserSynthPass_of_closed P env mem userId password _
    (fun hx hs hf => hx.bind_unlockSafe hs hf) unlockSafe_pure_false
    fun _ hne hok => unlockSafe_decryptCEStorage hne hok

theorem decryptUserSynthPass_unlocksOwn :
    UnlocksOwn env userId 1 (decryptUserSynthPass P env mem userId password) :=
  decryptUserSynthPass_of_closed P env mem userId password _
    (fun hx hs hf => hx.bind_unlocksOwn hs hf) unlocksOwn_pure_false
    fun secret _ _ => unlocksOwn_decryptCEStorage secret

end Driver

section Sealed

variable (P : Platform) (env : Env) (mem : Memory) (userId : UInt32) (password : Bytes)
  (hc : password ≠ defaultCredential) (rec : PasswordRecord)
  (hN : rec.scryptN.toNat < 31) (hR : rec.scryptR.toNat < 31) (hP : rec.scryptP.toNat < 31)
  (hpwd : getSpblobData env.fs (spblobDir userId) (env.getHandle userId) ".pwd" =
    some rec.serialize)
  (T : Bytes) (hT : P.cryptoScrypt password rec.salt (2 ^ rec.scryptN.toNat)
    (2 ^ rec.scryptR.toNat) (2 ^ rec.scryptP.toNat) 32 = some T)
  (toks : List HardwareAuthToken) (S : Bytes)
  (hS : ApplicationSecret P env mem userId (spblobDir userId) (env.getHandle userId) rec.decoded T
    toks S)
  (v : UInt8) (hv : v = 2 ∨ v = 3) (n₁ n₂ E sp : Bytes) (hn₁ : n₁.length = 12)
  (hn₂ : n₂.length = 12)
  (hblob : getSpblobData env.fs (spblobDir userId) (env.getHandle userId) ".spblob" =
    some ([v, 0] ++ n₁ ++ E))
  (ks : Keystore) (hks : env.keystore = some ks)
  (hans : KeystoreAnswers ks (env.getAlias (env.getHandle userId)) toks n₁ E
    (some (some (n₂ ++ P.aesGcm.encrypt (applicationKey P (T ++ S)) n₂ sp))))

include hc hN hR hP hpwd hT hS hv hn₁ hblob hks hans

/-- Up to the inner envelope, the run makes no unlock call. -/
theorem decryptUserSynthPass_of_sealed : ∃ evs, unlockCalls evs = [] ∧
    decryptUserSynthPass P env mem userId password [] =
      (decryptSecret P mem v (T ++ S) (n₂ ++ P.aesGcm.encrypt (applicationKey P (T ++ S)) n₂ sp) >>=
        fun secret => if secret.isEmpty then pure false else decryptCEStorage env userId secret)
        evs := by
  obtain ⟨e₁, h₁, q₁⟩ := passwordTokenStep_of_record P env mem _ _ hc hpwd hN hR hP hT
  obtain ⟨e₂, h₂, q₂, a₂⟩ := applicationIdStep_of_secret P env mem userId _ _ hc hS
  refine ⟨_, ?_, by rw [decryptUserSynthPass_of_stages P env mem userId h₁ h₂ hblob,
    Run.bind_apply, unwrapSpblob_of_keystore P env mem userId _ hv hn₁ hks hans _
      fun t ht => by simp [a₂ ht]]; rfl⟩
  simp [q₁, q₂]

include hn₂

/-- The round trip: the storage is unlocked once, with the disk secret of `sp`. -/
theorem decryptUserSynthPass_unlocks (hsp : sp.length + 16 < 2 ^ 31) :
    unlockCalls (decryptUserSynthPass P env mem userId password []).2 =
      [(userId, diskSecret P v sp)] := by
  obtain ⟨evs, q, h⟩ := decryptUserSynthPass_of_sealed P env mem userId password hc rec hN hR hP
    hpwd T hT toks S hS v hv n₁ n₂ E sp hn₁ hblob ks hks hans
  rw [h, Run.bind_apply, decryptSecret_sealed P mem v (T ++ S) evs n₂ sp hn₂ hsp]
  simp [diskSecret_ne_nil, unlockCalls_decryptCEStorage, q]

/-- Past the `int` range of `cipher_size` the same blob unlocks nothing. -/
theorem decryptUserSynthPass_no_unlock_of_wrapped (h₁ : 2 ^ 31 ≤ sp.length + 16)
    (h₂ : sp.length + 16 < 2 ^ 32) :
    unlockCalls (decryptUserSynthPass P env mem userId password []).2 = [] := by
  obtain ⟨evs, q, h⟩ := decryptUserSynthPass_of_sealed P env mem userId password hc rec hN hR hP
    hpwd T hT toks S hS v hv n₁ n₂ E sp hn₁ hblob ks hks hans
  rw [h, Run.bind_apply, decryptSecret_sealed_wrapped P mem v (T ++ S) evs n₂ sp hn₂ h₁ h₂]
  simpa using q

end Sealed

/-- The credential of the sample runs. -/
def sampleCredential : Bytes := ascii "pw"

/-- The token `Platform.sample` derives from `sampleCredential` and the sample `.pwd` record. -/
def sampleToken : Bytes :=
  (sampleCredential ++ samplePasswordRecord.salt ++ List.replicate 32 0).take 32

/-- The application id through a weaver that releases `[7]`. -/
def sampleApplicationId : Bytes :=
  sampleToken ++ Platform.sample.personalizedHashBinary personalisationWeaverPassword [7]

/-- The keystore's plaintext for a synthetic password `sp`, sealed under the zero nonce and the
application key of `applicationId`. -/
def sampleEnvelope (applicationId sp : Bytes) : Bytes :=
  List.replicate 12 0 ++
    Platform.sample.aesGcm.encrypt (applicationKey Platform.sample applicationId)
      (List.replicate 12 0) sp

/-- User 0's files under handle `h`: the sample `.pwd` record, a weaver record, and a version 2
blob with a zero nonce. -/
def sampleFs : FileSystem :=
  FileSystem.ofList [("/data/system_de/0/spblob/h.pwd", .file samplePasswordRecord.serialize),
    ("/data/system_de/0/spblob/h.weaver", .file [1, 0, 0, 0, 0]),
    ("/data/system_de/0/spblob/h.spblob", .file ([2, 0] ++ List.replicate 12 0 ++ [5]))]

theorem sampleFs_pwd :
    getSpblobData sampleFs (spblobDir 0) "h" ".pwd" = some samplePasswordRecord.serialize := by
  decide

theorem sampleFs_weaver :
    sampleFs (spblobDir 0 ++ "h" ++ ".weaver") = some (.file [1, 0, 0, 0, 0]) := by
  decide

theorem sampleFs_spblob :
    getSpblobData sampleFs (spblobDir 0) "h" ".spblob" =
      some ([2, 0] ++ List.replicate 12 0 ++ [5]) := by
  decide

/-- The sample files, a weaver releasing `[7]`, and a keystore whose `finish` returns `reply`. -/
def sampleEnv (reply : Bytes) : Env where
  fs := sampleFs
  getHandle _ := "h"
  getAlias h := h
  weaver := ⟨true, some 32, fun _ _ => some [7]⟩
  gatekeeperDeclared := false
  aidlGatekeeper := none
  hidlGatekeeper := none
  authorization := none
  keystore := some ⟨fun _ => true, fun _ _ _ => true, fun _ _ _ => some (some reply)⟩
  unlockCeStorage _ _ := true
  prepareUserStorage _ := true

/-- User 0's files on the secdis path: the sample `.pwd` record, a `.secdis` file and the sample
blob, with no weaver record. -/
def sampleSecdisFs : FileSystem :=
  FileSystem.ofList [("/data/system_de/0/spblob/h.pwd", .file samplePasswordRecord.serialize),
    ("/data/system_de/0/spblob/h.secdis", .file [3, 4]),
    ("/data/system_de/0/spblob/h.spblob", .file ([2, 0] ++ List.replicate 12 0 ++ [5]))]

/-- The 69-byte auth token a gatekeeper hands back in the secdis sample. -/
def sampleAuthPayload : Bytes := List.replicate 69 1

/-- The sample auth token as the secdis path decodes it for the authorization service. -/
def sampleAuthToken : HardwareAuthToken :=
  (decodeHwAuthToken ⟨sampleAuthPayload, Memory.zero.rest .authToken⟩).1

/-- The secdis sample: a HIDL gatekeeper answering `OK` with the sample token, an authorization
service that accepts every token, and a keystore that begins an operation only once it holds the
sample token, and whose `finish` returns `reply`. -/
def sampleSecdisEnv (reply : Bytes) : Env where
  fs := sampleSecdisFs
  getHandle _ := "h"
  getAlias h := h
  weaver := ⟨false, none, fun _ _ => none⟩
  gatekeeperDeclared := false
  aidlGatekeeper := none
  hidlGatekeeper := some fun _ _ _ _ => some ⟨0, 0, sampleAuthPayload⟩
  authorization := some fun _ => true
  keystore := some ⟨fun _ => true, fun _ _ held => held.contains sampleAuthToken,
    fun _ _ _ => some (some reply)⟩
  unlockCeStorage _ _ := true
  prepareUserStorage _ := true

/-- The application id of the secdis sample. -/
def sampleSecdisApplicationId : Bytes :=
  sampleToken ++ Platform.sample.personalizedHashBinary personalisationSecdiscardable [3, 4]

theorem decryptUserSynthPass_unlocks_sample :
    unlockCalls (decryptUserSynthPass Platform.sample
        (sampleEnv (sampleEnvelope sampleApplicationId [1, 2, 3])) Memory.zero 0
        sampleCredential []).2 = [(0, diskSecret Platform.sample 2 [1, 2, 3])] ∧
      unlockCalls (decryptUserSynthPass Platform.sample
        (sampleSecdisEnv (sampleEnvelope sampleSecdisApplicationId [1, 2, 3])) Memory.zero 0
        sampleCredential []).2 = [(0, diskSecret Platform.sample 2 [1, 2, 3])] :=
  ⟨decryptUserSynthPass_unlocks Platform.sample
    (sampleEnv (sampleEnvelope sampleApplicationId [1, 2, 3])) Memory.zero 0
    sampleCredential (by decide) samplePasswordRecord (by decide) (by decide) (by decide)
    sampleFs_pwd sampleToken rfl [] _ (.weaver [1, 0, 0, 0, 0] [7] 32 sampleFs_weaver rfl rfl rfl)
    2 (Or.inl rfl) (List.replicate 12 0) (List.replicate 12 0) [5] [1, 2, 3] rfl rfl
    sampleFs_spblob _ rfl ⟨rfl, fun _ _ => rfl, rfl⟩ (by decide),
  decryptUserSynthPass_unlocks Platform.sample
    (sampleSecdisEnv (sampleEnvelope sampleSecdisApplicationId [1, 2, 3])) Memory.zero 0
    sampleCredential (by decide) samplePasswordRecord (by decide) (by decide) (by decide)
    (by decide) sampleToken rfl _ _
    (.secdis [3, 4] _ (by decide) (by decide) (by decide)
      (.hidl _ ⟨0, 0, sampleAuthPayload⟩ (fun _ => true) (.inl rfl) rfl rfl (by decide) rfl))
    2 (Or.inl rfl) (List.replicate 12 0) (List.replicate 12 0) [5] [1, 2, 3] rfl rfl
    (by decide) _ rfl
    ⟨rfl, fun _ h => List.elem_eq_true_of_mem (h (by decide)), rfl⟩ (by decide)⟩

/-- A synthetic password of 2^31 - 16 bytes: `cipher_size` wraps to -2^31, the unwrap returns
`""`, and the storage is not unlocked. -/
theorem decryptUserSynthPass_long_sp_no_unlock :
    unlockCalls (decryptUserSynthPass Platform.sample
      (sampleEnv (sampleEnvelope sampleApplicationId (List.replicate (2 ^ 31 - 16) 0)))
      Memory.zero 0 sampleCredential []).2 = [] :=
  decryptUserSynthPass_no_unlock_of_wrapped Platform.sample
    (sampleEnv (sampleEnvelope sampleApplicationId (List.replicate (2 ^ 31 - 16) 0))) Memory.zero
    0 sampleCredential (by decide) samplePasswordRecord (by decide) (by decide) (by decide)
    sampleFs_pwd sampleToken rfl [] _ (.weaver [1, 0, 0, 0, 0] [7] 32 sampleFs_weaver rfl rfl rfl)
    2 (Or.inl rfl) (List.replicate 12 0) (List.replicate 12 0) [5]
    (List.replicate (2 ^ 31 - 16) 0) rfl rfl sampleFs_spblob _ rfl ⟨rfl, fun _ _ => rfl, rfl⟩
    (by rw [List.length_replicate]; omega) (by rw [List.length_replicate]; omega)

/-- For `"!"` on the weaver path, the weaver key and the application id handed to
`unwrapSyntheticPasswordBlob` are formed from `"default-password"` followed by the 16 bytes the
stack array `password_token` held before the call. -/
theorem decryptUserSynthPass_default_credential (P : Platform) (env : Env) (mem : Memory)
    (userId : UInt32) {w payload s : Bytes} {k : UInt32}
    (hfile : env.fs (spblobDir userId ++ env.getHandle userId ++ ".weaver") = some (.file w))
    (havail : env.weaver.available = true) (hks : env.weaver.keySize = some k)
    (hverify : env.weaver.verify (weaverSlot w (mem.rest .weaver))
      (P.personalizedHashBinary personalisationWeaverKey
        (defaultPassword ++ mem.passwordToken.drop 16)) = some payload)
    (hblob : getSpblobData env.fs (spblobDir userId) (env.getHandle userId) ".spblob" = some s) :
    ∃ evs, .weaverVerify (weaverSlot w (mem.rest .weaver)) (P.personalizedHashBinary
        personalisationWeaverKey (defaultPassword ++ mem.passwordToken.drop 16)) ∈ evs ∧
      decryptUserSynthPass P env mem userId defaultCredential [] =
        (unwrapSpblob P env mem userId (defaultPassword ++ mem.passwordToken.drop 16 ++
            P.personalizedHashBinary personalisationWeaverPassword payload) s >>=
          fun secret => if secret.isEmpty then pure false else decryptCEStorage env userId secret)
          evs :=
  ⟨_, by simp, decryptUserSynthPass_of_stages P env mem userId
    (passwordTokenStep_default P env mem _ _)
    (applicationIdStep_of_weaver P env mem userId _ _ hfile havail hks hverify) hblob []⟩

/-- Memory in which `password_token` held ones before the call. -/
def onesMemory : Memory :=
  { Memory.zero with passwordToken := List.replicate 32 1, passwordToken_length := rfl }

/-- With ones on the stack instead of zeros, the sample user's application id for `"!"` changes. -/
theorem decryptUserSynthPass_default_credential_ones :
    defaultPassword ++ Memory.zero.passwordToken.drop 16 ≠
        defaultPassword ++ onesMemory.passwordToken.drop 16 ∧
      ∃ evs, .weaverVerify (weaverSlot [1, 0, 0, 0, 0] (onesMemory.rest .weaver))
          (Platform.sample.personalizedHashBinary personalisationWeaverKey
            (defaultPassword ++ onesMemory.passwordToken.drop 16)) ∈ evs ∧
        decryptUserSynthPass Platform.sample (sampleEnv []) onesMemory 0 defaultCredential [] =
          (unwrapSpblob Platform.sample (sampleEnv []) onesMemory 0
              (defaultPassword ++ onesMemory.passwordToken.drop 16 ++
                Platform.sample.personalizedHashBinary personalisationWeaverPassword [7])
              ([2, 0] ++ List.replicate 12 0 ++ [5]) >>=
            fun secret => if secret.isEmpty then pure false
              else decryptCEStorage (sampleEnv []) 0 secret) evs :=
  ⟨by decide, decryptUserSynthPass_default_credential Platform.sample (sampleEnv []) onesMemory 0
    sampleFs_weaver rfl rfl rfl sampleFs_spblob⟩

end VoldDecrypt
