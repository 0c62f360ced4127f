import VoldDecrypt.Run

/-!
# Unwrapping the synthetic password blob

`unwrapSyntheticPasswordBlob` reads `<handle>.spblob` (`version | type | iv[12] |
ciphertext`), checks the version and the type byte, and has the keystore decrypt the
ciphertext with its AES-GCM key under the blob's nonce. The keystore's output is itself
`iv[12] | ciphertext | tag[16]`, which OpenSSL decrypts under the first 32 bytes of
`PersonalizedHashBinary("application-id", application_id)`. The tag handed to
`EVP_CTRL_GCM_SET_TAG` is an uninitialized stack array, the tag bytes are decrypted along
with the ciphertext, and the result of `EVP_DecryptFinal_ex` is not looked at: the secret
is the decryption minus its last 16 bytes, personalized into the disk decryption key.

No length is compared with what the code reads: `spblob_data.size() - 14`,
`keystore_result_size - 12` and `actual_size - 16` are computed unguarded. A `std::string`
built from an end before its begin throws, and a negative length handed on as `size_t`
faults.
-/
namespace VoldDecrypt

/-- The keystore output copied into the `malloc`ed `keystore_result`. -/
def keystoreResultBuffer (mem : Memory) (r : Bytes) : Buffer := ⟨r, mem.rest .keystoreResult⟩

/-- `int cipher_size = keystore_result_size - 12`. -/
def cipherSize (r : Bytes) : Int := toInt32 (sizeT ((r.length : Int) - 12))

theorem cipherSize_eq {r : Bytes} (h : r.length < 2 ^ 31 + 12) :
    cipherSize r = r.length - 12 := by
  unfold cipherSize toInt32 sizeT
  split <;> omega

/-- The AES-256 key of the inner layer: the first 32 bytes of the personalized application
id. -/
def applicationKey (P : Platform) (applicationId : Bytes) : Bytes :=
  (P.personalizedHashBinary personalisationApplicationId applicationId).take 32

/-- The disk decryption secret of a synthetic password: SP 800-108 for version 3, the
SHA-512 personalization otherwise. -/
def diskSecret (P : Platform) (version : UInt8) (sk : Bytes) : Bytes :=
  if version = 3 then P.personalizedHashSP800 personalizationFbeKey personalisationContext sk
  else P.personalizedHash personalizationFbeKey sk

theorem diskSecret_ne_nil (P : Platform) (version : UInt8) (sk : Bytes) :
    diskSecret P version sk ≠ [] := by
  unfold diskSecret
  split
  · exact P.personalizedHashSP800_ne_nil _ _ _
  · exact P.personalizedHash_ne_nil _ _

/-- The second half of `unwrapSyntheticPasswordBlob`: from the keystore's plaintext `r` to
the disk decryption secret. -/
def decryptSecret (P : Platform) (mem : Memory) (version : UInt8) (applicationId r : Bytes) :
    Run Bytes :=
  if !mallocOk r.length then pure [] else do
  Run.emit (.read .keystoreResult ⟨0, r.length⟩)
  let kr := keystoreResultBuffer mem r
  let intermediateIv := kr.slice 0 12
  let key := applicationKey P applicationId
  Run.emit (.read .keystoreResult ⟨0, 12⟩)
  if !mallocOk (sizeT (cipherSize r)) then pure [] else do
  Run.emit (.read .keystoreResult ⟨12, sizeT (cipherSize r)⟩)
  let cipherText := kr.slice 12 (sizeT (cipherSize r))
  let secretKey := P.aesGcm.decryptUpdate key intermediateIv cipherText
  -- `EVP_DecryptFinal_ex` compares the tag with the uninitialized `tag`; its result is dropped.
  let _ := P.aesGcm.finalOk key intermediateIv cipherText mem.gcmTag
  let secretKeyRealSize : Int := secretKey.length - 16
  if secretKeyRealSize < 0 then Run.fail .negativeLength else
  pure (diskSecret P version (secretKey.take secretKeyRealSize.toNat))

/-- The keystore half of `unwrapSyntheticPasswordBlob` for a blob with a valid header, once
`begin_params` holds its nonce. A `finish` with status OK and no output leaves `optPlaintext`
disengaged, and `optPlaintext->size()` then reads through it, which is undefined behaviour: the
run stops with `emptyOptional` there. A build whose disengaged optional holds an empty vector
would go on with size 0, fail the `malloc` of `cipher_size = -12` and return `""`. -/
def keystoreDecrypt (P : Platform) (env : Env) (mem : Memory) (userId : UInt32)
    (applicationId : Bytes) (version : UInt8) (b : Buffer) : Run Bytes := do
  let keystoreAlias := env.getAlias (env.getHandle userId)
  Run.emit .keystoreConnect
  match env.keystore with
  | none => Run.fail .nullService
  | some ks => do
    Run.emit (.getKeyEntry keystoreAlias)
    if !ks.getKeyEntry keystoreAlias then pure [] else do
    let iv := b.slice 2 12
    Run.emit (.createOperation keystoreAlias iv)
    let tr ← Run.history
    if !ks.createOperation keystoreAlias iv (acceptedTokens tr) then pure [] else do
    let cipherText := b.slice 14 (b.data.length - 14)
    Run.emit (.read .spblob ⟨14, b.data.length - 14⟩)
    Run.emit (.finish cipherText)
    match ks.finish keystoreAlias iv cipherText with
    | none => pure []
    | some none => Run.fail .emptyOptional
    | some (some r) => decryptSecret P mem version applicationId r

/-- `unwrapSyntheticPasswordBlob` once `spblob_data` is read. -/
def unwrapSpblob (P : Platform) (env : Env) (mem : Memory) (userId : UInt32)
    (applicationId spblobData : Bytes) : Run Bytes := do
  let b := Buffer.ofString spblobData (mem.rest .spblob)
  let version := b.get 0
  Run.emit (.read .spblob ⟨0, 1⟩)
  if version ≠ 2 ∧ version ≠ 1 ∧ version ≠ 3 then pure [] else do
  Run.emit (.read .spblob ⟨1, 1⟩)
  if b.get 1 ≠ 0 then pure [] else
  if version = 2 ∨ version = 3 then
    -- `std::string cipher_text_str(byteptr, byteptr + spblob_data.size() - 14)`
    if spblobData.length < 14 then Run.fail .lengthError else do
    Run.emit (.read .spblob ⟨2, spblobData.length - 14⟩)
    -- `begin_params` copies the nonce `iv_hidlvec`
    Run.emit (.read .spblob ⟨2, 12⟩)
    keystoreDecrypt P env mem userId applicationId version b
  else pure []

/-- `unwrapSyntheticPasswordBlob`: read `<handle>.spblob`, then unwrap it; the empty string
reports an error. -/
def unwrapSyntheticPasswordBlob (P : Platform) (env : Env) (mem : Memory)
    (spblobPath handleStr : String) (userId : UInt32) (applicationId : Bytes) : Run Bytes := do
  Run.emit (.readFile (spblobPath ++ handleStr ++ ".spblob"))
  match getSpblobData env.fs spblobPath handleStr ".spblob" with
  | none => pure []
  | some spblobData => unwrapSpblob P env mem userId applicationId spblobData

section DecryptSecret


variable (P : Platform) (mem : Memory) (version : UInt8) (applicationId : Bytes) {r : Bytes}
  (tr : List Event)

theorem mallocOk_of_lt {n : Nat} (h : n < 2 ^ 32) : mallocOk n = true := by
  simp [mallocOk]; omega

theorem mallocOk_cipherSize (r : Bytes) :
    mallocOk (sizeT (cipherSize r)) = decide (0 ≤ cipherSize r) :=
  mallocOk_sizeT (isInt32_toInt32 _)

theorem sizeT_cipherSize (h₁ : 12 ≤ r.length) (h₂ : r.length < 2 ^ 31 + 12) :
    sizeT (cipherSize r) = r.length - 12 := by
  rw [cipherSize_eq h₂]; unfold sizeT; omega

/-- An output shorter than its nonce: the 12-byte nonce is read past its end, and
`malloc` of the wrapped `cipher_size` fails. -/
theorem decryptSecret_of_lt_twelve (h : r.length < 12) :
    decryptSecret P mem version applicationId r tr =
      (.ret [], tr ++ [.read .keystoreResult ⟨0, r.length⟩, .read .keystoreResult ⟨0, 12⟩]) := by
  have h' : r.length < 2 ^ 31 + 12 := by omega
  have hneg : ¬ 0 ≤ cipherSize r := by rw [cipherSize_eq h']; omega
  simp [decryptSecret, @mallocOk_of_lt r.length (by omega), mallocOk_cipherSize, hneg]

/-- An output too short for its tag: `secret_key_real_size` is negative. -/
theorem decryptSecret_of_lt_28 (h₁ : 12 ≤ r.length) (h₂ : r.length < 28) :
    decryptSecret P mem version applicationId r tr =
      (.fault .negativeLength, tr ++ [.read .keystoreResult ⟨0, r.length⟩,
        .read .keystoreResult ⟨0, 12⟩, .read .keystoreResult ⟨12, r.length - 12⟩]) := by
  have h' : r.length < 2 ^ 31 + 12 := by omega
  have hm : mallocOk (r.length - 12) = true := @mallocOk_of_lt (r.length - 12) (by omega)
  simp [decryptSecret, @mallocOk_of_lt r.length (by omega), sizeT_cipherSize h₁ h', hm]
  rw [if_pos (by omega)]
  rfl

/-- The regular case: the secret is the decryption of everything after the nonce, less its
last 16 bytes. -/
theorem decryptSecret_of_le (h₁ : 28 ≤ r.length) (h₂ : r.length < 2 ^ 31 + 12) :
    decryptSecret P mem version applicationId r tr =
      (.ret (diskSecret P version ((P.aesGcm.decryptUpdate (applicationKey P applicationId)
          (r.take 12) (r.drop 12)).take (r.length - 28))),
        tr ++ [.read .keystoreResult ⟨0, r.length⟩, .read .keystoreResult ⟨0, 12⟩,
          .read .keystoreResult ⟨12, r.length - 12⟩]) := by
  have hiv : (keystoreResultBuffer mem r).slice 0 12 = r.take 12 := by
    rw [Buffer.slice_of_le (by simp [keystoreResultBuffer]; omega)]; rfl
  have hct : (keystoreResultBuffer mem r).slice 12 (r.length - 12) = r.drop 12 := by
    rw [Buffer.slice_of_le (by simp [keystoreResultBuffer]; omega)]
    simp [keystoreResultBuffer]
  have hm : mallocOk (r.length - 12) = true := @mallocOk_of_lt (r.length - 12) (by omega)
  simp [decryptSecret, @mallocOk_of_lt r.length (by omega), sizeT_cipherSize (by omega) h₂, hm,
    hiv, hct]
  rw [if_neg (by omega)]
  simp only [Run.pure_apply, Prod.mk.injEq, Outcome.ret.injEq, and_true]
  congr 3; omega

/-- An output of 2^31 bytes or more past its nonce: `int cipher_size` wraps to a negative
number and `malloc` of it fails. -/
theorem decryptSecret_of_wrapped (h₁ : 2 ^ 31 + 12 ≤ r.length) (h₂ : r.length < 2 ^ 32 + 12) :
    decryptSecret P mem version applicationId r tr =
      (.ret [], tr ++ [.read .keystoreResult ⟨0, r.length⟩, .read .keystoreResult ⟨0, 12⟩]) := by
  have hneg : ¬ 0 ≤ cipherSize r := by
    unfold cipherSize toInt32 sizeT
    split <;> omega
  have hm : mallocOk r.length = true := by simp [mallocOk]; omega
  simp [decryptSecret, hm, mallocOk_cipherSize, hneg]

theorem decryptSecret_appends (r : Bytes) :
    (decryptSecret P mem version applicationId r).Appends := by
  intro tr
  unfold decryptSecret
  split_ifs <;> simp
  split_ifs <;> simp

/-- The tag is never checked: for `r = n ‖ c ‖ t` the secret is the decryption of `c`, whatever
`t` and the uninitialized `tag` hold, and it is never empty. -/
theorem decryptSecret_ignores_tag (n c t : Bytes) (hn : n.length = 12) (ht : t.length = 16)
    (hc : c.length + 16 < 2 ^ 31) :
    (decryptSecret P mem version applicationId (n ++ c ++ t) tr).1 =
        .ret (diskSecret P version (P.aesGcm.decryptUpdate (applicationKey P applicationId) n c)) ∧
      diskSecret P version (P.aesGcm.decryptUpdate (applicationKey P applicationId) n c) ≠ [] := by
  refine ⟨?_, diskSecret_ne_nil _ _ _⟩
  have hl : (n ++ c ++ t).length = c.length + 28 := by simp; omega
  rw [decryptSecret_of_le P mem version applicationId tr (by omega) (by omega), hl,
    List.append_assoc, List.take_left' hn, List.drop_left' hn, Nat.add_sub_cancel,
    AesGcm.take_decryptUpdate_append]

/-- An envelope `n ‖ AES-GCM(key, n, sp)` sealed under the application key yields the disk
secret of `sp`, as long as `cipher_size = |sp| + 16` fits in an `int`. -/
theorem decryptSecret_sealed (n sp : Bytes) (hn : n.length = 12) (hsp : sp.length + 16 < 2 ^ 31) :
    decryptSecret P mem version applicationId
        (n ++ P.aesGcm.encrypt (applicationKey P applicationId) n sp) tr =
      (.ret (diskSecret P version sp), tr ++ [.read .keystoreResult ⟨0, sp.length + 28⟩,
        .read .keystoreResult ⟨0, 12⟩, .read .keystoreResult ⟨12, sp.length + 16⟩]) := by
  obtain ⟨x, hx, he⟩ := P.aesGcm.decryptUpdate_encrypt (applicationKey P applicationId) n sp
  have hl : (n ++ P.aesGcm.encrypt (applicationKey P applicationId) n sp).length =
      sp.length + 28 := by simp; omega
  rw [decryptSecret_of_le P mem version applicationId tr (by omega) (by omega), hl,
    List.take_left' hn, List.drop_left' hn, he, Nat.add_sub_cancel, List.take_left,
    show sp.length + 28 - 12 = sp.length + 16 by omega]

/-- When `cipher_size = |sp| + 16` no longer fits in an `int`, the same envelope yields `""`. -/
theorem decryptSecret_sealed_wrapped (n sp : Bytes) (hn : n.length = 12)
    (h₁ : 2 ^ 31 ≤ sp.length + 16) (h₂ : sp.length + 16 < 2 ^ 32) :
    decryptSecret P mem version applicationId
        (n ++ P.aesGcm.encrypt (applicationKey P applicationId) n sp) tr =
      (.ret [], tr ++ [.read .keystoreResult ⟨0, sp.length + 28⟩,
        .read .keystoreResult ⟨0, 12⟩]) := by
  have hl : (n ++ P.aesGcm.encrypt (applicationKey P applicationId) n sp).length =
      sp.length + 28 := by simp; omega
  rw [decryptSecret_of_wrapped P mem version applicationId tr (by omega) (by omega), hl]

/-- A tag that the GCM check rejects still yields a secret. -/
theorem decryptSecret_forged_tag :
    Platform.sample.aesGcm.finalOk (applicationKey Platform.sample []) (List.replicate 12 0)
        [5, 6] (List.replicate 16 9) = false ∧
      ((decryptSecret Platform.sample Memory.zero 2 [] (List.replicate 12 0 ++ [5, 6] ++
          List.replicate 16 9) []).1 =
        .ret (diskSecret Platform.sample 2 (Platform.sample.aesGcm.decryptUpdate
          (applicationKey Platform.sample []) (List.replicate 12 0) [5, 6])) ∧
      diskSecret Platform.sample 2 (Platform.sample.aesGcm.decryptUpdate
          (applicationKey Platform.sample []) (List.replicate 12 0) [5, 6]) ≠ []) :=
  ⟨by decide, decryptSecret_ignores_tag Platform.sample Memory.zero 2 [] [] _ _ _ rfl rfl
    (by decide)⟩

end DecryptSecret

section Spblob


variable (P : Platform) (env : Env) (mem : Memory) (userId : UInt32) (applicationId : Bytes)
  {s : Bytes}

/-- A header other than version 2 or 3 with type 0 ends the run with `""` after reading at most
the two header bytes (the type byte of a one-byte file is its terminating NUL), before any
service is called. -/
theorem unwrapSpblob_of_header (h : (s.getD 0 0 ≠ 2 ∧ s.getD 0 0 ≠ 3) ∨ s.getD 1 0 ≠ 0) :
    ∃ evs, (unwrapSpblob P env mem userId applicationId s).Returns [] evs ∧
      evs <+: [.read .spblob ⟨0, 1⟩, .read .spblob ⟨1, 1⟩] := by
  have h0 := Buffer.ofString_get_of_le (mem.rest .spblob) (Nat.zero_le s.length)
  by_cases hv : s.getD 0 0 ≠ 2 ∧ s.getD 0 0 ≠ 1 ∧ s.getD 0 0 ≠ 3
  · refine ⟨[.read .spblob ⟨0, 1⟩], fun tr => ?_, by simp⟩
    simp only [unwrapSpblob, Run.bind_apply, Run.emit_apply, h0, if_pos hv]
    rfl
  have hs : 1 ≤ s.length := by
    cases s with
    | nil => simp [List.getD] at hv
    | cons => simp
  have h1 := Buffer.ofString_get_of_le (mem.rest .spblob) hs
  refine ⟨_, fun tr => ?_, List.prefix_refl _⟩
  simp only [unwrapSpblob, Run.bind_apply, Run.emit_apply, h0, h1, if_neg hv]
  by_cases ht : s.getD 1 0 ≠ 0
  · rw [if_pos ht]; simp
  · rw [if_neg ht, if_neg (by tauto)]; simp

/-- A valid header on fewer than 14 bytes: `cipher_text_str` is built from an end before its
begin, which throws before any service is called. -/
theorem unwrapSpblob_of_short (hv : s.getD 0 0 = 2 ∨ s.getD 0 0 = 3) (ht : s.getD 1 0 = 0)
    (hs : s.length < 14) (tr : List Event) :
    unwrapSpblob P env mem userId applicationId s tr =
      (.fault .lengthError, tr ++ [.read .spblob ⟨0, 1⟩, .read .spblob ⟨1, 1⟩]) := by
  have hs1 : 1 ≤ s.length := by
    cases s with
    | nil => simp at hv
    | cons => simp
  have h0 := Buffer.ofString_get_of_le (mem.rest .spblob) (Nat.zero_le s.length)
  have h1 := Buffer.ofString_get_of_le (mem.rest .spblob) hs1
  simp only [List.getD_eq_getElem?_getD] at hv ht h0 h1
  rcases hv with hv | hv <;> simp [unwrapSpblob, h0, h1, hv, ht, hs]

/-- The keystore holds the key under `keyAlias`, begins an operation on the nonce `iv` once the
authorization service holds the auth tokens `required`, and replies `reply` to `finish` on
`input`. -/
structure KeystoreAnswers (ks : Keystore) (keyAlias : String) (required : List HardwareAuthToken)
    (iv input : Bytes) (reply : Option (Option Bytes)) : Prop where
  getKeyEntry : ks.getKeyEntry keyAlias = true
  createOperation : ∀ toks, required ⊆ toks → ks.createOperation keyAlias iv toks = true
  finish : ks.finish keyAlias iv input = reply

/-- The blob `v ‖ 0 ‖ n ‖ E` of version 2 or 3: the run reads the header, `cipher_text_str`
and the nonce, then turns to the keystore. -/
theorem unwrapSpblob_of_valid {v : UInt8} {n E : Bytes} (hv : v = 2 ∨ v = 3)
    (hn : n.length = 12) (tr : List Event) :
    unwrapSpblob P env mem userId applicationId ([v, 0] ++ n ++ E) tr =
      keystoreDecrypt P env mem userId applicationId v
        (Buffer.ofString ([v, 0] ++ n ++ E) (mem.rest .spblob))
        (tr ++ [.read .spblob ⟨0, 1⟩, .read .spblob ⟨1, 1⟩, .read .spblob ⟨2, E.length⟩,
          .read .spblob ⟨2, 12⟩]) := by
  have hd : (Buffer.ofString ([v, 0] ++ n ++ E) (mem.rest .spblob)).data = [v, 0] ++ n ++ E := rfl
  have h0 : (Buffer.ofString ([v, 0] ++ n ++ E) (mem.rest .spblob)).get 0 = v :=
    Buffer.get_of_eq [] (0 :: (n ++ E)) hd rfl
  have h1 : (Buffer.ofString ([v, 0] ++ n ++ E) (mem.rest .spblob)).get 1 = 0 :=
    Buffer.get_of_eq [v] (n ++ E) hd rfl
  have hlen : ([v, 0] ++ n ++ E).length - 14 = E.length := by simp [hn]
  have hshort : ¬ ([v, 0] ++ n ++ E).length < 14 := by simp [hn]
  simp only [unwrapSpblob, hlen, hshort, h0, h1]
  rcases hv with rfl | rfl <;> simp

/-- The keystore half on a buffer holding nonce `n` and input `E`, with a keystore that finds
the key and begins the operation once the tokens accepted so far include those it requires: it
finishes on `E` and goes on with the reply. -/
theorem keystoreDecrypt_of_answers {v : UInt8} {b : Buffer} {n E : Bytes} {ks : Keystore}
    {required : List HardwareAuthToken} {reply : Option (Option Bytes)} (hiv : b.slice 2 12 = n)
    (hct : b.slice 14 (b.data.length - 14) = E) (hks : env.keystore = some ks)
    (hans : KeystoreAnswers ks (env.getAlias (env.getHandle userId)) required n E reply)
    (tr : List Event) (htok : required ⊆ acceptedTokens tr) :
    keystoreDecrypt P env mem userId applicationId v b tr =
      (match reply with
        | none => (pure [] : Run Bytes)
        | some none => Run.fail .emptyOptional
        | some (some r) => decryptSecret P mem v applicationId r)
      (tr ++ ([.keystoreConnect, .getKeyEntry (env.getAlias (env.getHandle userId)),
        .createOperation (env.getAlias (env.getHandle userId)) n,
        .read .spblob ⟨14, b.data.length - 14⟩, .finish E] : List Event)) := by
  have hbegin := hans.createOperation _ htok
  simp [keystoreDecrypt, hiv, hct, hks, hans.getKeyEntry, hbegin, hans.finish]

/-- A reachable keystore that finds the key is asked to begin an operation, whatever it
answers then. -/
theorem keystoreDecrypt_begins_operation {v : UInt8} {b : Buffer} {n : Bytes} {ks : Keystore}
    (hiv : b.slice 2 12 = n) (hks : env.keystore = some ks)
    (hentry : ks.getKeyEntry (env.getAlias (env.getHandle userId)) = true) (tr : List Event) :
    .createOperation (env.getAlias (env.getHandle userId)) n ∈
      (keystoreDecrypt P env mem userId applicationId v b tr).2 := by
  have happ : ∀ reply : Option (Option Bytes), (match reply with
      | none => pure []
      | some none => Run.fail .emptyOptional
      | some (some r) => decryptSecret P mem v applicationId r : Run Bytes).Appends := by
    rintro (_ | _ | r)
    exacts [Run.appends_pure _, Run.appends_fail _, decryptSecret_appends P mem v applicationId r]
  simp [keystoreDecrypt, hks, hentry, hiv]
  split <;> simp
  exact (happ _ _).subset (by simp)

/-- The blob `v ‖ 0 ‖ n ‖ E` of version 2 or 3 with a keystore answering `reply`. -/
theorem unwrapSpblob_of_keystore {v : UInt8} {n E : Bytes} {ks : Keystore}
    {required : List HardwareAuthToken} {reply : Option (Option Bytes)} (hv : v = 2 ∨ v = 3)
    (hn : n.length = 12) (hks : env.keystore = some ks)
    (hans : KeystoreAnswers ks (env.getAlias (env.getHandle userId)) required n E reply)
    (tr : List Event) (htok : required ⊆ acceptedTokens tr) :
    unwrapSpblob P env mem userId applicationId ([v, 0] ++ n ++ E) tr =
      (match reply with
        | none => (pure [] : Run Bytes)
        | some none => Run.fail .emptyOptional
        | some (some r) => decryptSecret P mem v applicationId r)
      (tr ++ ([.read .spblob ⟨0, 1⟩, .read .spblob ⟨1, 1⟩, .read .spblob ⟨2, E.length⟩,
        .read .spblob ⟨2, 12⟩, .keystoreConnect, .getKeyEntry (env.getAlias (env.getHandle userId)),
        .createOperation (env.getAlias (env.getHandle userId)) n, .read .spblob ⟨14, E.length⟩,
        .finish E] : List Event)) := by
  have hd : (Buffer.ofString ([v, 0] ++ n ++ E) (mem.rest .spblob)).data = [v, 0] ++ n ++ E := rfl
  have hlen : ([v, 0] ++ n ++ E).length - 14 = E.length := by simp [hn]
  have hct : (Buffer.ofString ([v, 0] ++ n ++ E) (mem.rest .spblob)).slice 14
      ((Buffer.ofString ([v, 0] ++ n ++ E) (mem.rest .spblob)).data.length - 14) = E := by
    rw [hd, hlen]
    exact Buffer.slice_of_eq ([v, 0] ++ n) [] (by simpa using hd) (by simp [hn]) rfl
  rw [unwrapSpblob_of_valid P env mem userId applicationId hv hn,
    keystoreDecrypt_of_answers P env mem userId applicationId
      (Buffer.slice_of_eq [v, 0] E hd rfl hn) hct hks hans _ (by simpa using htok), hd, hlen]
  simp

/-- Version 2 or 3 with a keystore that finds the key: an operation is begun. -/
theorem unwrapSpblob_begins_operation {v : UInt8} {n E : Bytes} {ks : Keystore}
    (hv : v = 2 ∨ v = 3) (hn : n.length = 12) (hks : env.keystore = some ks)
    (hentry : ks.getKeyEntry (env.getAlias (env.getHandle userId)) = true) (tr : List Event) :
    .createOperation (env.getAlias (env.getHandle userId)) n ∈
      (unwrapSpblob P env mem userId applicationId ([v, 0] ++ n ++ E) tr).2 := by
  rw [unwrapSpblob_of_valid P env mem userId applicationId hv hn]
  exact keystoreDecrypt_begins_operation P env mem userId applicationId
    (Buffer.slice_of_eq [v, 0] E rfl rfl hn) hks hentry _

/-- Once `<handle>.spblob` is read, the unwrap and what follows it go on from the blob. -/
theorem unwrapSyntheticPasswordBlob_of_data {β : Type} {spblobPath handleStr : String}
    {s : Bytes} (h : getSpblobData env.fs spblobPath handleStr ".spblob" = some s)
    (f : Bytes → Run β) (tr : List Event) :
    (unwrapSyntheticPasswordBlob P env mem spblobPath handleStr userId applicationId >>= f) tr =
      (unwrapSpblob P env mem userId applicationId s >>= f)
        (tr ++ [.readFile (spblobPath ++ handleStr ++ ".spblob")]) := by
  simp [unwrapSyntheticPasswordBlob, h]

end Spblob

/-- A disk secret for the blob `s`: derived from some key for the blob's version, 2 or 3. -/
def IsDiskSecretFor (P : Platform) (s secret : Bytes) : Prop :=
  (s.getD 0 0 = 2 ∨ s.getD 0 0 = 3) ∧ ∃ sk, secret = diskSecret P (s.getD 0 0) sk

section Within

open Run

variable (P : Platform) (env : Env) (mem : Memory) (userId : UInt32) (applicationId : Bytes)

theorem decryptSecret_within (version : UInt8) (r : Bytes) :
    (decryptSecret P mem version applicationId r).Within [.memory, .keystore]
      fun secret => secret = [] ∨ ∃ sk, secret = diskSecret P version sk := by
  unfold decryptSecret
  dsimp only
  split
  · exact within_pure (.inl rfl)
  refine within_emit_bind (by rfl) <| within_emit_bind (by rfl) ?_
  split
  · exact within_pure (.inl rfl)
  refine within_emit_bind (by rfl) ?_
  split
  exacts [within_fail _ _, within_pure (.inr ⟨_, rfl⟩)]

theorem keystoreDecrypt_within (version : UInt8) (b : Buffer) :
    (keystoreDecrypt P env mem userId applicationId version b).Within [.memory, .keystore]
      fun secret => secret = [] ∨ ∃ sk, secret = diskSecret P version sk := by
  unfold keystoreDecrypt
  refine within_emit_bind (by rfl) ?_
  split
  · exact within_fail _ _
  refine within_emit_bind (by rfl) ?_
  split
  · exact within_pure (.inl rfl)
  refine within_emit_bind (by rfl) <| within_history.bind fun _ _ => ?_
  split
  · exact within_pure (.inl rfl)
  refine within_emit_bind (by rfl) <| within_emit_bind (by rfl) ?_
  split
  exacts [within_pure (.inl rfl), within_fail _ _,
    decryptSecret_within P mem applicationId version _]

theorem unwrapSpblob_within (s : Bytes) :
    (unwrapSpblob P env mem userId applicationId s).Within [.memory, .keystore]
      fun secret => secret = [] ∨ IsDiskSecretFor P s secret := by
  have h0 := Buffer.ofString_get_of_le (mem.rest .spblob) (Nat.zero_le s.length)
  unfold unwrapSpblob
  refine within_emit_bind (by rfl) ?_
  split
  · exact within_pure (.inl rfl)
  refine within_emit_bind (by rfl) ?_
  split_ifs with _ hv
  · exact within_pure (.inl rfl)
  · exact within_fail _ _
  · rw [h0] at hv
    refine within_emit_bind (by rfl) <| within_emit_bind (by rfl) <|
      (keystoreDecrypt_within P env mem userId applicationId _ _).imp fun secret h => ?_
    rw [h0] at h
    exact h.imp_right fun hsk => ⟨hv, hsk⟩
  · exact within_pure (.inl rfl)

/-- `unwrapSyntheticPasswordBlob` touches only its file, its buffers and the keystore, whatever
the blob and the keystore, and what it returns is `""` or a disk secret for the blob it read. -/
theorem unwrapSyntheticPasswordBlob_within (spblobPath handleStr : String) :
    (unwrapSyntheticPasswordBlob P env mem spblobPath handleStr userId applicationId).Within
      [.memory, .file, .keystore] fun secret => secret = [] ∨
        ∃ s, getSpblobData env.fs spblobPath handleStr ".spblob" = some s ∧
          IsDiskSecretFor P s secret := by
  unfold unwrapSyntheticPasswordBlob
  refine within_emit_bind (by rfl) ?_
  split
  · exact within_pure (.inl rfl)
  · next s hs =>
    exact ((unwrapSpblob_within P env mem userId applicationId s).widen (by decide)).imp
      fun _ h => h.imp_right fun hd => ⟨s, hs, hd⟩

end Within

/-- What `unwrapSyntheticPasswordBlob` does with malformed input. A bad header returns `""`
before any service call, but nothing else is rejected: a valid header on fewer than 14 bytes
throws before any service call, a `finish` with status OK and no output dereferences the empty
optional, an output shorter than 12 bytes has its nonce read past its end, and one of 12 to
27 bytes faults on a negative secret length. -/
theorem unwrap_malformed_inputs (P : Platform) (env : Env) (mem : Memory) (userId : UInt32)
    (applicationId : Bytes) :
    (∀ s : Bytes, (s.getD 0 0 ≠ 2 ∧ s.getD 0 0 ≠ 3) ∨ s.getD 1 0 ≠ 0 →
      ∃ evs, (unwrapSpblob P env mem userId applicationId s).Returns [] evs ∧
        evs <+: [.read .spblob ⟨0, 1⟩, .read .spblob ⟨1, 1⟩]) ∧
    (∀ s : Bytes, s.getD 0 0 = 2 ∨ s.getD 0 0 = 3 → s.getD 1 0 = 0 → s.length < 14 →
      ∀ tr, unwrapSpblob P env mem userId applicationId s tr =
        (.fault .lengthError, tr ++ [.read .spblob ⟨0, 1⟩, .read .spblob ⟨1, 1⟩])) ∧
    (∀ (v : UInt8) (n E : Bytes) (ks : Keystore), v = 2 ∨ v = 3 → n.length = 12 →
      env.keystore = some ks →
      KeystoreAnswers ks (env.getAlias (env.getHandle userId)) [] n E (some none) →
      ∀ tr, (unwrapSpblob P env mem userId applicationId ([v, 0] ++ n ++ E) tr).1 =
        .fault .emptyOptional) ∧
    (∀ (version : UInt8) (r : Bytes), r.length < 12 →
      ∀ tr, decryptSecret P mem version applicationId r tr =
        (.ret [], tr ++ [.read .keystoreResult ⟨0, r.length⟩, .read .keystoreResult ⟨0, 12⟩])) ∧
    (∀ (version : UInt8) (r : Bytes), 12 ≤ r.length → r.length < 28 →
      ∀ tr, (decryptSecret P mem version applicationId r tr).1 = .fault .negativeLength) :=
  ⟨fun _ h => unwrapSpblob_of_header P env mem userId applicationId h,
    fun _ hv ht hs => unwrapSpblob_of_short P env mem userId applicationId hv ht hs,
    fun _ _ _ _ hv hn hks hans tr => by
      rw [unwrapSpblob_of_keystore P env mem userId applicationId hv hn hks hans tr
        (List.nil_subset _)]; rfl,
    fun version _ h tr => decryptSecret_of_lt_twelve P mem version applicationId tr h,
    fun version _ h₁ h₂ tr => by rw [decryptSecret_of_lt_28 P mem version applicationId tr h₁ h₂]⟩

/-- A two-byte blob with a valid version 2 header throws instead of returning `""`. -/
theorem unwrap_two_byte_blob_throws :
    unwrapSpblob Platform.sample Env.unreachable Memory.zero 0 [] [2, 0] [] =
      (.fault .lengthError, [.read .spblob ⟨0, 1⟩, .read .spblob ⟨1, 1⟩]) :=
  (unwrap_malformed_inputs Platform.sample Env.unreachable Memory.zero 0 []).2.1 [2, 0]
    (by decide) (by decide) (by decide) []

end VoldDecrypt
