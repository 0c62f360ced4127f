import VoldDecrypt.PasswordData

/-!
# Primitives the unwrap engine calls

Decrypt.cpp calls into code that is not part of this repository's sources: the
personalized hashes of HashPassword.h, `crypto_scrypt`, OpenSSL's AES-256-GCM, KeyMint's
`authToken2AidlVec` and the gatekeeper HAL constants. A `Platform` bundles them as
parameters, each with the one property the rest of the model relies on.

AES-256-GCM is split as the algorithm is: a keystream fixed by key and nonce, XORed into
the data (`EVP_DecryptUpdate` outputs as many bytes as it is given), and a 16-byte tag over
the ciphertext, which `EVP_DecryptFinal_ex` compares with the tag set by
`EVP_CTRL_GCM_SET_TAG`. The keystream and the tag function are abstract.
-/
namespace VoldDecrypt

/-- Modelled from the spec: HashPassword.h's `PERSONALISATION_WEAVER_KEY`. -/
def personalisationWeaverKey : String := "weaver-key"

/-- Modelled from the spec: HashPassword.h's `PERSONALISATION_WEAVER_PASSWORD`. -/
def personalisationWeaverPassword : String := "weaver-pwd"

/-- Modelled from the spec: HashPassword.h's `PERSONALISATION_SECDISCARDABLE`. -/
def personalisationSecdiscardable : String := "secdiscardable-transform"

/-- Modelled from the spec: HashPassword.h's `PERSONALISATION_APPLICATION_ID`. -/
def personalisationApplicationId : String := "application-id"

/-- Modelled from the spec: HashPassword.h's `PERSONALIZATION_FBE_KEY`. -/
def personalizationFbeKey : String := "fbe-key"

/-- Modelled from the spec: HashPassword.h's `PERSONALISATION_CONTEXT`. -/
def personalisationContext : String := "fbe-key-context"

/-- Modelled from the spec: HashPassword.h's `PERSONALIZATION_USER_GK_AUTH`. -/
def personalizationUserGkAuth : String := "user-gk-authentication"

/-- XOR a keystream into data, starting at keystream position `i`. -/
def xorFrom (ks : Nat → UInt8) : Nat → Bytes → Bytes
  | _, [] => []
  | i, x :: xs => (x ^^^ ks i) :: xorFrom ks (i + 1) xs

@[simp] theorem length_xorFrom (ks : Nat → UInt8) (i : Nat) (c : Bytes) :
    (xorFrom ks i c).length = c.length := by
  induction c generalizing i with
  | nil => rfl
  | cons x xs ih => simp [xorFrom, ih]

theorem xorFrom_append (ks : Nat → UInt8) (i : Nat) (a c : Bytes) :
    xorFrom ks i (a ++ c) = xorFrom ks i a ++ xorFrom ks (i + a.length) c := by
  induction a generalizing i with
  | nil => rfl
  | cons x xs ih => simp [xorFrom, ih, Nat.add_assoc, Nat.add_comm 1]

theorem byte_xor_cancel (x k : UInt8) : x ^^^ k ^^^ k = x := by
  apply UInt8.eq_of_toBitVec_eq
  show (x.toBitVec ^^^ k.toBitVec) ^^^ k.toBitVec = x.toBitVec
  rw [BitVec.xor_assoc, BitVec.xor_self, BitVec.xor_zero]

/-- Decryption undoes encryption under one keystream. -/
theorem xorFrom_xorFrom (ks : Nat → UInt8) (i : Nat) (c : Bytes) :
    xorFrom ks i (xorFrom ks i c) = c := by
  induction c generalizing i with
  | nil => rfl
  | cons x xs ih => simp [xorFrom, ih, byte_xor_cancel]

/-- AES-256-GCM: the keystream of a key and nonce, and the tag of a ciphertext. -/
structure AesGcm where
  keystream : Bytes → Bytes → Nat → UInt8
  tag : Bytes → Bytes → Bytes → Bytes
  tag_length : ∀ key nonce c, (tag key nonce c).length = 16

/-- `EVP_DecryptUpdate` over the whole input: one output byte per input byte. -/
def AesGcm.decryptUpdate (g : AesGcm) (key nonce c : Bytes) : Bytes :=
  xorFrom (g.keystream key nonce) 0 c

@[simp] theorem AesGcm.length_decryptUpdate (g : AesGcm) (key nonce c : Bytes) :
    (g.decryptUpdate key nonce c).length = c.length := length_xorFrom _ _ _

/-- Whether `EVP_DecryptFinal_ex` accepts: the tag set beforehand is the ciphertext's tag. -/
def AesGcm.finalOk (g : AesGcm) (key nonce c expected : Bytes) : Bool :=
  g.tag key nonce c == expected

/-- Sealing: the ciphertext followed by its 16-byte tag. -/
def AesGcm.encrypt (g : AesGcm) (key nonce p : Bytes) : Bytes :=
  let c := xorFrom (g.keystream key nonce) 0 p
  c ++ g.tag key nonce c

@[simp] theorem AesGcm.length_encrypt (g : AesGcm) (key nonce p : Bytes) :
    (g.encrypt key nonce p).length = p.length + 16 := by
  simp [AesGcm.encrypt, g.tag_length]

/-- Decrypting a sealed message yields the plaintext followed by 16 further bytes. -/
theorem AesGcm.decryptUpdate_encrypt (g : AesGcm) (key nonce p : Bytes) :
    ∃ x : Bytes, x.length = 16 ∧ g.decryptUpdate key nonce (g.encrypt key nonce p) = p ++ x :=
  ⟨xorFrom (g.keystream key nonce) p.length
      (g.tag key nonce (xorFrom (g.keystream key nonce) 0 p)), by simp [g.tag_length],
    by simp [AesGcm.decryptUpdate, AesGcm.encrypt, xorFrom_append, xorFrom_xorFrom]⟩

/-- The first `|c|` output bytes depend on `c` only, not on what follows it. -/
theorem AesGcm.take_decryptUpdate_append (g : AesGcm) (key nonce c t : Bytes) :
    (g.decryptUpdate key nonce (c ++ t)).take c.length = g.decryptUpdate key nonce c := by
  simp [AesGcm.decryptUpdate, xorFrom_append, List.take_left']

/-- `HardwareAuthToken`, the authorization service's view of a gatekeeper token. -/
structure HardwareAuthToken where
  challenge : Nat
  userId : Nat
  authenticatorId : Nat
  authenticatorType : Nat
  timestamp : Nat
  mac : Bytes
  deriving DecidableEq, Repr

/-- Modelled from the spec: the 69-byte `hw_auth_token_t` read through a cast, a version byte
then `challenge`, `user_id`, `authenticator_id` in host order, `authenticator_type` and
`timestamp` byte-swapped from big-endian, and the 32-byte `hmac`. -/
def decodeHwAuthToken (b : Buffer) : HardwareAuthToken × List Span :=
  (⟨leNat (b.slice 1 8), leNat (b.slice 9 8), leNat (b.slice 17 8), beNat (b.slice 25 4),
      beNat (b.slice 29 8), b.slice 37 32⟩,
    [⟨1, 8⟩, ⟨9, 8⟩, ⟨17, 8⟩, ⟨25, 4⟩, ⟨29, 8⟩, ⟨37, 32⟩])

/-- The functions and constants Decrypt.cpp uses from outside this repository. -/
structure Platform where
  /-- `PersonalizedHashBinary`: SHA-512 of the NUL-padded label and the data. -/
  personalizedHashBinary : String → Bytes → Bytes
  personalizedHashBinary_length : ∀ l d, (personalizedHashBinary l d).length = 64
  /-- `PersonalizedHash`, the same digest as a `std::string`. -/
  personalizedHash : String → Bytes → Bytes
  personalizedHash_ne_nil : ∀ l d, personalizedHash l d ≠ []
  /-- `PersonalizedHashSP800`, the SP 800-108 counter-mode derivation. -/
  personalizedHashSP800 : String → String → Bytes → Bytes
  personalizedHashSP800_ne_nil : ∀ l c d, personalizedHashSP800 l c d ≠ []
  /-- `crypto_scrypt(passwd, salt, N, r, p, buflen)`: the derived key, or `none` when it
  returns non-zero. -/
  cryptoScrypt : Bytes → Bytes → Nat → Nat → Nat → Nat → Option Bytes
  cryptoScrypt_length : ∀ pw salt n r p len t, cryptoScrypt pw salt n r p len = some t →
    t.length = len
  aesGcm : AesGcm
  /-- KeyMint's `authToken2AidlVec`, serializing a token as `hw_auth_token_t`. -/
  authToken2AidlVec : HardwareAuthToken → Bytes
  /-- `HashPassword`, the legacy credential hash. -/
  hashPassword : Bytes → Bytes
  /-- `AidlIGatekeeper::STATUS_OK` and `ERROR_RETRY_TIMEOUT`. -/
  aidlStatusOk : Int
  aidlRetryTimeout : Int
  /-- `GatekeeperStatusCode::STATUS_OK` and `ERROR_RETRY_TIMEOUT` of the HIDL HAL. -/
  hidlStatusOk : Int
  hidlRetryTimeout : Int

/-- Toy primitives, to run the model on concrete inputs: hashes that pad or prefix their
input, a keystream of the key's bytes and a tag of the ciphertext's first bytes. -/
def Platform.sample : Platform where
  personalizedHashBinary _ d := (d ++ List.replicate 64 0).take 64
  personalizedHashBinary_length _ _ := by simp
  personalizedHash _ d := 1 :: d
  personalizedHash_ne_nil _ _ := List.cons_ne_nil _ _
  personalizedHashSP800 _ _ d := 2 :: d
  personalizedHashSP800_ne_nil _ _ _ := List.cons_ne_nil _ _
  cryptoScrypt pw salt _ _ _ len := some ((pw ++ salt ++ List.replicate len 0).take len)
  cryptoScrypt_length _ _ _ _ _ _ _ h := by cases h; simp; omega
  aesGcm := ⟨fun key _ i => key.getD i 0, fun _ _ c => (c ++ List.replicate 16 0).take 16,
    fun _ _ _ => by simp⟩
  authToken2AidlVec _ := List.replicate 69 0
  hashPassword := id
  aidlStatusOk := 0
  aidlRetryTimeout := -2
  hidlStatusOk := 0
  hidlRetryTimeout := -2

/-- `1 << k` evaluated in `int` and stored in an `unsigned int`. -/
def shiftLeftOne (k : UInt8) : Nat := 2 ^ k.toNat % 2 ^ 32

theorem shiftLeftOne_of_lt {k : UInt8} (h : k.toNat < 31) : shiftLeftOne k = 2 ^ k.toNat :=
  Nat.mod_eq_of_lt (Nat.pow_lt_pow_right (by norm_num) (by omega))

/-- `Get_Password_Token`: scrypt of the credential with the record's salt and parameters,
into the 32-byte `password_token`. -/
def getPasswordToken (P : Platform) (pwd : PasswordData) (password : Bytes) : Option Bytes :=
  P.cryptoScrypt password pwd.salt (shiftLeftOne pwd.scryptN) (shiftLeftOne pwd.scryptR)
    (shiftLeftOne pwd.scryptP) 32

end VoldDecrypt
