import VoldDecrypt.BlobStore

/-!
# The `.pwd` record

`Get_Password_Data` decodes `password_data_struct` from `<handle>.pwd`:
`be32 password_type | scryptN | scryptR | scryptP | be32 salt_len | salt |
be32 handle_len | handle`. It loads each `int` through an `int*` cast and byte-swaps it,
copies `salt_len` and `handle_len` bytes with `memcpy`, and checks only that `salt_len` is
non-zero and that both allocations succeed. Nothing compares a declared length with the
size of the file.

`decodePasswordData` is the body of `Get_Password_Data` after the file is read; it
returns the struct it fills (or `none` for `return false`) and the spans it read, which end at
`passwordReadEnd`. The run that checks those spans against mapped memory comes with the
driver. A `PasswordRecord` is a record as the framework serializes it, with its
well-formedness as fields, and `PasswordRecord.serialize` is that serialization.
-/
namespace VoldDecrypt

/-- `password_data_struct` as `Get_Password_Data` fills it; `passwordHandle` is `none`
while the pointer is still NULL. -/
structure PasswordData where
  passwordType : Int
  scryptN : UInt8
  scryptR : UInt8
  scryptP : UInt8
  saltLen : Int
  salt : Bytes
  handleLen : Int
  passwordHandle : Option Bytes
  deriving DecidableEq, Repr

/-- The struct `Decrypt_User_Synth_Pass` starts from: NULL pointers and zero lengths. The
other fields are uninitialized in the source and never read on the paths that keep it. -/
def PasswordData.initial : PasswordData := ⟨0, 0, 0, 0, 0, [], 0, none⟩

/-- The `int` at `off`, loaded and passed through `endianswap`. -/
def loadBigEndianInt (b : Buffer) (off : Nat) : Int := toInt32 (endianswap (b.loadInt off))

/-- The fixed-size header `Get_Password_Data` reads before the salt. -/
def passwordHeaderSpans : List Span := [⟨0, 4⟩, ⟨4, 1⟩, ⟨5, 1⟩, ⟨6, 1⟩, ⟨7, 4⟩]

/-- The body of `Get_Password_Data` once the file is in `b`. -/
def decodePasswordData (b : Buffer) : Option PasswordData × List Span :=
  let passwordType := loadBigEndianInt b 0
  let scryptN := b.get 4
  let scryptR := b.get 5
  let scryptP := b.get 6
  let saltLen := loadBigEndianInt b 7
  if saltLen ≠ 0 then
    if !mallocOk (sizeT saltLen) then (none, passwordHeaderSpans) else
    let salt := b.slice 11 (sizeT saltLen)
    let handleOff := 11 + saltLen.toNat
    let handleLen := loadBigEndianInt b handleOff
    let spans := passwordHeaderSpans ++ [⟨11, sizeT saltLen⟩, ⟨handleOff, 4⟩]
    if handleLen ≠ 0 then
      if !mallocOk (sizeT handleLen) then (none, spans) else
      (some ⟨passwordType, scryptN, scryptR, scryptP, saltLen, salt, handleLen,
          some (b.slice (handleOff + 4) (sizeT handleLen))⟩,
        spans ++ [⟨handleOff + 4, sizeT handleLen⟩])
    else
      (some ⟨passwordType, scryptN, scryptR, scryptP, saltLen, salt, handleLen, none⟩, spans)
  else (none, passwordHeaderSpans)

/-- `Get_Password_Data`: resolve `<handle>.pwd` and decode it; `rest` is the memory after
the string's terminating NUL. -/
def getPasswordData (fs : FileSystem) (rest : Nat → UInt8) (spblobPath handleStr : String) :
    Option PasswordData × List Span :=
  match getSpblobData fs spblobPath handleStr ".pwd" with
  | none => (none, [])
  | some pwdData => decodePasswordData (Buffer.ofString pwdData rest)

/-- The `salt_len` the decoder reads. -/
def saltLenRead (b : Buffer) : Int := loadBigEndianInt b 7

/-- The `handle_len` the decoder reads, after a salt of `salt_len` bytes. -/
def handleLenRead (b : Buffer) : Int := loadBigEndianInt b (11 + (saltLenRead b).toNat)

theorem isInt32_loadBigEndianInt (b : Buffer) (off : Nat) : IsInt32 (loadBigEndianInt b off) :=
  isInt32_toInt32 _

/-- `Get_Password_Data` succeeds exactly when the salt length it reads is positive and the
handle length it reads is not negative: a negative length fails allocation. -/
theorem decodePasswordData_isSome (b : Buffer) :
    (decodePasswordData b).1.isSome ↔ 0 < saltLenRead b ∧ 0 ≤ handleLenRead b := by
  have hs := mallocOk_sizeT (isInt32_loadBigEndianInt b 7)
  have hh := mallocOk_sizeT (isInt32_loadBigEndianInt b (11 + (saltLenRead b).toNat))
  simp only [saltLenRead, handleLenRead] at *
  unfold decodePasswordData
  dsimp only
  split_ifs <;> simp_all <;> omega

/-- The spans `Get_Password_Data` reads: the header, then the salt and `handle_len` when the
salt length is positive, then the handle when its length is positive. -/
theorem decodePasswordData_spans (b : Buffer) :
    (decodePasswordData b).2 =
      if 0 < saltLenRead b then
        passwordHeaderSpans ++ [⟨11, (saltLenRead b).toNat⟩, ⟨11 + (saltLenRead b).toNat, 4⟩] ++
          if 0 < handleLenRead b then [⟨15 + (saltLenRead b).toNat, (handleLenRead b).toNat⟩]
          else []
      else passwordHeaderSpans := by
  have hsi := isInt32_loadBigEndianInt b 7
  have hhi := isInt32_loadBigEndianInt b (11 + (saltLenRead b).toNat)
  unfold decodePasswordData handleLenRead saltLenRead at *
  dsimp only
  generalize loadBigEndianInt b 7 = s at hsi hhi ⊢
  generalize loadBigEndianInt b (11 + s.toNat) = h at hhi ⊢
  rw [mallocOk_sizeT hsi, mallocOk_sizeT hhi]
  unfold IsInt32 at hsi hhi
  rcases lt_trichotomy s 0 with hs0 | rfl | hs0
  · simp [hs0.ne, hs0.not_le, hs0.not_lt]
  · simp
  have hsz : sizeT s = s.toNat := by unfold sizeT; omega
  rcases lt_trichotomy h 0 with hh0 | rfl | hh0
  · simp [hs0, hs0.ne', hs0.le, hsz, hh0.ne, hh0.not_le, hh0.not_lt]
  · simp [hs0, hs0.ne', hs0.le, hsz]
  have hhz : sizeT h = h.toNat := by unfold sizeT; omega
  simp [hs0, hh0, hs0.ne', hh0.ne', hs0.le, hh0.le, hsz, hhz]
  omega

/-- Where the decoder's reads end: past the handle when the salt length is positive, else
past the header. -/
def passwordReadEnd (b : Buffer) : Int :=
  if 0 < saltLenRead b then 15 + saltLenRead b + max (handleLenRead b) 0 else 11

/-- The spans the decoder reads all lie in the first `n` bytes exactly when its reads end
there. -/
theorem decodePasswordData_spans_within (b : Buffer) (n : Nat) :
    (∀ sp ∈ (decodePasswordData b).2, sp.Within n) ↔ passwordReadEnd b ≤ n := by
  rw [decodePasswordData_spans, passwordReadEnd]
  split_ifs <;> simp_all [passwordHeaderSpans, Span.Within] <;> omega

/-- A `.pwd` record as the framework writes it, well formed by construction. -/
structure PasswordRecord where
  passwordType : Int
  scryptN : UInt8
  scryptR : UInt8
  scryptP : UInt8
  salt : Bytes
  passwordHandle : Bytes
  passwordType_int : IsInt32 passwordType
  salt_pos : 0 < salt.length
  salt_lt : salt.length < 2 ^ 31
  handle_lt : passwordHandle.length < 2 ^ 31

/-- The on-disk layout, all integers big-endian. -/
def PasswordRecord.serialize (r : PasswordRecord) : Bytes :=
  beBytes 4 (ofInt32 r.passwordType) ++ [r.scryptN, r.scryptR, r.scryptP] ++
    beBytes 4 r.salt.length ++ r.salt ++ beBytes 4 r.passwordHandle.length ++ r.passwordHandle

/-- The struct a correct decoder yields for the record. -/
def PasswordRecord.decoded (r : PasswordRecord) : PasswordData :=
  ⟨r.passwordType, r.scryptN, r.scryptR, r.scryptP, r.salt.length, r.salt,
    r.passwordHandle.length, if r.passwordHandle = [] then none else some r.passwordHandle⟩

theorem loadBigEndianInt_of_eq {b : Buffer} (pre post : Bytes) {off : Nat} {i : Int}
    (h : b.data = pre ++ beBytes 4 (ofInt32 i) ++ post) (ho : pre.length = off)
    (hi : IsInt32 i) : loadBigEndianInt b off = i := by
  have hv : ofInt32 i < 256 ^ 4 := by unfold ofInt32 IsInt32 at *; omega
  rw [loadBigEndianInt, endianswap_loadInt, Buffer.slice_of_eq pre post h ho (length_beBytes 4 _),
    beNat_beBytes, Nat.mod_eq_of_lt hv, toInt32_ofInt32 hi]

theorem ofInt32_natCast {n : Nat} (h : n < 2 ^ 31) : ofInt32 n = n := by
  unfold ofInt32; omega

theorem PasswordRecord.isInt32_salt_length (r : PasswordRecord) : IsInt32 r.salt.length := by
  have := r.salt_lt; unfold IsInt32; omega

theorem PasswordRecord.isInt32_handle_length (r : PasswordRecord) :
    IsInt32 r.passwordHandle.length := by
  have := r.handle_lt; unfold IsInt32; omega

/-- The serialization with each length written as the `int` pattern the decoder loads. -/
theorem PasswordRecord.ofString_data (r : PasswordRecord) (rest : Nat → UInt8) :
    (Buffer.ofString r.serialize rest).data = beBytes 4 (ofInt32 r.passwordType) ++
      [r.scryptN, r.scryptR, r.scryptP] ++ beBytes 4 (ofInt32 r.salt.length) ++ r.salt ++
      beBytes 4 (ofInt32 r.passwordHandle.length) ++ r.passwordHandle := by
  simp [Buffer.ofString, PasswordRecord.serialize, ofInt32_natCast r.salt_lt,
    ofInt32_natCast r.handle_lt]

theorem PasswordRecord.saltLenRead_serialize (r : PasswordRecord) (rest : Nat → UInt8) :
    saltLenRead (Buffer.ofString r.serialize rest) = r.salt.length :=
  loadBigEndianInt_of_eq (beBytes 4 (ofInt32 r.passwordType) ++ [r.scryptN, r.scryptR, r.scryptP])
    (r.salt ++ beBytes 4 (ofInt32 r.passwordHandle.length) ++ r.passwordHandle)
    (by simp [r.ofString_data rest]) (by simp) r.isInt32_salt_length

theorem PasswordRecord.handleLenRead_serialize (r : PasswordRecord) (rest : Nat → UInt8) :
    handleLenRead (Buffer.ofString r.serialize rest) = r.passwordHandle.length := by
  rw [handleLenRead, r.saltLenRead_serialize, Int.toNat_natCast]
  exact loadBigEndianInt_of_eq (beBytes 4 (ofInt32 r.passwordType) ++
      [r.scryptN, r.scryptR, r.scryptP] ++ beBytes 4 (ofInt32 r.salt.length) ++ r.salt)
    r.passwordHandle (by simp [r.ofString_data rest]) (by simp; omega) r.isInt32_handle_length

/-- A serialized record holds every field it declares: the decoder reads inside it. -/
theorem decodePasswordData_serialize_within (r : PasswordRecord) (rest : Nat → UInt8) :
    ∀ sp ∈ (decodePasswordData (Buffer.ofString r.serialize rest)).2,
      sp.Within r.serialize.length := by
  have hsp := r.salt_pos
  rw [decodePasswordData_spans_within, passwordReadEnd, r.saltLenRead_serialize,
    r.handleLenRead_serialize]
  simp [PasswordRecord.serialize]
  omega

/-- Decoding the serialization of a record gives back every field of the record. -/
theorem decodePasswordData_serialize (r : PasswordRecord) (rest : Nat → UInt8) :
    (decodePasswordData (Buffer.ofString r.serialize rest)).1 = some r.decoded := by
  have hs := r.salt_lt
  have hsp := r.salt_pos
  have hh := r.handle_lt
  set b := Buffer.ofString r.serialize rest
  set t := beBytes 4 (ofInt32 r.passwordType)
  set sl := beBytes 4 (ofInt32 r.salt.length)
  set hl := beBytes 4 (ofInt32 r.passwordHandle.length)
  have hdata : b.data = t ++ [r.scryptN, r.scryptR, r.scryptP] ++ sl ++ r.salt ++ hl ++
      r.passwordHandle := r.ofString_data rest
  have htype : loadBigEndianInt b 0 = r.passwordType :=
    loadBigEndianInt_of_eq [] ([r.scryptN, r.scryptR, r.scryptP] ++ sl ++ r.salt ++ hl ++
      r.passwordHandle) (by simp [hdata]) rfl r.passwordType_int
  have hN : b.get 4 = r.scryptN := Buffer.get_of_eq t
    ([r.scryptR, r.scryptP] ++ sl ++ r.salt ++ hl ++ r.passwordHandle) (by simp [hdata])
    (by simp [t])
  have hR : b.get 5 = r.scryptR := Buffer.get_of_eq (t ++ [r.scryptN])
    ([r.scryptP] ++ sl ++ r.salt ++ hl ++ r.passwordHandle) (by simp [hdata]) (by simp [t])
  have hP : b.get 6 = r.scryptP := Buffer.get_of_eq (t ++ [r.scryptN, r.scryptR])
    (sl ++ r.salt ++ hl ++ r.passwordHandle) (by simp [hdata]) (by simp [t])
  have hsalt : loadBigEndianInt b 7 = r.salt.length := r.saltLenRead_serialize rest
  have hsaltb : b.slice 11 r.salt.length = r.salt :=
    Buffer.slice_of_eq (t ++ [r.scryptN, r.scryptR, r.scryptP] ++ sl) (hl ++ r.passwordHandle)
      (by simp [hdata]) (by simp [t, sl]) rfl
  have hhandle : loadBigEndianInt b (11 + r.salt.length) = r.passwordHandle.length := by
    have h := r.handleLenRead_serialize rest
    rwa [handleLenRead, r.saltLenRead_serialize, Int.toNat_natCast] at h
  have hhandleb : b.slice (11 + r.salt.length + 4) r.passwordHandle.length = r.passwordHandle :=
    Buffer.slice_of_eq (t ++ [r.scryptN, r.scryptR, r.scryptP] ++ sl ++ r.salt ++ hl) []
      (by simp [hdata]) (by simp [t, sl, hl]; omega) rfl
  unfold decodePasswordData
  dsimp only
  simp only [htype, hN, hR, hP, hsalt, Int.toNat_natCast, hhandle]
  have hsz : ∀ n : Nat, n < 2 ^ 31 → sizeT n = n := fun n hn => by unfold sizeT; omega
  have hne : r.salt ≠ [] := List.ne_nil_of_length_pos hsp
  have hsm : mallocOk r.salt.length := by simp [mallocOk]; omega
  by_cases he : r.passwordHandle = []
  · simp [he, PasswordRecord.decoded, hsz _ hs, hsaltb, hne, hsm]
  · have hhm : mallocOk r.passwordHandle.length := by simp [mallocOk]; omega
    simp [he, PasswordRecord.decoded, hsz _ hs, hsz _ hh, hsaltb, hhandleb, hne, hsm, hhm]

/-- `Get_Password_Data` on a record stored under any one of the three names returns every
field of the record. -/
theorem getPasswordData_serialize (r : PasswordRecord) (fs : FileSystem) (rest : Nat → UInt8)
    (spblobPath handleStr name : String) (hmem : name ∈ nameVariants spblobPath handleStr ".pwd")
    (hfile : fs name = some (.file r.serialize))
    (hothers : ∀ n ∈ nameVariants spblobPath handleStr ".pwd", n ≠ name → fs n = none) :
    (getPasswordData fs rest spblobPath handleStr).1 = some r.decoded := by
  simp only [getPasswordData, getSpblobData_of_unique hmem hfile hothers]
  exact decodePasswordData_serialize r rest

/-- A record with a two-byte salt and a three-byte handle, stored as `00<handle>.pwd`. -/
def samplePasswordRecord : PasswordRecord :=
  ⟨2, 11, 3, 1, [7, 9], [1, 2, 3], by decide, by decide, by decide, by decide⟩

theorem getPasswordData_serialize_padded :
    (getPasswordData (FileSystem.ofList [("/s/00h.pwd", .file samplePasswordRecord.serialize)])
      (fun _ => 0) "/s/" "h").1 = some samplePasswordRecord.decoded :=
  getPasswordData_serialize samplePasswordRecord _ _ "/s/" "h" "/s/00h.pwd" (by decide) rfl
    (by decide)

end VoldDecrypt
