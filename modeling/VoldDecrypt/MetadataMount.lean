import VoldDecrypt.MetadataSteps

/-!
# What a metadata-encrypted mount does

Properties of `fscrypt_mount_metadata_encrypted` over every environment, every state and every
argument. `fscryptMountMetadataEncrypted_calls` says once that every call of a mount is a
`MountCall` of the fstab it reads, so that the keys and devices it sets up are those of the
mount point's own entry (`mountEntry`); each property reads its calls off that, and the bound
on what is overwritten comes from counting the calls of each step.
-/
namespace VoldDecrypt

open MetadataRun

/-- The options a mount accepts: for options format 1, the legacy AES-256-XTS options with DUNs
as the property says, which block checkpoints require, and no metadata options; for format 2,
the metadata options as `parse_options` reads them; no other format. -/
theorem mountOptions_eq_some_iff (env : MetadataEnv) (dataRec : FstabEntry) (o : CryptoOptions) :
    mountOptions env dataRec = some o ↔
      (env.encryptionOptionsVersion dataRec.encryptionOptions = 1 ∧
        dataRec.metadataEncryptionOptions = "" ∧
        (dataRec.checkpointBlk = true → env.setDun = true) ∧
        o = ⟨legacyAes256Xts, true, env.setDun, env.metadataWrappedKeySupported⟩) ∨
      (env.encryptionOptionsVersion dataRec.encryptionOptions = 2 ∧
        parseOptions env.ciphers dataRec.metadataEncryptionOptions (.declared env.ciphers) =
          some o) := by
  unfold mountOptions
  by_cases h1 : env.encryptionOptionsVersion dataRec.encryptionOptions = 1
  · cases hw : env.metadataWrappedKeySupported <;> cases hd : env.setDun <;>
      cases hc : dataRec.checkpointBlk <;> by_cases hm : dataRec.metadataEncryptionOptions = "" <;>
      simp [h1, hw, hd, hc, hm, CryptoOptions.declared, eq_comm]
  · by_cases h2 : env.encryptionOptionsVersion dataRec.encryptionOptions = 2 <;> simp [h1, h2]

section

variable {env : MetadataEnv}

theorem ReadKeyCall.destroysData {metadataKeyDir : String} {gen : KeyGeneration}
    {firstKey : Bool} {c : MetadataCall} (h : ReadKeyCall env metadataKeyDir gen firstKey c) :
    c.destroysData = false := by
  cases h <;> rfl

theorem CryptoBlkDevCall.destroysData {dmName blkDevice : String} {key : Bytes}
    {options : CryptoOptions} {c : MetadataCall}
    (h : CryptoBlkDevCall env dmName blkDevice key options c) : c.destroysData = false := by
  cases h <;> rfl

theorem SetupCall.destroysData {blkDevice zonedDevice : String} {dataRec : FstabEntry}
    {options : CryptoOptions} {needsEncrypt : Bool} {c : MetadataCall}
    (h : SetupCall env blkDevice zonedDevice dataRec options needsEncrypt c) :
    c.destroysData = false := by
  rcases h with h | ⟨-, h⟩ | ⟨-, h⟩ | ⟨-, -, h⟩
  exacts [h.destroysData, h.destroysData, h.destroysData, h.destroysData]

theorem formatOrEncrypt_emits (Q : MetadataCall → Bool) {blkDevice mountPoint : String}
    {shouldFormat : Bool} {fsType zonedDevice cryptoBlkdev cryptoZonedBlkdev : String}
    {nrSec : Nat} :
    (formatOrEncrypt env blkDevice mountPoint shouldFormat fsType zonedDevice cryptoBlkdev
      cryptoZonedBlkdev nrSec).Emits Q 1 := by
  unfold formatOrEncrypt
  split
  · refine Emits.bind_zero_right ?_ fun _ => emits_check _ _
    split
    · exact emits_call _ _ _
    · split
      exacts [emits_call _ _ _, (emits_fail _).mono (Nat.zero_le _)]
  · exact (emits_check _ _).bind_zero fun _ =>
      (emits_call _ _ _).bind_zero_right fun _ => emits_check _ _

theorem prepareFromFstab_emits_destroysData {fstab : List FstabEntry}
    {blkDevice mountPoint : String} {needsEncrypt shouldFormat : Bool}
    {fsType zonedDevice : String} :
    (prepareFromFstab env fstab blkDevice mountPoint needsEncrypt shouldFormat fsType
      zonedDevice).Emits MetadataCall.destroysData 1 := by
  refine (emits_lift _ _).bind_zero fun _ => (emits_lift _ _).bind_zero fun _ =>
    (Guarantees.emits (setupDevices_guarantees
      (fun _ hc => StateRel.allows_appends hc.destroysData)
      fun _ => StateRel.allowsDm_appends _ _ _)).bind_zero fun ⟨_, _, _⟩ =>
    Emits.bind_zero_right ?_ fun _ => emits_pure _ _
  split
  exacts [formatOrEncrypt_emits _, (emits_pure _ _).mono (Nat.zero_le _)]

theorem kernelName_isSome_of_mountOptions {dataRec : FstabEntry} {o : CryptoOptions}
    (h : mountOptions env dataRec = some o) : o.cipher.kernelName.isSome := by
  simp only [mountOptions] at h
  split_ifs at h <;> first | exact (parseOptions_fields h).1 | (cases h; rfl)

@[simp] theorem mountGen_allowGen (needsEncrypt : Bool) (options : CryptoOptions) :
    (mountGen needsEncrypt options).allowGen = needsEncrypt := by
  cases needsEncrypt <;> rfl

/-- The target built over `n` sectors covers the device's whole 4096-byte sectors from the
start, onto sector 0 of the device. -/
theorem defaultKeyTarget_covers (n : Nat) (options : CryptoOptions) (hexKey blkDevice : String) :
    let t := defaultKeyTarget (n / 8 * 8) options hexKey blkDevice
    t.start = 0 ∧ t.startSector = 0 ∧ t.blockdev = blkDevice ∧ t.length % 8 = 0 ∧
      t.length ≤ n ∧ n < t.length + 8 :=
  ⟨rfl, rfl, rfl, Nat.mul_mod_left _ _, Nat.div_mul_le_self _ _,
    by simp only [defaultKeyTarget]; omega⟩

variable {blkDevice mountPoint : String} {needsEncrypt shouldFormat : Bool}
  {fsType zonedDevice fstabPath : String}

theorem mountEntry_of_loaded {fstabDefault fstab : List FstabEntry} {dataRec : FstabEntry}
    (hF : loadedFstab env fstabPath fstabDefault = some fstab)
    (he : getEntryForMountPoint fstab mountPoint = some dataRec) :
    mountEntry env fstabPath mountPoint fstabDefault = some dataRec := by
  simp [mountEntry, hF, he]

/-- Every call of a mount is one `MountCall` names for the fstab the mount reads. -/
theorem fscryptMountMetadataEncrypted_calls (s : MetadataState) :
    ∃ l, (fscryptMountMetadataEncrypted env blkDevice mountPoint needsEncrypt shouldFormat fsType
      zonedDevice fstabPath s).2.calls = s.calls ++ l ∧
      ∀ c ∈ l, ∃ fstab, loadedFstab env fstabPath s.fstabDefault = some fstab ∧
        MountCall env fstab blkDevice mountPoint needsEncrypt shouldFormat fsType zonedDevice c := by
  rw [fscryptMountMetadataEncrypted_apply]
  split_ifs
  · cases loadedFstab env fstabPath s.fstabDefault with
    | none => exact ⟨[], by simp, by simp⟩
    | some fstab =>
      obtain ⟨l, hl, hm⟩ := (mountFromFstab_guarantees (fun _ hc => StateRel.allows_appends hc)
        (fun _ => StateRel.allowsDm_appends _ _ _) (s.setFstab fstab)).1
      exact ⟨l, by simpa using hl, fun c hc => ⟨fstab, rfl, hm c hc⟩⟩
  · exact ⟨[], by simp, by simp⟩

theorem prepareMetadataEncrypted_emits_destroysData :
    (prepareMetadataEncrypted env blkDevice mountPoint needsEncrypt shouldFormat fsType
      zonedDevice fstabPath).Emits MetadataCall.destroysData 1 :=
  (emits_check _ _).bind_zero fun _ =>
    (Guarantees.emits (loadFstab_guarantees fun _ => StateRel.allowsFstab_appends _ _)).bind_zero
      fun _ => (emits_getFstab _).bind_zero fun _ => prepareFromFstab_emits_destroysData

theorem fscryptMountMetadataEncrypted_emits_destroysData :
    (fscryptMountMetadataEncrypted env blkDevice mountPoint needsEncrypt shouldFormat fsType
      zonedDevice fstabPath).Emits MetadataCall.destroysData 1 :=
  prepareMetadataEncrypted_emits_destroysData.bind_zero_right fun _ =>
    Guarantees.emits <| mountAndRecord_guarantees (fun _ hc => StateRel.allows_appends
      (by cases hc <;> rfl)) (StateRel.allows_appends (by rfl)) (StateRel.allows_appends (by rfl))

end

section Properties

variable (env : MetadataEnv) (blkDevice mountPoint : String) (needsEncrypt shouldFormat : Bool)
  (fsType zonedDevice fstabPath : String)

/-- A mount overwrites at most one device, the crypto device `/dev/block/mapper/userdata`, and
only as asked: it formats it with the filesystem type given when asked to encrypt and format,
or encrypts in place the whole 4096-byte sectors of `blk_device` when asked to encrypt without
formatting and there is no zoned device. -/
theorem fscryptMountMetadataEncrypted_destroysData (s : MetadataState) :
    ∃ l, (fscryptMountMetadataEncrypted env blkDevice mountPoint needsEncrypt shouldFormat fsType
      zonedDevice fstabPath s).2.calls = s.calls ++ l ∧
      l.countP MetadataCall.destroysData ≤ 1 ∧
      ∀ c ∈ l, c.destroysData = true → needsEncrypt = true ∧
        (shouldFormat = true ∧
          (fsType = "ext4" ∧ c = .ext4Format (mapperPath kDmNameUserdata) 0 mountPoint ∨
            fsType = "f2fs" ∧ c = .f2fsFormat (mapperPath kDmNameUserdata)
              (if zonedDevice = "" then "" else mapperPath kDmNameUserdataZoned)) ∨
        shouldFormat = false ∧ zonedDevice = "" ∧
          ∃ n, env.blockDev512Sectors blkDevice = some n ∧
          c = .encryptInplace (mapperPath kDmNameUserdata) blkDevice (n / 8 * 8)) := by
  obtain ⟨l, hl, hm⟩ := fscryptMountMetadataEncrypted_calls s
  obtain ⟨l', hl', hn⟩ := fscryptMountMetadataEncrypted_emits_destroysData s
  obtain rfl : l = l' := List.append_cancel_left (hl.symm.trans hl')
  refine ⟨l, hl, hn, fun c hc hd => ?_⟩
  obtain ⟨_, -, ⟨-, -, hs⟩ | ⟨he, hn, hf⟩ | hv | _ | _⟩ := hm c hc
  · simp [hs.destroysData] at hd
  · refine ⟨he, ?_⟩
    rcases hf with ⟨hsf, ht⟩ | ⟨hsf, ht⟩ | ⟨hsf, hz⟩
    · exact .inl ⟨hsf, .inl ⟨ht, rfl⟩⟩
    · exact .inl ⟨hsf, .inr ⟨ht, rfl⟩⟩
    · exact .inr ⟨hsf, hz, _, by simpa [hz] using hn, rfl⟩
  · cases hv <;> cases hd
  · cases hd
  · cases hd

/-- A mount lets a missing metadata key be generated exactly when it is asked to encrypt: then
with the key size and wrapping of the options it accepts for the mount point's own entry, and
otherwise with `neverGen`. -/
theorem fscryptMountMetadataEncrypted_keyGeneration (s : MetadataState) :
    ∃ l, (fscryptMountMetadataEncrypted env blkDevice mountPoint needsEncrypt shouldFormat fsType
      zonedDevice fstabPath s).2.calls = s.calls ++ l ∧
      ∀ keyPath tmpPath gen, .retrieveOrGenerateKey keyPath tmpPath gen ∈ l →
        gen.allowGen = needsEncrypt ∧ ∃ dataRec options,
          mountEntry env fstabPath mountPoint s.fstabDefault = some dataRec ∧
          mountOptions env dataRec = some options ∧
          gen = if needsEncrypt then makeGen options else neverGen := by
  obtain ⟨l, hl, hm⟩ := fscryptMountMetadataEncrypted_calls s
  refine ⟨l, hl, fun keyPath tmpPath gen hc => ?_⟩
  obtain ⟨_, hF, ⟨he, ho, ⟨⟨⟩⟩ | ⟨-, ⟨⟩⟩ | ⟨-, ⟨⟩⟩ | ⟨-, -, ⟨⟩⟩⟩ | ⟨-, -, ⟨⟩⟩ | ⟨⟨⟩⟩⟩ :=
    hm _ hc
  all_goals exact ⟨by simp, _, _, mountEntry_of_loaded hF he, ho, rfl⟩

/-- A mount takes the key of `userdata` from `default_metadata_key_dir/key` of the mount point's
own entry, whose options it accepts, and the key of a zoned device from
`metadata_key_dir/zoned/key`. That is another file, since `default_metadata_key_dir` moves to
`/default` when there is a zoned device: the two devices never share a key. -/
theorem fscryptMountMetadataEncrypted_keyPaths (s : MetadataState) :
    ∃ l, (fscryptMountMetadataEncrypted env blkDevice mountPoint needsEncrypt shouldFormat fsType
      zonedDevice fstabPath s).2.calls = s.calls ++ l ∧
      ∀ keyPath tmpPath gen, .retrieveOrGenerateKey keyPath tmpPath gen ∈ l →
        ∃ dataRec, mountEntry env fstabPath mountPoint s.fstabDefault = some dataRec ∧
          (∃ options, mountOptions env dataRec = some options) ∧
          (keyPath = defaultMetadataKeyDir zonedDevice dataRec ++ "/key" ∧
            tmpPath = defaultMetadataKeyDir zonedDevice dataRec ++ "/tmp" ∨
          zonedDevice ≠ "" ∧ keyPath = dataRec.metadataKeyDir ++ "/zoned" ++ "/key" ∧
            tmpPath = dataRec.metadataKeyDir ++ "/zoned" ++ "/tmp" ∧
            keyPath ≠ defaultMetadataKeyDir zonedDevice dataRec ++ "/key") := by
  obtain ⟨l, hl, hm⟩ := fscryptMountMetadataEncrypted_calls s
  refine ⟨l, hl, fun keyPath tmpPath gen hc => ?_⟩
  obtain ⟨_, hF, ⟨he, ho, ⟨⟨⟩⟩ | ⟨-, ⟨⟩⟩ | ⟨hz, ⟨⟩⟩ | ⟨-, -, ⟨⟩⟩⟩ | ⟨-, -, ⟨⟩⟩ | ⟨⟨⟩⟩⟩ :=
    hm _ hc
  · exact ⟨_, mountEntry_of_loaded hF he, ⟨_, ho⟩, .inl ⟨rfl, rfl⟩⟩
  · refine ⟨_, mountEntry_of_loaded hF he, ⟨_, ho⟩, .inr ⟨hz, rfl, rfl, ?_⟩⟩
    simp [defaultMetadataKeyDir, hz, String.ext_iff, String.data_append]

/-- A mount wipes keystore only when the property enables it, outside a DSU image, and when the
key of `userdata` under the mount point's own entry is missing, as on the first boot after a
factory reset. The key of a zoned device never triggers it: the key file whose absence does is
never the zoned key's file. -/
theorem fscryptMountMetadataEncrypted_deleteAllKeys (s : MetadataState) :
    ∃ l, (fscryptMountMetadataEncrypted env blkDevice mountPoint needsEncrypt shouldFormat fsType
      zonedDevice fstabPath s).2.calls = s.calls ++ l ∧
      (.deleteAllKeys ∈ l → env.metadataInitDeleteAllKeysEnabled = true ∧
        env.gsidImageRunning = false ∧
        ∃ dataRec options, mountEntry env fstabPath mountPoint s.fstabDefault = some dataRec ∧
          mountOptions env dataRec = some options ∧
          env.pathExists (defaultMetadataKeyDir zonedDevice dataRec ++ "/key") = false ∧
          (zonedDevice ≠ "" → defaultMetadataKeyDir zonedDevice dataRec ++ "/key" ≠
            dataRec.metadataKeyDir ++ "/zoned" ++ "/key")) := by
  obtain ⟨l, hl, hm⟩ := fscryptMountMetadataEncrypted_calls s
  refine ⟨l, hl, fun hc => ?_⟩
  obtain ⟨_, hF, ⟨he, ho, ⟨_ | ⟨hp, hg, -, hen⟩ | _⟩ | ⟨-, ⟨⟩⟩ |
    ⟨-, _ | ⟨-, -, ⟨⟩, -⟩ | _⟩ | ⟨-, -, ⟨⟩⟩⟩ | ⟨-, -, ⟨⟩⟩ | ⟨⟨⟩⟩⟩ := hm _ hc
  refine ⟨hen, hg, _, _, mountEntry_of_loaded hF he, ho, hp, fun hz => ?_⟩
  simp [defaultMetadataKeyDir, hz, String.ext_iff, String.data_append]

/-- Every table a mount hands to the device mapper, for `userdata` or, with a zoned device,
`userdata_zoned`, is one dm-default-key target with a cipher the kernel knows, over the whole
4096-byte sectors of the device it is for, from its first sector. -/
theorem fscryptMountMetadataEncrypted_tables (s : MetadataState) :
    ∃ l, (fscryptMountMetadataEncrypted env blkDevice mountPoint needsEncrypt shouldFormat fsType
      zonedDevice fstabPath s).2.calls = s.calls ++ l ∧
      ∀ c ∈ l, ∀ name table, c.table? = some (name, table) →
        (name = kDmNameUserdata ∨ zonedDevice ≠ "" ∧ name = kDmNameUserdataZoned) ∧
        ∃ t, table = [t] ∧ t.start = 0 ∧ t.startSector = 0 ∧ t.cipher.isSome ∧
          t.blockdev = (if name = kDmNameUserdata then blkDevice else zonedDevice) ∧
          ∃ n, env.blockDev512Sectors t.blockdev = some n ∧ t.length % 8 = 0 ∧
            t.length ≤ n ∧ n < t.length + 8 := by
  obtain ⟨l, hl, hm⟩ := fscryptMountMetadataEncrypted_calls s
  refine ⟨l, hl, fun c hc name table ht => ?_⟩
  have cover := defaultKeyTarget_covers
  obtain ⟨_, -, ⟨-, ho, hs⟩ | ⟨-, -, hf⟩ | hv | _ | _⟩ := hm c hc
  · rcases hs with hr | ⟨-, hd⟩ | ⟨-, hr⟩ | ⟨hz, -, hd⟩
    all_goals first
      | (cases hr <;> cases ht)
      | rcases hd with _ | ⟨hn, -, -⟩ | _ | ⟨hn, -⟩ <;> cases ht <;>
          exact ⟨by simp [*, kDmNameUserdata, kDmNameUserdataZoned], _, rfl, (cover ..).1,
            (cover ..).2.1, kernelName_isSome_of_mountOptions ho, by
              simp [defaultKeyTarget, *, kDmNameUserdata, kDmNameUserdataZoned], _, hn,
            (cover ..).2.2.2⟩
  · rcases hf with _ | _ | _ <;> cases ht
  · rcases hv with _ | _ | _ <;> cases ht
  · cases ht
  · cases ht

/-- `mount_via_fs_mgr` always returns, `true` or `false`. -/
theorem mountViaFsMgr_returns (mountPoint blkDevice : String) (needsEncrypt : Bool)
    (s : MetadataState) :
    ∃ b s', mountViaFsMgr env mountPoint blkDevice needsEncrypt s = (some b, s') := by
  simp only [mountViaFsMgr, bind_apply, call_apply]
  split_ifs
  · exact ⟨_, _, rfl⟩
  · simp only [bind_apply, getFstab_apply, call_apply]
    split_ifs <;> exact ⟨_, _, rfl⟩

/-- What `fscrypt_mount_metadata_encrypted` returns is what its steps before the mount
return. -/
theorem fscryptMountMetadataEncrypted_fst (s : MetadataState) :
    (fscryptMountMetadataEncrypted env blkDevice mountPoint needsEncrypt shouldFormat fsType
      zonedDevice fstabPath s).1 = (prepareMetadataEncrypted env blkDevice mountPoint needsEncrypt
        shouldFormat fsType zonedDevice fstabPath s).1.map fun _ => () := by
  simp only [fscryptMountMetadataEncrypted, bind_apply]
  rcases prepareMetadataEncrypted env blkDevice mountPoint needsEncrypt shouldFormat fsType
    zonedDevice fstabPath s with ⟨_ | cryptoBlkdev, s'⟩
  · rfl
  · obtain ⟨_, _, h⟩ := mountViaFsMgr_returns env mountPoint cryptoBlkdev needsEncrypt s'
    simp [mountAndRecord, h]

/-- A mount reports the same result whatever `setexeccon` and `fs_mgr_do_mount` answer: a
filesystem that failed to mount is reported as mounted. -/
theorem fscryptMountMetadataEncrypted_ignores_mount (setexeccon : Option String → Int)
    (fsMgrDoMount : List FstabEntry → String → String → Bool → Bool → Int)
    (s : MetadataState) :
    (fscryptMountMetadataEncrypted { env with setexeccon, fsMgrDoMount } blkDevice mountPoint
      needsEncrypt shouldFormat fsType zonedDevice fstabPath s).1 =
    (fscryptMountMetadataEncrypted env blkDevice mountPoint needsEncrypt shouldFormat fsType
      zonedDevice fstabPath s).1 := by
  rw [fscryptMountMetadataEncrypted_fst, fscryptMountMetadataEncrypted_fst]
  rfl

/-- A mount mounts the filesystem from the crypto device, never from `blk_device` itself, and
records that device in `ro.crypto.fs_crypto_blkdev`. -/
theorem fscryptMountMetadataEncrypted_mounts_crypto_device (s : MetadataState) :
    ∃ l, (fscryptMountMetadataEncrypted env blkDevice mountPoint needsEncrypt shouldFormat fsType
      zonedDevice fstabPath s).2.calls = s.calls ++ l ∧
      ∀ c ∈ l, (∀ mp dev nc ne, c = .fsMgrDoMount mp dev nc ne →
        mp = mountPoint ∧ dev = mapperPath kDmNameUserdata ∧ ne = needsEncrypt) ∧
      ∀ v, c = .setProperty "ro.crypto.fs_crypto_blkdev" v →
        v = mapperPath kDmNameUserdata := by
  obtain ⟨l, hl, hm⟩ := fscryptMountMetadataEncrypted_calls s
  refine ⟨l, hl, fun c hc => ?_⟩
  obtain ⟨_, -, ⟨-, -, hs⟩ | ⟨-, -, hf⟩ | hv | _ | _⟩ := hm c hc
  · rcases hs with hr | ⟨-, hd⟩ | ⟨-, hr⟩ | ⟨-, -, hd⟩ <;>
      first | (cases hr <;> simp) | (cases hd <;> simp)
  · cases hf <;> simp
  · cases hv
    · simp
    · exact ⟨fun _ _ _ _ h => by cases h; exact ⟨rfl, rfl, rfl⟩, by simp⟩
    · simp
  · exact ⟨by simp, fun _ h => by cases h; rfl⟩
  · simp

/-- A mount reads its keys, sets up its devices and overwrites what it must before it
mounts. Every such call comes before the first call of the mount itself; after that only the
exec context, fs_mgr's mount and the two properties follow. -/
theorem fscryptMountMetadataEncrypted_mounts_last (s : MetadataState) :
    ∃ l₁ l₂, (fscryptMountMetadataEncrypted env blkDevice mountPoint needsEncrypt shouldFormat
      fsType zonedDevice fstabPath s).2.calls = s.calls ++ l₁ ++ l₂ ∧
      (∀ c ∈ l₁, c.mountStep = false) ∧ ∀ c ∈ l₂, c.mountStep = true :=
  Guarantees.bind_appends
    (prepareMetadataEncrypted_guarantees (loadFstab_guarantees (StateRel.allowsFstab_appends _))
      (fun _ _ hc => StateRel.allows_appends (by
        rcases hc with h | ⟨-, h⟩ | ⟨-, h⟩ | ⟨-, -, h⟩ <;> cases h <;> rfl))
      (fun _ _ hc => StateRel.allows_appends (by cases hc <;> rfl))
      (fun _ => StateRel.allowsDm_appends _ _ _))
    (fun _ => mountAndRecord_guarantees (fun _ hc => StateRel.allows_appends
      (by cases hc <;> rfl)) (StateRel.allows_appends (by rfl)) (StateRel.allows_appends (by rfl)))
    s

/-- A mount whose fstab, once read, has no entry for its mount point, or only one whose options
it rejects, fails right after reading the fstab: it makes no call and leaves every device as it
was. -/
theorem fscryptMountMetadataEncrypted_rejects_entry (s : MetadataState) {fstab : List FstabEntry}
    (hc : env.cryptoState = "" ∨ env.cryptoState = "encrypted")
    (hl : loadedFstab env fstabPath s.fstabDefault = some fstab)
    (he : ∀ dataRec, getEntryForMountPoint fstab mountPoint = some dataRec →
      mountOptions env dataRec = none) :
    fscryptMountMetadataEncrypted env blkDevice mountPoint needsEncrypt shouldFormat fsType
      zonedDevice fstabPath s = (none, s.setFstab fstab) := by
  rw [fscryptMountMetadataEncrypted_apply, if_pos hc, hl]
  simp only [prepareFromFstab, bind_apply, lift_apply]
  rcases hd : getEntryForMountPoint fstab mountPoint with _ | dataRec
  · rfl
  · simp only [he dataRec hd]

end Properties

end VoldDecrypt
