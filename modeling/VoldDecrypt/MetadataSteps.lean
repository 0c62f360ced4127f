import VoldDecrypt.MetadataCrypt

/-!
# What each step of the metadata-encryption code may call

For each function of `MetadataCrypt`, the calls it may make, each with what holds when it makes
it, as an inductive predicate, and one lemma: a run of the function moves the state along any
`StateRel` that permits those calls (and, for the device-mapper steps, a device becoming
active). The properties of the mount in `MetadataMount` instantiate these lemmas with the
relation they are about, so no property unfolds the code again.
-/
namespace VoldDecrypt

open MetadataRun

/-- The key a table carries: the hex of the key, or of its exported ephemeral form when the key
is wrapped. -/
def tableKey (env : MetadataEnv) (options : CryptoOptions) (key : Bytes) : Option String :=
  (if options.useHwWrappedKey then env.exportWrappedStorageKey key else some key).bind env.strToHex

/-- The calls `read_key` may make. -/
inductive ReadKeyCall (env : MetadataEnv) (metadataKeyDir : String) (gen : KeyGeneration)
    (firstKey : Bool) : MetadataCall → Prop
  | mkdirsSync : ReadKeyCall env metadataKeyDir gen firstKey
      (.mkdirsSync (metadataKeyDir ++ "/key") 0o700)
  | deleteAllKeys : env.pathExists (metadataKeyDir ++ "/key") = false →
      env.gsidImageRunning = false → firstKey = true →
      env.metadataInitDeleteAllKeysEnabled = true →
      ReadKeyCall env metadataKeyDir gen firstKey .deleteAllKeys
  | retrieveOrGenerateKey : ReadKeyCall env metadataKeyDir gen firstKey
      (.retrieveOrGenerateKey (metadataKeyDir ++ "/key") (metadataKeyDir ++ "/tmp") gen)

/-- The calls `create_crypto_blk_dev` may make: the export of a wrapped key, and one table,
`nr_sec` rounded down to whole 4096-byte sectors, loaded into a placeholder `userdata` or
given to a new device. -/
inductive CryptoBlkDevCall (env : MetadataEnv) (dmName blkDevice : String) (key : Bytes)
    (options : CryptoOptions) : MetadataCall → Prop
  | exportWrappedStorageKey : options.useHwWrappedKey = true →
      CryptoBlkDevCall env dmName blkDevice key options (.exportWrappedStorageKey key)
  | loadTableAndActivate {n : Nat} {hexKey : String} : env.blockDev512Sectors blkDevice = some n →
      tableKey env options key = some hexKey → dmName = kDmNameUserdata →
      CryptoBlkDevCall env dmName blkDevice key options
        (.loadTableAndActivate dmName [defaultKeyTarget (n / 8 * 8) options hexKey blkDevice])
  | waitForDevice : dmName = kDmNameUserdata →
      CryptoBlkDevCall env dmName blkDevice key options (.waitForDevice dmName 20)
  | createDevice {n : Nat} {hexKey : String} : env.blockDev512Sectors blkDevice = some n →
      tableKey env options key = some hexKey →
      CryptoBlkDevCall env dmName blkDevice key options
        (.createDevice dmName [defaultKeyTarget (n / 8 * 8) options hexKey blkDevice] 5)

/-- The calls `mount_via_fs_mgr` may make. -/
inductive MountViaFsMgrCall (env : MetadataEnv) (mountPoint blkDevice : String)
    (needsEncrypt : Bool) : MetadataCall → Prop
  | setexeccon : MountViaFsMgrCall env mountPoint blkDevice needsEncrypt
      (.setexeccon (some env.fsckContext))
  | fsMgrDoMount : MountViaFsMgrCall env mountPoint blkDevice needsEncrypt
      (.fsMgrDoMount mountPoint blkDevice env.needsCheckpoint needsEncrypt)
  | clearExeccon : MountViaFsMgrCall env mountPoint blkDevice needsEncrypt (.setexeccon none)

/-- The calls `formatOrEncrypt` may make: one format of the crypto device as the filesystem
type asks, or, when not formatting and with no zoned device, the encryption in place. -/
inductive FormatCall (blkDevice mountPoint : String) (shouldFormat : Bool)
    (fsType zonedDevice cryptoBlkdev cryptoZonedBlkdev : String) (nrSec : Nat) :
    MetadataCall → Prop
  | ext4Format : shouldFormat = true → fsType = "ext4" →
      FormatCall blkDevice mountPoint shouldFormat fsType zonedDevice cryptoBlkdev
        cryptoZonedBlkdev nrSec (.ext4Format cryptoBlkdev 0 mountPoint)
  | f2fsFormat : shouldFormat = true → fsType = "f2fs" →
      FormatCall blkDevice mountPoint shouldFormat fsType zonedDevice cryptoBlkdev
        cryptoZonedBlkdev nrSec (.f2fsFormat cryptoBlkdev cryptoZonedBlkdev)
  | encryptInplace : shouldFormat = false → zonedDevice = "" →
      FormatCall blkDevice mountPoint shouldFormat fsType zonedDevice cryptoBlkdev
        cryptoZonedBlkdev nrSec (.encryptInplace cryptoBlkdev blkDevice nrSec)

/-- The calls `setupDevices` may make: those of the key and device of `userdata`, then, for a
zoned device, those of its own key and device. -/
inductive SetupCall (env : MetadataEnv) (blkDevice zonedDevice : String) (dataRec : FstabEntry)
    (options : CryptoOptions) (needsEncrypt : Bool) : MetadataCall → Prop
  | readKey {c : MetadataCall} :
      ReadKeyCall env (defaultMetadataKeyDir zonedDevice dataRec) (mountGen needsEncrypt options)
        true c → SetupCall env blkDevice zonedDevice dataRec options needsEncrypt c
  | createUserdata {key : Bytes} {c : MetadataCall} :
      env.retrieveOrGenerateKey (defaultMetadataKeyDir zonedDevice dataRec ++ "/key")
        (defaultMetadataKeyDir zonedDevice dataRec ++ "/tmp") (mountGen needsEncrypt options) =
          some key →
      CryptoBlkDevCall env kDmNameUserdata blkDevice key options c →
      SetupCall env blkDevice zonedDevice dataRec options needsEncrypt c
  | readZonedKey {c : MetadataCall} : zonedDevice ≠ "" →
      ReadKeyCall env (dataRec.metadataKeyDir ++ "/zoned") (mountGen needsEncrypt options)
        false c → SetupCall env blkDevice zonedDevice dataRec options needsEncrypt c
  | createUserdataZoned {key : Bytes} {c : MetadataCall} : zonedDevice ≠ "" →
      env.retrieveOrGenerateKey (dataRec.metadataKeyDir ++ "/zoned" ++ "/key")
        (dataRec.metadataKeyDir ++ "/zoned" ++ "/tmp") (mountGen needsEncrypt options) =
          some key →
      CryptoBlkDevCall env kDmNameUserdataZoned zonedDevice key options c →
      SetupCall env blkDevice zonedDevice dataRec options needsEncrypt c

/-- The calls `fscrypt_mount_metadata_encrypted` may make once it has read `fstab`. The keys
and devices are those of the mount point's entry in `fstab`, with the options built from it;
the devices it formats, encrypts, mounts and records are the paths `create_crypto_blk_dev`
reports. -/
inductive MountCall (env : MetadataEnv) (fstab : List FstabEntry) (blkDevice mountPoint : String)
    (needsEncrypt shouldFormat : Bool) (fsType zonedDevice : String) : MetadataCall → Prop
  | setup {dataRec : FstabEntry} {options : CryptoOptions} {c : MetadataCall} :
      getEntryForMountPoint fstab mountPoint = some dataRec →
      mountOptions env dataRec = some options →
      SetupCall env blkDevice zonedDevice dataRec options needsEncrypt c →
      MountCall env fstab blkDevice mountPoint needsEncrypt shouldFormat fsType zonedDevice c
  | formatOrEncrypt {n : Nat} {c : MetadataCall} : needsEncrypt = true →
      env.blockDev512Sectors (if zonedDevice = "" then blkDevice else zonedDevice) = some n →
      FormatCall blkDevice mountPoint shouldFormat fsType zonedDevice (mapperPath kDmNameUserdata)
        (if zonedDevice = "" then "" else mapperPath kDmNameUserdataZoned) (n / 8 * 8) c →
      MountCall env fstab blkDevice mountPoint needsEncrypt shouldFormat fsType zonedDevice c
  | mountViaFsMgr {c : MetadataCall} :
      MountViaFsMgrCall env mountPoint (mapperPath kDmNameUserdata) needsEncrypt c →
      MountCall env fstab blkDevice mountPoint needsEncrypt shouldFormat fsType zonedDevice c
  | setCryptoBlkdev : MountCall env fstab blkDevice mountPoint needsEncrypt shouldFormat fsType
      zonedDevice (.setProperty "ro.crypto.fs_crypto_blkdev" (mapperPath kDmNameUserdata))
  | setMetadataEnabled : MountCall env fstab blkDevice mountPoint needsEncrypt shouldFormat fsType
      zonedDevice (.setProperty "ro.crypto.metadata.enabled" "true")

section Steps

variable {env : MetadataEnv} {R : StateRel}

theorem readKey_guarantees {metadataKeyDir : String} {gen : KeyGeneration} {firstKey : Bool}
    (h : ∀ c, ReadKeyCall env metadataKeyDir gen firstKey c → R.Allows c) :
    (readKey env metadataKeyDir gen firstKey).Guarantees R fun key =>
      env.retrieveOrGenerateKey (metadataKeyDir ++ "/key") (metadataKeyDir ++ "/tmp") gen =
        some key := by
  refine (guarantees_check _).bind fun _ _ => (guarantees_call (h _ .mkdirsSync)).bind fun _ _ =>
    (guarantees_check _).bind fun _ _ => Guarantees.seq ?_ fun _ =>
      guarantees_call_lift (h _ .retrieveOrGenerateKey)
  refine guarantees_ite (fun h₁ => guarantees_ite (fun h₂ => (guarantees_call (h _ ?_)).imp
    fun _ _ => trivial) (fun _ => guarantees_pure_true _)) (fun _ => guarantees_pure_true _)
  simp only [Bool.and_eq_true, Bool.not_eq_eq_eq_not, Bool.not_true] at h₁
  exact .deleteAllKeys h₁.1.1 h₁.1.2 h₁.2 h₂

theorem createCryptoBlkDev_guarantees {dmName blkDevice : String} {key : Bytes}
    {options : CryptoOptions}
    (h : ∀ c, CryptoBlkDevCall env dmName blkDevice key options c → R.Allows c)
    (hd : R.AllowsDm dmName .active) :
    (createCryptoBlkDev env dmName blkDevice key options).Guarantees R fun r =>
      (∃ n, env.blockDev512Sectors blkDevice = some n ∧ r.2 = n / 8 * 8) ∧
      (dmName = kDmNameUserdata ∨ dmName = kDmNameUserdataZoned → r.1 = mapperPath dmName) := by
  have hm : (if options.useHwWrappedKey then do
      lift (← call (.exportWrappedStorageKey key) (env.exportWrappedStorageKey key))
      else pure key).Guarantees R fun moduleKey =>
        (if options.useHwWrappedKey then env.exportWrappedStorageKey key else some key) =
          some moduleKey :=
    guarantees_ite (fun hw => (guarantees_call_lift (h _ (.exportWrappedStorageKey hw))).imp
      fun _ e => by simp [hw, e]) (fun hw => guarantees_pure (by simp [hw]))
  refine (guarantees_lift _).bind fun n hn => hm.bind fun moduleKey hmk =>
    (guarantees_lift _).bind fun hexKey hx => (guarantees_getDmState _).bind fun _ _ =>
      Guarantees.seq ?_ fun _ => guarantees_pure ⟨⟨n, hn, rfl⟩, fun h' => by simp [h']⟩
  · have hkey : tableKey env options key = some hexKey := by simp [tableKey, hmk, ← hx]
    exact guarantees_ite
      (fun hs => (dmLoadTableAndActivate_guarantees (h _ (.loadTableAndActivate hn hkey hs.1))
        hd).bind fun _ _ => dmWaitForDevice_guarantees (h _ (.waitForDevice hs.1)))
      (fun _ => dmCreateDevice_guarantees (h _ (.createDevice hn hkey)) hd)

theorem mountViaFsMgr_guarantees {mountPoint blkDevice : String} {needsEncrypt : Bool}
    (h : ∀ c, MountViaFsMgrCall env mountPoint blkDevice needsEncrypt c → R.Allows c) :
    (mountViaFsMgr env mountPoint blkDevice needsEncrypt).Guarantees R fun _ => True :=
  (guarantees_call (h _ .setexeccon)).bind fun _ _ => guarantees_ite
    (fun _ => guarantees_pure_true _)
    (fun _ => guarantees_getFstab.bind fun _ _ => (guarantees_call (h _ .fsMgrDoMount)).bind
      fun _ _ => (guarantees_call (h _ .clearExeccon)).bind fun _ _ => guarantees_ite
        (fun _ => guarantees_pure_true _) (fun _ => guarantees_pure_true _))

theorem formatOrEncrypt_guarantees {blkDevice mountPoint : String} {shouldFormat : Bool}
    {fsType zonedDevice cryptoBlkdev cryptoZonedBlkdev : String} {nrSec : Nat}
    (h : ∀ c, FormatCall blkDevice mountPoint shouldFormat fsType zonedDevice cryptoBlkdev
      cryptoZonedBlkdev nrSec c → R.Allows c) :
    (formatOrEncrypt env blkDevice mountPoint shouldFormat fsType zonedDevice cryptoBlkdev
      cryptoZonedBlkdev nrSec).Guarantees R fun _ => True := by
  refine guarantees_ite (fun hf => Guarantees.seq ?_ fun _ => (guarantees_check _).imp
      fun _ _ => trivial)
    (fun hf => (guarantees_check _).bind fun hz _ => (guarantees_call
      (h _ (.encryptInplace (by simpa using hf) ‹_›))).bind fun _ _ => guarantees_check _ |>.imp
        fun _ _ => trivial)
  exact guarantees_ite
    (fun he => (guarantees_call (h _ (.ext4Format hf he))).imp fun _ _ => trivial)
    (fun _ => guarantees_ite (fun hf2 => (guarantees_call (h _ (.f2fsFormat hf hf2))).imp
      fun _ _ => trivial) (fun _ => guarantees_fail _))

theorem setupDevices_guarantees {blkDevice zonedDevice : String} {dataRec : FstabEntry}
    {options : CryptoOptions} {needsEncrypt : Bool}
    (h : ∀ c, SetupCall env blkDevice zonedDevice dataRec options needsEncrypt c → R.Allows c)
    (hd : ∀ name, R.AllowsDm name .active) :
    (setupDevices env blkDevice zonedDevice dataRec options needsEncrypt).Guarantees R fun r =>
      r.1 = mapperPath kDmNameUserdata ∧
      r.2.1 = (if zonedDevice = "" then "" else mapperPath kDmNameUserdataZoned) ∧
      ∃ n,
        env.blockDev512Sectors (if zonedDevice = "" then blkDevice else zonedDevice) = some n ∧
        r.2.2 = n / 8 * 8 := by
  refine (readKey_guarantees fun c hc => h c (.readKey hc)).bind fun key hk =>
    (createCryptoBlkDev_guarantees (fun c hc => h c (.createUserdata hk hc)) (hd _)).bind
      fun ⟨cryptoBlkdev, nrSec⟩ ⟨⟨n, hn, hs⟩, hp⟩ => guarantees_ite
        (fun hz => guarantees_pure ⟨hp (.inl rfl), by simp [hz], n, by simpa [hz] using hn, hs⟩)
        (fun hz => (readKey_guarantees fun c hc => h c (.readZonedKey hz hc)).bind fun key hk =>
          (createCryptoBlkDev_guarantees (fun c hc => h c (.createUserdataZoned hz hk hc))
            (hd _)).bind fun ⟨_, _⟩ ⟨⟨n, hn, hs⟩, hp'⟩ =>
              guarantees_pure ⟨hp (.inl rfl), by simpa [hz] using hp' (.inr rfl), n,
                by simpa [hz] using hn, hs⟩)

/-- The default fstab is written only over an empty one. -/
theorem ensureDefaultFstab_guarantees
    (h : ∀ s : MetadataState, s.fstabDefault = [] → R.rel s (s.setFstab env.readDefaultFstab)) :
    (ensureDefaultFstab env).Guarantees R fun _ => True := fun s => by
  simp only [ensureDefaultFstab, bind_apply, getFstab_apply]
  split_ifs with h₀
  · simp only [bind_apply, setFstab_apply, check_apply]
    split_ifs <;> exact ⟨h s h₀, fun _ _ => trivial⟩
  · exact ⟨R.refl s, fun _ _ => trivial⟩

theorem loadFstab_guarantees {fstabPath : String} (hf : ∀ f, R.AllowsFstab f) :
    (loadFstab env fstabPath).Guarantees R fun _ => True :=
  guarantees_ite (fun _ => (guarantees_lift _).bind fun f _ => guarantees_setFstab (hf f))
    (fun _ => ensureDefaultFstab_guarantees fun s _ => hf _ s)

/-- `loadFstab` makes no call: it leaves the fstab `loadedFstab` names, or fails and changes
nothing. -/
theorem loadFstab_apply (fstabPath : String) (s : MetadataState) :
    loadFstab env fstabPath s = match loadedFstab env fstabPath s.fstabDefault with
      | some fstab => (some (), s.setFstab fstab)
      | none => (none, s) := by
  unfold loadFstab loadedFstab
  by_cases hp : fstabPath ≠ ""
  · simp only [if_pos hp]
    cases env.readFstabFromFile fstabPath <;> rfl
  simp only [if_neg hp, ensureDefaultFstab, bind_apply, getFstab_apply]
  by_cases hd : s.fstabDefault = []
  · by_cases he : env.readDefaultFstab = []
    · obtain ⟨f, dm, calls⟩ := s
      simp_all [MetadataState.setFstab]
    · simp [hd, he]
  · simp [hd]
    rfl

/-- A mount that passes the crypto-state check and reads an fstab goes on from that fstab;
otherwise it fails without a call. -/
theorem fscryptMountMetadataEncrypted_apply {blkDevice mountPoint : String}
    {needsEncrypt shouldFormat : Bool} {fsType zonedDevice fstabPath : String}
    (s : MetadataState) :
    fscryptMountMetadataEncrypted env blkDevice mountPoint needsEncrypt shouldFormat fsType
        zonedDevice fstabPath s =
      if env.cryptoState = "" ∨ env.cryptoState = "encrypted" then
        match loadedFstab env fstabPath s.fstabDefault with
        | some fstab => (prepareFromFstab env fstab blkDevice mountPoint needsEncrypt
            shouldFormat fsType zonedDevice >>= fun cryptoBlkdev =>
              mountAndRecord env mountPoint cryptoBlkdev needsEncrypt) (s.setFstab fstab)
        | none => (none, s)
      else (none, s) := by
  by_cases hc : env.cryptoState = "" ∨ env.cryptoState = "encrypted"
  · simp only [fscryptMountMetadataEncrypted, prepareMetadataEncrypted, bind_bind, bind_apply,
      check_apply, if_pos hc, loadFstab_apply]
    cases loadedFstab env fstabPath s.fstabDefault <;> rfl
  · simp [fscryptMountMetadataEncrypted, prepareMetadataEncrypted, hc]

theorem prepareFromFstab_guarantees {fstab : List FstabEntry} {blkDevice mountPoint : String}
    {needsEncrypt shouldFormat : Bool} {fsType zonedDevice : String}
    (hs : ∀ {dataRec options c}, getEntryForMountPoint fstab mountPoint = some dataRec →
      mountOptions env dataRec = some options →
      SetupCall env blkDevice zonedDevice dataRec options needsEncrypt c → R.Allows c)
    (hf : ∀ {n c}, needsEncrypt = true →
      env.blockDev512Sectors (if zonedDevice = "" then blkDevice else zonedDevice) = some n →
      FormatCall blkDevice mountPoint shouldFormat fsType zonedDevice (mapperPath kDmNameUserdata)
        (if zonedDevice = "" then "" else mapperPath kDmNameUserdataZoned) (n / 8 * 8) c →
      R.Allows c)
    (hd : ∀ name, R.AllowsDm name .active) :
    (prepareFromFstab env fstab blkDevice mountPoint needsEncrypt shouldFormat fsType
      zonedDevice).Guarantees R (· = mapperPath kDmNameUserdata) :=
  (guarantees_lift _).bind fun _ he => (guarantees_lift _).bind fun _ ho =>
    (setupDevices_guarantees (fun _ hc => hs he ho hc) hd).bind
      fun ⟨_, _, _⟩ ⟨hb, hz, n, hn, hs⟩ => by
  simp only at hb hz hs
  subst hb hz hs
  exact Guarantees.seq (guarantees_ite (fun he => formatOrEncrypt_guarantees fun _ hc =>
    hf he hn hc) (fun _ => guarantees_pure_true _)) fun _ => guarantees_pure rfl

theorem prepareMetadataEncrypted_guarantees {blkDevice mountPoint : String}
    {needsEncrypt shouldFormat : Bool} {fsType zonedDevice fstabPath : String}
    (hl : (loadFstab env fstabPath).Guarantees R fun _ => True)
    (hs : ∀ {fstab dataRec options c}, getEntryForMountPoint fstab mountPoint = some dataRec →
      mountOptions env dataRec = some options →
      SetupCall env blkDevice zonedDevice dataRec options needsEncrypt c → R.Allows c)
    (hf : ∀ {n c}, needsEncrypt = true →
      env.blockDev512Sectors (if zonedDevice = "" then blkDevice else zonedDevice) = some n →
      FormatCall blkDevice mountPoint shouldFormat fsType zonedDevice (mapperPath kDmNameUserdata)
        (if zonedDevice = "" then "" else mapperPath kDmNameUserdataZoned) (n / 8 * 8) c →
      R.Allows c)
    (hd : ∀ name, R.AllowsDm name .active) :
    (prepareMetadataEncrypted env blkDevice mountPoint needsEncrypt shouldFormat fsType
      zonedDevice fstabPath).Guarantees R (· = mapperPath kDmNameUserdata) :=
  (guarantees_check _).bind fun _ _ => hl.bind fun _ _ => guarantees_getFstab.bind fun _ _ =>
    prepareFromFstab_guarantees hs hf hd

theorem mountAndRecord_guarantees {mountPoint cryptoBlkdev : String} {needsEncrypt : Bool}
    (h : ∀ c, MountViaFsMgrCall env mountPoint cryptoBlkdev needsEncrypt c → R.Allows c)
    (h₁ : R.Allows (.setProperty "ro.crypto.fs_crypto_blkdev" cryptoBlkdev))
    (h₂ : R.Allows (.setProperty "ro.crypto.metadata.enabled" "true")) :
    (mountAndRecord env mountPoint cryptoBlkdev needsEncrypt).Guarantees R fun _ => True :=
  (mountViaFsMgr_guarantees h).seq fun _ => (guarantees_call h₁).bind fun _ _ =>
    (guarantees_call h₂).imp fun _ _ => trivial

/-- From the fstab it has read on, every call of a mount is one that `MountCall` names. -/
theorem mountFromFstab_guarantees {fstab : List FstabEntry} {blkDevice mountPoint : String}
    {needsEncrypt shouldFormat : Bool} {fsType zonedDevice : String}
    (h : ∀ c,
      MountCall env fstab blkDevice mountPoint needsEncrypt shouldFormat fsType zonedDevice c →
        R.Allows c)
    (hd : ∀ name, R.AllowsDm name .active) :
    (prepareFromFstab env fstab blkDevice mountPoint needsEncrypt shouldFormat fsType zonedDevice
      >>= fun cryptoBlkdev => mountAndRecord env mountPoint cryptoBlkdev needsEncrypt).Guarantees
      R fun _ => True :=
  (prepareFromFstab_guarantees (fun he ho hc => h _ (.setup he ho hc))
    (fun he hn hc => h _ (.formatOrEncrypt he hn hc)) hd).bind fun _ hb => by
    subst hb
    exact mountAndRecord_guarantees (fun c hc => h c (.mountViaFsMgr hc)) (h _ .setCryptoBlkdev)
      (h _ .setMetadataEnabled)

theorem fscryptMountMetadataEncrypted_guarantees {blkDevice mountPoint : String}
    {needsEncrypt shouldFormat : Bool} {fsType zonedDevice fstabPath : String}
    (hl : (loadFstab env fstabPath).Guarantees R fun _ => True)
    (h : ∀ fstab c,
      MountCall env fstab blkDevice mountPoint needsEncrypt shouldFormat fsType zonedDevice c →
        R.Allows c)
    (hd : ∀ name, R.AllowsDm name .active) :
    (fscryptMountMetadataEncrypted env blkDevice mountPoint needsEncrypt shouldFormat fsType
      zonedDevice fstabPath).Guarantees R fun _ => True := by
  simp only [fscryptMountMetadataEncrypted, prepareMetadataEncrypted, bind_bind]
  exact (guarantees_check _).bind fun _ _ => hl.bind fun _ _ => guarantees_getFstab.bind
    fun fstab _ => mountFromFstab_guarantees (h fstab) hd

end Steps

end VoldDecrypt
