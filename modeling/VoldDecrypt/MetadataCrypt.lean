import VoldDecrypt.MetadataRun

/-!
# Mounting a metadata-encrypted filesystem

The functions of `src/KeyStorage.h` from `read_key` to `destroy_dsu_metadata_key`, the part of
the file that is vold's `MetadataCrypt.cpp`. `fscrypt_mount_metadata_encrypted` is cut where
its source falls into steps: `loadFstab` (the fstab it reads, `loadedFstab`), then, from the
entry of the mount point in that fstab (`mountEntry`), `mountOptions` (the options it builds
from the entry), `setupDevices` (keys and dm-default-key devices) and `formatOrEncrypt` (what it
writes onto a device it was asked to encrypt), which `prepareFromFstab` runs in turn;
`mountAndRecord`, the mount through fs_mgr and the two properties it sets, follows. Each step
has one lemma saying every call it may make, stated for any `StateRel`; the properties of the
whole are assembled from them.
-/
namespace VoldDecrypt

open MetadataRun

/-- `kDmNameUserdata`. -/
def kDmNameUserdata : String := "userdata"

/-- `kDmNameUserdataZoned`. -/
def kDmNameUserdataZoned : String := "userdata_zoned"

/-- The path `create_crypto_blk_dev` reports for the two userdata devices. -/
def mapperPath (dmName : String) : String := "/dev/block/mapper/" ++ dmName

/-- The target `create_crypto_blk_dev` builds: `nr_sec` sectors from 0, onto sector 0 of
`blk_device`, with the cipher and flags of the options. -/
def defaultKeyTarget (nrSec : Nat) (options : CryptoOptions) (hexKey blkDevice : String) :
    DmTargetDefaultKey :=
  ⟨0, nrSec, options.cipher.kernelName, hexKey, blkDevice, 0, options.useLegacyOptionsFormat,
    options.setDun, options.useHwWrappedKey⟩

/-- `default_metadata_key_dir`: the key directory of `userdata`, kept apart from the zoned
device's when there is one. -/
def defaultMetadataKeyDir (zonedDevice : String) (dataRec : FstabEntry) : String :=
  if zonedDevice = "" then dataRec.metadataKeyDir else dataRec.metadataKeyDir ++ "/default"

/-- `gen`: a mount that encrypts may generate its keys; any other must find them. -/
def mountGen (needsEncrypt : Bool) (options : CryptoOptions) : KeyGeneration :=
  if needsEncrypt then makeGen options else neverGen

section Functions

variable (env : MetadataEnv)

/-- `read_key`: make the key directory's parents, wipe keystore on what looks like a factory
reset, and retrieve the key, or generate it if `gen` allows. -/
def readKey (metadataKeyDir : String) (gen : KeyGeneration) (firstKey : Bool) :
    MetadataRun Bytes := do
  check (metadataKeyDir ≠ "")
  let dir := metadataKeyDir ++ "/key"
  check (← call (.mkdirsSync dir 0o700) (env.mkdirsSync dir))
  -- A missing key does not mean a factory reset when running a DSU image.
  (if !env.pathExists dir && !env.gsidImageRunning && firstKey then
      (if env.metadataInitDeleteAllKeysEnabled then call .deleteAllKeys () else pure ())
    else pure ())
  let temp := metadataKeyDir ++ "/tmp"
  lift (← call (.retrieveOrGenerateKey dir temp gen) (env.retrieveOrGenerateKey dir temp gen))

/-- `get_number_of_sectors`. -/
def getNumberOfSectors (realBlkdev : String) : MetadataRun Nat :=
  lift (env.blockDev512Sectors realBlkdev)

/-- `create_crypto_blk_dev`: a dm-default-key device `dm_name` over `blk_device`, its path and
its size. A suspended `userdata` was made by `defaultkey_precreate_dm_device` and is filled;
any other device is created. -/
def createCryptoBlkDev (dmName blkDevice : String) (key : Bytes) (options : CryptoOptions) :
    MetadataRun (String × Nat) := do
  -- `*nr_sec &= ~7`: whole 4096-byte sectors.
  let nrSec := (← getNumberOfSectors env blkDevice) / 8 * 8
  let moduleKey ← (if options.useHwWrappedKey then do
      lift (← call (.exportWrappedStorageKey key) (env.exportWrappedStorageKey key))
    else pure key)
  let hexKey ← lift (env.strToHex moduleKey)
  let table := [defaultKeyTarget nrSec options hexKey blkDevice]
  let state ← getDmState dmName
  let cryptoBlkdev ← (if dmName = kDmNameUserdata ∧ state = .suspended then do
      dmLoadTableAndActivate env dmName table
      dmWaitForDevice env dmName 20
    else dmCreateDevice env dmName table 5)
  -- F2FS keeps the paths of its devices; the dm paths do not survive a reboot.
  pure (if dmName = kDmNameUserdata ∨ dmName = kDmNameUserdataZoned then mapperPath dmName
    else cryptoBlkdev, nrSec)

/-- `mount_via_fs_mgr`, in the fsck domain. -/
def mountViaFsMgr (mountPoint blkDevice : String) (needsEncrypt : Bool) : MetadataRun Bool := do
  if (← call (.setexeccon (some env.fsckContext))
      (env.setexeccon (some env.fsckContext))) ≠ 0 then
    pure false
  else
    let mountRc ← call (.fsMgrDoMount mountPoint blkDevice env.needsCheckpoint needsEncrypt)
      (env.fsMgrDoMount (← getFstab) mountPoint blkDevice env.needsCheckpoint needsEncrypt)
    if (← call (.setexeccon none) (env.setexeccon none)) ≠ 0 then pure false
    else pure (mountRc == 0)

/-- `if (fstab_default.empty()) { if (!ReadDefaultFstab(&fstab_default)) return false; }`. -/
def ensureDefaultFstab : MetadataRun Unit := do
  if (← getFstab) = [] then
    setFstab env.readDefaultFstab
    check (env.readDefaultFstab ≠ [])

/-- The fstab `fscrypt_mount_metadata_encrypted` reads: the one at `fstab_path` if one is given,
else the default one, read once. -/
def loadFstab (fstabPath : String) : MetadataRun Unit :=
  if fstabPath ≠ "" then do
    setFstab (← lift (env.readFstabFromFile fstabPath))
  else ensureDefaultFstab env

/-- The fstab `loadFstab` leaves in `fstab_default` when it was `fstabDefault`, or `none` when it
fails. -/
def loadedFstab (fstabPath : String) (fstabDefault : List FstabEntry) :
    Option (List FstabEntry) :=
  if fstabPath ≠ "" then env.readFstabFromFile fstabPath
  else if fstabDefault = [] then
    if env.readDefaultFstab = [] then none else some env.readDefaultFstab
  else some fstabDefault

/-- The entry a mount at `mountPoint` sets up from, when `fstab_default` was `fstabDefault`: the
entry for the mount point in the fstab it reads. -/
def mountEntry (fstabPath mountPoint : String) (fstabDefault : List FstabEntry) :
    Option FstabEntry :=
  (loadedFstab env fstabPath fstabDefault).bind (getEntryForMountPoint · mountPoint)

/-- The `CryptoOptions` `fscrypt_mount_metadata_encrypted` builds for the entry: the legacy
ones for options format 1, which allows no metadata options, and the parsed metadata options
for format 2. -/
def mountOptions (dataRec : FstabEntry) : Option CryptoOptions :=
  let options := CryptoOptions.declared env.ciphers
  let optionsFormatVersion := env.encryptionOptionsVersion dataRec.encryptionOptions
  if optionsFormatVersion = 1 then
    if dataRec.metadataEncryptionOptions ≠ "" then none
    else
      let options := { options with cipher := legacyAes256Xts, useLegacyOptionsFormat := true }
      let options :=
        if env.metadataWrappedKeySupported then { options with useHwWrappedKey := true }
        else options
      let options := { options with setDun := env.setDun }
      -- Block checkpoints need DUNs.
      if !options.setDun && dataRec.checkpointBlk then none else some options
  else if optionsFormatVersion = 2 then
    parseOptions env.ciphers dataRec.metadataEncryptionOptions options
  else none

/-- The keys and devices of `fscrypt_mount_metadata_encrypted`: `userdata` over `blk_device`
and, for a zoned device, `userdata_zoned` over it, each with its own key. It returns both
device paths and the size last measured. -/
def setupDevices (blkDevice zonedDevice : String) (dataRec : FstabEntry)
    (options : CryptoOptions) (needsEncrypt : Bool) : MetadataRun (String × String × Nat) := do
  let gen := mountGen needsEncrypt options
  let key ← readKey env (defaultMetadataKeyDir zonedDevice dataRec) gen true
  let (cryptoBlkdev, nrSec) ← createCryptoBlkDev env kDmNameUserdata blkDevice key options
  if zonedDevice = "" then pure (cryptoBlkdev, "", nrSec)
  else do
    let key ← readKey env (dataRec.metadataKeyDir ++ "/zoned") gen false
    let (cryptoZonedBlkdev, nrSec) ←
      createCryptoBlkDev env kDmNameUserdataZoned zonedDevice key options
    pure (cryptoBlkdev, cryptoZonedBlkdev, nrSec)

/-- What `fscrypt_mount_metadata_encrypted` writes onto a device it must encrypt: a new
filesystem when asked to format, else the data encrypted in place, which a zoned device does
not support. -/
def formatOrEncrypt (blkDevice mountPoint : String) (shouldFormat : Bool)
    (fsType zonedDevice cryptoBlkdev cryptoZonedBlkdev : String) (nrSec : Nat) :
    MetadataRun Unit :=
  if shouldFormat then do
    let error ← (if fsType = "ext4" then
        call (.ext4Format cryptoBlkdev 0 mountPoint) (env.ext4Format cryptoBlkdev 0 mountPoint)
      else if fsType = "f2fs" then
        call (.f2fsFormat cryptoBlkdev cryptoZonedBlkdev)
          (env.f2fsFormat cryptoBlkdev cryptoZonedBlkdev)
      else fail)
    check (error = 0)
  else do
    check (zonedDevice = "")
    check (← call (.encryptInplace cryptoBlkdev blkDevice nrSec)
      (env.encryptInplace cryptoBlkdev blkDevice nrSec))

/-- `fscrypt_mount_metadata_encrypted` from the fstab it read up to the mount: the entry of the
mount point, its options, the keys and devices, and the format or encryption asked for. It
returns `crypto_blkdev`. -/
def prepareFromFstab (fstab : List FstabEntry) (blkDevice mountPoint : String)
    (needsEncrypt shouldFormat : Bool) (fsType zonedDevice : String) : MetadataRun String := do
  let dataRec ← lift (getEntryForMountPoint fstab mountPoint)
  let options ← lift (mountOptions env dataRec)
  let (cryptoBlkdev, cryptoZonedBlkdev, nrSec) ←
    setupDevices env blkDevice zonedDevice dataRec options needsEncrypt
  (if needsEncrypt then
      formatOrEncrypt env blkDevice mountPoint shouldFormat fsType zonedDevice cryptoBlkdev
        cryptoZonedBlkdev nrSec
    else pure ())
  pure cryptoBlkdev

/-- `fscrypt_mount_metadata_encrypted` up to the mount: the checks, the fstab, and what follows
from it. -/
def prepareMetadataEncrypted (blkDevice mountPoint : String) (needsEncrypt shouldFormat : Bool)
    (fsType zonedDevice fstabPath : String) : MetadataRun String := do
  check (env.cryptoState = "" ∨ env.cryptoState = "encrypted")
  loadFstab env fstabPath
  prepareFromFstab env (← getFstab) blkDevice mountPoint needsEncrypt shouldFormat fsType
    zonedDevice

/-- The end of `fscrypt_mount_metadata_encrypted`: the mount through fs_mgr, whose result is not
looked at, and the two properties. -/
def mountAndRecord (mountPoint cryptoBlkdev : String) (needsEncrypt : Bool) :
    MetadataRun Unit := do
  let _ ← mountViaFsMgr env mountPoint cryptoBlkdev needsEncrypt
  call (.setProperty "ro.crypto.fs_crypto_blkdev" cryptoBlkdev) ()
  -- At least one fstab entry has metadata encryption; a failure here is not fatal.
  call (.setProperty "ro.crypto.metadata.enabled" "true") ()

/-- `fscrypt_mount_metadata_encrypted`. -/
def fscryptMountMetadataEncrypted (blkDevice mountPoint : String) (needsEncrypt shouldFormat : Bool)
    (fsType zonedDevice fstabPath : String) : MetadataRun Unit := do
  let cryptoBlkdev ← prepareMetadataEncrypted env blkDevice mountPoint needsEncrypt shouldFormat
    fsType zonedDevice fstabPath
  mountAndRecord env mountPoint cryptoBlkdev needsEncrypt

/-- `get_volume_options`. -/
def getVolumeOptions : Option CryptoOptions :=
  parseOptions env.ciphers env.volumeMetadataEncryption (.declared env.ciphers)

/-- `defaultkey_volume_keygen`. -/
def defaultkeyVolumeKeygen : Option KeyGeneration := (getVolumeOptions env).map makeGen

/-- `defaultkey_setup_ext_volume`: the crypto device over an external volume. -/
def defaultkeySetupExtVolume (label blkDevice : String) (key : Bytes) : MetadataRun String := do
  let options ← lift (getVolumeOptions env)
  let (cryptoBlkdev, _) ← createCryptoBlkDev env label blkDevice key options
  pure cryptoBlkdev

/-- `defaultkey_precreate_dm_device`: an empty `userdata` device, unless one exists. -/
def defaultkeyPrecreateDmDevice : MetadataRun Unit := do
  if (← getDmState kDmNameUserdata) ≠ .invalid then pure ()
  else
    let _ ← dmCreatePlaceholderDevice env kDmNameUserdata
    pure ()

/-- The loop of `destroy_dsu_metadata_key` over the suffixes: destroy each key that exists,
clearing `ok` for each that fails. -/
def destroyKeys (dir : String) : Bool → List String → MetadataRun Bool
  | ok, [] => pure ok
  | ok, suffix :: suffixes =>
    let keyPath := dir ++ suffix
    if env.pathExists keyPath then do
      let destroyed ← call (.destroyKey keyPath) (env.destroyKey keyPath)
      destroyKeys dir (ok && destroyed) suffixes
    else destroyKeys dir ok suffixes

/-- `destroy_dsu_metadata_key`: remove the keys of a DSU slot and their directory, never the
directory of the host's `/data`. -/
def destroyDsuMetadataKey (dsuSlot : String) : MetadataRun Unit :=
  let dsuMetadataKeyDir := env.getDsuMetadataKeyDir dsuSlot
  if env.pathExists dsuMetadataKeyDir then do
    ensureDefaultFstab env
    let fstab ← getFstab
    (match getEntryForMountPoint fstab "/data" with
      | some dataRec => check (dsuMetadataKeyDir ≠ dataRec.metadataKeyDir)
      | none => pure ())
    check (← destroyKeys env dsuMetadataKeyDir true ["/key", "/tmp"])
    check (← call (.deleteDirContentsAndDir dsuMetadataKeyDir)
      (env.deleteDirContentsAndDir dsuMetadataKeyDir))
  else pure ()

end Functions

/-- A device whose fstab has one `/data` entry with options format 2 and metadata cipher
`aes-256-xts`, on which every call succeeds. -/
def MetadataEnv.sample : MetadataEnv where
  ciphers := .sample
  cryptoState := ""
  gsidImageRunning := false
  metadataInitDeleteAllKeysEnabled := false
  setDun := true
  volumeMetadataEncryption := "aes-256-xts"
  readFstabFromFile _ := none
  readDefaultFstab := [⟨"/data", "aes-256-xts:aes-256-cts:v2", "aes-256-xts",
    "/metadata/vold/metadata_encryption", false⟩]
  encryptionOptionsVersion _ := 2
  metadataWrappedKeySupported := false
  pathExists _ := true
  mkdirsSync _ := true
  retrieveOrGenerateKey _ _ _ := some [0]
  blockDev512Sectors _ := some 4096
  exportWrappedStorageKey key := some key
  strToHex _ := some "00"
  createPlaceholderDevice _ := true
  loadTableAndActivate _ _ := true
  waitForDevice name := some (mapperPath name)
  createDevice name _ := some (mapperPath name)
  ext4Format _ _ _ := 0
  f2fsFormat _ _ := 0
  encryptInplace _ _ _ := true
  fsckContext := "u:r:fsck:s0"
  setexeccon _ := 0
  needsCheckpoint := false
  fsMgrDoMount _ _ _ _ _ := 0
  getDsuMetadataKeyDir slot := "/metadata/gsi/dsu/" ++ slot
  destroyKey _ := true
  deleteDirContentsAndDir _ := true

end VoldDecrypt
