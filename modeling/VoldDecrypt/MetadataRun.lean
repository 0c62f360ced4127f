import VoldDecrypt.Bytes
import VoldDecrypt.MetadataOptions

/-!
# The world of the metadata-encryption code

`fscrypt_mount_metadata_encrypted` and the functions around it in `src/KeyStorage.h` keep one
global, `fstab_default`, and act through fs_mgr, libdm, keystore and the file system. A
`MetadataState` holds `fstab_default`, what libdm's `GetState` answers for each device name,
and the calls made so far with their arguments. A `MetadataEnv` answers every call and holds
the system properties the code reads. A `MetadataRun` is a run of the code from a state; it
ends in `none` where the C++ returns `false`.

libdm is modelled by the states it reports: a placeholder device is suspended, a device whose
table was loaded is active, and a call that fails leaves the device as it was. Logging is left
out, and so are the queries that change nothing (`pathExists`, `GetState`, property reads),
which the environment answers.

`Guarantees R x q` is a Hoare triple for runs: every run of `x` relates the state before to the
state after by `R`, and whatever it returns satisfies `q`. A `StateRel` says what a run may
change (which calls it may append, how the devices may move), and `StateRel.Allows` says which
single calls it permits, so each function of the code needs one lemma, stated once for every
relation.
-/
namespace VoldDecrypt

/-- The fields of fs_mgr's `FstabEntry` this code reads. -/
structure FstabEntry where
  mountPoint : String
  encryptionOptions : String
  metadataEncryptionOptions : String
  metadataKeyDir : String
  checkpointBlk : Bool
  deriving DecidableEq, Repr

/-- fs_mgr's `GetEntryForMountPoint`: the first entry mounted at `path`. -/
def getEntryForMountPoint (fstab : List FstabEntry) (path : String) : Option FstabEntry :=
  fstab.find? (·.mountPoint = path)

/-- libdm's `DmDeviceState`. -/
inductive DmDeviceState where
  | invalid
  | suspended
  | active
  deriving DecidableEq, Repr

/-- How far a device has come: missing, created empty, carrying a table. -/
def DmDeviceState.rank : DmDeviceState → Nat
  | .invalid => 0
  | .suspended => 1
  | .active => 2

/-- libdm's `DmTargetDefaultKey`: `length` sectors from `start` of a dm-default-key device,
mapped onto `blockdev` from `startSector`, with the flags its three setters turn on. The cipher
is the kernel name of a `CryptoType`, `none` where that is a null pointer. -/
structure DmTargetDefaultKey where
  start : Nat
  length : Nat
  cipher : Option String
  key : String
  blockdev : String
  startSector : Nat
  isLegacy : Bool
  setDun : Bool
  isHwWrapped : Bool
  deriving DecidableEq, Repr

/-- A call of the metadata-encryption code, with its arguments. A table is the list of targets
of a libdm `DmTable`; timeouts are in seconds. -/
inductive MetadataCall where
  | mkdirsSync (path : String) (mode : Nat)
  | deleteAllKeys
  | retrieveOrGenerateKey (keyPath tmpPath : String) (gen : KeyGeneration)
  | exportWrappedStorageKey (key : Bytes)
  | createPlaceholderDevice (name : String)
  | loadTableAndActivate (name : String) (table : List DmTargetDefaultKey)
  | waitForDevice (name : String) (timeoutSeconds : Nat)
  | createDevice (name : String) (table : List DmTargetDefaultKey) (timeoutSeconds : Nat)
  | ext4Format (fsPath : String) (numSectors : Nat) (target : String)
  | f2fsFormat (fsPath zonedDevice : String)
  | encryptInplace (cryptoBlkdev realBlkdev : String) (size : Nat)
  | setexeccon (context : Option String)
  | fsMgrDoMount (mountPoint blkDevice : String) (needsCheckpoint needsEncrypt : Bool)
  | setProperty (key value : String)
  | destroyKey (path : String)
  | deleteDirContentsAndDir (path : String)
  deriving DecidableEq, Repr

/-- The calls that write over a block device's contents. -/
def MetadataCall.destroysData : MetadataCall → Bool
  | .ext4Format .. | .f2fsFormat .. | .encryptInplace .. => true
  | _ => false

/-- The table a call hands to the device mapper, if it hands one. -/
def MetadataCall.table? : MetadataCall → Option (String × List DmTargetDefaultKey)
  | .loadTableAndActivate name table | .createDevice name table _ => some (name, table)
  | _ => none

/-- The call asks libdm to create the device `name`. -/
def MetadataCall.createsDevice (name : String) : MetadataCall → Bool
  | .createDevice n _ _ => n == name
  | _ => false

/-- The call belongs to the mount itself: the exec context, fs_mgr's mount, or a property. -/
def MetadataCall.mountStep : MetadataCall → Bool
  | .setexeccon _ | .fsMgrDoMount .. | .setProperty .. => true
  | _ => false

/-- The call asks libdm for an empty placeholder device. -/
def MetadataCall.createsPlaceholder : MetadataCall → Bool
  | .createPlaceholderDevice _ => true
  | _ => false

/-- What the code reads and what its calls answer. The properties are those of
`GetProperty` and `GetBoolProperty` with the defaults the code gives them; `readDefaultFstab`
is the table `ReadDefaultFstab` reads, and it fails when that is empty; `encryptionOptionsVersion`
is the `version` libfscrypt's `ParseOptions` leaves, which the code takes whether or not the
parse succeeded; `fsckContext` is `android::vold::sFsckContext`. Formats answer a
`status_t`, `setexeccon` and `fs_mgr_do_mount` an `int`. -/
structure MetadataEnv where
  ciphers : CipherTable
  cryptoState : String
  gsidImageRunning : Bool
  metadataInitDeleteAllKeysEnabled : Bool
  setDun : Bool
  volumeMetadataEncryption : String
  readFstabFromFile : String → Option (List FstabEntry)
  readDefaultFstab : List FstabEntry
  encryptionOptionsVersion : String → Nat
  metadataWrappedKeySupported : Bool
  pathExists : String → Bool
  mkdirsSync : String → Bool
  retrieveOrGenerateKey : String → String → KeyGeneration → Option Bytes
  blockDev512Sectors : String → Option Nat
  exportWrappedStorageKey : Bytes → Option Bytes
  strToHex : Bytes → Option String
  createPlaceholderDevice : String → Bool
  loadTableAndActivate : String → List DmTargetDefaultKey → Bool
  waitForDevice : String → Option String
  createDevice : String → List DmTargetDefaultKey → Option String
  ext4Format : String → Nat → String → Int
  f2fsFormat : String → String → Int
  encryptInplace : String → String → Nat → Bool
  fsckContext : String
  setexeccon : Option String → Int
  needsCheckpoint : Bool
  fsMgrDoMount : List FstabEntry → String → String → Bool → Bool → Int
  getDsuMetadataKeyDir : String → String
  destroyKey : String → Bool
  deleteDirContentsAndDir : String → Bool

/-- `fstab_default`, the devices libdm knows, and the calls made so far, oldest first. -/
structure MetadataState where
  fstabDefault : List FstabEntry
  dm : String → DmDeviceState
  calls : List MetadataCall

namespace MetadataState

/-- The state at boot: `fstab_default` not read, no device, no call. -/
def boot : MetadataState := ⟨[], fun _ => .invalid, []⟩

/-- Record a call. -/
def addCall (s : MetadataState) (c : MetadataCall) : MetadataState :=
  { s with calls := s.calls ++ [c] }

/-- Record calls, in order. -/
def addCalls (s : MetadataState) (l : List MetadataCall) : MetadataState :=
  { s with calls := s.calls ++ l }

/-- libdm moves a device to a state. -/
def setDm (s : MetadataState) (name : String) (st : DmDeviceState) : MetadataState :=
  { s with dm := Function.update s.dm name st }

/-- Replace `fstab_default`. -/
def setFstab (s : MetadataState) (fstab : List FstabEntry) : MetadataState :=
  { s with fstabDefault := fstab }

@[simp] theorem addCall_calls (s : MetadataState) (c : MetadataCall) :
    (s.addCall c).calls = s.calls ++ [c] := rfl
@[simp] theorem addCall_dm (s : MetadataState) (c : MetadataCall) : (s.addCall c).dm = s.dm := rfl
@[simp] theorem addCall_fstabDefault (s : MetadataState) (c : MetadataCall) :
    (s.addCall c).fstabDefault = s.fstabDefault := rfl
@[simp] theorem addCalls_calls (s : MetadataState) (l : List MetadataCall) :
    (s.addCalls l).calls = s.calls ++ l := rfl
@[simp] theorem addCalls_dm (s : MetadataState) (l : List MetadataCall) :
    (s.addCalls l).dm = s.dm := rfl
@[simp] theorem addCalls_fstabDefault (s : MetadataState) (l : List MetadataCall) :
    (s.addCalls l).fstabDefault = s.fstabDefault := rfl
@[simp] theorem addCalls_nil (s : MetadataState) : s.addCalls [] = s := by
  simp [addCalls]
theorem addCall_addCalls (s : MetadataState) (c : MetadataCall) (l : List MetadataCall) :
    (s.addCall c).addCalls l = s.addCalls (c :: l) := by
  simp [addCall, addCalls]
@[simp] theorem setDm_calls (s : MetadataState) (name : String) (st : DmDeviceState) :
    (s.setDm name st).calls = s.calls := rfl
@[simp] theorem setDm_dm (s : MetadataState) (name : String) (st : DmDeviceState) :
    (s.setDm name st).dm = Function.update s.dm name st := rfl
@[simp] theorem setDm_fstabDefault (s : MetadataState) (name : String) (st : DmDeviceState) :
    (s.setDm name st).fstabDefault = s.fstabDefault := rfl
@[simp] theorem setFstab_calls (s : MetadataState) (f : List FstabEntry) :
    (s.setFstab f).calls = s.calls := rfl
@[simp] theorem setFstab_dm (s : MetadataState) (f : List FstabEntry) :
    (s.setFstab f).dm = s.dm := rfl
@[simp] theorem setFstab_fstabDefault (s : MetadataState) (f : List FstabEntry) :
    (s.setFstab f).fstabDefault = f := rfl

end MetadataState

/-- A run of the metadata-encryption code; `none` where the C++ returns `false`. -/
def MetadataRun (α : Type) : Type := MetadataState → Option α × MetadataState

namespace MetadataRun

variable {α β : Type}

/-- Sequencing; a `false` ends the run. -/
def bind (x : MetadataRun α) (f : α → MetadataRun β) : MetadataRun β := fun s =>
  match x s with
  | (some a, s') => f a s'
  | (none, s') => (none, s')

instance : Monad MetadataRun where
  pure a := fun s => (some a, s)
  bind := MetadataRun.bind

/-- `return false`. -/
def fail : MetadataRun α := fun s => (none, s)

/-- Make the call `c`, which answers `r`. -/
def call (c : MetadataCall) (r : α) : MetadataRun α := fun s => (some r, s.addCall c)

/-- Go on with the value, or return `false` for `none`. -/
def lift (o : Option α) : MetadataRun α := fun s => (o, s)

/-- `if (!p) return false;` -/
def check (p : Prop) [Decidable p] : MetadataRun Unit := if p then pure () else fail

/-- Read `fstab_default`. -/
def getFstab : MetadataRun (List FstabEntry) := fun s => (some s.fstabDefault, s)

/-- Write `fstab_default`. -/
def setFstab (fstab : List FstabEntry) : MetadataRun Unit := fun s => (some (), s.setFstab fstab)

/-- libdm's `GetState`. -/
def getDmState (name : String) : MetadataRun DmDeviceState := fun s => (some (s.dm name), s)

/-- libdm moves a device to a state. -/
def setDmState (name : String) (st : DmDeviceState) : MetadataRun Unit :=
  fun s => (some (), s.setDm name st)

@[simp] theorem pure_apply (a : α) (s : MetadataState) :
    (pure a : MetadataRun α) s = (some a, s) := rfl

@[simp] theorem bind_apply (x : MetadataRun α) (f : α → MetadataRun β) (s : MetadataState) :
    (x >>= f) s = match x s with
      | (some a, s') => f a s'
      | (none, s') => (none, s') := rfl

@[simp] theorem fail_apply (s : MetadataState) : (fail : MetadataRun α) s = (none, s) := rfl

theorem bind_bind {γ : Type} (x : MetadataRun α) (f : α → MetadataRun β)
    (g : β → MetadataRun γ) : (x >>= f) >>= g = x >>= fun a => f a >>= g := funext fun s => by
  simp only [bind_apply]
  rcases x s with ⟨_ | a, s'⟩ <;> rfl

@[simp] theorem call_apply (c : MetadataCall) (r : α) (s : MetadataState) :
    call c r s = (some r, s.addCall c) := rfl

@[simp] theorem lift_apply (o : Option α) (s : MetadataState) : lift o s = (o, s) := rfl

@[simp] theorem check_apply (p : Prop) [Decidable p] (s : MetadataState) :
    check p s = (if p then some () else none, s) := by
  unfold check
  split <;> rfl

@[simp] theorem getFstab_apply (s : MetadataState) : getFstab s = (some s.fstabDefault, s) := rfl

@[simp] theorem setFstab_apply (f : List FstabEntry) (s : MetadataState) :
    setFstab f s = (some (), s.setFstab f) := rfl

@[simp] theorem getDmState_apply (name : String) (s : MetadataState) :
    getDmState name s = (some (s.dm name), s) := rfl

@[simp] theorem setDmState_apply (name : String) (st : DmDeviceState) (s : MetadataState) :
    setDmState name st s = (some (), s.setDm name st) := rfl

end MetadataRun

section Dm

open MetadataRun

variable (env : MetadataEnv)

/-- `DeviceMapper::CreatePlaceholderDevice`: an empty, suspended device. -/
def dmCreatePlaceholderDevice (name : String) : MetadataRun Bool := do
  call (.createPlaceholderDevice name) ()
  if env.createPlaceholderDevice name then
    setDmState name .suspended
    pure true
  else pure false

/-- `DeviceMapper::LoadTableAndActivate`, and `return false` if it fails. -/
def dmLoadTableAndActivate (name : String) (table : List DmTargetDefaultKey) :
    MetadataRun Unit := do
  call (.loadTableAndActivate name table) ()
  check (env.loadTableAndActivate name table)
  setDmState name .active

/-- `DeviceMapper::WaitForDevice`: the device's path, or `return false`. -/
def dmWaitForDevice (name : String) (timeoutSeconds : Nat) : MetadataRun String := do
  lift (← call (.waitForDevice name timeoutSeconds) (env.waitForDevice name))

/-- `DeviceMapper::CreateDevice`: an active device with the table, and its path, or
`return false`. -/
def dmCreateDevice (name : String) (table : List DmTargetDefaultKey) (timeoutSeconds : Nat) :
    MetadataRun String := do
  let path ←
    lift (← call (.createDevice name table timeoutSeconds) (env.createDevice name table))
  setDmState name .active
  pure path

end Dm

/-- A relation between the state before a run and the state after it that holds of doing
nothing and composes. -/
structure StateRel where
  rel : MetadataState → MetadataState → Prop
  refl : ∀ s, rel s s
  trans : ∀ {s₁ s₂ s₃}, rel s₁ s₂ → rel s₂ s₃ → rel s₁ s₃

namespace StateRel

/-- The calls appended satisfy `P`. -/
def appends (P : MetadataCall → Prop) : StateRel where
  rel s s' := ∃ l, s'.calls = s.calls ++ l ∧ ∀ c ∈ l, P c
  refl s := ⟨[], by simp, by simp⟩
  trans := by
    rintro _ _ _ ⟨l₁, h₁, p₁⟩ ⟨l₂, h₂, p₂⟩
    exact ⟨l₁ ++ l₂, by simp [h₁, h₂], fun c hc =>
      (List.mem_append.mp hc).elim (p₁ c) (p₂ c)⟩

/-- `fstab_default` is left as it was. -/
def keepsFstab : StateRel where
  rel s s' := s'.fstabDefault = s.fstabDefault
  refl _ := rfl
  trans h₁ h₂ := h₂.trans h₁

/-- Every device is left in the state it had. -/
def keepsDm : StateRel where
  rel s s' := s'.dm = s.dm
  refl _ := rfl
  trans h₁ h₂ := h₂.trans h₁

/-- No device goes back: none is removed, and none loses its table. -/
def dmAdvances : StateRel where
  rel s s' := ∀ name, (s.dm name).rank ≤ (s'.dm name).rank
  refl _ _ := le_rfl
  trans h₁ h₂ name := (h₁ name).trans (h₂ name)

/-- Both relations. -/
def and (R R' : StateRel) : StateRel where
  rel s s' := R.rel s s' ∧ R'.rel s s'
  refl s := ⟨R.refl s, R'.refl s⟩
  trans h₁ h₂ := ⟨R.trans h₁.1 h₂.1, R'.trans h₁.2 h₂.2⟩

/-- `R` permits the call `c`. -/
def Allows (R : StateRel) (c : MetadataCall) : Prop := ∀ s, R.rel s (s.addCall c)

/-- `R` permits libdm to move the device `name` to `st`. -/
def AllowsDm (R : StateRel) (name : String) (st : DmDeviceState) : Prop :=
  ∀ s, R.rel s (s.setDm name st)

/-- `R` permits `fstab_default` to become `fstab`. -/
def AllowsFstab (R : StateRel) (fstab : List FstabEntry) : Prop :=
  ∀ s, R.rel s (s.setFstab fstab)

theorem allows_appends {P : MetadataCall → Prop} {c : MetadataCall} (h : P c) :
    (appends P).Allows c := fun _ => ⟨[c], rfl, by simpa using h⟩

theorem allowsDm_appends (P : MetadataCall → Prop) (name : String) (st : DmDeviceState) :
    (appends P).AllowsDm name st := fun _ => ⟨[], by simp, by simp⟩

theorem allowsFstab_appends (P : MetadataCall → Prop) (fstab : List FstabEntry) :
    (appends P).AllowsFstab fstab := fun _ => ⟨[], by simp, by simp⟩

theorem allows_and {R R' : StateRel} {c : MetadataCall} (h : R.Allows c) (h' : R'.Allows c) :
    (R.and R').Allows c := fun s => ⟨h s, h' s⟩

theorem allows_keepsDm (c : MetadataCall) : keepsDm.Allows c := fun _ => rfl

theorem allowsFstab_keepsDm (fstab : List FstabEntry) : keepsDm.AllowsFstab fstab := fun _ => rfl

theorem allows_dmAdvances (c : MetadataCall) : dmAdvances.Allows c := fun _ _ => le_rfl

theorem allowsFstab_dmAdvances (fstab : List FstabEntry) : dmAdvances.AllowsFstab fstab :=
  fun _ _ => le_rfl

/-- A device may move to a state at least as far as the one it is in. -/
theorem allowsDm_dmAdvances {name : String} {st : DmDeviceState}
    (h : ∀ s : MetadataState, (s.dm name).rank ≤ st.rank) : dmAdvances.AllowsDm name st :=
  fun s n => by
    by_cases hn : n = name
    · subst hn
      simpa using h s
    · simp [Function.update_noteq hn]

end StateRel

namespace MetadataRun

variable {α β : Type} {R : StateRel}

/-- Every run of `x` moves the state along `R`, and whatever it returns satisfies `q`. -/
def Guarantees (R : StateRel) (x : MetadataRun α) (q : α → Prop) : Prop :=
  ∀ s, R.rel s (x s).2 ∧ ∀ a, (x s).1 = some a → q a

theorem guarantees_pure {a : α} {q : α → Prop} (h : q a) :
    (pure a : MetadataRun α).Guarantees R q :=
  fun s => ⟨R.refl s, fun _ ha => by cases ha; exact h⟩

theorem guarantees_pure_true (a : α) : (pure a : MetadataRun α).Guarantees R fun _ => True :=
  guarantees_pure trivial

theorem guarantees_fail (q : α → Prop) : (fail : MetadataRun α).Guarantees R q :=
  fun s => ⟨R.refl s, fun _ ha => by cases ha⟩

theorem guarantees_call {c : MetadataCall} {r : α} (h : R.Allows c) :
    (call c r).Guarantees R (· = r) :=
  fun s => ⟨h s, fun _ ha => by cases ha; rfl⟩

theorem guarantees_lift (o : Option α) : (lift o).Guarantees R (o = some ·) :=
  fun s => ⟨R.refl s, fun _ ha => ha⟩

theorem guarantees_check (p : Prop) [Decidable p] : (check p).Guarantees R fun _ => p :=
  fun s => by
    unfold check
    split
    · exact guarantees_pure ‹p› s
    · exact guarantees_fail _ s

theorem guarantees_getFstab : getFstab.Guarantees R fun _ => True :=
  fun s => ⟨R.refl s, fun _ _ => trivial⟩

theorem guarantees_getDmState (name : String) : (getDmState name).Guarantees R fun _ => True :=
  fun s => ⟨R.refl s, fun _ _ => trivial⟩

theorem guarantees_setFstab {fstab : List FstabEntry} (h : R.AllowsFstab fstab) :
    (setFstab fstab).Guarantees R fun _ => True :=
  fun s => ⟨h s, fun _ _ => trivial⟩

theorem guarantees_setDmState {name : String} {st : DmDeviceState} (h : R.AllowsDm name st) :
    (setDmState name st).Guarantees R fun _ => True :=
  fun s => ⟨h s, fun _ _ => trivial⟩

theorem Guarantees.bind {x : MetadataRun α} {f : α → MetadataRun β} {q : α → Prop}
    {p : β → Prop} (hx : x.Guarantees R q) (hf : ∀ a, q a → (f a).Guarantees R p) :
    (x >>= f).Guarantees R p := fun s => by
  obtain ⟨r₁, p₁⟩ := hx s
  rw [bind_apply]
  rcases h : x s with ⟨_ | a, s'⟩ <;> rw [h] at r₁ p₁
  · exact ⟨r₁, fun _ ha => by cases ha⟩
  · obtain ⟨r₂, p₂⟩ := hf a (p₁ a rfl) s'
    exact ⟨R.trans r₁ r₂, p₂⟩

/-- A call that may fail: its answer, or `return false`. -/
theorem guarantees_call_lift {c : MetadataCall} {o : Option α} (h : R.Allows c) :
    (do lift (← call c o)).Guarantees R (o = some ·) :=
  (guarantees_call h).bind fun _ h => by subst h; exact guarantees_lift _

theorem Guarantees.seq {x : MetadataRun α} {f : α → MetadataRun β} {p : β → Prop}
    (hx : x.Guarantees R fun _ => True) (hf : ∀ a, (f a).Guarantees R p) :
    (x >>= f).Guarantees R p :=
  hx.bind fun a _ => hf a

theorem Guarantees.imp {x : MetadataRun α} {q p : α → Prop} (hx : x.Guarantees R q)
    (h : ∀ a, q a → p a) : x.Guarantees R p := fun s =>
  ⟨(hx s).1, fun a ha => h a ((hx s).2 a ha)⟩

theorem Guarantees.and {x : MetadataRun α} {R' : StateRel} {q q' : α → Prop}
    (hx : x.Guarantees R q) (hx' : x.Guarantees R' q') :
    x.Guarantees (R.and R') fun a => q a ∧ q' a := fun s =>
  ⟨⟨(hx s).1, (hx' s).1⟩, fun a ha => ⟨(hx s).2 a ha, (hx' s).2 a ha⟩⟩

theorem guarantees_ite {c : Prop} [Decidable c] {x y : MetadataRun α} {q : α → Prop}
    (hx : c → x.Guarantees R q) (hy : ¬c → y.Guarantees R q) :
    (if c then x else y).Guarantees R q := by
  split
  exacts [hx ‹c›, hy ‹¬c›]

/-- A run that appends only calls outside `Q` appends none in `Q`. -/
theorem Guarantees.countP_eq_zero {x : MetadataRun α} {Q : MetadataCall → Bool} {q : α → Prop}
    (hx : x.Guarantees (.appends fun c => Q c = false) q) (s : MetadataState) :
    ∃ l, (x s).2.calls = s.calls ++ l ∧ l.countP Q = 0 := by
  obtain ⟨l, hl, hp⟩ := (hx s).1
  exact ⟨l, hl, List.countP_eq_zero.mpr fun c hc => by simp [hp c hc]⟩

/-- `x` appends at most `n` calls in `Q`. -/
def Emits (Q : MetadataCall → Bool) (n : Nat) (x : MetadataRun α) : Prop :=
  ∀ s, ∃ l, (x s).2.calls = s.calls ++ l ∧ l.countP Q ≤ n

theorem Guarantees.emits {x : MetadataRun α} {Q : MetadataCall → Bool} {q : α → Prop}
    (hx : x.Guarantees (.appends fun c => Q c = false) q) : x.Emits Q 0 := fun s =>
  let ⟨l, hl, h0⟩ := hx.countP_eq_zero s
  ⟨l, hl, h0.le⟩

theorem emits_call (Q : MetadataCall → Bool) (c : MetadataCall) (r : α) :
    (call c r).Emits Q 1 := fun s =>
  ⟨[c], rfl, by simpa using List.countP_le_length _⟩

theorem Emits.mono {x : MetadataRun α} {Q : MetadataCall → Bool} {n m : Nat} (hx : x.Emits Q n)
    (h : n ≤ m) : x.Emits Q m := fun s =>
  let ⟨l, hl, hn⟩ := hx s
  ⟨l, hl, hn.trans h⟩

theorem Emits.bind {x : MetadataRun α} {f : α → MetadataRun β} {Q : MetadataCall → Bool}
    {n m : Nat} (hx : x.Emits Q n) (hf : ∀ a, (f a).Emits Q m) : (x >>= f).Emits Q (n + m) :=
  fun s => by
  obtain ⟨l₁, h₁, c₁⟩ := hx s
  rw [bind_apply]
  rcases h : x s with ⟨_ | a, s'⟩ <;> rw [h] at h₁ <;> simp only at h₁
  · exact ⟨l₁, h₁, by omega⟩
  · obtain ⟨l₂, h₂, c₂⟩ := hf a s'
    refine ⟨l₁ ++ l₂, by simp [h₂, h₁], ?_⟩
    rw [List.countP_append]
    omega

theorem emits_pure (Q : MetadataCall → Bool) (a : α) : (pure a : MetadataRun α).Emits Q 0 :=
  fun s => ⟨[], by simp, by simp⟩

theorem emits_fail (Q : MetadataCall → Bool) : (fail : MetadataRun α).Emits Q 0 :=
  fun s => ⟨[], by simp, by simp⟩

theorem emits_lift (Q : MetadataCall → Bool) (o : Option α) : (lift o).Emits Q 0 :=
  fun s => ⟨[], by simp, by simp⟩

theorem emits_check (Q : MetadataCall → Bool) (p : Prop) [Decidable p] : (check p).Emits Q 0 :=
  fun s => ⟨[], by simp, by simp⟩

theorem emits_getFstab (Q : MetadataCall → Bool) : getFstab.Emits Q 0 :=
  fun s => ⟨[], by simp, by simp⟩

theorem Emits.bind_zero {x : MetadataRun α} {f : α → MetadataRun β} {Q : MetadataCall → Bool}
    {n : Nat} (hx : x.Emits Q 0) (hf : ∀ a, (f a).Emits Q n) : (x >>= f).Emits Q n := by
  simpa using hx.bind hf

theorem Emits.bind_zero_right {x : MetadataRun α} {f : α → MetadataRun β}
    {Q : MetadataCall → Bool} {n : Nat} (hx : x.Emits Q n) (hf : ∀ a, (f a).Emits Q 0) :
    (x >>= f).Emits Q n := by
  simpa using hx.bind hf

/-- A run, then another: the calls of the first come before those of the second. -/
theorem Guarantees.bind_appends {x : MetadataRun α} {f : α → MetadataRun β}
    {P Q : MetadataCall → Prop} {q : α → Prop} {p : β → Prop} (hx : x.Guarantees (.appends P) q)
    (hf : ∀ a, (f a).Guarantees (.appends Q) p) (s : MetadataState) :
    ∃ l₁ l₂, ((x >>= f) s).2.calls = s.calls ++ l₁ ++ l₂ ∧ (∀ c ∈ l₁, P c) ∧ ∀ c ∈ l₂, Q c := by
  obtain ⟨l₁, h₁, p₁⟩ := (hx s).1
  rw [bind_apply]
  rcases h : x s with ⟨_ | a, s'⟩ <;> rw [h] at h₁ <;> simp only at h₁
  · exact ⟨l₁, [], by simp [h₁], p₁, by simp⟩
  · obtain ⟨l₂, h₂, p₂⟩ := (hf a s').1
    exact ⟨l₁, l₂, by simp [h₂, h₁], p₁, p₂⟩

/-- From every state satisfying `I`, `x` appends only calls satisfying `P`. -/
def AppendsFrom (I : MetadataState → Prop) (P : MetadataCall → Prop) (x : MetadataRun α) :
    Prop :=
  ∀ s, I s → ∃ l, (x s).2.calls = s.calls ++ l ∧ ∀ c ∈ l, P c

theorem Guarantees.appendsFrom {x : MetadataRun α} {P : MetadataCall → Prop} {q : α → Prop}
    (I : MetadataState → Prop) (hx : x.Guarantees (.appends P) q) : x.AppendsFrom I P :=
  fun s _ => (hx s).1

theorem AppendsFrom.bind {x : MetadataRun α} {f : α → MetadataRun β}
    {I : MetadataState → Prop} {P : MetadataCall → Prop} {q : β → Prop}
    (hx : x.AppendsFrom I P)
    (hf : ∀ a, (f a).Guarantees (.appends P) q) : (x >>= f).AppendsFrom I P := fun s hs => by
  obtain ⟨l₁, h₁, p₁⟩ := hx s hs
  rw [bind_apply]
  rcases h : x s with ⟨_ | a, s'⟩ <;> rw [h] at h₁
  · exact ⟨l₁, h₁, p₁⟩
  · obtain ⟨l₂, h₂, p₂⟩ := (hf a s').1
    exact ⟨l₁ ++ l₂, by simp only at h₁; simp [h₂, h₁], fun c hc =>
      (List.mem_append.mp hc).elim (p₁ c) (p₂ c)⟩

/-- A run that keeps the devices keeps every fact about them for the run after it. -/
theorem Guarantees.bind_appendsFrom {x : MetadataRun α} {f : α → MetadataRun β}
    {I : MetadataState → Prop} {P : MetadataCall → Prop} {q : α → Prop}
    (hI : ∀ s s' : MetadataState, s'.dm = s.dm → I s → I s')
    (hx : x.Guarantees ((StateRel.appends P).and .keepsDm) q) (hf : ∀ a, (f a).AppendsFrom I P) :
    (x >>= f).AppendsFrom I P := fun s hs => by
  obtain ⟨⟨l₁, h₁, p₁⟩, hd⟩ := (hx s).1
  rw [bind_apply]
  rcases h : x s with ⟨_ | a, s'⟩ <;> rw [h] at h₁ hd
  · exact ⟨l₁, h₁, p₁⟩
  · obtain ⟨l₂, h₂, p₂⟩ := hf a s' (hI s s' hd hs)
    exact ⟨l₁ ++ l₂, by simp only at h₁; simp [h₂, h₁], fun c hc =>
      (List.mem_append.mp hc).elim (p₁ c) (p₂ c)⟩

theorem appendsFrom_getDmState_bind {f : DmDeviceState → MetadataRun β} {name : String}
    {st : DmDeviceState} {P : MetadataCall → Prop}
    (hf : (f st).AppendsFrom (fun s => s.dm name = st) P) :
    (getDmState name >>= f).AppendsFrom (fun s => s.dm name = st) P := fun s hs => by
  simpa [hs] using hf s hs

end MetadataRun

section DmSteps

open MetadataRun

variable {env : MetadataEnv} {R : StateRel}

theorem dmLoadTableAndActivate_guarantees {name : String} {table : List DmTargetDefaultKey}
    (h : R.Allows (.loadTableAndActivate name table)) (hd : R.AllowsDm name .active) :
    (dmLoadTableAndActivate env name table).Guarantees R fun _ => True :=
  (guarantees_call h).bind fun _ _ => (guarantees_check _).bind fun _ _ => guarantees_setDmState hd

theorem dmWaitForDevice_guarantees {name : String} {timeoutSeconds : Nat}
    (h : R.Allows (.waitForDevice name timeoutSeconds)) :
    (dmWaitForDevice env name timeoutSeconds).Guarantees R fun _ => True :=
  (guarantees_call_lift h).imp fun _ _ => trivial

theorem dmCreateDevice_guarantees {name : String} {table : List DmTargetDefaultKey}
    {timeoutSeconds : Nat} (h : R.Allows (.createDevice name table timeoutSeconds))
    (hd : R.AllowsDm name .active) :
    (dmCreateDevice env name table timeoutSeconds).Guarantees R fun _ => True :=
  (guarantees_call h).bind fun _ _ => (guarantees_lift _).bind fun _ _ =>
    (guarantees_setDmState hd).bind fun _ _ => guarantees_pure_true _

end DmSteps

end VoldDecrypt
