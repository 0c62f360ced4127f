import VoldDecrypt.MetadataMount

/-!
# The metadata-encryption entry points as one system

`destroy_dsu_metadata_key`, `defaultkey_setup_ext_volume` and
`defaultkey_precreate_dm_device` are modelled beside the mount. A boot serves them as
requests, each in the environment of its time, and all of them share `fstab_default` and the
devices libdm knows (`serve`).

Over any run of requests, no device goes back: none is removed, and none loses its table.
`fstab_default` is read once. A mount that follows `defaultkey_precreate_dm_device` can only
load its table into the placeholder: it never asks libdm to create `userdata`. That step is
safe only from some states, so it is stated with `AppendsFrom`, which takes the start state's
predicate.
-/

namespace VoldDecrypt
open MetadataRun

section Dsu

variable (env : MetadataEnv)

theorem ensureDefaultFstab_apply (s : MetadataState) :
    ensureDefaultFstab env s = if s.fstabDefault = [] then
      (if env.readDefaultFstab = [] then none else some (), s.setFstab env.readDefaultFstab)
    else (some (), s) := by
  simp only [ensureDefaultFstab, bind_apply, getFstab_apply]
  split_ifs <;> simp [*]

/-- The loop destroys every key that exists, in order, whatever the destroys before it
answered, and keeps `ok` only if every destroy succeeds. -/
theorem destroyKeys_apply (dir : String) (ok : Bool) (suffixes : List String) (s : MetadataState) :
    destroyKeys env dir ok suffixes s =
      (some (ok && suffixes.all fun x => !env.pathExists (dir ++ x) || env.destroyKey (dir ++ x)),
        s.addCalls ((suffixes.filter fun x => env.pathExists (dir ++ x)).map
          fun x => .destroyKey (dir ++ x))) := by
  induction suffixes generalizing ok s with
  | nil => simp [destroyKeys]
  | cons x xs ih =>
    by_cases h : env.pathExists (dir ++ x) <;>
      simp [destroyKeys, h, ih, List.filter_cons, Bool.and_assoc, MetadataState.addCall_addCalls]

theorem ensureDefaultFstab_calls (s : MetadataState) :
    (ensureDefaultFstab env s).2.calls = s.calls := by
  rw [ensureDefaultFstab_apply]
  split_ifs <;> rfl

theorem destroyDsuMetadataKey_effects (dsuSlot : String) (s : MetadataState) :
    let dir := env.getDsuMetadataKeyDir dsuSlot
    let r := destroyDsuMetadataKey env dsuSlot s
    let keys := (["/key", "/tmp"].filter fun x => env.pathExists (dir ++ x)).map
      fun x => MetadataCall.destroyKey (dir ++ x)
    r.2.calls = s.calls ∨
      (∀ dataRec, getEntryForMountPoint r.2.fstabDefault "/data" = some dataRec →
        dir ≠ dataRec.metadataKeyDir) ∧
      (r.2.calls = s.calls ++ keys ∨
        r.2.calls = s.calls ++ keys ++ [.deleteDirContentsAndDir dir] ∧
          ∀ x ∈ ["/key", "/tmp"], env.pathExists (dir ++ x) = false ∨
            env.destroyKey (dir ++ x) = true) := by
  intro dir r keys
  simp only [r, destroyDsuMetadataKey]
  split_ifs with hp
  swap
  · exact .inl rfl
  rw [bind_apply]
  have hc := ensureDefaultFstab_calls env s
  rcases he : ensureDefaultFstab env s with ⟨_ | _, s₁⟩ <;> rw [he] at hc
  · exact .inl hc
  -- What the keys and the directory leave, once the host check passes.
  have htail : ∀ ok del : Bool, (ok = true → ∀ x ∈ ["/key", "/tmp"],
      env.pathExists (dir ++ x) = false ∨ env.destroyKey (dir ++ x) = true) →
      let t := (check (ok = true) >>= fun _ =>
        call (.deleteDirContentsAndDir dir) del >>= fun b => check (b = true)) (s₁.addCalls keys)
      t.2.fstabDefault = s₁.fstabDefault ∧ (t.2.calls = s.calls ++ keys ∨
        t.2.calls = s.calls ++ keys ++ [.deleteDirContentsAndDir dir] ∧ ∀ x ∈ ["/key", "/tmp"],
          env.pathExists (dir ++ x) = false ∨ env.destroyKey (dir ++ x) = true) := by
    rintro (_ | _) del h <;> simp [← hc, h]
  have hok : (["/key", "/tmp"].all fun x => !env.pathExists (dir ++ x) || env.destroyKey (dir ++ x))
      = true → ∀ x ∈ ["/key", "/tmp"],
        env.pathExists (dir ++ x) = false ∨ env.destroyKey (dir ++ x) = true :=
    fun h x hx => by simpa using List.all_eq_true.mp h x hx
  obtain ⟨hf, hcalls⟩ := htail _ (env.deleteDirContentsAndDir dir) hok
  simp only [bind_apply, check_apply, call_apply] at hf hcalls
  rcases hd : getEntryForMountPoint s₁.fstabDefault "/data" with _ | dataRec <;>
    simp only [bind_apply, getFstab_apply, hd, check_apply, destroyKeys_apply, Bool.true_and,
      pure_apply]
  · exact .inr ⟨fun d h =>
      (nomatch hd.symm.trans ((congrArg (getEntryForMountPoint · "/data") hf).symm.trans h)),
      hcalls⟩
  · by_cases hh : dir = dataRec.metadataKeyDir
    · rw [if_neg (not_not.mpr hh)]
      exact .inl hc
    · rw [if_pos hh]
      exact .inr ⟨fun d h => Option.some.inj
        (hd.symm.trans ((congrArg (getEntryForMountPoint · "/data") hf).symm.trans h)) ▸ hh, hcalls⟩

end Dsu

section Steps

variable {env : MetadataEnv} {R : StateRel}

theorem destroyKeys_guarantees {dir : String} {ok : Bool} {suffixes : List String}
    (h : ∀ x ∈ suffixes, R.Allows (.destroyKey (dir ++ x))) :
    (destroyKeys env dir ok suffixes).Guarantees R fun _ => True := by
  induction suffixes generalizing ok with
  | nil => exact guarantees_pure_true _
  | cons x xs ih =>
    have hxs := fun ok => @ih ok fun y hy => h y (.tail _ hy)
    exact guarantees_ite (fun _ => (guarantees_call (h x (.head _))).bind fun _ _ => hxs _)
      (fun _ => hxs _)

theorem destroyDsuMetadataKey_guarantees {dsuSlot : String}
    (hf : ∀ s : MetadataState, s.fstabDefault = [] → R.rel s (s.setFstab env.readDefaultFstab))
    (hk : ∀ x ∈ ["/key", "/tmp"],
      R.Allows (.destroyKey (env.getDsuMetadataKeyDir dsuSlot ++ x)))
    (hd : R.Allows (.deleteDirContentsAndDir (env.getDsuMetadataKeyDir dsuSlot))) :
    (destroyDsuMetadataKey env dsuSlot).Guarantees R fun _ => True :=
  guarantees_ite (fun _ => (ensureDefaultFstab_guarantees hf).bind fun _ _ =>
    guarantees_getFstab.bind fun fstab _ => Guarantees.seq (by
      split
      exacts [(guarantees_check _).imp fun _ _ => trivial, guarantees_pure_true _]) fun _ =>
    (destroyKeys_guarantees hk).bind fun _ _ => (guarantees_check _).bind fun _ _ =>
      (guarantees_call hd).bind fun _ _ => (guarantees_check _).imp fun _ _ => trivial)
    (fun _ => guarantees_pure_true _)

theorem defaultkeySetupExtVolume_guarantees {label blkDevice : String} {key : Bytes}
    (h : ∀ options, getVolumeOptions env = some options →
      ∀ c, CryptoBlkDevCall env label blkDevice key options c → R.Allows c)
    (hd : R.AllowsDm label .active) :
    (defaultkeySetupExtVolume env label blkDevice key).Guarantees R fun _ => True :=
  (guarantees_lift _).bind fun options ho => (createCryptoBlkDev_guarantees (h options ho) hd).bind
    fun _ _ => guarantees_pure_true _

end Steps

/-- The key `defaultkey_volume_keygen` generates for an external volume fits the table
`defaultkey_setup_ext_volume` builds for it: the same cipher, with a key of its size, and the
same wrapping, with DUNs and the new options format; when no key can be generated, the setup
makes no call. -/
theorem defaultkeySetupExtVolume_matches_keygen (env : MetadataEnv) (label blkDevice : String)
    (key : Bytes) (s : MetadataState) :
    ∃ l, (defaultkeySetupExtVolume env label blkDevice key s).2.calls = s.calls ++ l ∧
      (defaultkeyVolumeKeygen env = none → l = []) ∧
      ∀ gen, defaultkeyVolumeKeygen env = some gen → ∀ c ∈ l, ∀ name table,
        c.table? = some (name, table) → name = label ∧
        ∃ t, table = [t] ∧ t.blockdev = blkDevice ∧
          t.isLegacy = false ∧ t.setDun = true ∧ t.isHwWrapped = gen.useHwWrappedKey ∧
          ∃ ct ∈ env.ciphers.supported, t.cipher = ct.kernelName ∧
            gen.keysize = ct.keysize := by
  rcases ho : getVolumeOptions env with _ | options
  · exact ⟨[], by simp [defaultkeySetupExtVolume, ho], fun _ => rfl,
      fun _ h => by simp [defaultkeyVolumeKeygen, ho] at h⟩
  obtain ⟨-, hm, hl, hd⟩ := parseOptions_fields ho
  have hg : (defaultkeySetupExtVolume env label blkDevice key).Guarantees
      (.appends fun c => ∀ name table, c.table? = some (name, table) → name = label ∧
        ∃ t, table = [t] ∧ t.blockdev = blkDevice ∧ t.isLegacy = false ∧ t.setDun = true ∧
          t.isHwWrapped = options.useHwWrappedKey ∧ t.cipher = options.cipher.kernelName)
      fun _ => True := by
    refine defaultkeySetupExtVolume_guarantees (fun o ho' c hc => StateRel.allows_appends ?_)
      (StateRel.allowsDm_appends _ _ _)
    obtain rfl : o = options := Option.some.inj (ho'.symm.trans ho)
    rcases hc with _ | _ | _ | _ <;> intro name table ht <;> cases ht <;>
      exact ⟨rfl, _, rfl, rfl, by simpa [CryptoOptions.declared] using hl,
        by simpa [CryptoOptions.declared] using hd, rfl, rfl⟩
  obtain ⟨l, hl', hP⟩ := (hg s).1
  refine ⟨l, hl', fun h => by simp [defaultkeyVolumeKeygen, ho] at h,
    fun gen hgen c hc name table ht => ?_⟩
  obtain rfl : makeGen options = gen := by simpa [defaultkeyVolumeKeygen, ho] using hgen
  obtain ⟨hn, t, rfl, hb, hlg, hdun, hw, hci⟩ := hP c hc name table ht
  exact ⟨hn, t, rfl, hb, hlg, hdun, hw, options.cipher, hm, hci, rfl⟩

theorem defaultkeyPrecreateDmDevice_apply (env : MetadataEnv) (s : MetadataState) :
    defaultkeyPrecreateDmDevice env s = (some (),
      if s.dm kDmNameUserdata ≠ .invalid then s
      else if env.createPlaceholderDevice kDmNameUserdata then
        (s.addCall (.createPlaceholderDevice kDmNameUserdata)).setDm kDmNameUserdata .suspended
      else s.addCall (.createPlaceholderDevice kDmNameUserdata)) := by
  simp only [defaultkeyPrecreateDmDevice, dmCreatePlaceholderDevice, bind_apply, getDmState_apply]
  split_ifs <;> rfl

/-- The entry points of the metadata-encryption code that act on the device, with their
arguments. -/
inductive MetadataRequest where
  | mountMetadataEncrypted (blkDevice mountPoint : String) (needsEncrypt shouldFormat : Bool)
      (fsType zonedDevice fstabPath : String)
  | precreateDmDevice
  | setupExtVolume (label blkDevice : String) (key : Bytes)
  | destroyDsuKey (dsuSlot : String)

/-- Serve one request. -/
def MetadataRequest.run (env : MetadataEnv) : MetadataRequest → MetadataRun Unit
  | .mountMetadataEncrypted blkDevice mountPoint needsEncrypt shouldFormat fsType zonedDevice
      fstabPath => fscryptMountMetadataEncrypted env blkDevice mountPoint needsEncrypt
        shouldFormat fsType zonedDevice fstabPath
  | .precreateDmDevice => defaultkeyPrecreateDmDevice env
  | .setupExtVolume label blkDevice key => do
    let _ ← defaultkeySetupExtVolume env label blkDevice key
  | .destroyDsuKey dsuSlot => destroyDsuMetadataKey env dsuSlot

/-- A mount given an fstab of its own. -/
def MetadataRequest.readsFstabFile : MetadataRequest → Bool
  | .mountMetadataEncrypted _ _ _ _ _ _ fstabPath => fstabPath != ""
  | _ => false

/-- Serve requests in turn, each in the environment of its time. -/
def serve : List (MetadataEnv × MetadataRequest) → MetadataState → MetadataState
  | [], s => s
  | (env, req) :: rs, s => serve rs (req.run env s).2

/-- Once `fstab_default` holds a table, it is kept. -/
def StateRel.fstabSettled : StateRel where
  rel s s' := s.fstabDefault ≠ [] → s'.fstabDefault = s.fstabDefault
  refl _ _ := rfl
  trans h₁ h₂ hne := by rw [h₂ (by rwa [h₁ hne]), h₁ hne]

theorem MetadataRequest.run_dmAdvances (env : MetadataEnv) (req : MetadataRequest) :
    (req.run env).Guarantees .dmAdvances fun _ => True := by
  have hd : ∀ name, StateRel.dmAdvances.AllowsDm name .active := fun _ =>
    StateRel.allowsDm_dmAdvances fun s => by cases s.dm _ <;> decide
  cases req with
  | mountMetadataEncrypted =>
    exact fscryptMountMetadataEncrypted_guarantees
      (loadFstab_guarantees StateRel.allowsFstab_dmAdvances)
      (fun _ c _ => StateRel.allows_dmAdvances c) hd
  | precreateDmDevice =>
    intro s
    refine ⟨fun name => ?_, fun _ _ => trivial⟩
    rw [MetadataRequest.run, defaultkeyPrecreateDmDevice_apply]
    split_ifs with h₁ h₂
    · exact le_rfl
    · by_cases hn : name = kDmNameUserdata
      · subst hn
        simp [not_not.mp h₁, DmDeviceState.rank]
      · simp [Function.update_noteq hn]
    · exact le_rfl
  | setupExtVolume =>
    exact (defaultkeySetupExtVolume_guarantees (fun _ _ c _ => StateRel.allows_dmAdvances c)
      (hd _)).bind fun _ _ => guarantees_pure_true _
  | destroyDsuKey =>
    exact destroyDsuMetadataKey_guarantees (fun s _ => StateRel.allowsFstab_dmAdvances _ s)
      (fun _ _ => StateRel.allows_dmAdvances _) (StateRel.allows_dmAdvances _)

theorem MetadataRequest.run_fstabSettled (env : MetadataEnv) {req : MetadataRequest}
    (h : req.readsFstabFile = false) : (req.run env).Guarantees .fstabSettled fun _ => True := by
  have hf : ∀ s : MetadataState, s.fstabDefault = [] →
      StateRel.fstabSettled.rel s (s.setFstab env.readDefaultFstab) :=
    fun _ h₀ h₁ => absurd h₀ h₁
  have hc : ∀ c, StateRel.fstabSettled.Allows c := fun _ _ _ => rfl
  have hd : ∀ name st, StateRel.fstabSettled.AllowsDm name st := fun _ _ _ _ => rfl
  cases req with
  | mountMetadataEncrypted blkDevice mountPoint needsEncrypt shouldFormat fsType zonedDevice
      fstabPath =>
    have hp : fstabPath = "" := by simpa [MetadataRequest.readsFstabFile] using h
    subst hp
    exact fscryptMountMetadataEncrypted_guarantees
      (guarantees_ite (fun h => absurd rfl h) fun _ => ensureDefaultFstab_guarantees hf)
      (fun _ c _ => hc c) (fun name => hd name _)
  | precreateDmDevice =>
    intro s
    refine ⟨fun _ => ?_, fun _ _ => trivial⟩
    rw [MetadataRequest.run, defaultkeyPrecreateDmDevice_apply]
    split_ifs <;> rfl
  | setupExtVolume =>
    exact (defaultkeySetupExtVolume_guarantees (fun _ _ c _ => hc c) (hd _ _)).bind fun _ _ =>
      guarantees_pure_true _
  | destroyDsuKey =>
    exact destroyDsuMetadataKey_guarantees hf (fun _ _ => hc _) (hc _)

/-- No entry point removes a device-mapper device or takes its table away: over any run, each
device only moves from missing to placeholder to active. -/
theorem serve_dmAdvances (rs : List (MetadataEnv × MetadataRequest)) (s : MetadataState)
    (name : String) : (s.dm name).rank ≤ ((serve rs s).dm name).rank := by
  induction rs generalizing s with
  | nil => exact le_rfl
  | cons r rs ih =>
    obtain ⟨env, req⟩ := r
    exact (((req.run_dmAdvances env) s).1 name).trans (ih _)

/-- Outside `defaultkey_precreate_dm_device`, no request asks for a placeholder, and that one
asks only while `userdata` is missing. -/
theorem MetadataRequest.run_createsPlaceholder (env : MetadataEnv) (req : MetadataRequest)
    (s : MetadataState) (hs : s.dm kDmNameUserdata ≠ .invalid) :
    ∃ l, (req.run env s).2.calls = s.calls ++ l ∧ ∀ c ∈ l, c.createsPlaceholder = false := by
  have hd : ∀ name st, (StateRel.appends fun c => c.createsPlaceholder = false).AllowsDm name st :=
    StateRel.allowsDm_appends _
  cases req with
  | mountMetadataEncrypted =>
    exact (fscryptMountMetadataEncrypted_guarantees
      (loadFstab_guarantees (StateRel.allowsFstab_appends _)) (fun _ c hc => StateRel.allows_appends
        (by rcases hc with ⟨-, -, h | ⟨-, h⟩ | ⟨-, h⟩ | ⟨-, -, h⟩⟩ | ⟨-, -, h⟩ | h | _ | _ <;>
          (try cases h) <;> rfl)) (fun _ => hd _ _) s).1
  | precreateDmDevice =>
    rw [MetadataRequest.run, defaultkeyPrecreateDmDevice_apply, if_pos hs]
    exact ⟨[], by simp, by simp⟩
  | setupExtVolume =>
    exact ((defaultkeySetupExtVolume_guarantees
      (fun _ _ c hc => StateRel.allows_appends (by cases hc <;> rfl)) (hd _ _)).bind fun _ _ =>
        guarantees_pure_true _) s |>.1
  | destroyDsuKey =>
    exact (destroyDsuMetadataKey_guarantees (fun s _ => StateRel.allowsFstab_appends _ _ s)
      (fun _ _ => StateRel.allows_appends (by rfl)) (StateRel.allows_appends (by rfl)) s).1

/-- `defaultkey_precreate_dm_device` looks before it creates: once `userdata` exists, as a
placeholder or an active device, no request asks for a placeholder again, over any run. -/
theorem serve_createsPlaceholder (rs : List (MetadataEnv × MetadataRequest)) (s : MetadataState)
    (hs : s.dm kDmNameUserdata ≠ .invalid) :
    ∃ l, (serve rs s).calls = s.calls ++ l ∧ ∀ c ∈ l, c.createsPlaceholder = false := by
  induction rs generalizing s with
  | nil => exact ⟨[], by simp [serve], by simp⟩
  | cons r rs ih =>
    obtain ⟨env, req⟩ := r
    obtain ⟨l₁, h₁, p₁⟩ := req.run_createsPlaceholder env s hs
    have hr := ((req.run_dmAdvances env) s).1 kDmNameUserdata
    have hs' : (req.run env s).2.dm kDmNameUserdata ≠ .invalid := fun h => hs <| by
      rw [h] at hr
      cases hu : s.dm kDmNameUserdata <;> simp_all [DmDeviceState.rank]
    obtain ⟨l₂, h₂, p₂⟩ := ih _ hs'
    exact ⟨l₁ ++ l₂, by simp [serve, h₂, h₁], fun c hc =>
      (List.mem_append.mp hc).elim (p₁ c) (p₂ c)⟩

theorem serve_createsPlaceholder_sample :
    ∃ l, (serve [(.sample, .precreateDmDevice),
      (.sample, .mountMetadataEncrypted "/dev/block/sda1" "/data" true true "ext4" "" "")]
        (MetadataRequest.precreateDmDevice.run .sample .boot).2).calls =
      (MetadataRequest.precreateDmDevice.run .sample .boot).2.calls ++ l ∧
      ∀ c ∈ l, c.createsPlaceholder = false :=
  serve_createsPlaceholder _ _ (by decide)

/-- `fstab_default` is read once: after a table is in it, only a mount given an fstab of its own
changes it, over any run. -/
theorem serve_fstabDefault (rs : List (MetadataEnv × MetadataRequest)) (s : MetadataState)
    (hs : s.fstabDefault ≠ []) (hr : ∀ r ∈ rs, r.2.readsFstabFile = false) :
    (serve rs s).fstabDefault = s.fstabDefault := by
  induction rs generalizing s with
  | nil => rfl
  | cons r rs ih =>
    obtain ⟨env, req⟩ := r
    have hstep := ((MetadataRequest.run_fstabSettled env (hr _ (.head _))) s).1 hs
    exact (ih _ (hstep ▸ hs) fun r hm => hr r (.tail _ hm)).trans hstep

theorem serve_fstabDefault_sample :
    let s := (MetadataRequest.precreateDmDevice.run .sample .boot).2.setFstab
      MetadataEnv.sample.readDefaultFstab
    (serve [(.sample, .destroyDsuKey "dsu"), (.sample, .setupExtVolume "vol" "/dev/block/sdb1" [0]),
      (.sample, .mountMetadataEncrypted "/dev/block/sda1" "/data" true true "ext4" "" "")]
        s).fstabDefault = s.fstabDefault :=
  serve_fstabDefault _ _ (by decide) (by decide)

section Placeholder

variable {env : MetadataEnv}

/-- The calls that are not libdm's creation of `userdata`. -/
abbrev NoUserdataCreate (c : MetadataCall) : Prop := c.createsDevice kDmNameUserdata = false

/-- A step that makes no such call and leaves the devices alone. -/
abbrev Untouched : StateRel := (StateRel.appends NoUserdataCreate).and .keepsDm

theorem untouched_allows {c : MetadataCall} (h : c.createsDevice kDmNameUserdata = false) :
    Untouched.Allows c :=
  StateRel.allows_and (StateRel.allows_appends h) (StateRel.allows_keepsDm c)

theorem untouched_allowsFstab (fstab : List FstabEntry) : Untouched.AllowsFstab fstab :=
  fun s => ⟨StateRel.allowsFstab_appends _ fstab s, StateRel.allowsFstab_keepsDm fstab s⟩

theorem keepsDm_suspended (s s' : MetadataState) (h : s'.dm = s.dm)
    (hs : s.dm kDmNameUserdata = .suspended) : s'.dm kDmNameUserdata = .suspended := by
  rw [h, hs]

theorem readKey_untouched {metadataKeyDir : String} {gen : KeyGeneration} {firstKey : Bool}
    {R : StateRel} (hR : ∀ {c : MetadataCall}, c.createsDevice kDmNameUserdata = false →
      R.Allows c) :
    (readKey env metadataKeyDir gen firstKey).Guarantees R fun _ => True :=
  (readKey_guarantees fun _ hc => hR (by cases hc <;> rfl)).imp fun _ _ => trivial

/-- `create_crypto_blk_dev` of `userdata` over a placeholder fills it. -/
theorem createCryptoBlkDev_fills_placeholder {blkDevice : String} {key : Bytes}
    {options : CryptoOptions} :
    (createCryptoBlkDev env kDmNameUserdata blkDevice key options).AppendsFrom
      (fun s => s.dm kDmNameUserdata = .suspended) NoUserdataCreate := by
  refine (guarantees_lift _).bind_appendsFrom keepsDm_suspended fun n =>
    (guarantees_ite (fun _ => (guarantees_call_lift (untouched_allows (by rfl))).imp
      fun _ _ => trivial) fun _ => guarantees_pure_true _).bind_appendsFrom keepsDm_suspended
    fun moduleKey => (guarantees_lift _).bind_appendsFrom keepsDm_suspended fun hexKey =>
      appendsFrom_getDmState_bind ?_
  rw [if_pos ⟨rfl, rfl⟩]
  exact Guarantees.appendsFrom _
    (((dmLoadTableAndActivate_guarantees (StateRel.allows_appends (by rfl))
      (StateRel.allowsDm_appends _ _ _)).bind fun _ _ =>
        dmWaitForDevice_guarantees (StateRel.allows_appends (by rfl))).bind fun _ _ =>
          guarantees_pure_true _)

theorem setupDevices_fills_placeholder {blkDevice zonedDevice : String} {dataRec : FstabEntry}
    {options : CryptoOptions} {needsEncrypt : Bool} :
    (setupDevices env blkDevice zonedDevice dataRec options needsEncrypt).AppendsFrom
      (fun s => s.dm kDmNameUserdata = .suspended) NoUserdataCreate :=
  (readKey_untouched untouched_allows).bind_appendsFrom keepsDm_suspended fun _ =>
    createCryptoBlkDev_fills_placeholder.bind fun ⟨_, _⟩ => guarantees_ite
      (fun _ => guarantees_pure_true _)
      (fun _ => (readKey_untouched fun h => StateRel.allows_appends h).bind fun _ _ =>
        (createCryptoBlkDev_guarantees (fun c hc => StateRel.allows_appends (by cases hc <;> rfl))
          (StateRel.allowsDm_appends _ _ _)).bind fun ⟨_, _⟩ _ => guarantees_pure_true _)

theorem prepareMetadataEncrypted_fills_placeholder {blkDevice mountPoint : String}
    {needsEncrypt shouldFormat : Bool} {fsType zonedDevice fstabPath : String} :
    (prepareMetadataEncrypted env blkDevice mountPoint needsEncrypt shouldFormat fsType
      zonedDevice fstabPath).AppendsFrom
      (fun s => s.dm kDmNameUserdata = .suspended) NoUserdataCreate :=
  (guarantees_check _).bind_appendsFrom keepsDm_suspended fun _ =>
    (loadFstab_guarantees untouched_allowsFstab).bind_appendsFrom keepsDm_suspended fun _ =>
    guarantees_getFstab.bind_appendsFrom keepsDm_suspended fun _ =>
    (guarantees_lift _).bind_appendsFrom keepsDm_suspended fun _ =>
    (guarantees_lift _).bind_appendsFrom keepsDm_suspended fun _ =>
    setupDevices_fills_placeholder.bind fun ⟨_, _, _⟩ => Guarantees.seq (guarantees_ite
      (fun _ => formatOrEncrypt_guarantees fun c hc =>
        StateRel.allows_appends (by cases hc <;> rfl))
      (fun _ => guarantees_pure_true _)) fun _ => guarantees_pure_true _

theorem fscryptMountMetadataEncrypted_fills_placeholder {blkDevice mountPoint : String}
    {needsEncrypt shouldFormat : Bool} {fsType zonedDevice fstabPath : String} :
    (fscryptMountMetadataEncrypted env blkDevice mountPoint needsEncrypt shouldFormat fsType
      zonedDevice fstabPath).AppendsFrom
      (fun s => s.dm kDmNameUserdata = .suspended) NoUserdataCreate :=
  prepareMetadataEncrypted_fills_placeholder.bind fun _ =>
    (mountViaFsMgr_guarantees fun c hc => StateRel.allows_appends (by cases hc <;> rfl)).seq
      fun _ => (guarantees_call (StateRel.allows_appends (by rfl))).bind fun _ _ =>
        guarantees_call (StateRel.allows_appends (by rfl))

end Placeholder

/-- `defaultkey_precreate_dm_device` and `fscrypt_mount_metadata_encrypted` share `userdata`.
Once the placeholder is made, the mount after it can only load its table into the placeholder.
It never asks libdm to create `userdata`, whatever its arguments and the answers it gets. -/
theorem serve_precreate_mount_fills_placeholder (env env' : MetadataEnv) (s : MetadataState)
    (hs : s.dm kDmNameUserdata = .invalid) (hp : env.createPlaceholderDevice kDmNameUserdata)
    (blkDevice mountPoint : String) (needsEncrypt shouldFormat : Bool)
    (fsType zonedDevice fstabPath : String) :
    ∃ l, (serve [(env, .precreateDmDevice), (env', .mountMetadataEncrypted blkDevice mountPoint
      needsEncrypt shouldFormat fsType zonedDevice fstabPath)] s).calls =
        s.calls ++ .createPlaceholderDevice kDmNameUserdata :: l ∧
      ∀ c ∈ l, c.createsDevice kDmNameUserdata = false := by
  simp only [serve, MetadataRequest.run]
  rw [defaultkeyPrecreateDmDevice_apply, if_neg (not_not.mpr hs), if_pos hp]
  obtain ⟨l, hl, hP⟩ := fscryptMountMetadataEncrypted_fills_placeholder
    ((s.addCall (.createPlaceholderDevice kDmNameUserdata)).setDm kDmNameUserdata .suspended)
    (by simp)
  exact ⟨l, by simpa using hl, hP⟩

theorem serve_precreate_mount_fills_placeholder_sample :
    ∃ l, (serve [(.sample, .precreateDmDevice),
      (.sample, .mountMetadataEncrypted "/dev/block/sda1" "/data" true true "ext4" "" "")]
        .boot).calls =
        [.createPlaceholderDevice kDmNameUserdata] ++ l ∧
      ∀ c ∈ l, c.createsDevice kDmNameUserdata = false :=
  serve_precreate_mount_fills_placeholder .sample .sample .boot rfl rfl "/dev/block/sda1" "/data"
    true true "ext4" "" ""

end VoldDecrypt
