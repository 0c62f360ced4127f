import VoldDecrypt.Unlock

/-!
# The weaver path

`Is_Weaver` and `Get_Weaver_Data` look for `<handle>.weaver` under its exact name, while
`Get_Spblob_Data` also tries `0<handle>` and `00<handle>` for the other files. With the exact
name present, the application id is formed from that file and the weaver alone; without it,
the weaver is not consulted, even when a padded name holds a record.

`Get_Weaver_Data` takes the slot through `(const int*)data + sizeof(unsigned char)`, four bytes
past the start, and nothing compares the record's length with 5 or the weaver's key size with
the 64 bytes of the key.
-/
namespace VoldDecrypt

/-- The slot read for a record depends on its length and its bytes from offset 4 on, not on
bytes 1 to 3 of the slot field. -/
theorem weaverSlot_of_drop {w w' : Bytes} (rest : Nat → UInt8) (hl : w.length = w'.length)
    (hd : w.drop 4 = w'.drop 4) : weaverSlot w rest = weaverSlot w' rest := by
  have hget : ∀ j,
      (Buffer.ofString w rest).get (4 + j) = (Buffer.ofString w' rest).get (4 + j) := by
    intro j
    simp only [Buffer.get, Buffer.ofString, List.getD_eq_getElem?_getD, hl]
    rw [← List.getElem?_drop, hd, List.getElem?_drop]
  simp [weaverSlot_eq, Buffer.slice, hget]

section Weaver

variable (P : Platform) (env : Env) (mem : Memory) (userId : UInt32) (spblobPath handleStr : String)
  (password : Bytes) (pwd : PasswordData) (token : Bytes)

/-- The weaver path for every record `w` and every key size `k`: the record is read at offsets
0 and 4..7, and `WeaverVerify` is called with the `int` at offsets 4..7 and the 64-byte weaver
key, with no comparison of `|w|` with 5 or of `k` with 64. -/
theorem applicationIdStep_weaver_request {w : Bytes} {k : UInt32}
    (hfile : env.fs (spblobPath ++ handleStr ++ ".weaver") = some (.file w))
    (havail : env.weaver.available = true) (hks : env.weaver.keySize = some k) (tr : List Event) :
    applicationIdStep P env mem userId spblobPath handleStr password pwd token tr =
      (.ret ((env.weaver.verify (toInt32 (leNat ((Buffer.ofString w (mem.rest .weaver)).slice 4 4)))
          (P.personalizedHashBinary personalisationWeaverKey token)).map
            fun payload => token ++ P.personalizedHashBinary personalisationWeaverPassword payload),
        tr ++ [.readFile (spblobPath ++ handleStr ++ ".weaver"), .read .weaver ⟨0, 1⟩,
          .read .weaver ⟨4, 4⟩, .weaverConnect, .weaverGetKeySize,
          .weaverVerify (toInt32 (leNat ((Buffer.ofString w (mem.rest .weaver)).slice 4 4)))
            (P.personalizedHashBinary personalisationWeaverKey token)]) := by
  have hw : isWeaver env.fs spblobPath handleStr = true := by simp [isWeaver, pathExists, hfile]
  cases hv : env.weaver.verify (toInt32 (leNat ((Buffer.ofString w (mem.rest .weaver)).slice 4 4)))
      (P.personalizedHashBinary personalisationWeaverKey token) <;>
    simp [applicationIdStep, hw, getWeaverData, readFileToString, hfile, havail, hks,
      decodeWeaverData, weaverSlotOffset, sizeofInt, sizeofUnsignedChar, Buffer.loadInt, hv]

/-- With `<handle>.weaver` present under its exact name, the application id depends on that
file and the weaver only: not on any other file, the gatekeeper or the authorization service. -/
theorem applicationIdStep_weaver_frame {env' : Env} {n : Node}
    (hfile : env.fs (spblobPath ++ handleStr ++ ".weaver") = some n)
    (hfs : env'.fs (spblobPath ++ handleStr ++ ".weaver") = some n)
    (hw : env'.weaver = env.weaver) :
    applicationIdStep P env' mem userId spblobPath handleStr password pwd token =
      applicationIdStep P env mem userId spblobPath handleStr password pwd token := by
  simp [applicationIdStep, isWeaver, pathExists, getWeaverData, readFileToString, hfile, hfs, hw]

/-- The sample user with an authorization service and a HIDL gatekeeper added. -/
def sampleEnvWithGatekeeper : Env :=
  { sampleEnv [] with
    hidlGatekeeper := some fun _ _ _ _ => none
    authorization := some fun _ => true }

theorem applicationIdStep_weaver_frame_sample :
    applicationIdStep Platform.sample sampleEnvWithGatekeeper Memory.zero 0 (spblobDir 0) "h"
        sampleCredential PasswordData.initial [] =
      applicationIdStep Platform.sample (sampleEnv []) Memory.zero 0 (spblobDir 0) "h"
        sampleCredential PasswordData.initial [] :=
  applicationIdStep_weaver_frame Platform.sample (sampleEnv []) Memory.zero 0 (spblobDir 0) "h"
    sampleCredential PasswordData.initial [] sampleFs_weaver sampleFs_weaver rfl

/-- Without `<handle>.weaver` under its exact name, the weaver is never consulted. -/
theorem applicationIdStep_secdis_frame
    (hnone : env.fs (spblobPath ++ handleStr ++ ".weaver") = none) (weaver : Weaver) :
    applicationIdStep P { env with weaver := weaver } mem userId spblobPath handleStr password pwd
        token =
      applicationIdStep P env mem userId spblobPath handleStr password pwd token := by
  simp [applicationIdStep, isWeaver, pathExists, hnone]
  rfl

/-- A weaver record under a padded name `0<handle>.weaver` or `00<handle>.weaver` is what
`Get_Spblob_Data`'s rule resolves, but `Is_Weaver` stats the exact name only: the secdis path is
taken and the weaver is never consulted. -/
theorem applicationIdStep_padded_weaver (name : String) (w : Bytes)
    (hname : name ∈ nameVariants spblobPath handleStr ".weaver")
    (hne : name ≠ spblobPath ++ handleStr ++ ".weaver") (hfile : env.fs name = some (.file w))
    (hothers : ∀ n ∈ nameVariants spblobPath handleStr ".weaver", n ≠ name → env.fs n = none)
    (weaver : Weaver) :
    getSpblobData env.fs spblobPath handleStr ".weaver" = some w ∧
      isWeaver env.fs spblobPath handleStr = false ∧
      applicationIdStep P { env with weaver := weaver } mem userId spblobPath handleStr password
          pwd token =
        applicationIdStep P env mem userId spblobPath handleStr password pwd token := by
  have hexact := hothers _ (by simp [nameVariants]) hne.symm
  exact ⟨getSpblobData_of_unique hname hfile hothers, by simp [isWeaver, pathExists, hexact],
    applicationIdStep_secdis_frame P env mem userId spblobPath handleStr password pwd token hexact
      weaver⟩

end Weaver

/-- A weaver record stored only under the padded name `00h.weaver`. -/
def paddedWeaverFs : FileSystem := FileSystem.ofList [("/s/00h.weaver", .file [1, 0, 0, 0, 7])]

theorem applicationIdStep_padded_weaver_sample :
    getSpblobData paddedWeaverFs "/s/" "h" ".weaver" = some [1, 0, 0, 0, 7] ∧
      isWeaver paddedWeaverFs "/s/" "h" = false ∧
      applicationIdStep Platform.sample
          { Env.unreachable with
            fs := paddedWeaverFs
            weaver := ⟨true, some 32, fun _ _ => some [7]⟩ }
          Memory.zero 0 "/s/" "h" sampleCredential PasswordData.initial [] =
        applicationIdStep Platform.sample { Env.unreachable with fs := paddedWeaverFs }
          Memory.zero 0 "/s/" "h" sampleCredential PasswordData.initial [] :=
  applicationIdStep_padded_weaver Platform.sample { Env.unreachable with fs := paddedWeaverFs }
    Memory.zero 0 "/s/" "h" sampleCredential PasswordData.initial [] "/s/00h.weaver" _
    (by decide) (by decide) rfl (by decide) _

/-- The weaver request is formed for any record and key size, with a slot that ignores the
record's slot field. -/
theorem weaver_request_unchecked (P : Platform) (env : Env) (mem : Memory) (userId : UInt32)
    (spblobPath handleStr : String) (password : Bytes) (pwd : PasswordData) (token : Bytes) :
    (∀ (w : Bytes) (k : UInt32), env.fs (spblobPath ++ handleStr ++ ".weaver") = some (.file w) →
      env.weaver.available = true → env.weaver.keySize = some k → ∀ tr,
      applicationIdStep P env mem userId spblobPath handleStr password pwd token tr =
        (.ret ((env.weaver.verify
              (toInt32 (leNat ((Buffer.ofString w (mem.rest .weaver)).slice 4 4)))
              (P.personalizedHashBinary personalisationWeaverKey token)).map
            fun payload =>
              token ++ P.personalizedHashBinary personalisationWeaverPassword payload),
          tr ++ [.readFile (spblobPath ++ handleStr ++ ".weaver"), .read .weaver ⟨0, 1⟩,
            .read .weaver ⟨4, 4⟩, .weaverConnect, .weaverGetKeySize,
            .weaverVerify (toInt32 (leNat ((Buffer.ofString w (mem.rest .weaver)).slice 4 4)))
              (P.personalizedHashBinary personalisationWeaverKey token)])) ∧
    (∀ (w w' : Bytes) (rest : Nat → UInt8), w.length = w'.length → w.drop 4 = w'.drop 4 →
      weaverSlot w rest = weaverSlot w' rest) :=
  ⟨fun _ _ hfile havail hks tr => applicationIdStep_weaver_request P env mem userId spblobPath
      handleStr password pwd token hfile havail hks tr,
    fun _ _ rest hl hd => weaverSlot_of_drop rest hl hd⟩

/-- A one-byte weaver record, and a weaver reporting a key size of 100. -/
def shortWeaverEnv : Env :=
  { Env.unreachable with
    fs := FileSystem.ofList [("/s/h.weaver", .file [1])]
    weaver := ⟨true, some 100, fun _ _ => none⟩ }

/-- A one-byte record and a key size of 100 still reach `WeaverVerify`, and two records whose
slot fields differ get the same slot. -/
theorem weaver_request_unchecked_sample :
    (applicationIdStep Platform.sample shortWeaverEnv Memory.zero 0 "/s/" "h" sampleCredential
        PasswordData.initial [] []).2.getLast? =
      some (.weaverVerify 0 (Platform.sample.personalizedHashBinary personalisationWeaverKey [])) ∧
    weaverSlot [1, 0, 0, 0, 7] (fun _ => 0) = weaverSlot [1, 0, 0, 1, 7] (fun _ => 0) := by
  refine ⟨?_, (weaver_request_unchecked Platform.sample Env.unreachable Memory.zero 0 "/s/" "h"
    sampleCredential PasswordData.initial []).2 _ _ _ rfl rfl⟩
  rw [(weaver_request_unchecked Platform.sample shortWeaverEnv Memory.zero 0 "/s/" "h"
    sampleCredential PasswordData.initial []).1 [1] 100 (by decide) rfl rfl []]
  decide

end VoldDecrypt
