import Mathlib.Data.List.Basic

/-!
# Metadata-encryption options

The pure part of the metadata-encryption code that follows `Decrypt.cpp` in
`src/KeyStorage.h`: `lookup_cipher`, `parse_options` and `makeGen`, with the split of an
options string at `:` that `parse_options` starts from. The cipher constants and
`KeyGeneration` are declared in `CryptoType.h` and `KeyUtil.h`, which are not among the
sources; the model takes the ciphers as a table with the property its `static_assert` checks.

`parse_options` writes the cipher into its argument before it can fail; the model returns
`none` for every failure, since no caller reads the options after one.
-/
namespace VoldDecrypt

/-- `android::base::Split` with a one-character delimiter set: the pieces between the
delimiters, empty ones included. -/
def baseSplit (s : String) (delimiter : Char) : List String :=
  (s.data.splitOn delimiter).map String.mk

/-- No piece of a split holds the delimiter. -/
theorem not_mem_of_mem_splitOn {c : Char} :
    ∀ {xs : List Char} {l : List Char}, l ∈ xs.splitOn c → c ∉ l
  | [], l, h => by simp_all [List.splitOn_nil]
  | x :: xs, l, h => by
    unfold List.splitOn at h
    rw [List.splitOnP_cons] at h
    split_ifs at h with hx
    · rcases List.mem_cons.mp h with rfl | h
      · simp
      · exact not_mem_of_mem_splitOn h
    · have ih : ∀ l ∈ xs.splitOnP (· == c), c ∉ l := fun _ hl => not_mem_of_mem_splitOn hl
      rcases hsp : xs.splitOnP (· == c) with _ | ⟨hd, tl⟩
      · exact absurd hsp (List.splitOnP_ne_nil _ _)
      rw [hsp] at h ih
      simp only [List.modifyHead_cons, List.mem_cons] at h
      rcases h with rfl | h
      · simp only [List.mem_cons, not_or]
        exact ⟨fun e => hx (by simp [e]), ih hd (by simp)⟩
      · exact ih l (by simp [h])

theorem not_mem_of_mem_baseSplit {s a : String} {c : Char} (h : a ∈ baseSplit s c) :
    c ∉ a.data := by
  obtain ⟨l, hl, rfl⟩ := List.mem_map.mp h
  exact not_mem_of_mem_splitOn hl

theorem baseSplit_data (s : String) (c : Char) :
    (baseSplit s c).map String.data = s.data.splitOn c := by
  simp [baseSplit, Function.comp_def]

/-- The pieces, joined by the delimiter, give back the string. -/
theorem baseSplit_join (s : String) (c : Char) :
    [c].intercalate ((baseSplit s c).map String.data) = s.data := by
  rw [baseSplit_data, List.intercalate_splitOn]

/-- A string without the delimiter is one piece. -/
theorem baseSplit_of_not_mem {s : String} {c : Char} (h : c ∉ s.data) : baseSplit s c = [s] := by
  have : ([c].intercalate [s.data]).splitOn c = [s.data] :=
    List.splitOn_intercalate [s.data] c (by simpa using h) (by simp)
  simp_all [baseSplit, List.intercalate]

/-- Two pieces around one delimiter. -/
theorem baseSplit_append {a b : String} {c : Char} (ha : c ∉ a.data) (hb : c ∉ b.data) :
    baseSplit (a ++ String.singleton c ++ b) c = [a, b] := by
  have : ([c].intercalate [a.data, b.data]).splitOn c = [a.data, b.data] :=
    List.splitOn_intercalate [a.data, b.data] c (by simp [ha, hb]) (by simp)
  simp_all [baseSplit, List.intercalate, String.data_append]

/-- `CryptoType` of `CryptoType.h`: the name an options string gives a cipher, the name the
kernel gives it (`nullptr` for `invalid_crypto_type`), and its key size in bytes. -/
structure CryptoType where
  configName : String
  kernelName : Option String
  keysize : Nat
  deriving DecidableEq, Repr

/-- The ciphers of `CryptoType.h`, whose values are not in this repository: the entries of
`supported_crypto_types = {aes_256_xts, adiantum}` and `invalid_crypto_type`. The
`static_assert` on the table makes every entry complete, with a key of at most 64 bytes. -/
structure CipherTable where
  aes256Xts : CryptoType
  adiantum : CryptoType
  invalid : CryptoType
  invalid_kernelName : invalid.kernelName = none
  supported_valid : ∀ c ∈ [aes256Xts, adiantum], c.kernelName.isSome ∧ c.keysize ≤ 64

/-- `supported_crypto_types`; its first entry is the default. -/
def CipherTable.supported (T : CipherTable) : List CryptoType := [T.aes256Xts, T.adiantum]

/-- The table with the values `CryptoType.h` gives its constants; the configuration name of
`invalid_crypto_type`, a null pointer, is never read. -/
def CipherTable.sample : CipherTable :=
  ⟨⟨"aes-256-xts", some "AES-256-XTS", 64⟩,
    ⟨"adiantum", some "xchacha12,aes-adiantum-plain64", 32⟩,
    ⟨"", none, 0⟩, rfl, by decide⟩

/-- `legacy_aes_256_xts`. -/
def legacyAes256Xts : CryptoType := ⟨"aes-256-xts", some "AES-256-XTS", 64⟩

/-- `lookup_cipher`: the default for an empty name, else the first entry of that name, else
`invalid_crypto_type`. -/
def lookupCipher (T : CipherTable) (cipherName : String) : CryptoType :=
  if cipherName = "" then T.aes256Xts
  else (T.supported.find? fun c => c.configName = cipherName).getD T.invalid

/-- A name finds a cipher the kernel knows exactly when it is empty or a supported name. -/
theorem lookupCipher_kernelName_isSome (T : CipherTable) (cipherName : String) :
    (lookupCipher T cipherName).kernelName.isSome ↔
      cipherName = "" ∨ cipherName ∈ T.supported.map (·.configName) := by
  unfold lookupCipher
  split_ifs with h
  · simp [h, (T.supported_valid T.aes256Xts (by simp)).1]
  cases hf : T.supported.find? fun c => c.configName = cipherName with
  | none =>
    simp only [Option.getD_none, T.invalid_kernelName, Option.isSome_none, Bool.false_eq_true,
      h, false_or, false_iff, List.mem_map, not_exists, not_and]
    intro c hc he
    simpa [he] using List.find?_eq_none.mp hf c hc
  | some c =>
    have hc := List.mem_of_find?_eq_some hf
    simp only [Option.getD_some, (T.supported_valid c hc).1, h, false_or, true_iff]
    exact List.mem_map.mpr ⟨c, hc, by simpa using List.find?_some hf⟩

/-- A name that finds a cipher the kernel knows finds a supported one. -/
theorem lookupCipher_mem_supported {T : CipherTable} {cipherName : String}
    (h : (lookupCipher T cipherName).kernelName.isSome) :
    lookupCipher T cipherName ∈ T.supported := by
  unfold lookupCipher at h ⊢
  split_ifs at h ⊢
  · simp [CipherTable.supported]
  cases hf : T.supported.find? fun c => c.configName = cipherName with
  | none => simp [hf, T.invalid_kernelName] at h
  | some c => exact List.mem_of_find?_eq_some hf

/-- `CryptoOptions`: what an options string selects. -/
structure CryptoOptions where
  cipher : CryptoType
  useLegacyOptionsFormat : Bool
  setDun : Bool
  useHwWrappedKey : Bool
  deriving DecidableEq, Repr

/-- A freshly declared `CryptoOptions`: no cipher yet, the new format, DUNs set. -/
def CryptoOptions.declared (T : CipherTable) : CryptoOptions := ⟨T.invalid, false, true, false⟩

/-- `parse_options`: the options it leaves, or `none` where it returns `false`. -/
def parseOptions (T : CipherTable) (optionsString : String) (options : CryptoOptions) :
    Option CryptoOptions :=
  let parts := baseSplit optionsString ':'
  if parts.length < 1 ∨ parts.length > 2 then none else
  let cipherName := parts.getD 0 ""
  let options := { options with cipher := lookupCipher T cipherName }
  if options.cipher.kernelName = none then none
  else if parts.length = 2 then
    if parts.getD 1 "" = "wrappedkey_v0" then some { options with useHwWrappedKey := true }
    else none
  else some options

/-- What `parse_options` leaves: a supported cipher, and the format and DUN flags as they
were. -/
theorem parseOptions_fields {T : CipherTable} {optionsString : String} {options o : CryptoOptions}
    (h : parseOptions T optionsString options = some o) :
    o.cipher.kernelName.isSome ∧ o.cipher ∈ T.supported ∧
      o.useLegacyOptionsFormat = options.useLegacyOptionsFormat ∧ o.setDun = options.setDun := by
  simp only [parseOptions] at h
  split_ifs at h with h₁ h₂ <;> cases h <;>
    exact ⟨Option.isSome_iff_ne_none.mpr h₂, lookupCipher_mem_supported
      (Option.isSome_iff_ne_none.mpr h₂), rfl, rfl⟩

/-- The strings `parse_options` accepts are a cipher name, empty for the default, alone or
followed by `:wrappedkey_v0`; it sets the cipher, and the hardware-wrapped flag for the suffix,
and leaves the other options as they were. -/
theorem parseOptions_eq_some_iff (T : CipherTable) (optionsString : String)
    (options o : CryptoOptions) :
    parseOptions T optionsString options = some o ↔
      ∃ name, ':' ∉ name.data ∧ (name = "" ∨ name ∈ T.supported.map (·.configName)) ∧
        (optionsString = name ∧ o = { options with cipher := lookupCipher T name } ∨
          optionsString = name ++ ":wrappedkey_v0" ∧
            o = { options with cipher := lookupCipher T name, useHwWrappedKey := true }) := by
  have hwrap : ∀ name : String,
      name ++ ":wrappedkey_v0" = name ++ String.singleton ':' ++ "wrappedkey_v0" := fun name =>
    String.ext (by simp [String.data_append])
  constructor
  · intro h
    unfold parseOptions at h
    have hj := baseSplit_join optionsString ':'
    have hn := fun a (ha : a ∈ baseSplit optionsString ':') => not_mem_of_mem_baseSplit ha
    generalize baseSplit optionsString ':' = parts at h hj hn
    rcases parts with _ | ⟨p, _ | ⟨q, _ | ⟨r, rest⟩⟩⟩
    · simp at h
    · have hs : optionsString = p := String.ext (by simpa [List.intercalate] using hj.symm)
      obtain ⟨hk, rfl⟩ : (lookupCipher T p).kernelName ≠ none ∧
          { options with cipher := lookupCipher T p } = o := by
        simpa using h
      exact ⟨p, hn p (by simp), (lookupCipher_kernelName_isSome T p).mp
        (Option.isSome_iff_ne_none.mpr hk), .inl ⟨hs, rfl⟩⟩
    · have hs : optionsString = p ++ String.singleton ':' ++ q :=
        String.ext (by simpa [List.intercalate, String.data_append] using hj.symm)
      obtain ⟨hk, rfl, rfl⟩ : (lookupCipher T p).kernelName ≠ none ∧ q = "wrappedkey_v0" ∧
          { options with cipher := lookupCipher T p, useHwWrappedKey := true } = o := by
        simpa using h
      exact ⟨p, hn p (by simp), (lookupCipher_kernelName_isSome T p).mp
        (Option.isSome_iff_ne_none.mpr hk), .inr ⟨by rw [hs, hwrap], rfl⟩⟩
    · simp at h
  · rintro ⟨name, hc, hname, h⟩
    have hk := Option.isSome_iff_ne_none.mp ((lookupCipher_kernelName_isSome T name).mpr hname)
    rcases h with ⟨rfl, rfl⟩ | ⟨rfl, rfl⟩
    · simp [parseOptions, baseSplit_of_not_mem hc, hk]
    · rw [hwrap, parseOptions, baseSplit_append hc (by decide)]
      simp [hk]

example : parseOptions CipherTable.sample "adiantum:wrappedkey_v0" (.declared .sample) =
    some ⟨CipherTable.sample.adiantum, false, true, true⟩ := by decide

/-- `KeyGeneration` of `KeyUtil.h`: the size of a key to generate, whether a missing key may
be generated at all, and whether it is wrapped by the hardware. -/
structure KeyGeneration where
  keysize : Nat
  allowGen : Bool
  useHwWrappedKey : Bool
  deriving DecidableEq, Repr

/-- `makeGen`: a key of the cipher's size, generated if missing, wrapped as the options say. -/
def makeGen (options : CryptoOptions) : KeyGeneration :=
  ⟨options.cipher.keysize, true, options.useHwWrappedKey⟩

/-- `neverGen()` of `KeyUtil.h`: a key that must already exist. -/
def neverGen : KeyGeneration := ⟨0, false, false⟩

end VoldDecrypt
