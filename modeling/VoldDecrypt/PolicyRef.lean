import VoldDecrypt.Bytes

/-!
# Policy references in backups

`lookup_ref_key` encodes the fscrypt policy of a directory as a short policy-type string for a
backup archive, and `lookup_ref_tar` decodes it back to the key reference. For v2 policies the
master key identifier is compared with the system DE reference `de_key_raw_ref` by `strncmp`, as
a C string, while `lookup_ref_key_internal` compares the per-user references as hex strings. The
decoder reads the version from offset 0, the key kind from offsets 1 and 1..2, and the user id
from at most four characters at offset 3, through `std::string::substr` and `std::stoi`, either
of which may throw.

The string literals of `fscrypt_policy.h` and the helper `bytes_to_hex` are not part of this
repository's sources; `PolicyHeader` takes them as parameters, and the results below hold for
every choice of them.
-/
namespace VoldDecrypt

/-- What `fscrypt_policy.h` and the hex helper provide. -/
structure PolicyHeader where
  fscryptV2 : Bytes
  systemDeKey : Bytes
  userDeKey : Bytes
  userCeKey : Bytes
  systemDeFscryptPolicy : Bytes
  userDeFscryptPolicy : Bytes
  userCeFscryptPolicy : Bytes
  /-- `bytes_to_hex`, with its terminating NUL. -/
  bytesToHex : Bytes → Bytes

/-- A `std::map<userid_t, UserPolicies>`, in iteration order: ascending user ids. Only
`internal.key_raw_ref` is read, a 16-byte fscrypt identifier in every map vold builds. -/
structure PolicyMap where
  entries : List (UInt32 × Bytes)
  ascending : entries.Pairwise fun a b => a.1 < b.1
  ref_length : ∀ e ∈ entries, e.2.length = 16

/-- The empty map. -/
def PolicyMap.empty : PolicyMap := ⟨[], .nil, fun _ h => nomatch h⟩

/-- `fscrypt_policy_v2`; only `master_key_identifier` is read. -/
structure FscryptPolicyV2 where
  masterKeyIdentifier : Bytes
  identifier_length : masterKeyIdentifier.length = 16

/-- The C string at the start of a buffer. -/
def cString (b : Bytes) : Bytes := b.takeWhile (· ≠ 0)

/-- `std::strncmp(a, b, n)`: zero when the strings agree on their first `n` characters or up
to a common terminating NUL. -/
def strncmp : Nat → Bytes → Bytes → Int
  | 0, _, _ => 0
  | n + 1, a, b =>
    let x := a.headD 0
    let y := b.headD 0
    if x ≠ y then (x.toNat : Int) - y.toNat
    else if x = 0 then 0
    else strncmp n a.tail b.tail

/-- `std::to_string` of a `userid_t`. -/
def userIdString (u : UInt32) : Bytes := ascii (toString u.toNat)

/-- `lookup_ref_key_internal`: the first user, in the map's order, whose reference has the hex
form of `policy`. -/
def lookupRefKeyInternal (H : PolicyHeader) (keyMap : PolicyMap) (policy : Bytes) :
    Option UInt32 :=
  keyMap.entries.findSome? fun (u, keyRawRef) =>
    if cString (H.bytesToHex (keyRawRef.take 16)) = cString (H.bytesToHex (policy.take 16)) then
      some u
    else none

/-- `lookup_ref_key` for v2 policies: the policy-type string it copies into `policy_type`, or
`none` where it returns `false`. -/
def lookupRefKey (H : PolicyHeader) (deKeyRawRef : Bytes) (sDePolicies sCePolicies : PolicyMap)
    (fep : FscryptPolicyV2) : Option Bytes :=
  if strncmp 16 fep.masterKeyIdentifier (deKeyRawRef ++ [0]) = 0 then
    some H.systemDeFscryptPolicy
  else
    match lookupRefKeyInternal H sDePolicies fep.masterKeyIdentifier with
    | some userId => some (H.userDeFscryptPolicy ++ userIdString userId)
    | none =>
      match lookupRefKeyInternal H sCePolicies fep.masterKeyIdentifier with
      | some userId => some (H.userCeFscryptPolicy ++ userIdString userId)
      | none => none

/-- The exceptions `std::string::substr` and `std::stoi` throw. -/
inductive CppException where
  | outOfRange
  | invalidArgument
  deriving DecidableEq, Repr

@[simp] theorem except_pure {ε α : Type} (a : α) : (pure a : Except ε α) = .ok a := rfl

@[simp] theorem except_ok_bind {ε α β : Type} (a : α) (f : α → Except ε β) :
    (Except.ok a >>= f) = f a := rfl

@[simp] theorem except_error_bind {ε α β : Type} (e : ε) (f : α → Except ε β) :
    (Except.error e >>= f) = .error e := rfl

/-- A continuation that cannot fail adds no error. -/
theorem except_bind_ok_eq_error {ε α β γ : Type} (x : Except ε α) (f : α → Except ε β)
    (g : β → γ) (e : ε) :
    (x >>= fun a => f a >>= fun b => .ok (g b)) = .error e ↔ (x >>= f) = .error e := by
  cases x with
  | error e' => simp
  | ok a => cases h : f a <;> simp [h]

/-- `std::string::substr(pos, n)`. -/
def substr (s : Bytes) (pos n : Nat) : Except CppException Bytes :=
  if s.length < pos then .error .outOfRange else .ok ((s.drop pos).take n)

@[simp] theorem substr_cons_zero (x : UInt8) (s : Bytes) (n : Nat) :
    substr (x :: s) 0 (n + 1) = .ok (x :: s.take n) := by
  simp [substr]

@[simp] theorem substr_cons_one (x : UInt8) (s : Bytes) (n : Nat) :
    substr (x :: s) 1 n = .ok (s.take n) := by
  simp [substr]

/-- The characters `isspace` accepts. -/
def isSpace (c : UInt8) : Bool := c = 32 || (9 ≤ c && c ≤ 13)

/-- A decimal digit. -/
def isDigit (c : UInt8) : Bool := 48 ≤ c && c ≤ 57

/-- The value of a string of decimal digits. -/
def digitsValue (ds : Bytes) : Nat := ds.foldl (fun v d => 10 * v + (d.toNat - 48)) 0

/-- `std::stoi`: leading white space, an optional sign and at least one digit, the value
in the range of `int`. -/
def stoi (s : Bytes) : Except CppException Int :=
  let s := s.dropWhile isSpace
  let (neg, rest) := match s with
    | 45 :: t => (true, t)
    | 43 :: t => (false, t)
    | _ => (false, s)
  let ds := rest.takeWhile isDigit
  if ds = [] then .error .invalidArgument
  else
    let v : Int := if neg then -(digitsValue ds : Int) else digitsValue ds
    if IsInt32 v then .ok v else .error .outOfRange

/-- Modelled from the spec: `lookup_key_ref`, which FsCrypt.h declares without a body, taken as
the lookup of the user in the map, the use `lookup_ref_tar` makes of it: the reference stored
under the user, if any. -/
def PolicyMap.lookupKeyRef (m : PolicyMap) (userId : UInt32) : Option Bytes :=
  (m.entries.find? (·.1 = userId)).map (·.2)

/-- `lookup_ref_tar` for v2 policies on the buffer `policy_type`: the reference it copies into
`policy`, `none` where it returns `false`, or the exception that escapes it. -/
def lookupRefTar (H : PolicyHeader) (deKeyRawRef : Bytes) (sDePolicies sCePolicies : PolicyMap)
    (policyType : Bytes) : Except CppException (Option Bytes) := do
  let s := cString policyType
  if (← substr s 0 1) ≠ H.fscryptV2 then return none
  if (← substr s 1 2) = H.systemDeKey then return some deKeyRawRef
  if (← substr s 1 1) = H.userDeKey then
    let userId ← stoi (← substr s 3 4)
    return sDePolicies.lookupKeyRef (UInt32.ofNat (ofInt32 userId))
  else if (← substr s 1 1) = H.userCeKey then
    let userId ← stoi (← substr s 3 4)
    return sCePolicies.lookupKeyRef (UInt32.ofNat (ofInt32 userId))
  else return none

/-- Strings that agree up to a common NUL compare equal. -/
theorem strncmp_eq_zero_of_nul {a b : Bytes} {k n : Nat} (hk : k < n)
    (hpre : a.take (k + 1) = b.take (k + 1)) (hnul : a.getD k 1 = 0) : strncmp n a b = 0 := by
  induction a generalizing b k n with
  | nil => simp at hnul
  | cons x a ih =>
    obtain ⟨n, rfl⟩ : ∃ m, n = m + 1 := ⟨n - 1, by omega⟩
    cases b with
    | nil => simp at hpre
    | cons y b =>
      simp only [List.take_succ_cons, List.cons.injEq] at hpre
      obtain ⟨rfl, hpre⟩ := hpre
      by_cases hx : x = 0
      · simp [strncmp, hx]
      cases k with
      | zero => simp_all
      | succ k => simp [strncmp, hx, ih (by omega : k < n) hpre (by simpa using hnul)]

theorem PolicyMap.lookupKeyRef_mem {m : PolicyMap} {userId : UInt32} {w : Bytes}
    (h : m.lookupKeyRef userId = some w) : (userId, w) ∈ m.entries := by
  obtain ⟨e, he, rfl⟩ := Option.map_eq_some'.mp h
  have hu : e.1 = userId := by simpa using List.find?_some he
  exact hu ▸ List.mem_of_find?_eq_some he

/-- Whatever `lookup_ref_tar` copies into `policy` is the system DE reference or a reference
stored in one of the maps. -/
theorem lookupRefTar_written {H : PolicyHeader} {deKeyRawRef policyType w : Bytes}
    {sDe sCe : PolicyMap} (h : lookupRefTar H deKeyRawRef sDe sCe policyType = .ok (some w)) :
    w = deKeyRawRef ∨ (∃ u, (u, w) ∈ sDe.entries) ∨ ∃ u, (u, w) ∈ sCe.entries := by
  unfold lookupRefTar at h
  simp only [bind, Except.bind, pure, Except.pure] at h
  repeat' split at h
  all_goals first
    | exact .inl (by simpa using h.symm)
    | exact .inr (.inl ⟨_, PolicyMap.lookupKeyRef_mem (Except.ok.inj h)⟩)
    | exact .inr (.inr ⟨_, PolicyMap.lookupKeyRef_mem (Except.ok.inj h)⟩)

/-- An identifier that agrees with `de_key_raw_ref` up to a NUL byte is taken for the system DE
key though it differs from it, and the string `lookup_ref_key` writes for it never decodes back
to it. -/
theorem lookupRefKey_nul_collision (H : PolicyHeader) (deKeyRawRef : Bytes)
    (sDePolicies sCePolicies : PolicyMap) (fep : FscryptPolicyV2) (k : Nat) (hk : k < 16)
    (hpre : fep.masterKeyIdentifier.take (k + 1) = (deKeyRawRef ++ [0]).take (k + 1))
    (hnul : fep.masterKeyIdentifier.getD k 1 = 0)
    (hne : deKeyRawRef.take 16 ≠ fep.masterKeyIdentifier)
    (hmaps : ∀ e ∈ sDePolicies.entries ++ sCePolicies.entries, e.2 ≠ fep.masterKeyIdentifier) :
    lookupRefKey H deKeyRawRef sDePolicies sCePolicies fep = some H.systemDeFscryptPolicy ∧
      ∀ (n : Nat) (w : Bytes), lookupRefTar H deKeyRawRef sDePolicies sCePolicies
        (H.systemDeFscryptPolicy ++ List.replicate n 0) = .ok (some w) →
        w.take 16 ≠ fep.masterKeyIdentifier := by
  refine ⟨by simp [lookupRefKey, strncmp_eq_zero_of_nul hk hpre hnul], fun n w h => ?_⟩
  rcases lookupRefTar_written h with rfl | ⟨u, hu⟩ | ⟨u, hu⟩
  · exact hne
  · rw [List.take_of_length_le (sDePolicies.ref_length _ hu).le]
    exact hmaps _ (List.mem_append_left _ hu)
  · rw [List.take_of_length_le (sCePolicies.ref_length _ hu).le]
    exact hmaps _ (List.mem_append_right _ hu)

/-- A hex digit. -/
def hexDigit (n : Nat) : UInt8 := if n < 10 then UInt8.ofNat (48 + n) else UInt8.ofNat (87 + n)

/-- Literals of the form `fscrypt_policy.h` uses, and a lowercase `bytes_to_hex`. -/
def PolicyHeader.sample : PolicyHeader where
  fscryptV2 := ascii "2"
  systemDeKey := ascii "DK"
  userDeKey := ascii "D"
  userCeKey := ascii "C"
  systemDeFscryptPolicy := ascii "2DK"
  userDeFscryptPolicy := ascii "2DE"
  userCeFscryptPolicy := ascii "2CE"
  bytesToHex b :=
    b.foldr (fun x acc => hexDigit (x.toNat / 16) :: hexDigit (x.toNat % 16) :: acc) [0]

theorem lookupRefKey_nul_collision_sample :
    lookupRefKey PolicyHeader.sample (List.replicate 16 0) .empty .empty
        ⟨0 :: List.replicate 15 1, rfl⟩ = some PolicyHeader.sample.systemDeFscryptPolicy ∧
      ∀ (n : Nat) (w : Bytes), lookupRefTar PolicyHeader.sample (List.replicate 16 0) .empty
        .empty (PolicyHeader.sample.systemDeFscryptPolicy ++ List.replicate n 0) = .ok (some w) →
        w.take 16 ≠ 0 :: List.replicate 15 1 :=
  lookupRefKey_nul_collision PolicyHeader.sample (List.replicate 16 0) .empty .empty
    ⟨0 :: List.replicate 15 1, rfl⟩ 0 (by decide) (by decide) (by decide) (by decide)
    (by simp [PolicyMap.empty])

/-- For a header whose version tag and per-user key tags are single characters, an exception
escapes `lookup_ref_tar` exactly when the string names a per-user key and its user id field at
offset 3, cut by `substr`, is past the end of the string or is rejected by `stoi`. -/
theorem lookupRefTar_error_iff (H : PolicyHeader) (deKeyRawRef : Bytes)
    (sDePolicies sCePolicies : PolicyMap) (v : UInt8) (hv : H.fscryptV2 = [v])
    (hDe : H.userDeKey.length = 1) (hCe : H.userCeKey.length = 1) (policyType : Bytes)
    (e : CppException) :
    lookupRefTar H deKeyRawRef sDePolicies sCePolicies policyType = .error e ↔
      ∃ k rest, cString policyType = v :: k :: rest ∧ k :: rest.take 1 ≠ H.systemDeKey ∧
        ([k] = H.userDeKey ∨ [k] = H.userCeKey) ∧
        (substr (v :: k :: rest) 3 4 >>= stoi) = .error e := by
  have hDe' : H.userDeKey ≠ [] := List.ne_nil_of_length_pos (by omega)
  have hCe' : H.userCeKey ≠ [] := List.ne_nil_of_length_pos (by omega)
  unfold lookupRefTar
  generalize cString policyType = s
  rcases s with _ | ⟨x, s⟩
  · simp [substr, hv]
  by_cases hx : x = v
  swap
  · simp [hv, hx]
  subst hx
  rcases s with _ | ⟨k, rest⟩
  -- the version alone: no key tag matches, nothing is parsed
  · simp [hv, hDe', hCe', ite_eq_iff]
  simp only [substr_cons_zero, List.take_zero, hv, ne_eq, except_pure, substr_cons_one,
    List.take_succ_cons, except_ok_bind, ite_not, ↓reduceIte, List.cons.injEq, true_and,
    and_assoc, exists_and_left, exists_eq_left']
  -- the system DE key, a user DE key, a user CE key, an unknown tag
  split_ifs with hsys hde hce
  · simp [hsys]
  · simp [hsys, hde, except_bind_ok_eq_error]
  · simp [hsys, hde, hce, except_bind_ok_eq_error]
  · simp [hsys, hde, hce]

/-- `"2D"`, truncated before its user id, makes `substr` throw, and `"2Cabc"`, whose user id
field holds no digit, makes `stoi` throw. -/
theorem lookupRefTar_malformed_throws :
    lookupRefTar PolicyHeader.sample [] .empty .empty (ascii "2D" ++ [0]) = .error .outOfRange ∧
      lookupRefTar PolicyHeader.sample [] .empty .empty (ascii "2Cabc" ++ [0]) =
        .error .invalidArgument :=
  ⟨(lookupRefTar_error_iff PolicyHeader.sample [] .empty .empty 50 rfl rfl rfl _ _).mpr
      ⟨68, [], by decide, by decide, .inl rfl, rfl⟩,
    (lookupRefTar_error_iff PolicyHeader.sample [] .empty .empty 50 rfl rfl rfl _ _).mpr
      ⟨67, ascii "abc", by decide, by decide, .inr rfl, rfl⟩⟩

end VoldDecrypt
