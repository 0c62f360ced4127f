import VoldDecrypt.Platform

/-!
# Runs against the services

A run of the unwrap engine is observed through the calls it makes to the services it
talks to (weaver, gatekeeper, authorization, keystore, the fscrypt unlock), the key files it
reads and the reads it makes from raw buffers. `Run α` threads the list of those events and
ends either by returning a value or by a fault: a dereference of a null service, an exception,
a length no buffer can have, or a copy that runs into unmapped memory.

The environment `Env` fixes what every service answers to every request; `Memory` holds what
the code reads without having written it: the prior contents of stack buffers and the bytes
after each heap buffer.

Each event reaches one kind of service (`Event.kind`). `Run.Within ks x p` says once what a stage
can touch, the kinds `ks`, and what it can return, `p`; `Run.Phased` orders two groups of kinds
over a whole run. The unlock invariants and the order of the services follow from these.
-/
namespace VoldDecrypt

/-- The raw buffers the engine decodes through casts. -/
inductive BufferId where
  | pwd | weaver | spblob | keystoreResult | authToken
  deriving DecidableEq, Repr

/-- An observable step of a run. -/
inductive Event where
  | read (buffer : BufferId) (span : Span)
  | copySqliteDb
  | readFile (path : String)
  | weaverConnect
  | weaverGetKeySize
  | weaverVerify (slot : Int) (key : Bytes)
  | gatekeeperIsDeclared
  | gatekeeperAidlConnect
  | gatekeeperHidlConnect
  | gatekeeperAidlVerify (uid : UInt32) (challenge : Nat) (handle token : Bytes)
  | gatekeeperHidlVerify (uid : UInt32) (challenge : Nat) (handle token : Bytes)
  | authorizationConnect
  | addAuthToken (token : HardwareAuthToken) (accepted : Bool)
  | keystoreConnect
  | getKeyEntry (keyAlias : String)
  | createOperation (keyAlias : String) (nonce : Bytes)
  | finish (input : Bytes)
  | unlockCeStorage (user : UInt32) (secret : Bytes)
  | prepareUserStorage (user : UInt32)
  deriving DecidableEq, Repr

/-- What an event touches: memory, a file, or one of the services. -/
inductive EventKind where
  | memory | file | weaver | gatekeeper | authorization | keystore | storage
  deriving DecidableEq, Repr

/-- The kind of an event; `storage` is `fscrypt_unlock_ce_storage` and
`fscrypt_prepare_user_storage`. -/
def Event.kind : Event → EventKind
  | .read _ _ => .memory
  | .copySqliteDb | .readFile _ => .file
  | .weaverConnect | .weaverGetKeySize | .weaverVerify _ _ => .weaver
  | .gatekeeperIsDeclared | .gatekeeperAidlConnect | .gatekeeperHidlConnect
  | .gatekeeperAidlVerify _ _ _ _ | .gatekeeperHidlVerify _ _ _ _ => .gatekeeper
  | .authorizationConnect | .addAuthToken _ _ => .authorization
  | .keystoreConnect | .getKeyEntry _ | .createOperation _ _ | .finish _ => .keystore
  | .unlockCeStorage _ _ | .prepareUserStorage _ => .storage

/-- Why a run stops without returning. -/
inductive Fault where
  /-- A method called through a null service pointer. -/
  | nullService
  /-- `std::string(first, last)` with `last` before `first`. -/
  | lengthError
  /-- `optPlaintext->size()` on an empty optional. -/
  | emptyOptional
  /-- A negative `int` length handed to a function taking `size_t`. -/
  | negativeLength
  /-- A read through a pointer that was never set. -/
  | wildPointer
  /-- A copy that runs past the memory mapped after its source. -/
  | unmappedRead
  deriving DecidableEq, Repr

/-- How a run ends. -/
inductive Outcome (α : Type) where
  | ret (a : α)
  | fault (f : Fault)
  deriving DecidableEq, Repr

/-- A run: from the events so far to its outcome and the events after it. -/
def Run (α : Type) : Type := List Event → Outcome α × List Event

namespace Run

/-- Sequencing; a fault ends the run. -/
def bind {α β : Type} (x : Run α) (f : α → Run β) : Run β := fun tr =>
  match x tr with
  | (.ret a, tr') => f a tr'
  | (.fault e, tr') => (.fault e, tr')

instance : Monad Run where
  pure a := fun tr => (.ret a, tr)
  bind := Run.bind

/-- Record one event. -/
def emit (e : Event) : Run Unit := fun tr => (.ret (), tr ++ [e])

/-- Stop with a fault. -/
def fail {α : Type} (f : Fault) : Run α := fun tr => (.fault f, tr)

/-- The events so far. -/
def history : Run (List Event) := fun tr => (.ret tr, tr)

/-- Record the reads of a decoder. -/
def reads (buffer : BufferId) : List Span → Run Unit
  | [] => pure ()
  | s :: ss => bind (emit (.read buffer s)) fun _ => reads buffer ss

/-- Record the reads of a decoder from a buffer of which the first `limit` bytes are mapped:
the first read that runs past them faults. -/
def readsUpTo (buffer : BufferId) (limit : Nat) : List Span → Run Unit
  | [] => pure ()
  | s :: ss =>
    if s.Within limit then bind (emit (.read buffer s)) fun _ => readsUpTo buffer limit ss
    else fail .unmappedRead

variable {α β : Type}

@[simp] theorem pure_apply (a : α) (tr : List Event) : (pure a : Run α) tr = (.ret a, tr) := rfl

@[simp] theorem bind_apply (x : Run α) (f : α → Run β) (tr : List Event) :
    (x >>= f) tr = match x tr with
      | (.ret a, tr') => f a tr'
      | (.fault e, tr') => (.fault e, tr') := rfl

@[simp] theorem emit_apply (e : Event) (tr : List Event) : emit e tr = (.ret (), tr ++ [e]) := rfl

@[simp] theorem fail_apply (f : Fault) (tr : List Event) :
    (fail f : Run α) tr = (.fault f, tr) := rfl

@[simp] theorem history_apply (tr : List Event) : history tr = (.ret tr, tr) := rfl

@[simp] theorem reads_apply (buffer : BufferId) (ss : List Span) (tr : List Event) :
    reads buffer ss tr = (.ret (), tr ++ ss.map (.read buffer)) := by
  induction ss generalizing tr with
  | nil => simp [reads]
  | cons s ss ih => simp [reads, bind, ih]

/-- `x` returns `a` after the events `evs`, whatever the events before it. -/
def Returns (x : Run α) (a : α) (evs : List Event) : Prop := ∀ tr, x tr = (.ret a, tr ++ evs)

theorem returns_pure (a : α) : (pure a : Run α).Returns a [] := fun _ => by simp

/-- Reads that all lie in the mapped bytes are recorded in order. -/
theorem returns_readsUpTo {buffer : BufferId} {limit : Nat} {ss : List Span}
    (h : ∀ s ∈ ss, s.Within limit) :
    (readsUpTo buffer limit ss).Returns () (ss.map (.read buffer)) := by
  induction ss with
  | nil => exact fun _ => by simp [readsUpTo]
  | cons s ss ih =>
    intro tr
    simp only [List.mem_cons, forall_eq_or_imp] at h
    simp [readsUpTo, h.1, bind, ih h.2 (tr ++ [.read buffer s])]

/-- A read past the mapped bytes ends the run with a fault. -/
theorem readsUpTo_fault {buffer : BufferId} {limit : Nat} {ss : List Span}
    (h : ∃ s ∈ ss, ¬ s.Within limit) (tr : List Event) :
    ∃ evs, readsUpTo buffer limit ss tr = (.fault .unmappedRead, evs) := by
  induction ss generalizing tr with
  | nil => simp at h
  | cons s ss ih =>
    by_cases hs : s.Within limit
    · obtain ⟨evs, he⟩ := ih (by simpa [hs] using h) (tr ++ [.read buffer s])
      exact ⟨evs, by simp [readsUpTo, hs, bind, he]⟩
    · exact ⟨tr, by simp [readsUpTo, hs]⟩

theorem Returns.bind_apply {x : Run α} {a : α} {evs : List Event} (h : x.Returns a evs)
    (f : α → Run β) (tr : List Event) : (x >>= f) tr = f a (tr ++ evs) := by
  simp [h tr]

theorem Returns.bind {x : Run α} {f : α → Run β} {a : α} {b : β} {e₁ e₂ : List Event}
    (h : x.Returns a e₁) (h' : (f a).Returns b e₂) : (x >>= f).Returns b (e₁ ++ e₂) := fun tr => by
  rw [h.bind_apply, h', List.append_assoc]

/-- `x` only adds events after those before it. -/
def Appends (x : Run α) : Prop := ∀ tr, tr <+: (x tr).2

theorem appends_pure (a : α) : (pure a : Run α).Appends := fun tr => by simp

theorem appends_fail (f : Fault) : (fail f : Run α).Appends := fun tr => by simp

theorem Appends.bind {x : Run α} {f : α → Run β} (hx : x.Appends) (hf : ∀ a, (f a).Appends) :
    (x >>= f).Appends := fun tr => by
  have hp := hx tr
  rw [bind_apply]
  rcases h : x tr with ⟨_ | _, tr'⟩ <;> rw [h] at hp
  · exact hp.trans (hf _ tr')
  · exact hp

/-- An event of `x`'s run stays in the run of `x` followed by anything that only appends. -/
theorem mem_bind_of_mem {x : Run α} {f : α → Run β} {e : Event} {tr : List Event}
    (hf : ∀ a, (f a).Appends) (h : e ∈ (x tr).2) : e ∈ ((x >>= f) tr).2 := by
  rw [bind_apply]
  rcases hx : x tr with ⟨_ | _, tr'⟩ <;> rw [hx] at h
  · exact (hf _ tr').subset h
  · exact h

end Run

/-- `android::vold::Weaver`: whether the service was reached, `GetKeySize`, and
`WeaverVerify(slot, key)` with its payload on success. -/
structure Weaver where
  available : Bool
  keySize : Option UInt32
  verify : Int → Bytes → Option Bytes

/-- The AIDL gatekeeper's `GatekeeperVerifyResponse`. -/
structure AidlVerifyResponse where
  statusCode : Int
  timeoutMs : Nat
  hardwareAuthToken : HardwareAuthToken
  deriving DecidableEq, Repr

/-- A `GatekeeperVerifyResponse` as declared, before any call writes it. -/
def AidlVerifyResponse.initial : AidlVerifyResponse := ⟨0, 0, ⟨0, 0, 0, 0, 0, []⟩⟩

/-- The HIDL gatekeeper's `GatekeeperResponse`, passed to the verify callback. -/
structure HidlVerifyResponse where
  code : Int
  timeout : Nat
  data : Bytes
  deriving DecidableEq, Repr

/-- The keystore2 service: `getKeyEntry` by alias, `createOperation` for a nonce given the
auth tokens the authorization service holds, and `finish` on an input, whose reply is
`none` for a failed status and `some none` for a status with no output. -/
structure Keystore where
  getKeyEntry : String → Bool
  createOperation : String → Bytes → List HardwareAuthToken → Bool
  finish : String → Bytes → Bytes → Option (Option Bytes)

/-- What the file system and every service answer. `aidlGatekeeper` is the service
`AServiceManager_waitForService` yields once the name is declared; a verify reply of `none`
is a failed transaction. `authorization` answers `addAuthToken`. -/
structure Env where
  fs : FileSystem
  getHandle : UInt32 → String
  getAlias : String → String
  weaver : Weaver
  gatekeeperDeclared : Bool
  aidlGatekeeper : Option (UInt32 → Nat → Bytes → Bytes → Option AidlVerifyResponse)
  hidlGatekeeper : Option (UInt32 → Nat → Bytes → Bytes → Option HidlVerifyResponse)
  authorization : Option (HardwareAuthToken → Bool)
  keystore : Option Keystore
  unlockCeStorage : UInt32 → Bytes → Bool
  prepareUserStorage : UInt32 → Bool

/-- An environment with no files, where no service is reachable. -/
def Env.unreachable : Env :=
  ⟨fun _ => none, fun _ => "", id, ⟨false, none, fun _ _ => none⟩, false, none, none, none, none,
    fun _ _ => false, fun _ => false⟩

/-- Memory the code reads without writing it first. -/
structure Memory where
  /-- The prior contents of the stack array `password_token[32]`. -/
  passwordToken : Bytes
  passwordToken_length : passwordToken.length = 32
  /-- The stack array `tag[AES_BLOCK_SIZE]` handed to `EVP_CTRL_GCM_SET_TAG`. -/
  gcmTag : Bytes
  gcmTag_length : gcmTag.length = 16
  /-- The bytes after each heap buffer. -/
  rest : BufferId → Nat → UInt8
  /-- How many bytes past the end of the `.pwd` string can be read before unmapped memory: its
  terminating NUL and what follows it in the string object and on the heap. -/
  pwdReadable : Nat
  /-- The prior contents of `auth_token_len` in `Decrypt_User`, which only an `OK` answer of
  the gatekeeper sets. -/
  authTokenLen : Nat

/-- Zeroed memory, with a page mapped after the `.pwd` string. -/
def Memory.zero : Memory :=
  ⟨List.replicate 32 0, rfl, List.replicate 16 0, rfl, fun _ _ => 0, 4096, 0⟩

/-- The auth tokens the authorization service accepted during a run. -/
def acceptedTokens (tr : List Event) : List HardwareAuthToken :=
  tr.filterMap fun
    | .addAuthToken t true => some t
    | _ => none

@[simp] theorem acceptedTokens_append (tr tr' : List Event) :
    acceptedTokens (tr ++ tr') = acceptedTokens tr ++ acceptedTokens tr' := by
  simp [acceptedTokens]

@[simp] theorem acceptedTokens_nil : acceptedTokens [] = [] := rfl

@[simp] theorem acceptedTokens_cons_of_ne {e : Event} (h : ∀ t b, e ≠ .addAuthToken t b)
    (tr : List Event) : acceptedTokens (e :: tr) = acceptedTokens tr := by
  cases e <;> first | rfl | exact absurd rfl (h _ _)

/-- The calls to `fscrypt_unlock_ce_storage` in a run, with their arguments. -/
def unlockCalls (tr : List Event) : List (UInt32 × Bytes) :=
  tr.filterMap fun
    | .unlockCeStorage u s => some (u, s)
    | _ => none

@[simp] theorem unlockCalls_append (tr tr' : List Event) :
    unlockCalls (tr ++ tr') = unlockCalls tr ++ unlockCalls tr' := by
  simp [unlockCalls]

@[simp] theorem unlockCalls_nil : unlockCalls [] = [] := rfl

@[simp] theorem unlockCalls_cons_unlockCeStorage (u : UInt32) (s : Bytes) (tr : List Event) :
    unlockCalls (.unlockCeStorage u s :: tr) = (u, s) :: unlockCalls tr := rfl

@[simp] theorem unlockCalls_cons_of_ne {e : Event} (h : ∀ u s, e ≠ .unlockCeStorage u s)
    (tr : List Event) : unlockCalls (e :: tr) = unlockCalls tr := by
  cases e <;> first | rfl | exact absurd rfl (h _ _)

@[simp] theorem unlockCalls_map_read (buffer : BufferId) (ss : List Span) :
    unlockCalls (ss.map (.read buffer)) = [] := by
  simp [unlockCalls, List.filterMap_map]

/-- Events none of whose kinds is `storage` include no unlock call. -/
theorem unlockCalls_eq_nil_of_kinds {ks : List EventKind} {evs : List Event}
    (h : ∀ e ∈ evs, ks.contains e.kind) (hs : ks.contains .storage = false) :
    unlockCalls evs = [] := by
  induction evs with
  | nil => rfl
  | cons e evs ih =>
    have he := h e (.head _)
    have hrest := ih fun e' he' => h e' (.tail _ he')
    cases e <;> first | exact hrest | simp_all [Event.kind]

namespace Run

variable {α β : Type} {ks : List EventKind}

/-- `x` only appends events of the kinds in `ks`, and whatever it returns satisfies `p`. -/
def Within (ks : List EventKind) (x : Run α) (p : α → Prop) : Prop :=
  ∀ tr, ∃ evs, (x tr).2 = tr ++ evs ∧ (∀ e ∈ evs, ks.contains e.kind) ∧
    ∀ a, (x tr).1 = .ret a → p a

theorem within_pure {a : α} {p : α → Prop} (h : p a) : (pure a : Run α).Within ks p := fun tr =>
  ⟨[], by simp, by simp, fun _ ha => by cases ha; exact h⟩

theorem within_fail (f : Fault) (p : α → Prop) : (fail f : Run α).Within ks p := fun tr =>
  ⟨[], by simp, by simp, fun _ ha => by cases ha⟩

theorem within_emit {e : Event} (h : ks.contains e.kind = true) :
    (emit e).Within ks fun _ => True :=
  fun _ => ⟨[e], rfl, by simpa using h, fun _ _ => trivial⟩

theorem within_reads (buffer : BufferId) (ss : List Span) (h : ks.contains .memory = true) :
    (reads buffer ss).Within ks fun _ => True := fun tr =>
  ⟨ss.map (.read buffer), by simp, fun e he => by
    obtain ⟨_, -, rfl⟩ := List.mem_map.mp he
    exact h, fun _ _ => trivial⟩

theorem within_history : history.Within ks fun _ => True := fun tr =>
  ⟨[], by simp, by simp, fun _ _ => trivial⟩

theorem Within.mono {x : Run α} {ks' : List EventKind} {p q : α → Prop} (hx : x.Within ks p)
    (hk : ks ⊆ ks') (h : ∀ a, p a → q a) : x.Within ks' q := fun tr =>
  let ⟨evs, he, hks, hp⟩ := hx tr
  ⟨evs, he, fun e he' => List.elem_eq_true_of_mem (hk (List.mem_of_elem_eq_true (hks e he'))),
    fun a ha => h a (hp a ha)⟩

theorem Within.bind {x : Run α} {f : α → Run β} {q : α → Prop} {p : β → Prop}
    (hx : x.Within ks q) (hf : ∀ a, q a → (f a).Within ks p) : (x >>= f).Within ks p := fun tr => by
  obtain ⟨e₁, h₁, k₁, p₁⟩ := hx tr
  rw [bind_apply]
  rcases h : x tr with ⟨a | _, tr'⟩ <;> rw [h] at h₁ p₁ <;> subst h₁
  · obtain ⟨e₂, h₂, k₂, p₂⟩ := hf a (p₁ a rfl) (tr ++ e₁)
    refine ⟨e₁ ++ e₂, by simp [h₂], fun e he => ?_, p₂⟩
    rcases List.mem_append.mp he with he | he
    exacts [k₁ e he, k₂ e he]
  · exact ⟨e₁, rfl, k₁, fun _ ha => by cases ha⟩

theorem Within.widen {x : Run α} {ks' : List EventKind} {p : α → Prop} (hx : x.Within ks p)
    (hk : ks ⊆ ks') : x.Within ks' p :=
  hx.mono hk fun _ h => h

theorem Within.imp {x : Run α} {p q : α → Prop} (hx : x.Within ks p) (h : ∀ a, p a → q a) :
    x.Within ks q :=
  hx.mono (List.Subset.refl _) h

theorem within_emit_bind {e : Event} {x : Run α} {p : α → Prop} (h : ks.contains e.kind = true)
    (hx : x.Within ks p) : (emit e >>= fun _ => x).Within ks p :=
  (within_emit h).bind fun _ _ => hx

theorem within_readsUpTo (buffer : BufferId) (limit : Nat) (ss : List Span)
    (h : ks.contains .memory = true) : (readsUpTo buffer limit ss).Within ks fun _ => True := by
  induction ss with
  | nil => exact within_pure trivial
  | cons s ss ih =>
    unfold readsUpTo
    split
    exacts [within_emit_bind h ih, within_fail _ _]

end Run

end VoldDecrypt
