import Mathlib.Data.List.Basic
import Mathlib.Tactic.Ring

/-!
# Bytes, C integers and raw buffer reads

Decrypt.cpp decodes its on-disk records by casting a `std::string`'s data pointer to
`int*` or `unsigned char*` and dereferencing it; no read is bounds checked. A buffer is
therefore modelled together with the memory that follows it: a read past the end still
returns a value, taken from that memory, and each decoder reports the spans it read so
that "every read lies in the buffer" is a statement about the model. Where a decoder copies a
length it read from its input, the run checks each span against the memory mapped after the
buffer, and a copy that runs past it faults.

Android's ABIs are little-endian, so an `int` load is a little-endian read of four bytes
and `endianswap` reverses them. C integer conversions are written out: `toInt32` reads a
32-bit pattern as a two's-complement `int`, `sizeT` converts an `int` to a 64-bit
`size_t`. Allocation succeeds exactly for requests up to `PTRDIFF_MAX`, as bionic's
allocator does; memory exhaustion is not modelled.
-/
namespace VoldDecrypt

abbrev Bytes := List UInt8

/-- The bytes of an ASCII string literal. -/
def ascii (s : String) : Bytes := s.data.map fun c => c.toNat.toUInt8

theorem byte_lt (b : UInt8) : b.toNat < 256 := b.toNat_lt_size

@[simp] theorem toNat_ofNat_byte (n : Nat) : (UInt8.ofNat n).toNat = n % 256 := rfl

@[simp] theorem ofNat_toNat_byte (b : UInt8) : UInt8.ofNat b.toNat = b :=
  UInt8.toNat.inj (by rw [toNat_ofNat_byte]; exact Nat.mod_eq_of_lt (byte_lt b))

/-- Little-endian value of a byte string. -/
def leNat : Bytes → Nat
  | [] => 0
  | b :: bs => b.toNat + 256 * leNat bs

/-- Big-endian value of a byte string. -/
def beNat (bs : Bytes) : Nat := leNat bs.reverse

/-- The low `k` bytes of `n`, least significant first. -/
def leBytes : Nat → Nat → Bytes
  | 0, _ => []
  | k + 1, n => UInt8.ofNat (n % 256) :: leBytes k (n / 256)

/-- The low `k` bytes of `n`, most significant first. -/
def beBytes (k n : Nat) : Bytes := (leBytes k n).reverse

@[simp] theorem length_leBytes (k n : Nat) : (leBytes k n).length = k := by
  induction k generalizing n with
  | zero => rfl
  | succ k ih => simp [leBytes, ih]

@[simp] theorem length_beBytes (k n : Nat) : (beBytes k n).length = k := by
  simp [beBytes]

theorem leNat_leBytes (k n : Nat) : leNat (leBytes k n) = n % 256 ^ k := by
  induction k generalizing n with
  | zero => simp [leNat, leBytes, Nat.mod_one]
  | succ k ih => rw [leBytes, leNat, toNat_ofNat_byte, ih, pow_succ', Nat.mod_mul, Nat.mod_mod]

theorem beNat_beBytes (k n : Nat) : beNat (beBytes k n) = n % 256 ^ k := by
  simp [beNat, beBytes, leNat_leBytes]

theorem leBytes_leNat (bs : Bytes) : leBytes bs.length (leNat bs) = bs := by
  induction bs with
  | nil => rfl
  | cons b bs ih =>
      have := byte_lt b
      simp only [List.length_cons, leBytes, leNat]
      rw [show (b.toNat + 256 * leNat bs) % 256 = b.toNat by omega,
        show (b.toNat + 256 * leNat bs) / 256 = leNat bs by omega, ih, ofNat_toNat_byte]

/-- `endianswap` on a 32-bit value: its four bytes in reverse order. -/
def endianswap (v : Nat) : Nat := leNat (leBytes 4 v).reverse

/-- A 32-bit pattern read as a C `int`. -/
def toInt32 (n : Nat) : Int :=
  if n % 2 ^ 32 < 2 ^ 31 then (n % 2 ^ 32 : Nat) else (n % 2 ^ 32 : Nat) - 2 ^ 32

/-- The 32-bit pattern of an `int`. -/
def ofInt32 (i : Int) : Nat := (i % 2 ^ 32).toNat

/-- Conversion of an `int` (or a signed difference) to a 64-bit `size_t`. -/
def sizeT (i : Int) : Nat := (i % 2 ^ 64).toNat

/-- Whether `malloc` of `n` bytes returns a pointer: requests above `PTRDIFF_MAX` fail. -/
def mallocOk (n : Nat) : Bool := n < 2 ^ 63

/-- A value is representable as a C `int`. -/
def IsInt32 (i : Int) : Prop := -2 ^ 31 ≤ i ∧ i < 2 ^ 31

instance (i : Int) : Decidable (IsInt32 i) := inferInstanceAs (Decidable (_ ∧ _))

theorem toInt32_ofInt32 {i : Int} (h : IsInt32 i) : toInt32 (ofInt32 i) = i := by
  unfold toInt32 ofInt32 IsInt32 at *
  split <;> omega

theorem isInt32_toInt32 (n : Nat) : IsInt32 (toInt32 n) := by
  unfold toInt32 IsInt32
  split <;> omega

/-- Allocation of a size computed from an `int` succeeds exactly for the non-negative ones. -/
theorem mallocOk_sizeT {i : Int} (h : IsInt32 i) : mallocOk (sizeT i) = decide (0 ≤ i) := by
  unfold mallocOk sizeT IsInt32 at *
  simp only [decide_eq_decide]
  omega

/-- A heap buffer and the bytes that follow it in memory. -/
structure Buffer where
  data : Bytes
  beyond : Nat → UInt8

/-- A `std::string`'s storage: its bytes, the terminating NUL, then other memory. -/
def Buffer.ofString (s : Bytes) (rest : Nat → UInt8) : Buffer :=
  ⟨s, fun j => if j = 0 then 0 else rest j⟩

/-- The byte at offset `i`, inside the buffer or past its end. -/
def Buffer.get (b : Buffer) (i : Nat) : UInt8 := b.data.getD i (b.beyond (i - b.data.length))

/-- The `len` bytes from offset `off`, as `memcpy` copies them. -/
def Buffer.slice (b : Buffer) (off len : Nat) : Bytes :=
  (List.range len).map fun j => b.get (off + j)

/-- An `int` loaded from offset `off` on a little-endian host. -/
def Buffer.loadInt (b : Buffer) (off : Nat) : Nat := leNat (b.slice off 4)

/-- A read of `len` bytes from offset `off`. -/
structure Span where
  off : Nat
  len : Nat
  deriving DecidableEq, Repr

/-- A span lies within a buffer of `n` bytes. -/
def Span.Within (n : Nat) (s : Span) : Prop := s.off + s.len ≤ n

instance (n : Nat) (s : Span) : Decidable (s.Within n) := inferInstanceAs (Decidable (_ ≤ _))

theorem Buffer.get_of_lt {b : Buffer} {i : Nat} (h : i < b.data.length) :
    b.get i = b.data[i] := by
  simp [Buffer.get, List.getD_eq_getElem?_getD, List.getElem?_eq_getElem h]

@[simp] theorem Buffer.length_slice (b : Buffer) (off len : Nat) :
    (b.slice off len).length = len := by
  simp [Buffer.slice]

/-- A slice inside the buffer is the buffer's own bytes. -/
theorem Buffer.slice_of_le {b : Buffer} {off len : Nat} (h : off + len ≤ b.data.length) :
    b.slice off len = (b.data.drop off).take len := by
  apply List.ext_getElem
  · simp; omega
  · intro j h₁ h₂
    simp only [Buffer.slice, List.getElem_map, List.getElem_range, List.getElem_take,
      List.getElem_drop]
    exact Buffer.get_of_lt (by simp at h₁; omega)

theorem Buffer.slice_of_eq {b : Buffer} (pre post : Bytes) {mid : Bytes} {off len : Nat}
    (h : b.data = pre ++ mid ++ post) (ho : pre.length = off) (hl : mid.length = len) :
    b.slice off len = mid := by
  subst ho hl
  rw [Buffer.slice_of_le (by simp [h])]
  simp [h]

theorem Buffer.get_of_eq {b : Buffer} (pre post : Bytes) {x : UInt8} {i : Nat}
    (h : b.data = pre ++ x :: post) (hi : pre.length = i) : b.get i = x := by
  subst hi
  rw [Buffer.get_of_lt (by simp [h])]
  simp [h, List.getElem_append_right]

/-- A `std::string`'s bytes up to and including its terminating NUL. -/
theorem Buffer.ofString_get_of_le {s : Bytes} {i : Nat} (rest : Nat → UInt8) (h : i ≤ s.length) :
    (Buffer.ofString s rest).get i = s.getD i 0 := by
  rcases Nat.lt_or_eq_of_le h with h | rfl
  · exact (Buffer.get_of_lt h).trans (by simp [Buffer.ofString, h])
  · simp [Buffer.get, Buffer.ofString]

theorem endianswap_loadInt (b : Buffer) (off : Nat) :
    endianswap (b.loadInt off) = beNat (b.slice off 4) := by
  have h := leBytes_leNat (b.slice off 4)
  rw [Buffer.length_slice] at h
  simp only [endianswap, Buffer.loadInt, beNat, h]

end VoldDecrypt
