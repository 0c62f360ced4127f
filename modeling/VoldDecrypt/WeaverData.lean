import VoldDecrypt.BlobStore

/-!
# The `.weaver` record

`Get_Weaver_Data` reads `<handle>.weaver` under its exact name and fills
`weaver_data_struct { unsigned char version; int slot; }` from it: the version from the
first byte and the slot through the pointer `(const int*)weaver_data.data() +
sizeof(unsigned char)`. Arithmetic on a `const int*` counts whole `int`s, so that pointer
is four bytes past the start, not one; the slot is the host-endian `int` at offsets 4..7.
No length is checked.
-/
namespace VoldDecrypt

/-- `weaver_data_struct`. -/
structure WeaverData where
  version : UInt8
  slot : Int
  deriving DecidableEq, Repr

/-- `sizeof(unsigned char)`. -/
def sizeofUnsignedChar : Nat := 1

/-- `sizeof(int)` on Android's ABIs. -/
def sizeofInt : Nat := 4

/-- The byte offset of `(const int*)data + sizeof(unsigned char)`. -/
def weaverSlotOffset : Nat := sizeofInt * sizeofUnsignedChar

/-- The body of `Get_Weaver_Data` once the file is in `b`: the struct and the spans read. -/
def decodeWeaverData (b : Buffer) : WeaverData × List Span :=
  (⟨b.get 0, toInt32 (b.loadInt weaverSlotOffset)⟩, [⟨0, 1⟩, ⟨weaverSlotOffset, 4⟩])

/-- `Get_Weaver_Data`: read the exact name `<handle>.weaver` and decode it. -/
def getWeaverData (fs : FileSystem) (rest : Nat → UInt8) (spblobPath handleStr : String) :
    Option WeaverData × List Span :=
  match readFileToString fs (spblobPath ++ handleStr ++ ".weaver") with
  | none => (none, [])
  | some w =>
      let r := decodeWeaverData (Buffer.ofString w rest)
      (some r.1, r.2)

/-- The slot `Get_Weaver_Data` hands on for a file `w`. -/
def weaverSlot (w : Bytes) (rest : Nat → UInt8) : Int :=
  (decodeWeaverData (Buffer.ofString w rest)).1.slot

/-- The slot is the little-endian `int` at offsets 4..7: the last byte of a five-byte record,
its terminating NUL, and two bytes of whatever memory follows. -/
theorem weaverSlot_eq (w : Bytes) (rest : Nat → UInt8) :
    weaverSlot w rest = toInt32 (leNat ((Buffer.ofString w rest).slice 4 4)) := by
  simp only [weaverSlot, decodeWeaverData, Buffer.loadInt, weaverSlotOffset, sizeofInt,
    sizeofUnsignedChar]

end VoldDecrypt
