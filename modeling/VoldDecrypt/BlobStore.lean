import VoldDecrypt.Bytes

/-!
# The blob store

The synthetic-password artifacts of a user live in `/data/system_de/<uid>/spblob/` under a
handle string. `Get_Spblob_Data` resolves `<handle><suffix>` and, when that name does not
exist, tries `0<handle><suffix>` and `00<handle><suffix>`, first readable wins. The weaver
record is located differently: `Is_Weaver` asks `stat` about the exact name only, and
`Get_Weaver_Data` reads that exact name.

A file system maps paths to entries. An entry is either a regular file that
`ReadFileToString` reads, or something `stat` finds but that cannot be read as a file
(a directory, an unreadable file); both carry the size `stat` reports.
-/
namespace VoldDecrypt

/-- A file system entry as `stat` and `ReadFileToString` see it. -/
inductive Node where
  | file (data : Bytes)
  | other (size : Nat)
  deriving DecidableEq, Repr

abbrev FileSystem := String → Option Node

/-- A finite file system, for concrete runs. -/
def FileSystem.ofList (entries : List (String × Node)) : FileSystem := fun p => entries.lookup p

/-- `android::vold::pathExists`, and equally `stat(path) == 0`. -/
def pathExists (fs : FileSystem) (path : String) : Bool := (fs path).isSome

/-- `android::base::ReadFileToString`: the contents of a readable regular file. -/
def readFileToString (fs : FileSystem) (path : String) : Option Bytes :=
  match fs path with
  | some (.file d) => some d
  | _ => none

/-- `st.st_size` of an entry. -/
def Node.size : Node → Nat
  | .file d => d.length
  | .other n => n

/-- The decimal text `%d` prints for a `userid_t`. -/
def formatUserId (u : UInt32) : String :=
  if u.toNat < 2 ^ 31 then toString u.toNat else "-" ++ toString (2 ^ 32 - u.toNat)

/-- `sprintf(spblob_path_char, "/data/system_de/%d/spblob/", user_id)`. -/
def spblobDir (u : UInt32) : String := "/data/system_de/" ++ formatUserId u ++ "/spblob/"

/-- `Get_Spblob_Data`: the exact name when it exists, else the zero-padded names in order.
The `tag` argument of the source only labels a log line. -/
def getSpblobData (fs : FileSystem) (spblobPath handleStr suffix : String) : Option Bytes :=
  let file := spblobPath ++ handleStr ++ suffix
  if pathExists fs file then readFileToString fs file
  else
    [spblobPath ++ "0" ++ handleStr ++ suffix, spblobPath ++ "00" ++ handleStr ++ suffix].findSome?
      (readFileToString fs)

/-- `Get_Secdis`. -/
def getSecdis (fs : FileSystem) (spblobPath handleStr : String) : Option Bytes :=
  getSpblobData fs spblobPath handleStr ".secdis"

/-- `Is_Weaver`: `stat` of the exact weaver name. -/
def isWeaver (fs : FileSystem) (spblobPath handleStr : String) : Bool :=
  pathExists fs (spblobPath ++ handleStr ++ ".weaver")

/-- The three names `Get_Spblob_Data` may read, in the order it tries them. -/
def nameVariants (spblobPath handleStr suffix : String) : List String :=
  [spblobPath ++ handleStr ++ suffix, spblobPath ++ "0" ++ handleStr ++ suffix,
    spblobPath ++ "00" ++ handleStr ++ suffix]

theorem nameVariants_distinct (spblobPath handleStr suffix : String) :
    spblobPath ++ handleStr ++ suffix ≠ spblobPath ++ "0" ++ handleStr ++ suffix ∧
      spblobPath ++ handleStr ++ suffix ≠ spblobPath ++ "00" ++ handleStr ++ suffix ∧
      spblobPath ++ "0" ++ handleStr ++ suffix ≠ spblobPath ++ "00" ++ handleStr ++ suffix := by
  have h1 : ("0" : String).length = 1 := rfl
  have h2 : ("00" : String).length = 2 := rfl
  refine ⟨?_, ?_, ?_⟩ <;> intro h <;> have := congrArg String.length h <;>
    simp only [String.length_append] at this <;> omega

/-- A blob stored under one of the three names, with the other two absent, is what
`Get_Spblob_Data` returns. -/
theorem getSpblobData_of_unique {fs : FileSystem} {spblobPath handleStr suffix name : String}
    {d : Bytes} (hmem : name ∈ nameVariants spblobPath handleStr suffix)
    (hfile : fs name = some (.file d))
    (hothers : ∀ n ∈ nameVariants spblobPath handleStr suffix, n ≠ name → fs n = none) :
    getSpblobData fs spblobPath handleStr suffix = some d := by
  obtain ⟨h01, h02, h12⟩ := nameVariants_distinct spblobPath handleStr suffix
  simp only [nameVariants, List.mem_cons, List.mem_singleton, List.not_mem_nil, or_false,
    forall_eq_or_imp, forall_eq] at hmem hothers
  rcases hmem with rfl | rfl | rfl
  · simp [getSpblobData, pathExists, readFileToString, hfile]
  · simp [getSpblobData, pathExists, readFileToString, hfile, hothers.1 h01]
  · simp [getSpblobData, pathExists, readFileToString, hfile, hothers.1 h02, hothers.2.1 h12]

end VoldDecrypt
