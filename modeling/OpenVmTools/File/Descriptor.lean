import Mathlib.Data.Option.Basic

/-!
# FileIO descriptors, status codes and the `FileLock` interface

The data model of `lib/file/fileIO.c`. A `FileIODescriptor` carries the open POSIX
descriptor (`-1` when the descriptor is invalid), the access flags it was opened with, the
file name and the lock token of the `FileLock` module. Status codes are `FileIOResult`.

The `FileLock` module (`FileLock_Lock`, `FileLock_Unlock`) is not part of this library; it
is an interface `FileLockOps σ` over whatever state `σ` it consults. Results that hold for
every outcome of the lock primitive quantify over `σ` and the operations; the shared lock
table of `Concurrency` is one instance.
-/

namespace OpenVmTools

/-- A path name. Paths of the model are full paths: `File_FullPath` of a path names the same
file, so the model resolves it to the path itself (see `fileFullPath`). -/
abbrev Path := String

/-- `FileIOResult`: the status codes of the FileIO library. -/
inductive FileIOResult
  | success
  | cancelled
  | error
  | openErrorExist
  | lockFailed
  | readErrorEof
  | fileNotFound
  | noPermission
  | fileNameTooLong
  | writeErrorFbig
  | writeErrorNospc
  | writeErrorDquot
  | errorLast
  deriving DecidableEq, Repr

/-- `FileIO_IsSuccess`. -/
def FileIOResult.isSuccess (r : FileIOResult) : Bool :=
  decide (r = .success)

@[simp] theorem FileIOResult.isSuccess_iff (r : FileIOResult) :
    r.isSuccess = true ↔ r = .success := by
  simp [FileIOResult.isSuccess]

/-- The `FILEIO_OPEN_*` access bits this code reads: `FILEIO_OPEN_ACCESS_READ`,
`FILEIO_OPEN_ACCESS_WRITE` and `FILEIO_OPEN_LOCKED`. -/
structure FileIOOpenAccess where
  read : Bool
  write : Bool
  locked : Bool
  deriving DecidableEq, Repr

/-- The empty access set, what `FileIO_Invalidate`'s `memset` leaves in `flags`. -/
def FileIOOpenAccess.none : FileIOOpenAccess := ⟨false, false, false⟩

/-- A lock token of the `FileLock` module: the locked path, the process holding it and a
serial number that tells acquisitions apart. -/
structure LockToken where
  path : Path
  owner : Nat
  serial : Nat
  deriving DecidableEq, Repr

/-- `FileIODescriptor`. -/
structure FileIODescriptor where
  posix : Int
  flags : FileIOOpenAccess
  fileName : Option Path
  lockToken : Option LockToken
  deriving DecidableEq, Repr

namespace FileIODescriptor

/-- `FileIO_Invalidate`: the descriptor zeroed, with `posix = -1`. -/
def invalid : FileIODescriptor := ⟨-1, .none, none, none⟩

/-- `FileIO_IsValid`. -/
def isValid (fd : FileIODescriptor) : Bool :=
  fd.posix != -1

/-- The descriptor is valid and names `p`. -/
def ValidOn (fd : FileIODescriptor) (p : Path) : Prop :=
  fd.posix ≠ -1 ∧ fd.fileName = some p

/-- `FileIO_Init`: record the path name. -/
def init (fd : FileIODescriptor) (pathName : Path) : FileIODescriptor :=
  { fd with fileName := some pathName }

/-- `FileIO_Cleanup`: free the path name. -/
def cleanup (fd : FileIODescriptor) : FileIODescriptor :=
  { fd with fileName := none }

@[simp] theorem isValid_iff (fd : FileIODescriptor) : fd.isValid = true ↔ fd.posix ≠ -1 := by
  simp [isValid]

@[simp] theorem invalid_posix : invalid.posix = -1 := rfl
@[simp] theorem invalid_fileName : invalid.fileName = none := rfl
@[simp] theorem invalid_lockToken : invalid.lockToken = none := rfl
@[simp] theorem invalid_flags : invalid.flags = .none := rfl
@[simp] theorem init_posix (fd : FileIODescriptor) (p : Path) : (fd.init p).posix = fd.posix := rfl
@[simp] theorem init_flags (fd : FileIODescriptor) (p : Path) : (fd.init p).flags = fd.flags := rfl
@[simp] theorem init_fileName (fd : FileIODescriptor) (p : Path) :
    (fd.init p).fileName = some p := rfl
@[simp] theorem init_lockToken (fd : FileIODescriptor) (p : Path) :
    (fd.init p).lockToken = fd.lockToken := rfl

theorem validOn_iff (fd : FileIODescriptor) (p : Path) :
    fd.ValidOn p ↔ fd.posix ≠ -1 ∧ fd.fileName = some p := Iff.rfl

theorem not_validOn_invalid (p : Path) : ¬ invalid.ValidOn p := by
  simp [ValidOn]

end FileIODescriptor

/-- `FileIO_Filename`. -/
def fileIOFilename (fd : FileIODescriptor) : Option Path :=
  fd.fileName

/-! ## The `FileLock` interface -/

/-- The two primitives of the `FileLock` module that `FileIO_Lock` and `FileIO_Unlock`
call, over the state `σ` they consult. -/
structure FileLockOps (σ : Type) where
  /-- `FileLock_Lock(fileName, readOnly, FILELOCK_DEFAULT_WAIT, &err, NULL)`: a token, or
  none with `err` set. -/
  lock : Option Path → Bool → σ → (Option LockToken × Int) × σ
  /-- `FileLock_Unlock(token, &err, NULL)`: whether the lock was released. -/
  unlock : LockToken → σ → Bool × σ

/-! ## `errno` values that `FileIO_Lock` distinguishes (Linux) -/

/-- `ENOENT`. -/
def ENOENT : Int := 2
/-- `EACCES`. -/
def EACCES : Int := 13
/-- `EROFS`. -/
def EROFS : Int := 30
/-- `ENAMETOOLONG`. -/
def ENAMETOOLONG : Int := 36

end OpenVmTools
