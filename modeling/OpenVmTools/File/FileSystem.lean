import Mathlib.Logic.Function.Basic
import OpenVmTools.File.Lock

/-!
# The file system and the descriptor calls around it

The file system is a map from paths to nodes (bytes, permission bits, owner). An open
descriptor reads and writes the node its path names: the functions of `fileIO.c` modelled
here never rename or unlink a path while a descriptor is open on it.

The POSIX calls (`open(2)`, `unlink(2)`, `rename(2)`, `fchmod(2)`, `fchown(2)`, `pwrite(2)`)
take the outcome of the call as an argument where it can fail, and do what POSIX says when it
succeeds. `FileIO_Create`, `FileIO_Open`, `FileIO_Close` and `File_RenameRetry` belong to this
library but not to `fileIO.c`; they are modelled from the spec.
-/

namespace OpenVmTools

/-- A file node: its bytes, permission bits and owner. -/
structure Node where
  content : List UInt8
  mode : Nat
  uid : Nat
  gid : Nat
  deriving DecidableEq, Repr

/-- The file system: the node each path names. -/
abbrev FileSystem := Path → Option Node

namespace FileSystem

/-- `fs` with `p` naming `n`. -/
def set (fs : FileSystem) (p : Path) (n : Option Node) : FileSystem :=
  Function.update fs p n

/-- `fs` with the node at `p`, if any, changed by `f`. -/
def modify (fs : FileSystem) (p : Path) (f : Node → Node) : FileSystem :=
  fs.set p ((fs p).map f)

@[simp] theorem set_same (fs : FileSystem) (p : Path) (n : Option Node) : fs.set p n p = n := by
  simp [set]

@[simp] theorem set_other (fs : FileSystem) {p r : Path} (n : Option Node) (h : r ≠ p) :
    fs.set p n r = fs r := by
  simp [set, h]

@[simp] theorem modify_same (fs : FileSystem) (p : Path) (f : Node → Node) :
    fs.modify p f p = (fs p).map f := by
  simp [modify]

@[simp] theorem modify_other (fs : FileSystem) {p r : Path} (f : Node → Node) (h : r ≠ p) :
    fs.modify p f r = fs r := by
  simp [modify, h]

@[simp] theorem set_set_same (fs : FileSystem) (p : Path) (a b : Option Node) :
    (fs.set p a).set p b = fs.set p b := by
  simp [set]

@[simp] theorem modify_set_same (fs : FileSystem) (p : Path) (n : Node) (f : Node → Node) :
    (fs.set p (some n)).modify p f = fs.set p (some (f n)) := by
  simp [modify]

theorem modify_of_eq_some {fs : FileSystem} {p : Path} {n : Node} (f : Node → Node)
    (h : fs p = some n) : fs.modify p f = fs.set p (some (f n)) := by
  simp [modify, h]

@[simp] theorem set_modify_same (fs : FileSystem) (p : Path) (f : Node → Node) (b : Option Node) :
    (fs.modify p f).set p b = fs.set p b := by
  simp [modify]

theorem set_of_eq {fs : FileSystem} {p : Path} {a : Option Node} (h : fs p = a) : fs.set p a = fs := by
  subst h; simp [set]

end FileSystem

/-- The file system together with the state of the lock primitive. -/
structure World (σ : Type) where
  fs : FileSystem
  locks : σ

variable {σ : Type}

/-! ## POSIX calls -/

/-- Modelled from the spec: `File_FullPath` (lib/file, outside src/), the path itself (paths
are full paths), or `NULL` when the call fails. -/
def fileFullPath (ok : Bool) (p : Option Path) : Option Path :=
  if ok then p else none

/-- Modelled from the spec: `Posix_Unlink(p)` (lib/misc, outside src/), `unlink(2)` of `p`,
which removes `p` when the call succeeds. `ok` is whether the directory lets its entry be
removed. -/
def posixUnlink (ok : Bool) (fs : FileSystem) (p : Path) : FileSystem :=
  if ok then fs.set p none else fs

/-- `fstat(fd)`: the node the descriptor is open on, when the call succeeds. -/
def fstat (ok : Bool) (fs : FileSystem) (fd : FileIODescriptor) : Option Node :=
  if ok ∧ fd.isValid then fd.fileName.bind fs else none

/-- `fchmod(fd, mode)`: set the permission bits; `true` when the call succeeded. -/
def fchmod (ok : Bool) (fs : FileSystem) (fd : FileIODescriptor) (mode : Nat) :
    Bool × FileSystem :=
  match fd.fileName with
  | some p => if ok ∧ fd.isValid ∧ (fs p).isSome then
      (true, fs.modify p fun n => { n with mode := mode }) else (false, fs)
  | none => (false, fs)

/-- The mode `chown(2)` leaves on a regular file (Linux): set-user-ID cleared, and
set-group-ID cleared when group execute is set. -/
def chownMode (mode : Nat) : Nat :=
  let m := if mode.testBit 11 then mode - 0o4000 else mode
  if m.testBit 10 && m.testBit 3 then m - 0o2000 else m

/-- `fchown(fd, uid, gid)`: set the owner; `true` when the call succeeded. -/
def fchown (ok : Bool) (fs : FileSystem) (fd : FileIODescriptor) (uid gid : Nat) :
    Bool × FileSystem :=
  match fd.fileName with
  | some p => if ok ∧ fd.isValid ∧ (fs p).isSome then
      (true, fs.modify p fun n => { n with uid := uid, gid := gid, mode := chownMode n.mode })
      else (false, fs)
  | none => (false, fs)

/-- `rename(2)` of `src` onto `dst`: `dst` names what `src` named and `src` names nothing;
it fails when `src` names nothing. -/
def rename (fs : FileSystem) (src dst : Path) : Option FileSystem :=
  (fs src).map fun n r => if r = dst then some n else if r = src then none else fs r

/-- Bytes `buf` written at `offset` into `content`, as `pwrite(2)` does: a gap past the end
reads as zeros, and bytes past the written range are kept. -/
def writeAt (content : List UInt8) (offset : Nat) (buf : List UInt8) : List UInt8 :=
  content.take offset ++ List.replicate (offset - content.length) 0 ++ buf ++
    content.drop (offset + buf.length)

@[simp] theorem writeAt_zero (content buf : List UInt8) :
    writeAt content 0 buf = buf ++ content.drop buf.length := by
  simp [writeAt]

/-- `FileIO_Pwrite`: write `buf` at `offset` through the descriptor. -/
def fileIOPwrite (fs : FileSystem) (fd : FileIODescriptor) (buf : List UInt8) (offset : Nat) :
    FileIOResult × FileSystem :=
  match fd.fileName with
  | some p => if fd.isValid ∧ (fs p).isSome then
      (.success, fs.modify p fun n => { n with content := writeAt n.content offset buf })
      else (.error, fs)
  | none => (.error, fs)

/-- How `FileIO_Create` opens a file: `FILEIO_OPEN`, or `FILEIO_OPEN_CREATE`. -/
inductive FileIOOpenAction
  | «open»
  | openCreate
  deriving DecidableEq, Repr

/-- `open(2)` of `p`, which returns `osFd` or fails (`none`). Without `O_CREAT` the path must
name a node; with it a missing node is created empty with mode `mode` and owner `owner`, and
an existing node is opened as it is, not truncated. -/
def posixOpen (fs : FileSystem) (p : Path) (action : FileIOOpenAction) (mode : Nat)
    (owner : Nat × Nat) (osFd : Option Nat) : Option (Nat × FileSystem) :=
  osFd.bind fun fd =>
    match fs p, action with
    | some _, _ => some (fd, fs)
    | none, .openCreate => some (fd, fs.set p (some ⟨[], mode, owner.1, owner.2⟩))
    | none, .open => none

/-! ## The descriptor calls of the FileIO library outside `fileIO.c` -/

/-- Modelled from the spec: `FileIO_Create` (fileIOPosix.c, outside src/). Record the name,
take the lock when `FILEIO_OPEN_LOCKED` asks for it, then `open(2)`; on a failure release the
lock and leave the descriptor invalid. `osFd` is what `open(2)` returns; only success is
told apart by the callers here, so every failure of `open(2)` reports `FILEIO_ERROR`. -/
def fileIOCreate (ops : FileLockOps σ) (w : World σ) (file : FileIODescriptor) (pathName : Path)
    (access : FileIOOpenAccess) (action : FileIOOpenAction) (mode : Nat) (owner : Nat × Nat)
    (osFd : Option Nat) : FileIOResult × World σ × FileIODescriptor :=
  let l := fileIOLock ops (file.init pathName) access w.locks
  if l.1 = .success then
    match posixOpen w.fs pathName action mode owner osFd with
    | some (fd, fs') => (.success, ⟨fs', l.2.2⟩, { l.2.1 with posix := fd, flags := access })
    | none => (.error, ⟨w.fs, (fileIOUnlock ops l.2.1 l.2.2).2.2⟩, .invalid)
  else (l.1, ⟨w.fs, (fileIOUnlock ops l.2.1 l.2.2).2.2⟩, .invalid)

/-- Modelled from the spec: `FileIO_Open` (fileIOPosix.c, outside src/), `FileIO_Create` of
an existing file. -/
def fileIOOpen (ops : FileLockOps σ) (w : World σ) (file : FileIODescriptor) (pathName : Path)
    (access : FileIOOpenAccess) (osFd : Option Nat) : FileIOResult × World σ × FileIODescriptor :=
  fileIOCreate ops w file pathName access .open 0 (0, 0) osFd

/-- Modelled from the spec: `FileIO_Close` (fileIOPosix.c, outside src/). Close the POSIX
descriptor, release the lock token through `FileIO_Unlock` and invalidate the descriptor.
It returns `TRUE` when `close(2)` failed, taken here to happen exactly on `posix = -1`. -/
def fileIOClose (ops : FileLockOps σ) (file : FileIODescriptor) (s : σ) :
    Bool × FileIODescriptor × σ :=
  (decide (file.posix = -1), .invalid, (fileIOUnlock ops file s).2.2)

/-- Modelled from the spec: `File_RenameRetry` (lib/file, outside src/), `rename(2)` retried
while the destination is busy, within a budget of `n` attempts; `busy k` tells whether attempt
`k` finds it busy. It returns `0` on success. -/
def fileRenameRetry (fs : FileSystem) (src dst : Path) (busy : Nat → Bool) : Nat → Nat → Int × FileSystem
  | 0, _ => (1, fs)
  | n + 1, k =>
    if busy k then fileRenameRetry fs src dst busy n (k + 1)
    else match rename fs src dst with
      | some fs' => (0, fs')
      | none => (1, fs)

/-! ## Spec lemmas -/

section Spec

variable {fs fs' : FileSystem} {src dst r : Path}

theorem rename_eq_some_iff :
    rename fs src dst = some fs' ↔ ∃ n, fs src = some n ∧
      fs' = fun r => if r = dst then some n else if r = src then none else fs r := by
  simp [rename, eq_comm]

theorem rename_dst (h : rename fs src dst = some fs') : fs' dst = fs src := by
  obtain ⟨n, hn, rfl⟩ := rename_eq_some_iff.mp h
  simp [hn]

theorem rename_src (h : rename fs src dst = some fs') (hne : src ≠ dst) : fs' src = none := by
  obtain ⟨n, -, rfl⟩ := rename_eq_some_iff.mp h
  simp [hne]

theorem rename_other (h : rename fs src dst = some fs') (h₁ : r ≠ src) (h₂ : r ≠ dst) :
    fs' r = fs r := by
  obtain ⟨n, -, rfl⟩ := rename_eq_some_iff.mp h
  simp [h₁, h₂]

theorem fchmod_of_validOn {ok : Bool} {fs : FileSystem} {fd : FileIODescriptor} {p : Path}
    (mode : Nat) (hv : fd.ValidOn p) (hn : (fs p).isSome) :
    fchmod ok fs fd mode = (ok, if ok then fs.modify p fun n => { n with mode := mode } else fs) := by
  cases ok <;> simp_all [fchmod, FileIODescriptor.ValidOn]

theorem fchown_of_validOn {ok : Bool} {fs : FileSystem} {fd : FileIODescriptor} {p : Path}
    (uid gid : Nat) (hv : fd.ValidOn p) (hn : (fs p).isSome) :
    fchown ok fs fd uid gid = (ok, if ok then fs.modify p
      (fun n => { n with uid := uid, gid := gid, mode := chownMode n.mode }) else fs) := by
  cases ok <;> simp_all [fchown, FileIODescriptor.ValidOn]

/-- `File_RenameRetry` either returns `0` having renamed, or fails and leaves the file system
as it was. -/
theorem fileRenameRetry_cases (fs : FileSystem) (src dst : Path) (busy : Nat → Bool) (n k : Nat) :
    ((fileRenameRetry fs src dst busy n k).1 = 0 ∧
        rename fs src dst = some (fileRenameRetry fs src dst busy n k).2) ∨
      ((fileRenameRetry fs src dst busy n k).1 ≠ 0 ∧ (fileRenameRetry fs src dst busy n k).2 = fs) := by
  induction n generalizing k with
  | zero => simp [fileRenameRetry]
  | succ n ih =>
    unfold fileRenameRetry
    split
    · exact ih (k + 1)
    · split <;> simp_all

end Spec

theorem posixOpen_open_fs {fs fs' : FileSystem} {p : Path} {mode : Nat} {owner : Nat × Nat}
    {osFd : Option Nat} {fd : Nat} (h : posixOpen fs p .open mode owner osFd = some (fd, fs')) :
    fs' = fs := by
  cases osFd <;> simp [posixOpen] at h
  split at h <;> simp_all

section DescriptorCalls

variable (ops : FileLockOps σ) (w : World σ) (file : FileIODescriptor) (p : Path)
  (access : FileIOOpenAccess) (action : FileIOOpenAction) (mode : Nat) (owner : Nat × Nat)
  (osFd : Option Nat)

@[simp] theorem fileIOClose_snd_fst (s : σ) : (fileIOClose ops file s).2.1 = .invalid := rfl

/-- What `FileIO_Create` can do: succeed, having taken the lock it was asked for and done
`open(2)`, or fail with the file system unchanged, the lock it took released, and the
descriptor invalid. -/
theorem fileIOCreate_cases :
    (∃ fd fs', (fileIOLock ops (file.init p) access w.locks).1 = .success ∧
        posixOpen w.fs p action mode owner osFd = some (fd, fs') ∧
        fileIOCreate ops w file p access action mode owner osFd =
          (.success, ⟨fs', (fileIOLock ops (file.init p) access w.locks).2.2⟩,
            { (fileIOLock ops (file.init p) access w.locks).2.1 with posix := fd, flags := access })) ∨
      ((fileIOCreate ops w file p access action mode owner osFd).1 ≠ .success ∧
        (fileIOCreate ops w file p access action mode owner osFd).2.1 =
          ⟨w.fs, (fileIOUnlock ops (fileIOLock ops (file.init p) access w.locks).2.1
            (fileIOLock ops (file.init p) access w.locks).2.2).2.2⟩ ∧
        (fileIOCreate ops w file p access action mode owner osFd).2.2 = .invalid) := by
  unfold fileIOCreate
  by_cases hl : (fileIOLock ops (file.init p) access w.locks).1 = .success
  · rcases ho : posixOpen w.fs p action mode owner osFd with _ | ⟨fd, fs'⟩
    · right; simp [hl, ho]
    · left; exact ⟨fd, fs', hl, rfl, by simp [hl, ho]⟩
  · right; simp [hl]

/-- A file opened without `O_CREAT` leaves the file system as it is. -/
@[simp] theorem fileIOOpen_fs : (fileIOOpen ops w file p access osFd).2.1.fs = w.fs := by
  rcases fileIOCreate_cases ops w file p access .open 0 (0, 0) osFd with
    ⟨fd, fs', -, ho, h⟩ | ⟨-, h, -⟩
  · unfold fileIOOpen
    rw [h]
    exact posixOpen_open_fs ho
  · rw [fileIOOpen, h]

/-- A successful `FileIO_Open` leaves the descriptor valid on the path, with the access
flags it was asked for. -/
theorem fileIOOpen_of_success (h : (fileIOOpen ops w file p access osFd).1 = .success) :
    (fileIOOpen ops w file p access osFd).2.2.ValidOn p ∧
      (fileIOOpen ops w file p access osFd).2.2.flags = access := by
  rcases fileIOCreate_cases ops w file p access .open 0 (0, 0) osFd with
    ⟨fd, fs', -, -, he⟩ | ⟨hne, -⟩
  · simp only [fileIOOpen, he, FileIODescriptor.ValidOn, fileIOLock_fileName,
      FileIODescriptor.init_fileName, and_true]
    omega
  · exact absurd h hne

/-- `FileIO_Open` succeeds exactly when `FileIO_Lock` does, `open(2)` returns a descriptor and
the path names a file. -/
theorem fileIOOpen_eq_success_iff :
    (fileIOOpen ops w file p access osFd).1 = .success ↔
      (fileIOLock ops (file.init p) access w.locks).1 = .success ∧ osFd.isSome ∧
        (w.fs p).isSome := by
  unfold fileIOOpen fileIOCreate
  dsimp only
  split_ifs with hl
  · rcases osFd with _ | fd <;> rcases hp : w.fs p with _ | n <;> simp [posixOpen, hl, hp]
  · simp [hl]

/-- `FileIO_Create` without `FILEIO_OPEN_LOCKED` takes no lock: it is `open(2)` on the
descriptor, which stays invalid if the call fails. -/
theorem fileIOCreate_of_not_locked (h : access.locked = false) :
    fileIOCreate ops w file p access action mode owner osFd =
      match posixOpen w.fs p action mode owner osFd with
      | some (fd, fs') => (.success, ⟨fs', w.locks⟩, { file.init p with posix := fd, flags := access })
      | none => (.error, ⟨w.fs, (fileIOUnlock ops (file.init p) w.locks).2.2⟩, .invalid) := by
  simp [fileIOCreate, fileIOLock_of_not_locked _ _ _ _ h]

end DescriptorCalls

theorem posixOpen_openCreate (fs : FileSystem) (p : Path) (mode : Nat) (owner : Nat × Nat)
    (osFd : Option Nat) :
    posixOpen fs p .openCreate mode owner osFd =
      osFd.map fun fd => (fd, if fs p = none then fs.set p (some ⟨[], mode, owner.1, owner.2⟩)
        else fs) := by
  cases osFd <;> cases h : fs p <;> simp [posixOpen, h]

end OpenVmTools
