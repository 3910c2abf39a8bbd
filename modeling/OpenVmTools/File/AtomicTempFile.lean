import OpenVmTools.File.FileSystem
import OpenVmTools.File.LockTable

/-!
# `FileIO_AtomicTempFile`

The temp-file factory of `fileIO.c` (POSIX build): it names the sibling `p~` of the file,
reads the file's mode and owner with `fstat`, unlinks a stale sibling (ignoring the result),
creates the sibling with `FILEIO_OPEN_CREATE` and copies mode and owner with `fchmod` and
`fchown`. Every failure goes to `bail:`, which closes and unlinks the sibling if it was
opened.

`fileIOAtomicTempFile_cases` says everything the call can do, for every outcome of the
calls it makes. It changes the file system at the sibling only. It returns `FALSE` having left
the sibling as it was or removed it, or, where the unlinks fail, naming the node it opened or
created. Or it returns `TRUE` with the sibling open on a node that has the file's owner.

The function's comment says it creates a new file with the file's permissions and owner, and
two calls defeat that (`fileIOAtomicTempFile_reopens_stale_sibling`). The result of
`Posix_Unlink` is not checked, and when it fails on a stale sibling `FILEIO_OPEN_CREATE`
reopens that node without truncating it (`staleContent`). `fchown` comes after `fchmod`, and
`chown(2)` clears the set-user-ID bit, and the set-group-ID bit with group execute, that
`fchmod` has just set (`chownMode`).
-/

namespace OpenVmTools

variable {σ : Type}

/-- The outcomes of the calls `FileIO_AtomicTempFile` makes, and the ids of the calling
process, which a node created by `open(2)` gets. -/
structure TempFileEnv where
  fullPathOk : Bool
  fstatOk : Bool
  unlinkOk : Bool
  createFd : Option Nat
  fchmodOk : Bool
  fchownOk : Bool
  euid : Nat
  egid : Nat

/-- `FileIOAtomicTempPath`: the full path of the file with `~` appended. -/
def fileIOAtomicTempPath (fullPathOk : Bool) (fileFD : FileIODescriptor) : Option Path :=
  (fileFullPath fullPathOk (fileIOFilename fileFD)).map (· ++ "~")

/-- Modelled from the spec: `File_Unlink` (lib/file, outside src/), `unlink(2)` of the path
through `Posix_Unlink`. It removes an entry of the directory the `Posix_Unlink` of the stale
sibling removes from, which POSIX allows or refuses by that directory's permissions, so it
has that call's outcome `unlinkOk`. -/
def fileUnlink (unlinkOk : Bool) (fs : FileSystem) (p : Option Path) : FileSystem :=
  match p with
  | some p => posixUnlink unlinkOk fs p
  | none => fs

/-- The `bail:` exit of `FileIO_AtomicTempFile`: an opened temp file is closed and unlinked. -/
def atomicTempFileBail (ops : FileLockOps σ) (unlinkOk : Bool) (w : World σ)
    (tempFD : FileIODescriptor) (tempPath : Option Path) : Bool × World σ × FileIODescriptor :=
  if tempFD.isValid then
    let c := fileIOClose ops tempFD w.locks
    (false, ⟨fileUnlink unlinkOk w.fs tempPath, c.2.2⟩, c.2.1)
  else (false, w, tempFD)

/-- The access `FILEIO_ACCESS_READ | FILEIO_ACCESS_WRITE` the temp file is created with. -/
def tempFileAccess : FileIOOpenAccess := ⟨true, true, false⟩

/-- `FileIO_AtomicTempFile` (POSIX build). -/
def fileIOAtomicTempFile (ops : FileLockOps σ) (env : TempFileEnv) (w : World σ)
    (fileFD tempFD : FileIODescriptor) : Bool × World σ × FileIODescriptor :=
  match fileIOAtomicTempPath env.fullPathOk fileFD with
  | none => atomicTempFileBail ops env.unlinkOk w tempFD none
  | some tempPath =>
    match fstat env.fstatOk w.fs fileFD with
    | none => atomicTempFileBail ops env.unlinkOk w tempFD (some tempPath)
    | some stbuf =>
      let c := fileIOCreate ops ⟨posixUnlink env.unlinkOk w.fs tempPath, w.locks⟩ tempFD tempPath
        tempFileAccess .openCreate stbuf.mode (env.euid, env.egid) env.createFd
      if c.1.isSuccess then
        let m := fchmod env.fchmodOk c.2.1.fs c.2.2 stbuf.mode
        if m.1 then
          let o := fchown env.fchownOk m.2 c.2.2 stbuf.uid stbuf.gid
          if o.1 then (true, ⟨o.2, c.2.1.locks⟩, c.2.2)
          else atomicTempFileBail ops env.unlinkOk ⟨o.2, c.2.1.locks⟩ c.2.2 (some tempPath)
        else atomicTempFileBail ops env.unlinkOk ⟨m.2, c.2.1.locks⟩ c.2.2 (some tempPath)
      else atomicTempFileBail ops env.unlinkOk c.2.1 c.2.2 (some tempPath)

/-- The bytes the temp file starts with: none, unless `Posix_Unlink` failed on a stale
sibling, which `FILEIO_OPEN_CREATE` then reopens as it is. -/
def staleContent (unlinkOk : Bool) (fs : FileSystem) (s : Path) : List UInt8 :=
  if unlinkOk then [] else ((fs s).map Node.content).getD []

/-! ## Spec lemmas -/

/-- The sibling of a path is another path. -/
theorem append_tilde_ne (p : Path) : p ++ "~" ≠ p := by
  intro h
  have := congrArg String.length h
  simp only [String.length_append] at this
  have : "~".length = 1 := rfl
  omega

theorem fileIOAtomicTempPath_of_fileName {fileFD : FileIODescriptor} {p : Path} (ok : Bool)
    (hp : fileFD.fileName = some p) :
    fileIOAtomicTempPath ok fileFD = if ok then some (p ++ "~") else none := by
  cases ok <;> simp [fileIOAtomicTempPath, fileFullPath, fileIOFilename, hp]

theorem fstat_eq_some {ok : Bool} {fs : FileSystem} {fd : FileIODescriptor} {p : Path}
    {n : Node} (hp : fd.fileName = some p) (h : fstat ok fs fd = some n) : fs p = some n := by
  unfold fstat at h
  split at h
  · simpa [hp] using h
  · cases h

section Bail

variable (ops : FileLockOps σ) (unlinkOk : Bool) (w : World σ) (tempFD : FileIODescriptor)
  (tempPath : Option Path)

@[simp] theorem atomicTempFileBail_fst :
    (atomicTempFileBail ops unlinkOk w tempFD tempPath).1 = false := by
  unfold atomicTempFileBail; split <;> rfl

/-- After `bail:` the temp descriptor is invalid. -/
@[simp] theorem atomicTempFileBail_posix :
    (atomicTempFileBail ops unlinkOk w tempFD tempPath).2.2.posix = -1 := by
  unfold atomicTempFileBail
  split
  · rfl
  · next h => simpa using h

@[simp] theorem atomicTempFileBail_invalid :
    atomicTempFileBail ops unlinkOk w .invalid tempPath = (false, w, .invalid) := by
  simp [atomicTempFileBail]

theorem atomicTempFileBail_fs :
    (atomicTempFileBail ops unlinkOk w tempFD tempPath).2.1.fs =
      if tempFD.isValid then fileUnlink unlinkOk w.fs tempPath else w.fs := by
  unfold atomicTempFileBail; split <;> simp_all

/-- `bail:` after the temp file was opened on `s`, which names `n`: `s` names nothing, or, where
the unlink fails, still `n`. -/
theorem atomicTempFileBail_fs_of_valid {s : Path} {n : Node} {fs : FileSystem}
    (hv : tempFD.posix ≠ -1) :
    (atomicTempFileBail ops unlinkOk ⟨fs.set s (some n), w.locks⟩ tempFD (some s)).2.1.fs =
      if unlinkOk then fs.set s none else fs.set s (some n) := by
  rw [atomicTempFileBail_fs, if_pos (by simpa using hv)]
  cases unlinkOk <;> simp [fileUnlink, posixUnlink]

end Bail

/-- What `FileIO_AtomicTempFile` can do, for every outcome of the calls it makes. It can return
`FALSE` with the temp descriptor invalid and the sibling untouched or removed, or, where the
unlinks fail, naming a node with the bytes it had (none if it named nothing). Or it can return
`TRUE` with the temp descriptor open on the sibling, which names a node with the file's owner,
the mode `fchown` leaves of the file's mode, and the stale bytes, if any. -/
theorem fileIOAtomicTempFile_cases (ops : FileLockOps σ) (env : TempFileEnv) (w : World σ)
    (fileFD tempFD : FileIODescriptor) {p : Path} (hp : fileFD.fileName = some p) :
    ((fileIOAtomicTempFile ops env w fileFD tempFD).1 = false ∧
        (fileIOAtomicTempFile ops env w fileFD tempFD).2.2.posix = -1 ∧
        ((fileIOAtomicTempFile ops env w fileFD tempFD).2.1.fs = w.fs ∨
          (fileIOAtomicTempFile ops env w fileFD tempFD).2.1.fs = w.fs.set (p ++ "~") none ∨
          (env.unlinkOk = false ∧ ∃ n : Node, n.content = staleContent false w.fs (p ++ "~") ∧
            (fileIOAtomicTempFile ops env w fileFD tempFD).2.1.fs =
              w.fs.set (p ++ "~") (some n)))) ∨
      ((fileIOAtomicTempFile ops env w fileFD tempFD).1 = true ∧ ∃ n : Node, ∃ fd : Nat,
        w.fs p = some n ∧
        (fileIOAtomicTempFile ops env w fileFD tempFD).2.2 =
          { tempFD with posix := fd, flags := tempFileAccess, fileName := some (p ++ "~") } ∧
        (fileIOAtomicTempFile ops env w fileFD tempFD).2.1.fs = w.fs.set (p ++ "~")
          (some ⟨staleContent env.unlinkOk w.fs (p ++ "~"), chownMode n.mode, n.uid, n.gid⟩)) := by
  unfold fileIOAtomicTempFile
  rw [fileIOAtomicTempPath_of_fileName _ hp]
  cases hfp : env.fullPathOk
  · left
    simp [atomicTempFileBail_fs, fileUnlink]
  simp only [↓reduceIte]
  cases hst : fstat env.fstatOk w.fs fileFD with
  | none =>
    left
    simp only [atomicTempFileBail_fst, atomicTempFileBail_posix, atomicTempFileBail_fs,
      fileUnlink, posixUnlink, true_and]
    split_ifs <;> simp
  | some st =>
    have hn := fstat_eq_some hp hst
    simp only []
    rw [fileIOCreate_of_not_locked _ _ _ _ _ _ _ _ _ rfl, posixOpen_openCreate]
    cases hfd : env.createFd with
    | none =>
      left
      cases env.unlinkOk <;> simp [posixUnlink, FileIOResult.isSuccess]
    | some fd =>
      -- the node the sibling names once `open(2)` is done
      obtain ⟨n₀, hfs₂, hc⟩ : ∃ n₀ : Node,
          (if posixUnlink env.unlinkOk w.fs (p ++ "~") (p ++ "~") = none then
              (posixUnlink env.unlinkOk w.fs (p ++ "~")).set (p ++ "~")
                (some ⟨[], st.mode, env.euid, env.egid⟩)
            else posixUnlink env.unlinkOk w.fs (p ++ "~")) = w.fs.set (p ++ "~") (some n₀) ∧
          n₀.content = staleContent env.unlinkOk w.fs (p ++ "~") := by
        cases env.unlinkOk
        · cases hs : w.fs (p ++ "~") with
          | none => exact ⟨⟨[], st.mode, env.euid, env.egid⟩, by simp [posixUnlink, hs],
              by simp [staleContent, hs]⟩
          | some n => exact ⟨n, by simp [posixUnlink, hs, FileSystem.set_of_eq hs],
              by simp [staleContent, hs]⟩
        · exact ⟨⟨[], st.mode, env.euid, env.egid⟩, by simp [posixUnlink], by simp [staleContent]⟩
      have hv : ({ tempFD.init (p ++ "~") with posix := fd, flags := tempFileAccess } :
          FileIODescriptor).ValidOn (p ++ "~") := by
        simp only [FileIODescriptor.ValidOn, FileIODescriptor.init_fileName, and_true]
        omega
      -- `bail:` once the sibling is open on a node with the bytes it had
      have bail : ∀ n : Node, n.content = staleContent env.unlinkOk w.fs (p ++ "~") →
          (atomicTempFileBail ops env.unlinkOk ⟨w.fs.set (p ++ "~") (some n), w.locks⟩
              { tempFD.init (p ++ "~") with posix := fd, flags := tempFileAccess }
              (some (p ++ "~"))).2.1.fs = w.fs.set (p ++ "~") none ∨
            (env.unlinkOk = false ∧ ∃ n' : Node, n'.content = staleContent false w.fs (p ++ "~") ∧
              (atomicTempFileBail ops env.unlinkOk ⟨w.fs.set (p ++ "~") (some n), w.locks⟩
                { tempFD.init (p ++ "~") with posix := fd, flags := tempFileAccess }
                (some (p ++ "~"))).2.1.fs = w.fs.set (p ++ "~") (some n')) := by
        intro n hcn
        rw [atomicTempFileBail_fs_of_valid _ _ _ _ hv.1]
        cases hu : env.unlinkOk
        · exact .inr ⟨rfl, n, by rw [hcn, hu], rfl⟩
        · exact .inl rfl
      simp only [Option.map_some', hfs₂, FileIOResult.isSuccess, decide_True, ↓reduceIte]
      rw [fchmod_of_validOn _ hv (by simp)]
      cases env.fchmodOk
      · exact .inl ⟨by simp, by simp, .inr (bail n₀ hc)⟩
      simp only [↓reduceIte, FileSystem.modify_set_same]
      rw [fchown_of_validOn _ _ hv (by simp)]
      cases env.fchownOk
      · exact .inl ⟨by simp, by simp, .inr (bail _ hc)⟩
      right
      refine ⟨rfl, st, fd, hn, rfl, ?_⟩
      simp [hc]

/-- `FileIO_AtomicTempFile` takes no lock: for every outcome of the calls it makes, the lock
state is as it was and the temp descriptor holds no token. -/
theorem fileIOAtomicTempFile_locks (ops : FileLockOps σ) (env : TempFileEnv) (w : World σ)
    (fileFD tempFD : FileIODescriptor) (h : tempFD.lockToken = none) :
    (fileIOAtomicTempFile ops env w fileFD tempFD).2.1.locks = w.locks ∧
      (fileIOAtomicTempFile ops env w fileFD tempFD).2.2.lockToken = none := by
  have bail : ∀ w' fd tp, fd.lockToken = none →
      (atomicTempFileBail ops env.unlinkOk w' fd tp).2.1.locks = w'.locks ∧
        (atomicTempFileBail ops env.unlinkOk w' fd tp).2.2.lockToken = none := by
    intro w' fd tp hfd
    unfold atomicTempFileBail
    split <;> simp [fileIOClose, fileIOUnlock_of_lockToken_none _ _ _ hfd, hfd]
  unfold fileIOAtomicTempFile
  split
  · exact bail _ _ _ h
  split
  · exact bail _ _ _ h
  rw [fileIOCreate_of_not_locked _ _ _ _ _ _ _ _ _ rfl]
  split
  · simp only [FileIOResult.isSuccess, decide_True, ↓reduceIte]
    split_ifs <;> first | exact ⟨rfl, h⟩ | exact bail _ _ _ h
  · have hinit : ∀ q, (tempFD.init q).lockToken = none := fun _ => h
    simp [FileIOResult.isSuccess, fileIOUnlock_of_lockToken_none _ _ _ (hinit _)]

/-- The spec's scenario: `cfg` holds `a=1` with mode `0644`, and a stale `cfg~` holds `old=99`. -/
def cfgFileSystem : FileSystem := fun q =>
  if q = "cfg" then some ⟨[97, 61, 49], 420, 1000, 1000⟩
  else if q = "cfg~" then some ⟨[111, 108, 100, 61, 57, 57], 384, 1000, 1000⟩
  else none

/-- Process 0 holds the write lock on `cfg`. -/
def cfgLocks : FileLockTable :=
  ⟨fun q => if q = "cfg" then .exclusive ⟨"cfg", 0, 0⟩ else .shared [], 1⟩

/-- The descriptor process 0 opened on `cfg` with `FILEIO_OPEN_LOCKED` for writing. -/
def cfgDescriptor : FileIODescriptor := ⟨3, ⟨true, true, true⟩, some "cfg", some ⟨"cfg", 0, 0⟩⟩

/-- Every call succeeds except the `Posix_Unlink` of the stale sibling. -/
def staleSiblingEnv : TempFileEnv := ⟨true, true, false, some 4, true, true, 1000, 1000⟩

/-- `cfg` holds `a=1` with mode `06755` (set-user-ID, set-group-ID, group execute), and a stale
`cfg~` holds `old=99`. -/
def setidFileSystem : FileSystem := fun q =>
  if q = "cfg" then some ⟨[97, 61, 49], 0o6755, 1000, 1000⟩
  else if q = "cfg~" then some ⟨[111, 108, 100, 61, 57, 57], 0o600, 1000, 1000⟩
  else none

/-- On `cfg` with mode `06755` and a stale `cfg~` holding `old=99` that survives
`Posix_Unlink`, `FileIO_AtomicTempFile` returns `TRUE` with `cfg~` naming the old node, bytes
`old=99` kept, and mode `0755`: not a new empty file with `cfg`'s permissions. -/
theorem fileIOAtomicTempFile_reopens_stale_sibling :
    setidFileSystem "cfg" = some ⟨[97, 61, 49], 0o6755, 1000, 1000⟩ ∧
      (fileIOAtomicTempFile (FileLockTable.ops 0) staleSiblingEnv ⟨setidFileSystem, cfgLocks⟩
        cfgDescriptor .invalid).1 = true ∧
      (fileIOAtomicTempFile (FileLockTable.ops 0) staleSiblingEnv ⟨setidFileSystem, cfgLocks⟩
        cfgDescriptor .invalid).2.1.fs "cfg~" =
        some ⟨[111, 108, 100, 61, 57, 57], 0o755, 1000, 1000⟩ := by
  decide

end OpenVmTools
