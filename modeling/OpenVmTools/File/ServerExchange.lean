import OpenVmTools.File.AtomicExchange

/-!
# The `VMX86_SERVER` exchange

On a VMkernel host, `FileIO_AtomicExchangeFiles` as the server build compiles it (with
`VMX86_SERVER`) does not rename. It splits both full paths with `File_GetPathName`, copies the
new file's base name into `args->srcFile` and rebuilds the current file's path as `"%s/%s"` in
`args->dstFilePath` (each `Str_Snprintf` failing when the text does not fit its field), opens
the new file's directory, and asks VMFS through the `IOCTLCMD_VMFS_SWAP_FILES` ioctl to
exchange the contents of the two files, as the function's comment says. Both descriptors stay
open, so `currFD` keeps its lock throughout. open-vm-tools builds without `VMX86_SERVER`, where
the branch is `NOT_REACHED()` (`fileIOAtomicExchangeFiles`); `fileIOAtomicExchangeFilesServer`
is the function of the server build.

* `fileGetPathName_join`: a path with a `/` is its directory, `/` and its base name, so the
  ioctl names the new file and the current file.
* `atomicExchangeSwap_eq`: the branch is the ioctl on those two paths when both names fit and
  the directory opens, and returns `FALSE` with nothing changed otherwise.
* `atomicExchange_builds_agree`: on either build and either host, a `TRUE` result leaves on the
  current path the bytes the new path held. The rename path moves the whole node and removes
  the new path; the swap keeps both paths with their modes and owners, puts the old bytes on
  the new path, and leaves the lock state and both descriptors as they were.
-/

namespace OpenVmTools

variable {σ : Type}

/-! ## The library calls of the branch -/

/-- Modelled from the spec: `File_GetPathName` (lib/file, outside src/) on a full path, whose
separators are single: the text before its last `/`, and the text after it. -/
def fileGetPathName (p : Path) : Path × Path :=
  (String.mk ((p.data.reverse.dropWhile (· != '/')).drop 1).reverse,
    String.mk (p.data.reverse.takeWhile (· != '/')).reverse)

/-- Modelled from the spec: `Str_Snprintf(buf, size, fmt, ...)` (lib/string, outside src/)
producing the text `s`: the number of bytes written when `s` and its terminating NUL fit in
`size` bytes, `-1` otherwise. -/
def strSnprintf (size : Nat) (s : String) : Int :=
  if s.utf8ByteSize < size then s.utf8ByteSize else -1

theorem strSnprintf_lt_zero (size : Nat) (s : String) :
    strSnprintf size s < 0 ↔ ¬ s.utf8ByteSize < size := by
  unfold strSnprintf
  split_ifs <;> omega

/-- What the branch depends on outside src/: the sizes of the fields `srcFile` and
`dstFilePath` of `FS_SwapFilesArgs`, what `Posix_Open` of the directory returns, and whether
the ioctl succeeds. -/
structure SwapEnv where
  srcFileSize : Nat
  dstFilePathSize : Nat
  dirFd : Option Nat
  ioctlOk : Bool

/-- `ioctl(fd, IOCTLCMD_VMFS_SWAP_FILES, args)`: the contents of the two files are exchanged,
each keeping its mode and owner; it fails when the call fails or a file is missing. -/
def vmfsSwapFiles (ok : Bool) (fs : FileSystem) (src dst : Path) : Bool × FileSystem :=
  match fs src, fs dst with
  | some ns, some nd =>
    if ok then
      (true, (fs.set src (some { ns with content := nd.content })).set dst
        (some { nd with content := ns.content }))
    else (false, fs)
  | _, _ => (false, fs)

/-- The `VMX86_SERVER` branch of `FileIO_AtomicExchangeFiles`: its result and file system. The
`File_FullPath` of a descriptor's name is the name (paths are full paths); the `ASSERT`s that
it is not `NULL` make the other case unreachable. -/
def atomicExchangeSwap (env : SwapEnv) (fs : FileSystem) (newFD currFD : FileIODescriptor) :
    Bool × FileSystem :=
  match fileIOFilename currFD, fileIOFilename newFD with
  | some currPath, some newPath =>
    if strSnprintf env.srcFileSize (fileGetPathName newPath).2 < 0 then (false, fs)
    else if strSnprintf env.dstFilePathSize
        ((fileGetPathName currPath).1 ++ "/" ++ (fileGetPathName currPath).2) < 0 then (false, fs)
    else match env.dirFd with
      | none => (false, fs)
      | some _ => vmfsSwapFiles env.ioctlOk fs
          ((fileGetPathName newPath).1 ++ "/" ++ (fileGetPathName newPath).2)
          ((fileGetPathName currPath).1 ++ "/" ++ (fileGetPathName currPath).2)
  | _, _ => (false, fs)

/-- `FileIO_AtomicExchangeFiles` as the `VMX86_SERVER` build compiles it: the swap on a
VMkernel host, which leaves both descriptors open and the lock state alone, and the rename path
elsewhere. -/
def fileIOAtomicExchangeFilesServer (ops : FileLockOps σ) (env : ExchangeEnv) (swap : SwapEnv)
    (w : World σ) (newFD currFD : FileIODescriptor) :
    Option Bool × World σ × FileIODescriptor × FileIODescriptor :=
  if env.osIsVMK then
    (some (atomicExchangeSwap swap w.fs newFD currFD).1,
      ⟨(atomicExchangeSwap swap w.fs newFD currFD).2, w.locks⟩, newFD, currFD)
  else fileIOAtomicExchangeFiles ops env w newFD currFD

/-! ## Splitting a path -/

/-- Dropping everything after the last `/` of a text that has one stops at that `/`. -/
theorem dropWhile_ne_slash {l : List Char} (h : '/' ∈ l) :
    l.dropWhile (· != '/') = '/' :: (l.dropWhile (· != '/')).tail := by
  induction l with
  | nil => simp at h
  | cons c cs ih =>
    by_cases hc : c = '/'
    · simp [hc]
    · have hcs : '/' ∈ cs := by simpa [Ne.symm hc] using h
      simpa [List.dropWhile_cons, hc] using ih hcs

/-- A path with a `/` is its directory, `/`, and its base name. -/
theorem fileGetPathName_join (p : Path) (h : '/' ∈ p.data) :
    (fileGetPathName p).1 ++ "/" ++ (fileGetPathName p).2 = p := by
  have hd := dropWhile_ne_slash (List.mem_reverse.mpr h)
  have hsplit := List.takeWhile_append_dropWhile (· != '/') p.data.reverse
  rw [hd] at hsplit
  have hp := congrArg List.reverse hsplit
  simp only [List.reverse_append, List.reverse_cons, List.reverse_reverse] at hp
  apply String.ext
  simp only [fileGetPathName, String.data_append]
  rw [hd, List.drop_one, List.tail_cons]
  exact hp

/-! ## The swap -/

/-- The ioctl exchanges the contents of two existing files when it succeeds, and otherwise
changes nothing. -/
theorem vmfsSwapFiles_cases (ok : Bool) (fs : FileSystem) (src dst : Path) :
    ((vmfsSwapFiles ok fs src dst).1 = true ∧ ∃ ns nd, fs src = some ns ∧ fs dst = some nd ∧
        (vmfsSwapFiles ok fs src dst).2 = (fs.set src (some { ns with content := nd.content })).set
          dst (some { nd with content := ns.content })) ∨
      ((vmfsSwapFiles ok fs src dst).1 = false ∧ (vmfsSwapFiles ok fs src dst).2 = fs) := by
  unfold vmfsSwapFiles
  split
  · next ns nd hs hd =>
    cases ok
    · exact .inr ⟨rfl, rfl⟩
    · exact .inl ⟨rfl, ns, nd, hs, hd, rfl⟩
  · exact .inr ⟨rfl, rfl⟩

/-- The branch on `newFD` named `q` and `currFD` named `p`, both with a `/`: the ioctl on `q`
and `p` when `q`'s base name and `p` fit their fields and the directory opens, `FALSE` with
nothing changed otherwise. -/
theorem atomicExchangeSwap_eq (env : SwapEnv) (fs : FileSystem) {newFD currFD : FileIODescriptor}
    {p q : Path} (hq : newFD.fileName = some q) (hp : currFD.fileName = some p)
    (hsq : '/' ∈ q.data) (hsp : '/' ∈ p.data) :
    atomicExchangeSwap env fs newFD currFD =
      if (fileGetPathName q).2.utf8ByteSize < env.srcFileSize ∧
          p.utf8ByteSize < env.dstFilePathSize ∧ env.dirFd.isSome then
        vmfsSwapFiles env.ioctlOk fs q p
      else (false, fs) := by
  simp only [atomicExchangeSwap, fileIOFilename, hq, hp, fileGetPathName_join _ hsq,
    fileGetPathName_join _ hsp, strSnprintf_lt_zero]
  by_cases h₁ : (fileGetPathName q).2.utf8ByteSize < env.srcFileSize <;>
    by_cases h₂ : p.utf8ByteSize < env.dstFilePathSize <;>
    cases hd : env.dirFd <;> simp [h₁, h₂]

/-! ## The two builds -/

/-- On either build and either host, when `FileIO_AtomicExchangeFiles` of `newFD` on `q` over
`currFD` on `p` (two full paths) returns `TRUE`, `p` holds the bytes `q` held. On a VMkernel
host the server build has exchanged the two contents: `q` holds `p`'s old bytes, both keep
their mode and owner, and the lock state and both descriptors are as they were. On a guest
the rename path has moved `q`'s node onto `p` and `q` names nothing. -/
theorem atomicExchange_builds_agree (ops : FileLockOps σ) (env : ExchangeEnv) (swap : SwapEnv)
    (w : World σ) (newFD currFD : FileIODescriptor) {p q : Path} (hq : newFD.fileName = some q)
    (hp : currFD.fileName = some p) (hsq : '/' ∈ q.data) (hsp : '/' ∈ p.data)
    (hpq : p ≠ q) (h : (fileIOAtomicExchangeFilesServer ops env swap w newFD currFD).1 = some true) :
    ((fileIOAtomicExchangeFilesServer ops env swap w newFD currFD).2.1.fs p).map Node.content =
        (w.fs q).map Node.content ∧
      (env.osIsVMK = true →
        (∃ np nq, w.fs p = some np ∧ w.fs q = some nq ∧
          (fileIOAtomicExchangeFilesServer ops env swap w newFD currFD).2.1.fs p =
            some { np with content := nq.content } ∧
          (fileIOAtomicExchangeFilesServer ops env swap w newFD currFD).2.1.fs q =
            some { nq with content := np.content }) ∧
        (fileIOAtomicExchangeFilesServer ops env swap w newFD currFD).2.1.locks = w.locks ∧
        (fileIOAtomicExchangeFilesServer ops env swap w newFD currFD).2.2 = (newFD, currFD)) ∧
      (env.osIsVMK = false →
        (fileIOAtomicExchangeFilesServer ops env swap w newFD currFD).2.1.fs p = w.fs q ∧
        (fileIOAtomicExchangeFilesServer ops env swap w newFD currFD).2.1.fs q = none) := by
  cases hvmk : env.osIsVMK
  · -- the rename path
    simp only [fileIOAtomicExchangeFilesServer, hvmk, Bool.false_eq_true, ↓reduceIte] at h ⊢
    have hr := fileIOAtomicExchangeFiles_rename_of_true ops env w newFD currFD hvmk hq hp h
    have hdst := rename_dst hr
    exact ⟨by rw [hdst], by simp, fun _ => ⟨hdst, rename_src hr (Ne.symm hpq)⟩⟩
  · -- the swap
    simp only [fileIOAtomicExchangeFilesServer, hvmk, ↓reduceIte, Option.some.injEq] at h ⊢
    rw [atomicExchangeSwap_eq swap w.fs hq hp hsq hsp] at h ⊢
    split_ifs at h ⊢ with hfit
    · rcases vmfsSwapFiles_cases swap.ioctlOk w.fs q p with
        ⟨-, nq, np, hnq, hnp, hfs⟩ | ⟨hf, -⟩
      · have hp' : (vmfsSwapFiles swap.ioctlOk w.fs q p).2 p =
            some { np with content := nq.content } := by
          rw [hfs, FileSystem.set_same]
        have hq' : (vmfsSwapFiles swap.ioctlOk w.fs q p).2 q =
            some { nq with content := np.content } := by
          rw [hfs, FileSystem.set_other _ _ (Ne.symm hpq), FileSystem.set_same]
        exact ⟨by simp [hp', hnq],
          fun _ => ⟨⟨np, nq, hnp, hnq, hp', hq'⟩, trivial, trivial⟩, False.elim⟩
      · simp [hf] at h

/-- `/etc/cfg` holds `a=1`, and the temp file `/etc/cfg~` next to it holds `a=2`. -/
def etcFileSystem : FileSystem := fun r =>
  if r = "/etc/cfg" then some ⟨[97, 61, 49], 420, 0, 0⟩
  else if r = "/etc/cfg~" then some ⟨[97, 61, 50], 420, 0, 0⟩
  else none

/-- `/etc/cfg` open and locked for writing. -/
def etcDescriptor : FileIODescriptor :=
  ⟨3, ⟨true, true, true⟩, some "/etc/cfg", some ⟨"/etc/cfg", 0, 0⟩⟩

/-- `/etc/cfg~` open for reading and writing. -/
def etcTempDescriptor : FileIODescriptor := ⟨4, tempFileAccess, some "/etc/cfg~", none⟩

/-- A VMkernel host. -/
def vmkExchangeEnv : ExchangeEnv := ⟨true, fun _ => false, some 3⟩

/-- Both names fit, the directory opens as descriptor 7 and the ioctl succeeds. -/
def etcSwapEnv : SwapEnv := ⟨64, 4096, some 7, true⟩

theorem atomicExchange_builds_agree_etc :
    ((fileIOAtomicExchangeFilesServer (FileLockTable.ops 0) vmkExchangeEnv etcSwapEnv
        ⟨etcFileSystem, .empty⟩ etcTempDescriptor etcDescriptor).2.1.fs "/etc/cfg").map
      Node.content = some [97, 61, 50] := by
  have h : (fileIOAtomicExchangeFilesServer (FileLockTable.ops 0) vmkExchangeEnv etcSwapEnv
      ⟨etcFileSystem, .empty⟩ etcTempDescriptor etcDescriptor).1 = some true := by decide
  rw [(atomicExchange_builds_agree (FileLockTable.ops 0) vmkExchangeEnv etcSwapEnv _
    etcTempDescriptor etcDescriptor rfl rfl (by decide) (by decide) (by decide) h).1]
  decide

end OpenVmTools
