import OpenVmTools.File.AtomicExchange

/-!
# Committing new bytes over a file

The caller's side of a commit, as the spec's data flow has it: `FileIO_AtomicTempFile` next to
the original `A`, the new bytes `c` written into the temp file `B` from offset 0, and
`FileIO_AtomicExchangeFiles` of `B` over `A`.

`commitSpec` says what a commit is for: the original path names the new node and no sibling is
left, every other path untouched. `atomicCommit_replaces_content` proves that a commit that
returns `TRUE` on a guest does that, with a new node that differs from the one the spec asks
for in two ways. Its mode is what `fchown` leaves of the original's, set-id bits cleared. Its
bytes are `c` followed by whatever a stale sibling that `Posix_Unlink` failed to remove held
past `c`. `atomicCommit_keeps_stale_tail` is a run with both.
-/

namespace OpenVmTools

variable {σ : Type}

/-- A commit of `c` over `A` through the temp descriptor `B`: the result of the exchange, or
`FALSE` when the temp file could not be made. -/
def atomicCommit (ops : FileLockOps σ) (envT : TempFileEnv) (envE : ExchangeEnv) (w : World σ)
    (A B : FileIODescriptor) (c : List UInt8) :
    Option Bool × World σ × FileIODescriptor × FileIODescriptor :=
  let t := fileIOAtomicTempFile ops envT w A B
  if t.1 then
    fileIOAtomicExchangeFiles ops envE ⟨(fileIOPwrite t.2.1.fs t.2.2 c 0).2, t.2.1.locks⟩ t.2.2 A
  else (some false, t.2.1, t.2.2, A)

/-- What a commit over `p` is for: `p` names `n`, its sibling `p~` names nothing, and every
other path is as it was. -/
def commitSpec (fs : FileSystem) (p : Path) (n : Node) : FileSystem :=
  (fs.set (p ++ "~") none).set p (some n)

/-- A `rename(2)` of the sibling over `p` commits the sibling's node. -/
theorem rename_sibling_eq_commitSpec {fs fs' : FileSystem} {p : Path} {n : Node}
    (h : rename (fs.set (p ++ "~") (some n)) (p ++ "~") p = some fs') : fs' = commitSpec fs p n := by
  have hne := append_tilde_ne p
  obtain ⟨n', hn', rfl⟩ := rename_eq_some_iff.mp h
  obtain rfl : n = n' := by simpa using hn'
  funext r
  by_cases hp : r = p
  · simp [commitSpec, hp]
  · by_cases hs : r = p ++ "~" <;> simp [commitSpec, hp, hs, hne]

/-- A commit that returns `TRUE` on a guest replaces the file: `p` names a node with the
original's owner, the mode `fchown` leaves of the original's mode, and the bytes `c` followed
by those a stale sibling held past `c` when `Posix_Unlink` failed to remove it; the sibling is
gone and every other path is untouched; `A` is valid again on `p` with its old flags, and
`B` is invalid. -/
theorem atomicCommit_replaces_content (ops : FileLockOps σ) (envT : TempFileEnv)
    (envE : ExchangeEnv) (w : World σ) (A B : FileIODescriptor) (c : List UInt8) {p : Path}
    {n : Node} (hvmk : envE.osIsVMK = false) (hA : A.fileName = some p) (hn : w.fs p = some n)
    (h : (atomicCommit ops envT envE w A B c).1 = some true) :
    (atomicCommit ops envT envE w A B c).2.1.fs = commitSpec w.fs p
        ⟨c ++ (staleContent envT.unlinkOk w.fs (p ++ "~")).drop c.length, chownMode n.mode,
          n.uid, n.gid⟩ ∧
      (atomicCommit ops envT envE w A B c).2.2.2.ValidOn p ∧
      (atomicCommit ops envT envE w A B c).2.2.2.flags = A.flags ∧
      (atomicCommit ops envT envE w A B c).2.2.1.posix = -1 := by
  unfold atomicCommit at h ⊢
  rcases fileIOAtomicTempFile_cases ops envT w A B hA with ⟨hf, -⟩ | ⟨ht, n', fd, hn', hB, hfs⟩
  · simp [hf] at h
  obtain rfl : n' = n := Option.some.inj (hn'.symm.trans hn)
  simp only [ht, ↓reduceIte] at h ⊢
  -- the temp file once `c` is written into it
  have hw : (fileIOPwrite (fileIOAtomicTempFile ops envT w A B).2.1.fs
      (fileIOAtomicTempFile ops envT w A B).2.2 c 0).2 = w.fs.set (p ++ "~")
        (some ⟨c ++ (staleContent envT.unlinkOk w.fs (p ++ "~")).drop c.length, chownMode n'.mode,
          n'.uid, n'.gid⟩) := by
    rw [hB, hfs]
    simp only [fileIOPwrite, FileIODescriptor.isValid]
    simp
  obtain ⟨-, -, hnew, hv, hfl⟩ := fileIOAtomicExchangeFiles_of_returns ops envE _ _ A hvmk
    (by rw [hB]) hA h
  have hr := fileIOAtomicExchangeFiles_rename_of_true ops envE _ _ A hvmk (by rw [hB]) hA h
  dsimp only at hr
  rw [hw] at hr
  refine ⟨?_, hv, hfl, by simp [hnew]⟩
  rw [hw]
  exact rename_sibling_eq_commitSpec hr

/-- The spec's scenario with no sibling: `cfg` holds `a=1` with mode `0644`. -/
def cfgFreshFileSystem : FileSystem := fun q =>
  if q = "cfg" then some ⟨[97, 61, 49], 420, 1000, 1000⟩ else none

/-- Every call of `FileIO_AtomicTempFile` succeeds; the temp file gets descriptor 4. -/
def tempFileOkEnv : TempFileEnv := ⟨true, true, true, some 4, true, true, 1000, 1000⟩

/-- Committing `a=2` over `cfg` with mode `06755`, while a stale `cfg~` holding `old=99`
survives `Posix_Unlink`, returns `TRUE` but leaves on `cfg` the bytes `a=2=99` and the mode
`0755`: not `a=2` with mode `06755`. -/
theorem atomicCommit_keeps_stale_tail :
    setidFileSystem "cfg" = some ⟨[97, 61, 49], 0o6755, 1000, 1000⟩ ∧
      (atomicCommit (FileLockTable.ops 0) staleSiblingEnv guestExchangeEnv
        ⟨setidFileSystem, cfgLocks⟩ cfgDescriptor .invalid [97, 61, 50]).1 = some true ∧
      (atomicCommit (FileLockTable.ops 0) staleSiblingEnv guestExchangeEnv
        ⟨setidFileSystem, cfgLocks⟩ cfgDescriptor .invalid [97, 61, 50]).2.1.fs "cfg" =
        some ⟨[97, 61, 50, 61, 57, 57], 0o755, 1000, 1000⟩ := by
  decide

end OpenVmTools
