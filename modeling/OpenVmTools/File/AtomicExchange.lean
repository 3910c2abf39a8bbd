import OpenVmTools.File.AtomicTempFile

/-!
# `FileIO_AtomicExchangeFiles`

The atomic replacer of `fileIO.c` as open-vm-tools builds it (without `VMX86_SERVER`): on a
VMkernel host the call reaches `NOT_REACHED()`, otherwise it replaces `currFD`'s file by
`newFD`'s with `rename(2)`.

The rename path is cut at its calls into four segments, so that another process can run
between any two of them (`Concurrency`): `exchangeBegin` closes `newFD` and only the POSIX
descriptor of `currFD`, keeping its lock token; `exchangeRename` is `File_RenameRetry`;
`exchangeRelease` is the `FileIO_Close(currFD)` of `bail:`, which drops the lock (the XXX of
the source); `exchangeReopen` is the `FileIO_Open` after it, on whose failure the source
panics. `exchangeRun` runs the four in turn and keeps the state after each; the call reads
its result from that run. Only `exchangeRename` calls a primitive that changes the file
system, so the file systems of the run's states are all the file systems the call goes
through.

`fileIOAtomicExchangeFiles_all_or_nothing` says the call returns exactly when its reopen
succeeds, and then reports exactly the outcome of the rename. It changes nothing when that
fails and keeps the target path on its old node or on the new one throughout. Whenever it
returns, it leaves `currFD` reopened as it was and `newFD` closed.
-/

namespace OpenVmTools

variable {σ : Type}

/-- The outcomes of the calls `FileIO_AtomicExchangeFiles` makes: `HostType_OSIsVMK()`,
whether each attempt of `File_RenameRetry` finds the target busy, and what `open(2)` returns
when `currFD` is reopened. -/
structure ExchangeEnv where
  osIsVMK : Bool
  busy : Nat → Bool
  reopenFd : Option Nat

/-- The locals and descriptors of `FileIO_AtomicExchangeFiles` between two of its calls. -/
structure ExchangeState (σ : Type) where
  world : World σ
  newFD : FileIODescriptor
  currFD : FileIODescriptor
  currPath : Option Path
  newPath : Option Path
  currAccess : FileIOOpenAccess
  ret : Bool

/-- Up to the rename: save both names and `currFD`'s access flags, `FileIO_Close(newFD)`, and
`close(currFD->posix)` with `posix = -1`, keeping `currFD`'s lock token. -/
def exchangeBegin (ops : FileLockOps σ) (w : World σ) (newFD currFD : FileIODescriptor) :
    ExchangeState σ :=
  let c := fileIOClose ops newFD w.locks
  { world := ⟨w.fs, c.2.2⟩, newFD := c.2.1, currFD := { currFD with posix := -1 },
    currPath := fileIOFilename currFD, newPath := fileIOFilename newFD,
    currAccess := currFD.flags, ret := false }

/-- `File_RenameRetry(newPath, currPath, 10)`; `ret = TRUE` when it returns `0`. -/
def exchangeRename (busy : Nat → Bool) (st : ExchangeState σ) : ExchangeState σ :=
  match st.newPath, st.currPath with
  | some src, some dst =>
    let r := fileRenameRetry st.world.fs src dst busy 10 0
    { st with world := { st.world with fs := r.2 }, ret := decide (r.1 = 0) }
  | _, _ => st

/-- The `FileIO_Close(currFD)` of `bail:`; it releases the lock token kept so far. -/
def exchangeRelease (ops : FileLockOps σ) (st : ExchangeState σ) : ExchangeState σ :=
  let c := fileIOClose ops st.currFD st.world.locks
  { st with world := { st.world with locks := c.2.2 }, currFD := c.2.1 }

/-- `FileIO_Open(currFD, currPath, currAccess, 0)` and its status. -/
def exchangeReopen (ops : FileLockOps σ) (reopenFd : Option Nat) (st : ExchangeState σ) :
    FileIOResult × ExchangeState σ :=
  match st.currPath with
  | some p =>
    let o := fileIOOpen ops st.world st.currFD p st.currAccess reopenFd
    (o.1, { st with world := o.2.1, currFD := o.2.2 })
  | none => (.error, st)

/-- A run of the rename path: the state after each segment, and the status of the reopen. -/
structure ExchangeRun (σ : Type) where
  begun : ExchangeState σ
  renamed : ExchangeState σ
  released : ExchangeState σ
  status : FileIOResult
  reopened : ExchangeState σ

/-- The states a run goes through, in order. -/
def ExchangeRun.states (r : ExchangeRun σ) : List (ExchangeState σ) :=
  [r.begun, r.renamed, r.released, r.reopened]

/-- The rename path from `w`: each segment on the state the one before it left. -/
def exchangeRun (ops : FileLockOps σ) (env : ExchangeEnv) (w : World σ)
    (newFD currFD : FileIODescriptor) : ExchangeRun σ :=
  let s₁ := exchangeBegin ops w newFD currFD
  let s₂ := exchangeRename env.busy s₁
  let s₃ := exchangeRelease ops s₂
  let o := exchangeReopen ops env.reopenFd s₃
  ⟨s₁, s₂, s₃, o.1, o.2⟩

/-- `FileIO_AtomicExchangeFiles`. The result is `none` where the source does not return:
`NOT_REACHED()` on a VMkernel host, `Panic` when the reopen fails. -/
def fileIOAtomicExchangeFiles (ops : FileLockOps σ) (env : ExchangeEnv) (w : World σ)
    (newFD currFD : FileIODescriptor) : Option Bool × World σ × FileIODescriptor × FileIODescriptor :=
  if env.osIsVMK then (none, w, newFD, currFD)
  else
    let r := exchangeRun ops env w newFD currFD
    (if r.status.isSuccess then some r.reopened.ret else none, r.reopened.world,
      r.reopened.newFD, r.reopened.currFD)

/-! ## Segment lemmas -/

section Segments

variable (ops : FileLockOps σ) (w : World σ) (newFD currFD : FileIODescriptor)
  (busy : Nat → Bool) (st : ExchangeState σ)

@[simp] theorem exchangeBegin_fs : (exchangeBegin ops w newFD currFD).world.fs = w.fs := rfl
@[simp] theorem exchangeBegin_newFD : (exchangeBegin ops w newFD currFD).newFD = .invalid := rfl
@[simp] theorem exchangeBegin_currFD :
    (exchangeBegin ops w newFD currFD).currFD = { currFD with posix := -1 } := rfl
@[simp] theorem exchangeBegin_currPath :
    (exchangeBegin ops w newFD currFD).currPath = currFD.fileName := rfl
@[simp] theorem exchangeBegin_newPath :
    (exchangeBegin ops w newFD currFD).newPath = newFD.fileName := rfl
@[simp] theorem exchangeBegin_currAccess :
    (exchangeBegin ops w newFD currFD).currAccess = currFD.flags := rfl
@[simp] theorem exchangeBegin_ret : (exchangeBegin ops w newFD currFD).ret = false := rfl

/-- Closing a temp descriptor that holds no token leaves the lock state alone. -/
theorem exchangeBegin_locks (h : newFD.lockToken = none) :
    (exchangeBegin ops w newFD currFD).world.locks = w.locks := by
  simp [exchangeBegin, fileIOClose, fileIOUnlock_of_lockToken_none _ _ _ h]

/-- The rename segment on two names: the rename's file system, and `ret` its success. -/
theorem exchangeRename_of_paths (src dst : Path) (hs : st.newPath = some src)
    (hd : st.currPath = some dst) :
    exchangeRename busy st =
      { st with world := { st.world with fs := (fileRenameRetry st.world.fs src dst busy 10 0).2 },
                ret := decide ((fileRenameRetry st.world.fs src dst busy 10 0).1 = 0) } := by
  simp [exchangeRename, hs, hd]

@[simp] theorem exchangeRename_locks : (exchangeRename busy st).world.locks = st.world.locks := by
  unfold exchangeRename; split <;> rfl
@[simp] theorem exchangeRename_newFD : (exchangeRename busy st).newFD = st.newFD := by
  unfold exchangeRename; split <;> rfl
@[simp] theorem exchangeRename_currFD : (exchangeRename busy st).currFD = st.currFD := by
  unfold exchangeRename; split <;> rfl
@[simp] theorem exchangeRename_currPath : (exchangeRename busy st).currPath = st.currPath := by
  unfold exchangeRename; split <;> rfl
@[simp] theorem exchangeRename_newPath : (exchangeRename busy st).newPath = st.newPath := by
  unfold exchangeRename; split <;> rfl
@[simp] theorem exchangeRename_currAccess :
    (exchangeRename busy st).currAccess = st.currAccess := by
  unfold exchangeRename; split <;> rfl

@[simp] theorem exchangeRelease_fs : (exchangeRelease ops st).world.fs = st.world.fs := rfl
@[simp] theorem exchangeRelease_newFD : (exchangeRelease ops st).newFD = st.newFD := rfl
@[simp] theorem exchangeRelease_currFD : (exchangeRelease ops st).currFD = .invalid := rfl
@[simp] theorem exchangeRelease_currPath : (exchangeRelease ops st).currPath = st.currPath := rfl
@[simp] theorem exchangeRelease_currAccess :
    (exchangeRelease ops st).currAccess = st.currAccess := rfl
@[simp] theorem exchangeRelease_ret : (exchangeRelease ops st).ret = st.ret := rfl

/-- The reopen leaves the file system, `newFD` and `ret` alone. -/
theorem exchangeReopen_frame (reopenFd : Option Nat) :
    (exchangeReopen ops reopenFd st).2.world.fs = st.world.fs ∧
      (exchangeReopen ops reopenFd st).2.newFD = st.newFD ∧
      (exchangeReopen ops reopenFd st).2.ret = st.ret := by
  unfold exchangeReopen; split <;> simp

/-- The reopen is `FileIO_Open` of the saved name with the saved flags. -/
theorem exchangeReopen_of_currPath (reopenFd : Option Nat) {p : Path} (hp : st.currPath = some p) :
    exchangeReopen ops reopenFd st =
      ((fileIOOpen ops st.world st.currFD p st.currAccess reopenFd).1,
        { st with world := (fileIOOpen ops st.world st.currFD p st.currAccess reopenFd).2.1,
                  currFD := (fileIOOpen ops st.world st.currFD p st.currAccess reopenFd).2.2 }) := by
  simp [exchangeReopen, hp]

/-- A successful reopen leaves `currFD` valid on the saved name with the saved flags. -/
theorem exchangeReopen_of_success (reopenFd : Option Nat) {p : Path} (hp : st.currPath = some p)
    (h : (exchangeReopen ops reopenFd st).1 = .success) :
    (exchangeReopen ops reopenFd st).2.currFD.ValidOn p ∧
      (exchangeReopen ops reopenFd st).2.currFD.flags = st.currAccess := by
  simp only [exchangeReopen, hp] at h ⊢
  exact fileIOOpen_of_success _ _ _ _ _ _ h

end Segments

/-! ## The rename path -/

section Run

variable (ops : FileLockOps σ) (env : ExchangeEnv) (w : World σ) (newFD currFD : FileIODescriptor)

@[simp] theorem exchangeRun_begun :
    (exchangeRun ops env w newFD currFD).begun = exchangeBegin ops w newFD currFD := rfl
@[simp] theorem exchangeRun_renamed :
    (exchangeRun ops env w newFD currFD).renamed =
      exchangeRename env.busy (exchangeRun ops env w newFD currFD).begun := rfl
@[simp] theorem exchangeRun_released :
    (exchangeRun ops env w newFD currFD).released =
      exchangeRelease ops (exchangeRun ops env w newFD currFD).renamed := rfl
@[simp] theorem exchangeRun_status :
    (exchangeRun ops env w newFD currFD).status =
      (exchangeReopen ops env.reopenFd (exchangeRun ops env w newFD currFD).released).1 := rfl
@[simp] theorem exchangeRun_reopened :
    (exchangeRun ops env w newFD currFD).reopened =
      (exchangeReopen ops env.reopenFd (exchangeRun ops env w newFD currFD).released).2 := rfl

/-- On a guest the call returns the rename path's `ret` when the reopen succeeds, and panics
otherwise. -/
theorem fileIOAtomicExchangeFiles_of_guest (hvmk : env.osIsVMK = false) :
    fileIOAtomicExchangeFiles ops env w newFD currFD =
      (if (exchangeRun ops env w newFD currFD).status = .success then
          some (exchangeRun ops env w newFD currFD).reopened.ret else none,
        (exchangeRun ops env w newFD currFD).reopened.world,
        (exchangeRun ops env w newFD currFD).reopened.newFD,
        (exchangeRun ops env w newFD currFD).reopened.currFD) := by
  simp only [fileIOAtomicExchangeFiles, hvmk, Bool.false_eq_true, ↓reduceIte,
    FileIOResult.isSuccess, decide_eq_true_eq]

variable {p q : Path}

/-- The rename path of `newFD` on `q` over `currFD` on `p` ends on the rename's file system,
with `ret` its success and `newFD` closed; a successful reopen leaves `currFD` valid on `p`
with its flags. -/
theorem exchangeRun_of_paths (hq : newFD.fileName = some q) (hp : currFD.fileName = some p) :
    (exchangeRun ops env w newFD currFD).reopened.world.fs =
        (fileRenameRetry w.fs q p env.busy 10 0).2 ∧
      (exchangeRun ops env w newFD currFD).reopened.newFD = .invalid ∧
      (exchangeRun ops env w newFD currFD).reopened.ret =
        decide ((fileRenameRetry w.fs q p env.busy 10 0).1 = 0) ∧
      ((exchangeRun ops env w newFD currFD).status = .success →
        (exchangeRun ops env w newFD currFD).reopened.currFD.ValidOn p ∧
        (exchangeRun ops env w newFD currFD).reopened.currFD.flags = currFD.flags) := by
  have hren := exchangeRename_of_paths env.busy
    (exchangeBegin ops w newFD currFD) q p (by simp [hq]) (by simp [hp])
  obtain ⟨hfs, hnew, hret⟩ :=
    exchangeReopen_frame ops (exchangeRun ops env w newFD currFD).released env.reopenFd
  refine ⟨by rw [exchangeRun_reopened, hfs]; simp [hren], by rw [exchangeRun_reopened, hnew]; simp,
    by rw [exchangeRun_reopened, hret]; simp [hren], fun h => ?_⟩
  simpa using exchangeReopen_of_success ops _ env.reopenFd (by simp [hp]) h

/-- When the rename path returns `b`, `b` is the rename's success, the file system is the
rename's, `newFD` is closed and `currFD` is valid again on its name with its flags. -/
theorem fileIOAtomicExchangeFiles_of_returns (hvmk : env.osIsVMK = false)
    (hq : newFD.fileName = some q) (hp : currFD.fileName = some p) {b : Bool}
    (h : (fileIOAtomicExchangeFiles ops env w newFD currFD).1 = some b) :
    b = decide ((fileRenameRetry w.fs q p env.busy 10 0).1 = 0) ∧
      (fileIOAtomicExchangeFiles ops env w newFD currFD).2.1.fs =
        (fileRenameRetry w.fs q p env.busy 10 0).2 ∧
      (fileIOAtomicExchangeFiles ops env w newFD currFD).2.2.1 = .invalid ∧
      (fileIOAtomicExchangeFiles ops env w newFD currFD).2.2.2.ValidOn p ∧
      (fileIOAtomicExchangeFiles ops env w newFD currFD).2.2.2.flags = currFD.flags := by
  obtain ⟨hfs, hnew, hret, hcurr⟩ := exchangeRun_of_paths ops env w newFD currFD hq hp
  rw [fileIOAtomicExchangeFiles_of_guest ops env w newFD currFD hvmk] at h ⊢
  split_ifs at h with hs
  obtain ⟨hv, hfl⟩ := hcurr hs
  exact ⟨by rw [← Option.some.inj h, hret], hfs, hnew, hv, hfl⟩

/-- When the rename path returns `TRUE`, its file system is that of `rename(2)` of `q` onto
`p`. -/
theorem fileIOAtomicExchangeFiles_rename_of_true (hvmk : env.osIsVMK = false)
    (hq : newFD.fileName = some q) (hp : currFD.fileName = some p)
    (h : (fileIOAtomicExchangeFiles ops env w newFD currFD).1 = some true) :
    rename w.fs q p = some (fileIOAtomicExchangeFiles ops env w newFD currFD).2.1.fs := by
  obtain ⟨hb, hfs, -⟩ := fileIOAtomicExchangeFiles_of_returns ops env w newFD currFD hvmk hq hp h
  rcases fileRenameRetry_cases w.fs q p env.busy 10 0 with ⟨-, hr⟩ | ⟨h0, -⟩
  · rw [hfs, hr]
  · simp [h0] at hb

end Run

/-- On a guest (`HostType_OSIsVMK()` false), `FileIO_AtomicExchangeFiles` of `newFD` on `q`
over `currFD` on `p` is all-or-nothing. It returns exactly when its reopen succeeds, and
then returns `TRUE` exactly when `File_RenameRetry` succeeded. Returning `FALSE`, it leaves the
file system as it was. After each of its steps `p` names its old node or `newFD`'s. Whenever
it returns (rather than panicking on a failed reopen), `currFD` is valid on `p` with its old
name and flags, and `newFD` is invalid. -/
theorem fileIOAtomicExchangeFiles_all_or_nothing (ops : FileLockOps σ) (env : ExchangeEnv)
    (w : World σ) (newFD currFD : FileIODescriptor) {p q : Path} (hvmk : env.osIsVMK = false)
    (hq : newFD.fileName = some q) (hp : currFD.fileName = some p) :
    ((fileIOAtomicExchangeFiles ops env w newFD currFD).1.isSome ↔
        (exchangeRun ops env w newFD currFD).status = .success) ∧
      (∀ b, (fileIOAtomicExchangeFiles ops env w newFD currFD).1 = some b →
        (b = true ↔ (fileRenameRetry w.fs q p env.busy 10 0).1 = 0)) ∧
      ((fileIOAtomicExchangeFiles ops env w newFD currFD).1 = some false →
        (fileIOAtomicExchangeFiles ops env w newFD currFD).2.1.fs = w.fs) ∧
      (∀ st ∈ (exchangeRun ops env w newFD currFD).states,
        st.world.fs p = w.fs p ∨ st.world.fs p = w.fs q) ∧
      ((fileIOAtomicExchangeFiles ops env w newFD currFD).1.isSome →
        (fileIOAtomicExchangeFiles ops env w newFD currFD).2.2.2.ValidOn p ∧
        (fileIOAtomicExchangeFiles ops env w newFD currFD).2.2.2.fileName = currFD.fileName ∧
        (fileIOAtomicExchangeFiles ops env w newFD currFD).2.2.2.flags = currFD.flags ∧
        (fileIOAtomicExchangeFiles ops env w newFD currFD).2.2.1.posix = -1) := by
  -- the target after the rename: `newFD`'s node if it succeeded, its own otherwise
  have htarget : (fileRenameRetry w.fs q p env.busy 10 0).2 p = w.fs p ∨
      (fileRenameRetry w.fs q p env.busy 10 0).2 p = w.fs q := by
    rcases fileRenameRetry_cases w.fs q p env.busy 10 0 with ⟨-, h⟩ | ⟨-, h⟩
    · exact .inr (rename_dst h)
    · exact .inl (by rw [h])
  -- from the rename on, the segments keep the file system the rename left
  have hrenamed : (exchangeRun ops env w newFD currFD).renamed.world.fs =
      (fileRenameRetry w.fs q p env.busy 10 0).2 := by
    rw [exchangeRun_renamed, exchangeRun_begun,
      exchangeRename_of_paths env.busy _ q p (by simp [hq]) (by simp [hp])]
    rfl
  refine ⟨?_, fun b hb => ?_, fun hb => ?_, ?_, fun hs => ?_⟩
  · rw [fileIOAtomicExchangeFiles_of_guest ops env w newFD currFD hvmk]
    split_ifs with hs <;> simpa using hs
  · simp [(fileIOAtomicExchangeFiles_of_returns ops env w newFD currFD hvmk hq hp hb).1]
  · obtain ⟨hb0, hfs, -⟩ := fileIOAtomicExchangeFiles_of_returns ops env w newFD currFD hvmk hq hp hb
    rcases fileRenameRetry_cases w.fs q p env.busy 10 0 with ⟨h0, -⟩ | ⟨-, h⟩
    · simp [h0] at hb0
    · rw [hfs, h]
  · simp only [ExchangeRun.states, List.mem_cons, List.mem_singleton, List.not_mem_nil, or_false]
    rintro st (rfl | rfl | rfl | rfl)
    · simp
    · rw [hrenamed]; exact htarget
    · rw [exchangeRun_released, exchangeRelease_fs, hrenamed]; exact htarget
    · rw [exchangeRun_reopened, (exchangeReopen_frame ops _ env.reopenFd).1, exchangeRun_released,
        exchangeRelease_fs, hrenamed]
      exact htarget
  · obtain ⟨b, hb⟩ := Option.isSome_iff_exists.mp hs
    obtain ⟨-, -, hnew, hv, hfl⟩ :=
      fileIOAtomicExchangeFiles_of_returns ops env w newFD currFD hvmk hq hp hb
    exact ⟨hv, by rw [hv.2, hp], hfl, by simp [hnew]⟩

/-- `cfg~` open for reading and writing, as `FileIO_AtomicTempFile` leaves it. -/
def cfgTempDescriptor : FileIODescriptor := ⟨4, tempFileAccess, some "cfg~", none⟩

/-- A guest on which the rename succeeds at its first attempt and the reopen gets descriptor 3. -/
def guestExchangeEnv : ExchangeEnv := ⟨false, fun _ => false, some 3⟩

theorem fileIOAtomicExchangeFiles_all_or_nothing_cfg :
    guestExchangeEnv.osIsVMK = false ∧ cfgTempDescriptor.fileName = some "cfg~" ∧
      cfgDescriptor.fileName = some "cfg" ∧
      ∀ st ∈ (exchangeRun (FileLockTable.ops 0) guestExchangeEnv ⟨cfgFileSystem, cfgLocks⟩
          cfgTempDescriptor cfgDescriptor).states,
        st.world.fs "cfg" = cfgFileSystem "cfg" ∨ st.world.fs "cfg" = cfgFileSystem "cfg~" :=
  ⟨rfl, rfl, rfl, (fileIOAtomicExchangeFiles_all_or_nothing (FileLockTable.ops 0) guestExchangeEnv
    ⟨cfgFileSystem, cfgLocks⟩ cfgTempDescriptor cfgDescriptor rfl rfl rfl).2.2.2.1⟩

end OpenVmTools
