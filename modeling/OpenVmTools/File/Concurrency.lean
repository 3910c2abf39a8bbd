import OpenVmTools.File.Commit

/-!
# Two processes on one file

Process `A` (`pid 0`) opens `p` with `FILEIO_OPEN_LOCKED | FILEIO_OPEN_ACCESS_WRITE` and runs
commit cycles over it (`FileIO_AtomicTempFile`, a write into the temp file,
`FileIO_AtomicExchangeFiles` on the rename path) before its final `FileIO_Close`. Process `B`
(`pid 1`) opens `p` with `FILEIO_OPEN_LOCKED` and any access, writes through its descriptor
if it may, and closes it. Both share one file system and one `FileLockTable`.

`Sys.step` runs one call of either process, so the runs of `Reachable` are all the
interleavings of the two programs. `A`'s exchange is cut where `AtomicExchange` cuts it: its
four segments run back to back are `FileIO_AtomicExchangeFiles` (`run_exchange`), and a whole
cycle of `A` is `atomicCommit` (`run_commit`). The calls inside `FileIO_AtomicTempFile` touch
neither `p` nor the lock table, so they make one step here.

`Sys.Inv` couples the processes through the table: while `A` holds its token, that token is
`p`'s only holder, and while `B` holds a descriptor, its token is one of `p`'s holders. So
while `A` holds its lock, `B` holds none on `p` and no step of `B` changes anything
(`second_process_shut_out_while_locked`). `A` lets the lock go inside the exchange, at the
`FileIO_Close(currFD)` of `bail:` that the source marks `XXX - We shouldn't drop the file lock
here`; `exchange_gap_admits_second_writer` is a run in which `B` takes the lock in that gap
and writes `p`, after which `A` reopens `p` and carries on over `B`'s bytes.
-/

namespace OpenVmTools

/-- `FILEIO_OPEN_LOCKED | FILEIO_OPEN_ACCESS_WRITE`, the access process `A` opens `p` with. -/
def writerAccess : FileIOOpenAccess := ⟨false, true, true⟩

/-! ## The two programs -/

/-- Where process `A` is in its program. -/
inductive AStage
  /-- Before its `FileIO_Open` of `p`. -/
  | start
  /-- `p` open and locked, between two commits. -/
  | opened (fd : FileIODescriptor)
  /-- `FileIO_AtomicTempFile` returned `TRUE` with the temp descriptor `tmp`. -/
  | tempMade (fd tmp : FileIODescriptor)
  /-- The new bytes are written into the temp file. -/
  | written (fd tmp : FileIODescriptor)
  /-- Inside `FileIO_AtomicExchangeFiles`, after its first segment. -/
  | begun (st : ExchangeState FileLockTable)
  /-- Inside `FileIO_AtomicExchangeFiles`, after `File_RenameRetry`. -/
  | renamed (st : ExchangeState FileLockTable)
  /-- Inside `FileIO_AtomicExchangeFiles`, after `FileIO_Close(currFD)`. -/
  | released (st : ExchangeState FileLockTable)
  /-- The reopen failed and the process panicked. -/
  | panicked
  /-- After its final `FileIO_Close`. -/
  | closed

/-- A call of process `A`, with the outcomes of the system calls it makes. -/
inductive AEvent
  | «open» (osFd : Option Nat)
  | tempFile (env : TempFileEnv)
  | write (c : List UInt8)
  | begin
  | rename (busy : Nat → Bool)
  | release
  | reopen (osFd : Option Nat)
  | close

/-- Process `A`'s program: the call it makes next from each stage (`none` for any other).
Each segment of the exchange runs on the shared world as it is when `A` is scheduled. -/
def aStep (p : Path) (w : World FileLockTable) :
    AStage → AEvent → Option (World FileLockTable × AStage)
  | .start, .open osFd =>
    let o := fileIOOpen (FileLockTable.ops 0) w .invalid p writerAccess osFd
    some (o.2.1, if o.1.isSuccess then .opened o.2.2 else .start)
  | .opened fd, .tempFile env =>
    let t := fileIOAtomicTempFile (FileLockTable.ops 0) env w fd .invalid
    some (t.2.1, if t.1 then .tempMade fd t.2.2 else .opened fd)
  | .tempMade fd tmp, .write c => some (⟨(fileIOPwrite w.fs tmp c 0).2, w.locks⟩, .written fd tmp)
  | .written fd tmp, .begin =>
    let st := exchangeBegin (FileLockTable.ops 0) w tmp fd
    some (st.world, .begun st)
  | .begun st, .rename busy =>
    let st' := exchangeRename busy { st with world := w }
    some (st'.world, .renamed st')
  | .renamed st, .release =>
    let st' := exchangeRelease (FileLockTable.ops 0) { st with world := w }
    some (st'.world, .released st')
  | .released st, .reopen osFd =>
    let o := exchangeReopen (FileLockTable.ops 0) osFd { st with world := w }
    some (o.2.world, if o.1.isSuccess then .opened o.2.currFD else .panicked)
  | .opened fd, .close =>
    some (⟨w.fs, (fileIOClose (FileLockTable.ops 0) fd w.locks).2.2⟩, .closed)
  | _, _ => none

/-- What one call of `A` does, one constructor per call of its program: the graph of `aStep`
(`AStep.of_aStep`), so that a property of `A`'s calls is a case split on the call. -/
inductive AStep (p : Path) (w : World FileLockTable) :
    AStage → AEvent → World FileLockTable → AStage → Prop
  | «open» (osFd : Option Nat) :
    AStep p w .start (.open osFd) (fileIOOpen (FileLockTable.ops 0) w .invalid p writerAccess osFd).2.1
      (if (fileIOOpen (FileLockTable.ops 0) w .invalid p writerAccess osFd).1.isSuccess then
        .opened (fileIOOpen (FileLockTable.ops 0) w .invalid p writerAccess osFd).2.2 else .start)
  | tempFile (fd : FileIODescriptor) (env : TempFileEnv) :
    AStep p w (.opened fd) (.tempFile env)
      (fileIOAtomicTempFile (FileLockTable.ops 0) env w fd .invalid).2.1
      (if (fileIOAtomicTempFile (FileLockTable.ops 0) env w fd .invalid).1 then
        .tempMade fd (fileIOAtomicTempFile (FileLockTable.ops 0) env w fd .invalid).2.2
      else .opened fd)
  | write (fd tmp : FileIODescriptor) (c : List UInt8) :
    AStep p w (.tempMade fd tmp) (.write c) ⟨(fileIOPwrite w.fs tmp c 0).2, w.locks⟩
      (.written fd tmp)
  | begin (fd tmp : FileIODescriptor) :
    AStep p w (.written fd tmp) .begin (exchangeBegin (FileLockTable.ops 0) w tmp fd).world
      (.begun (exchangeBegin (FileLockTable.ops 0) w tmp fd))
  | rename (st : ExchangeState FileLockTable) (busy : Nat → Bool) :
    AStep p w (.begun st) (.rename busy) (exchangeRename busy { st with world := w }).world
      (.renamed (exchangeRename busy { st with world := w }))
  | release (st : ExchangeState FileLockTable) :
    AStep p w (.renamed st) .release
      (exchangeRelease (FileLockTable.ops 0) { st with world := w }).world
      (.released (exchangeRelease (FileLockTable.ops 0) { st with world := w }))
  | reopen (st : ExchangeState FileLockTable) (osFd : Option Nat) :
    AStep p w (.released st) (.reopen osFd)
      (exchangeReopen (FileLockTable.ops 0) osFd { st with world := w }).2.world
      (if (exchangeReopen (FileLockTable.ops 0) osFd { st with world := w }).1.isSuccess then
        .opened (exchangeReopen (FileLockTable.ops 0) osFd { st with world := w }).2.currFD
      else .panicked)
  | close (fd : FileIODescriptor) :
    AStep p w (.opened fd) .close ⟨w.fs, (fileIOClose (FileLockTable.ops 0) fd w.locks).2.2⟩ .closed

theorem AStep.of_aStep {p : Path} {w w' : World FileLockTable} {a a' : AStage} {e : AEvent}
    (hs : aStep p w a e = some (w', a')) : AStep p w a e w' a' := by
  unfold aStep at hs
  split at hs <;> simp only [Option.some.injEq, Prod.mk.injEq, reduceCtorEq] at hs <;>
    obtain ⟨rfl, rfl⟩ := hs <;> constructor

/-- Where process `B` is: holding no descriptor of `p`, or one it opened locked. -/
inductive BStage
  | idle
  | holding (fd : FileIODescriptor)

/-- A call of process `B`, with the outcomes of the system calls it makes. -/
inductive BEvent
  | «open» (access : FileIOOpenAccess) (osFd : Option Nat)
  | write (d : List UInt8)
  | close

/-- Process `B`'s program: it opens `p` only with `FILEIO_OPEN_LOCKED` and writes only
through a descriptor opened for writing. -/
def bStep (p : Path) (w : World FileLockTable) :
    BStage → BEvent → Option (World FileLockTable × BStage)
  | .idle, .open access osFd =>
    if access.locked then
      let o := fileIOOpen (FileLockTable.ops 1) w .invalid p access osFd
      some (o.2.1, if o.1.isSuccess then .holding o.2.2 else .idle)
    else none
  | .holding fd, .write d =>
    if fd.flags.write then some (⟨(fileIOPwrite w.fs fd d 0).2, w.locks⟩, .holding fd) else none
  | .holding fd, .close =>
    some (⟨w.fs, (fileIOClose (FileLockTable.ops 1) fd w.locks).2.2⟩, .idle)
  | _, _ => none

/-- What one call of `B` does, one constructor per call of its program: the graph of `bStep`
(`BStep.of_bStep`). -/
inductive BStep (p : Path) (w : World FileLockTable) :
    BStage → BEvent → World FileLockTable → BStage → Prop
  | «open» (access : FileIOOpenAccess) (osFd : Option Nat) (hl : access.locked = true) :
    BStep p w .idle (.open access osFd) (fileIOOpen (FileLockTable.ops 1) w .invalid p access osFd).2.1
      (if (fileIOOpen (FileLockTable.ops 1) w .invalid p access osFd).1.isSuccess then
        .holding (fileIOOpen (FileLockTable.ops 1) w .invalid p access osFd).2.2 else .idle)
  | write (fd : FileIODescriptor) (d : List UInt8) (hw : fd.flags.write = true) :
    BStep p w (.holding fd) (.write d) ⟨(fileIOPwrite w.fs fd d 0).2, w.locks⟩ (.holding fd)
  | close (fd : FileIODescriptor) :
    BStep p w (.holding fd) .close ⟨w.fs, (fileIOClose (FileLockTable.ops 1) fd w.locks).2.2⟩ .idle

theorem BStep.of_bStep {p : Path} {w w' : World FileLockTable} {b b' : BStage} {e : BEvent}
    (hs : bStep p w b e = some (w', b')) : BStep p w b e w' b' := by
  unfold bStep at hs
  split at hs <;> (try split at hs) <;>
    simp only [Option.some.injEq, Prod.mk.injEq, reduceCtorEq] at hs <;>
    obtain ⟨rfl, rfl⟩ := hs <;> constructor <;> assumption

/-- The shared world and where each process is. -/
structure Sys where
  world : World FileLockTable
  a : AStage
  b : BStage

/-- A call of one of the two processes. -/
inductive Event
  | a (e : AEvent)
  | b (e : BEvent)

/-- One call of either process on the shared world. -/
def Sys.step (p : Path) (s : Sys) : Event → Option Sys
  | .a e => (aStep p s.world s.a e).map fun r => ⟨r.1, r.2, s.b⟩
  | .b e => (bStep p s.world s.b e).map fun r => ⟨r.1, s.a, r.2⟩

/-- The calls `es` one after another, `none` if one of them is not the process's next. -/
def Sys.run (p : Path) (s : Sys) : List Event → Option Sys
  | [] => some s
  | e :: es => (s.step p e).bind fun s' => s'.run p es

/-- `s` is reached from `s₀` by some interleaving of the two programs. -/
def Reachable (p : Path) (s₀ s : Sys) : Prop :=
  Relation.ReflTransGen (fun s s' => ∃ e, s.step p e = some s') s₀ s

theorem reachable_of_run {p : Path} {s s' : Sys} {es : List Event} (h : s.run p es = some s') :
    Reachable p s s' := by
  induction es generalizing s with
  | nil => cases h; exact .refl
  | cons e es ih =>
    obtain ⟨s₁, h₁, h₂⟩ := Option.bind_eq_some.mp h
    exact .head ⟨e, h₁⟩ (ih h₂)

/-- Run back to back, `A`'s four exchange steps are `FileIO_AtomicExchangeFiles` on a guest:
its file system and lock table, and `A`'s descriptor reopened, unless the reopen panicked. -/
theorem run_exchange (p : Path) (w : World FileLockTable) (fd tmp : FileIODescriptor)
    (b : BStage) (env : ExchangeEnv) (hvmk : env.osIsVMK = false) :
    Sys.run p ⟨w, .written fd tmp, b⟩
        [.a .begin, .a (.rename env.busy), .a .release, .a (.reopen env.reopenFd)] =
      some ⟨(fileIOAtomicExchangeFiles (FileLockTable.ops 0) env w tmp fd).2.1,
        if (fileIOAtomicExchangeFiles (FileLockTable.ops 0) env w tmp fd).1.isSome then
          .opened (fileIOAtomicExchangeFiles (FileLockTable.ops 0) env w tmp fd).2.2.2
        else .panicked, b⟩ := by
  have hif : ∀ (c r : Bool) (x y : AStage),
      (if (if c then some r else none).isSome then x else y) = if c then x else y := by
    intro c; cases c <;> simp
  simp only [fileIOAtomicExchangeFiles, hvmk, Bool.false_eq_true, ↓reduceIte, hif]
  rfl

/-- Run back to back, a commit cycle of `A` whose `FileIO_AtomicTempFile` succeeds is
`atomicCommit`: its file system and lock table, and `A`'s descriptor reopened, unless the
reopen panicked. -/
theorem run_commit (p : Path) (w : World FileLockTable) (fd : FileIODescriptor) (b : BStage)
    (envT : TempFileEnv) (envE : ExchangeEnv) (c : List UInt8) (hvmk : envE.osIsVMK = false)
    (ht : (fileIOAtomicTempFile (FileLockTable.ops 0) envT w fd .invalid).1 = true) :
    Sys.run p ⟨w, .opened fd, b⟩ [.a (.tempFile envT), .a (.write c), .a .begin,
        .a (.rename envE.busy), .a .release, .a (.reopen envE.reopenFd)] =
      some ⟨(atomicCommit (FileLockTable.ops 0) envT envE w fd .invalid c).2.1,
        if (atomicCommit (FileLockTable.ops 0) envT envE w fd .invalid c).1.isSome then
          .opened (atomicCommit (FileLockTable.ops 0) envT envE w fd .invalid c).2.2.2
        else .panicked, b⟩ := by
  simp only [atomicCommit, ht, ↓reduceIte]
  rw [← run_exchange p _ fd _ b envE hvmk]
  -- `FileIO_AtomicTempFile` returns `TRUE`; the write that follows is unconditional
  have htemp : Sys.step p ⟨w, .opened fd, b⟩ (.a (.tempFile envT)) =
      some ⟨(fileIOAtomicTempFile (FileLockTable.ops 0) envT w fd .invalid).2.1,
        .tempMade fd (fileIOAtomicTempFile (FileLockTable.ops 0) envT w fd .invalid).2.2, b⟩ := by
    simp only [Sys.step, aStep, ht, ↓reduceIte, Option.map_some']
  rw [Sys.run.eq_2, htemp, Option.some_bind]
  rfl

/-! ## The lock invariant -/

/-- `A` holds its lock on `p`: from a successful open or reopen up to the release inside an
exchange or its final close. -/
def AStage.holdsLock : AStage → Bool
  | .opened _ | .tempMade _ _ | .written _ _ | .begun _ | .renamed _ => true
  | _ => false

/-- `A` is between its successful `FileIO_Open` of `p` and its final `FileIO_Close`. -/
def AStage.between : AStage → Bool
  | .start | .panicked | .closed => false
  | _ => true

/-- The token `A`'s descriptor of `p` holds. -/
def AStage.token : AStage → Option LockToken
  | .opened fd | .tempMade fd _ | .written fd _ => fd.lockToken
  | .begun st | .renamed st => st.currFD.lockToken
  | _ => none

/-- What `A`'s locals satisfy at each stage: its descriptor names `p`, was opened with
`writerAccess` and holds a token while `A` holds its lock, and the temp descriptor holds
none. -/
def AStage.Wf (p : Path) : AStage → Prop
  | .opened fd => fd.fileName = some p ∧ fd.flags = writerAccess ∧ fd.lockToken.isSome
  | .tempMade fd tmp | .written fd tmp =>
    fd.fileName = some p ∧ fd.flags = writerAccess ∧ fd.lockToken.isSome ∧ tmp.lockToken = none
  | .begun st | .renamed st =>
    st.currPath = some p ∧ st.currAccess = writerAccess ∧ st.currFD.lockToken.isSome
  | .released st => st.currPath = some p ∧ st.currAccess = writerAccess
  | _ => True

/-- The token `B`'s descriptor holds. -/
def BStage.token : BStage → Option LockToken
  | .holding fd => fd.lockToken
  | .idle => none

/-- A descriptor `B` holds was opened locked. -/
def BStage.Wf : BStage → Prop
  | .holding fd => fd.lockToken.isSome
  | .idle => True

/-- How the two processes' tokens sit in the lock table: `A`'s is the only holder of `p`,
and `B`'s is one of its holders. -/
structure Sys.Inv (p : Path) (s : Sys) : Prop where
  a_wf : s.a.Wf p
  b_wf : s.b.Wf
  a_token : ∀ tA, s.a.token = some tA → s.world.locks.entries p = .exclusive tA ∧ tA.owner = 0
  b_token : ∀ tB, s.b.token = some tB → tB ∈ (s.world.locks.entries p).holders ∧ tB.owner = 1

theorem AStage.token_isSome_of_holdsLock {p : Path} {a : AStage} (hw : a.Wf p)
    (h : a.holdsLock = true) : a.token.isSome := by
  cases a <;> simp_all [holdsLock, token, Wf]

/-- While `A` holds a token, `B` holds none. -/
theorem Sys.Inv.b_token_of_a_token {p : Path} {s : Sys} (h : s.Inv p) {tA : LockToken}
    (hA : s.a.token = some tA) : s.b.token = none := by
  cases hB : s.b.token with
  | none => rfl
  | some tB =>
    obtain ⟨he, h0⟩ := h.a_token tA hA
    obtain ⟨hm, h1⟩ := h.b_token tB hB
    rw [he, LockState.holders, List.mem_singleton] at hm
    rw [hm] at h1
    omega

/-- While `B` holds a token, `A` holds none. -/
theorem Sys.Inv.a_token_of_b_token {p : Path} {s : Sys} (h : s.Inv p) {tB : LockToken}
    (hB : s.b.token = some tB) : s.a.token = none := by
  cases hA : s.a.token with
  | none => rfl
  | some tA => simp [h.b_token_of_a_token hA] at hB

/-! ## Opening `p` under the lock table -/

section Open

variable {pid : Nat} {w w' : World FileLockTable} {file fd' : FileIODescriptor} {p : Path}
  {access : FileIOOpenAccess} {osFd : Option Nat} {r : FileIOResult}

/-- A locked `FileIO_Open` on the lock table either succeeds with the token the table
granted, or fails and leaves every path's locks as they were. -/
theorem fileIOOpen_lockTable_cases (hl : access.locked = true)
    (h : fileIOOpen (FileLockTable.ops pid) w file p access osFd = (r, w', fd')) :
    (r = .success ∧ ∃ tok, (FileLockTable.lock pid (some p) (!access.write) w.locks).1.1 = some tok ∧
        w'.locks = (FileLockTable.lock pid (some p) (!access.write) w.locks).2 ∧
        fd'.lockToken = some tok ∧ fd'.fileName = some p ∧ fd'.flags = access) ∨
      (r ≠ .success ∧ w'.locks.entries = w.locks.entries) := by
  have hlock := fileIOLock_of_locked (FileLockTable.ops pid) (file.init p) access w.locks hl
  simp only [FileLockTable.ops_lock, FileIODescriptor.init_fileName] at hlock
  unfold fileIOOpen at h
  rcases fileIOCreate_cases (FileLockTable.ops pid) w file p access .open 0 (0, 0) osFd with
    ⟨fd, fs', hs, -, he⟩ | ⟨hne, he, -⟩
  · rw [he, Prod.mk.injEq, Prod.mk.injEq] at h
    obtain ⟨rfl, rfl, rfl⟩ := h
    rw [hlock, lockStatus_eq_success_iff, Option.isSome_iff_exists] at hs
    obtain ⟨tok, htok⟩ := hs
    exact .inl ⟨rfl, tok, htok, by rw [hlock], by simp [hlock, htok], by simp, by simp⟩
  · rw [h] at hne he
    subst he
    refine .inr ⟨hne, ?_⟩
    rw [hlock]
    rcases htok : (FileLockTable.lock pid (some p) (!access.write) w.locks).1.1 with _ | tok
    · simp [fileIOUnlock, htok, FileLockTable.lock_snd_of_none htok]
    · simp [fileIOUnlock, htok, (FileLockTable.lock_of_some htok).2.2.2]

/-- While `p` is write-locked, a locked `FileIO_Open` of it fails and changes nothing. -/
theorem fileIOOpen_of_exclusive {h : LockToken} (hl : access.locked = true)
    (hp : w.locks.entries p = .exclusive h) :
    fileIOOpen (FileLockTable.ops pid) w file p access osFd = (.lockFailed, w, .invalid) := by
  have hlock := fileIOLock_of_locked (FileLockTable.ops pid) (file.init p) access w.locks hl
  simp only [FileLockTable.ops_lock, FileIODescriptor.init_fileName,
    FileLockTable.lock_of_exclusive hp] at hlock
  simp [fileIOOpen, fileIOCreate, hlock, lockStatus, lockErrorResult, fileIOUnlock]

end Open

/-! ## Every interleaving keeps the invariant -/

section Steps

variable {p : Path} {s : Sys}

/-- The invariant carries over a step that keeps both tokens and the locks on `p`. -/
theorem Sys.Inv.frame (h : s.Inv p) {w' : World FileLockTable} {a' : AStage} {b' : BStage}
    (ha : a'.Wf p) (hb : b'.Wf) (hta : a'.token = s.a.token) (htb : b'.token = s.b.token)
    (he : w'.locks.entries p = s.world.locks.entries p) : Sys.Inv p ⟨w', a', b'⟩ :=
  ⟨ha, hb, fun tA hA => by rw [he]; exact h.a_token tA (hta ▸ hA),
    fun tB hB => by rw [he]; exact h.b_token tB (htb ▸ hB)⟩

/-- While neither process holds a token, the invariant holds whatever the locks. -/
theorem Sys.Inv.of_tokens_none {w : World FileLockTable} {a : AStage} {b : BStage} (ha : a.Wf p)
    (hb : b.Wf) (hta : a.token = none) (htb : b.token = none) : Sys.Inv p ⟨w, a, b⟩ :=
  ⟨ha, hb, fun _ h => by simp [hta] at h, fun _ h => by simp [htb] at h⟩

/-- The invariant holds once `A` has let its token go, whatever the locks: `B` held none. -/
theorem Sys.Inv.of_a_release (h : s.Inv p) (hA : s.a.token.isSome) (w' : World FileLockTable)
    {a' : AStage} (ha : a'.Wf p) (hta : a'.token = none) : Sys.Inv p ⟨w', a', s.b⟩ :=
  have ⟨_, htA⟩ := Option.isSome_iff_exists.mp hA
  of_tokens_none ha h.b_wf hta (h.b_token_of_a_token htA)

/-- `A`'s open, or reopen, of `p`: on success `A` is the only holder of `p`, which nobody
held, and on failure every path's locks are as they were. -/
theorem Sys.Inv.writerOpen (h : s.Inv p) (file : FileIODescriptor) (osFd : Option Nat)
    (stay : AStage) (hstay : stay.Wf p) (htok : stay.token = none) :
    Sys.Inv p ⟨(fileIOOpen (FileLockTable.ops 0) s.world file p writerAccess osFd).2.1,
      if (fileIOOpen (FileLockTable.ops 0) s.world file p writerAccess osFd).1.isSuccess then
        .opened (fileIOOpen (FileLockTable.ops 0) s.world file p writerAccess osFd).2.2
      else stay, s.b⟩ := by
  rcases ho : fileIOOpen (FileLockTable.ops 0) s.world file p writerAccess osFd with ⟨r, w', fd'⟩
  rcases fileIOOpen_lockTable_cases rfl ho with ⟨rfl, tok, htok, hw, ht, hn, hf⟩ | ⟨hne, he⟩
  · obtain ⟨rfl, -, hfree, -⟩ := FileLockTable.lock_of_some htok
    obtain ⟨hwas, hnow⟩ := hfree rfl
    refine ⟨by simp [AStage.Wf, hn, hf, ht], h.b_wf, ?_, fun tB hB => ?_⟩
    · simp only [FileIOResult.isSuccess, decide_True, ↓reduceIte, AStage.token, ht,
        Option.some.injEq]
      rintro tA rfl
      exact ⟨by rw [hw]; exact hnow, rfl⟩
    · have := (h.b_token tB hB).1
      rw [hwas] at this
      cases this
  · have hr : r.isSuccess = false := by simp [FileIOResult.isSuccess, hne]
    simp only [hr, Bool.false_eq_true, ↓reduceIte]
    exact ⟨hstay, h.b_wf, by simp [htok], fun tB hB => by rw [he]; exact h.b_token tB hB⟩

/-- `B`'s open of `p` while `A` holds no token: on success `B`'s token is one of `p`'s
holders, and on failure `B` holds nothing. -/
theorem Sys.Inv.otherOpen (h : s.Inv p) (hA : s.a.token = none) {access : FileIOOpenAccess}
    (hl : access.locked = true) (osFd : Option Nat) :
    Sys.Inv p ⟨(fileIOOpen (FileLockTable.ops 1) s.world .invalid p access osFd).2.1, s.a,
      if (fileIOOpen (FileLockTable.ops 1) s.world .invalid p access osFd).1.isSuccess then
        .holding (fileIOOpen (FileLockTable.ops 1) s.world .invalid p access osFd).2.2
      else .idle⟩ := by
  rcases ho : fileIOOpen (FileLockTable.ops 1) s.world .invalid p access osFd with ⟨r, w', fd'⟩
  rcases fileIOOpen_lockTable_cases hl ho with ⟨rfl, tok, htok, hw, ht, -, -⟩ | ⟨hne, -⟩
  · obtain ⟨rfl, hmem, -⟩ := FileLockTable.lock_of_some htok
    refine ⟨h.a_wf, by simp [BStage.Wf, ht], fun tA hA' => by simp [hA] at hA', ?_⟩
    simp only [FileIOResult.isSuccess, decide_True, ↓reduceIte, BStage.token, ht,
      Option.some.injEq]
    rintro tB rfl
    exact ⟨by rw [hw]; exact hmem, rfl⟩
  · have hr : r.isSuccess = false := by simp [FileIOResult.isSuccess, hne]
    simp only [hr, Bool.false_eq_true, ↓reduceIte]
    exact of_tokens_none h.a_wf trivial hA rfl

/-- Every call of `A` keeps the invariant. -/
theorem Sys.Inv.aStep (h : s.Inv p) {e : AEvent} {w' : World FileLockTable} {a' : AStage}
    (hs : aStep p s.world s.a e = some (w', a')) : Sys.Inv p ⟨w', a', s.b⟩ := by
  obtain ⟨world, a, b⟩ := s
  have hwf := h.a_wf
  simp only at hs hwf
  cases AStep.of_aStep hs with
  | «open» osFd => exact h.writerOpen .invalid osFd .start trivial rfl
  | tempFile fd env =>
    obtain ⟨hlocks, htmp⟩ :=
      fileIOAtomicTempFile_locks (FileLockTable.ops 0) env world fd .invalid rfl
    obtain ⟨hn, hf, ht⟩ := hwf
    split
    · exact h.frame ⟨hn, hf, ht, htmp⟩ h.b_wf rfl rfl (by rw [hlocks])
    · exact h.frame ⟨hn, hf, ht⟩ h.b_wf rfl rfl (by rw [hlocks])
  | write fd tmp c => exact h.frame hwf h.b_wf rfl rfl rfl
  | begin fd tmp =>
    obtain ⟨hn, hf, ht, htmp⟩ := hwf
    exact h.frame ⟨by simp [hn], by simp [hf], by simpa using ht⟩ h.b_wf rfl rfl
      (by rw [exchangeBegin_locks _ _ _ _ htmp])
  | rename st busy =>
    exact h.frame (by simpa [AStage.Wf] using hwf) h.b_wf (by simp [AStage.token]) rfl
      (by rw [exchangeRename_locks])
  | release st => exact h.of_a_release hwf.2.2 _ (by simpa [AStage.Wf] using ⟨hwf.1, hwf.2.1⟩) rfl
  | reopen st osFd =>
    obtain ⟨hp, hacc⟩ := hwf
    have := h.writerOpen st.currFD osFd .panicked trivial rfl
    rw [exchangeReopen_of_currPath (FileLockTable.ops 0) { st with world := world } osFd hp]
    dsimp only at this ⊢
    rwa [hacc]
  | close fd => exact h.of_a_release hwf.2.2 _ trivial rfl

/-- Every call of `B` keeps the invariant. -/
theorem Sys.Inv.bStep (h : s.Inv p) {e : BEvent} {w' : World FileLockTable} {b' : BStage}
    (hs : bStep p s.world s.b e = some (w', b')) : Sys.Inv p ⟨w', s.a, b'⟩ := by
  obtain ⟨world, a, b⟩ := s
  have hwf := h.b_wf
  simp only at hs hwf
  cases BStep.of_bStep hs with
  | «open» access osFd hl =>
    cases hA : a.token with
    | some tA =>
      -- `A` write-locks `p`: the open fails and changes nothing
      rw [fileIOOpen_of_exclusive hl (h.a_token tA hA).1]
      exact h
    | none => exact h.otherOpen hA hl osFd
  | write fd d _ => exact h.frame h.a_wf hwf rfl rfl rfl
  | close fd =>
    obtain ⟨tB, htB⟩ := Option.isSome_iff_exists.mp hwf
    exact of_tokens_none h.a_wf trivial (h.a_token_of_b_token htB) rfl

/-- Every call of either process keeps the invariant. -/
theorem Sys.Inv.step (h : s.Inv p) {e : Event} {s' : Sys} (hs : s.step p e = some s') :
    s'.Inv p := by
  cases e with
  | a e =>
    obtain ⟨⟨w', a'⟩, ha, rfl⟩ := Option.map_eq_some'.mp hs
    exact h.aStep ha
  | b e =>
    obtain ⟨⟨w', b'⟩, hb, rfl⟩ := Option.map_eq_some'.mp hs
    exact h.bStep hb

/-- The invariant holds after every interleaving from a start where neither process has
begun. -/
theorem Sys.Inv.of_reachable {w₀ : World FileLockTable} (hs : Reachable p ⟨w₀, .start, .idle⟩ s) :
    s.Inv p := by
  induction hs with
  | refl => exact Sys.Inv.of_tokens_none trivial trivial rfl rfl
  | tail _ hst ih =>
    obtain ⟨e, he⟩ := hst
    exact ih.step he

end Steps

/-! ## Where the lock protects `p`, and where it does not -/

/-- While `A` holds its lock, `B` holds none on `p` and none of `B`'s calls changes the file
system or the lock table: `B` is idle, and its locked open of the write-locked `p` fails. -/
theorem shut_out_of_holdsLock {p : Path} {s : Sys} (h : s.Inv p) (hA : s.a.holdsLock = true) :
    ¬ s.world.locks.Holds 1 p ∧
      ∀ e w' b', bStep p s.world s.b e = some (w', b') → w' = s.world := by
  obtain ⟨tA, htA⟩ := Option.isSome_iff_exists.mp (AStage.token_isSome_of_holdsLock h.a_wf hA)
  obtain ⟨hex, h0⟩ := h.a_token tA htA
  refine ⟨fun ⟨t, ht, h1⟩ => ?_, fun e w' b' hb => ?_⟩
  · rw [hex, LockState.holders, List.mem_singleton] at ht
    rw [ht] at h1
    omega
  · have hidle : s.b = .idle := by
      have hb := h.b_token_of_a_token htA
      have hwf := h.b_wf
      cases hs : s.b <;> simp_all [BStage.token, BStage.Wf]
    rw [hidle] at hb
    cases BStep.of_bStep hb with
    | «open» access osFd hl => rw [fileIOOpen_of_exclusive hl hex]

/-- In every interleaving, while `A` holds its lock on `p` (from a successful open or reopen
up to the release inside an exchange, or its final close), `B` holds no lock on `p` and no
call of `B` changes the file system or the lock table. -/
theorem second_process_shut_out_while_locked (p : Path) (w₀ : World FileLockTable) {s : Sys}
    (hs : Reachable p ⟨w₀, .start, .idle⟩ s) (hA : s.a.holdsLock = true) :
    ¬ s.world.locks.Holds 1 p ∧ ∀ e s', s.step p (.b e) = some s' → s'.world = s.world := by
  obtain ⟨hno, hb⟩ := shut_out_of_holdsLock (Sys.Inv.of_reachable hs) hA
  refine ⟨hno, fun e s' hs' => ?_⟩
  obtain ⟨⟨w', b'⟩, hbs, rfl⟩ := Option.map_eq_some'.mp hs'
  exact hb e w' b' hbs

/-- `cfg` holds `a=1` and nobody holds a lock or has begun. -/
def cfgStart : Sys := ⟨⟨cfgFreshFileSystem, .empty⟩, .start, .idle⟩

theorem second_process_shut_out_while_locked_cfg :
    ∃ s ∈ Sys.run "cfg" cfgStart [.a (.open (some 3))],
      s.a.holdsLock = true ∧ ¬ s.world.locks.Holds 1 "cfg" := by
  obtain ⟨s, hs, hA⟩ : ∃ s ∈ Sys.run "cfg" cfgStart [.a (.open (some 3))],
      s.a.holdsLock = true := by decide
  exact ⟨s, hs, hA, (second_process_shut_out_while_locked "cfg" _ (reachable_of_run hs) hA).1⟩

/-- `A` opens `cfg` and commits `a=2` over it up to the exchange's `FileIO_Close(currFD)`;
then `B` opens `cfg` locked for writing. -/
def gapLockTrace : List Event :=
  [.a (.open (some 3)), .a (.tempFile tempFileOkEnv), .a (.write [97, 61, 50]), .a .begin,
    .a (.rename fun _ => false), .a .release, .b (.open ⟨true, true, true⟩ (some 5))]

/-- `B` writes `b=7` over `cfg` and closes it; then `A`'s reopen succeeds. -/
def gapWriteTrace : List Event :=
  [.b (.write [98, 61, 55]), .b .close, .a (.reopen (some 3))]

/-- An interleaving in which `B` holds the lock on `cfg` while `A` is between its open and its
final close, writes `b=7` there, and `A` then holds its lock again over `B`'s bytes instead of
the `a=2` it committed. -/
theorem exchange_gap_admits_second_writer :
    ∃ s, Reachable "cfg" cfgStart s ∧ s.a.between = true ∧ s.world.locks.Holds 1 "cfg" ∧
      ∃ s', Reachable "cfg" s s' ∧ s'.a.holdsLock = true ∧
        (s'.world.fs "cfg").map Node.content = some [98, 61, 55] := by
  obtain ⟨s, hs, ha, hb, s', hs', ha', hc⟩ : ∃ s ∈ Sys.run "cfg" cfgStart gapLockTrace,
      s.a.between = true ∧ s.world.locks.Holds 1 "cfg" ∧ ∃ s' ∈ Sys.run "cfg" s gapWriteTrace,
        s'.a.holdsLock = true ∧ (s'.world.fs "cfg").map Node.content = some [98, 61, 55] := by
    decide
  exact ⟨s, reachable_of_run hs, ha, hb, s', reachable_of_run hs', ha', hc⟩

end OpenVmTools
