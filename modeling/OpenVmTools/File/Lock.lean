import Mathlib.Logic.Relation
import OpenVmTools.File.Descriptor

/-!
# `FileIO_Lock` and `FileIO_Unlock`

The two functions of `fileIO.c` that drive the `FileLock` module, on builds with locking
(neither FreeBSD nor Solaris). `FileIO_Lock` stores what `FileLock_Lock` returns and
translates a missing token into a failure status through a fixed table; `FileIO_Unlock`
passes a held token to `FileLock_Unlock` and forgets it whatever the outcome.

The second half follows one descriptor through any run of the two calls, with
`FileIO_Lock` called only while the descriptor holds no token, as its `ASSERT` requires.
A `LockLog` records the primitive's calls, and `LockLog.Balanced` says the tokens passed to
`FileLock_Unlock`, followed by the token still held, are exactly the tokens `FileLock_Lock`
returned: no acquisition is released twice or dropped. `balanced_of_reachable` proves it
after every step of every run, whatever the primitive answers.
-/

namespace OpenVmTools

variable {σ : Type}

/-! ## The two calls -/

/-- The status `FileIO_Lock` reports when `FileLock_Lock` returned no token, from `err`. -/
def lockErrorResult (err : Int) : FileIOResult :=
  if err = 0 ∨ err = EROFS then .lockFailed
  else if err = ENAMETOOLONG then .fileNameTooLong
  else if err = ENOENT then .fileNotFound
  else if err = EACCES then .noPermission
  else .error

/-- The status of `FileIO_Lock` for the reply `tok`, `err` of `FileLock_Lock`. -/
def lockStatus (tok : Option LockToken) (err : Int) : FileIOResult :=
  match tok with
  | some _ => .success
  | none => lockErrorResult err

/-- `FileIO_Lock`: with `FILEIO_OPEN_LOCKED`, lock the file, shared unless the access is
for writing, and store the token. -/
def fileIOLock (ops : FileLockOps σ) (file : FileIODescriptor) (access : FileIOOpenAccess)
    (s : σ) : FileIOResult × FileIODescriptor × σ :=
  if access.locked then
    let r := ops.lock file.fileName (!access.write) s
    (lockStatus r.1.1 r.1.2, { file with lockToken := r.1.1 }, r.2)
  else (.success, file, s)

/-- `FileIO_Unlock`: release a held token; the token is dropped even when
`FileLock_Unlock` fails. -/
def fileIOUnlock (ops : FileLockOps σ) (file : FileIODescriptor) (s : σ) :
    FileIOResult × FileIODescriptor × σ :=
  match file.lockToken with
  | some tok =>
    let r := ops.unlock tok s
    (if r.1 then .success else .error, { file with lockToken := none }, r.2)
  | none => (.success, file, s)

/-- No `errno` makes the failure table report success. -/
theorem lockErrorResult_ne_success (err : Int) : lockErrorResult err ≠ .success := by
  unfold lockErrorResult
  split_ifs <;> simp

@[simp] theorem lockStatus_eq_success_iff (tok : Option LockToken) (err : Int) :
    lockStatus tok err = .success ↔ tok.isSome := by
  cases tok <;> simp [lockStatus, lockErrorResult_ne_success]

section Spec

variable (ops : FileLockOps σ) (file : FileIODescriptor) (access : FileIOOpenAccess) (s : σ)

theorem fileIOLock_of_not_locked (h : access.locked = false) :
    fileIOLock ops file access s = (.success, file, s) := by
  simp [fileIOLock, h]

theorem fileIOLock_of_locked (h : access.locked = true) :
    fileIOLock ops file access s =
      (lockStatus (ops.lock file.fileName (!access.write) s).1.1
          (ops.lock file.fileName (!access.write) s).1.2,
        { file with lockToken := (ops.lock file.fileName (!access.write) s).1.1 },
        (ops.lock file.fileName (!access.write) s).2) := by
  simp [fileIOLock, h]

/-- `FileIO_Lock` changes the lock token only. -/
theorem fileIOLock_snd_fst :
    (fileIOLock ops file access s).2.1 =
      { file with lockToken := (fileIOLock ops file access s).2.1.lockToken } := by
  unfold fileIOLock; split <;> rfl

@[simp] theorem fileIOLock_posix : (fileIOLock ops file access s).2.1.posix = file.posix := by
  rw [fileIOLock_snd_fst]

@[simp] theorem fileIOLock_flags : (fileIOLock ops file access s).2.1.flags = file.flags := by
  rw [fileIOLock_snd_fst]

@[simp] theorem fileIOLock_fileName :
    (fileIOLock ops file access s).2.1.fileName = file.fileName := by
  rw [fileIOLock_snd_fst]

/-- `FileIO_Lock` succeeds exactly when it holds a token afterwards, or when no lock was
asked for; it never reports success on a missing token, whatever the `errno`. -/
theorem fileIOLock_eq_success_iff :
    (fileIOLock ops file access s).1 = .success ↔
      access.locked = false ∨ (fileIOLock ops file access s).2.1.lockToken.isSome := by
  cases h : access.locked
  · simp [fileIOLock_of_not_locked _ _ _ _ h]
  · simp [fileIOLock_of_locked _ _ _ _ h]

theorem fileIOUnlock_of_lockToken_none (h : file.lockToken = none) :
    fileIOUnlock ops file s = (.success, file, s) := by
  simp [fileIOUnlock, h]

theorem fileIOUnlock_of_lockToken_some {tok : LockToken} (h : file.lockToken = some tok) :
    fileIOUnlock ops file s =
      (if (ops.unlock tok s).1 then .success else .error, { file with lockToken := none },
        (ops.unlock tok s).2) := by
  simp [fileIOUnlock, h]

/-- `FileIO_Unlock` changes the lock token only. -/
theorem fileIOUnlock_snd_fst :
    (fileIOUnlock ops file s).2.1 = { file with lockToken := none } := by
  unfold fileIOUnlock
  split
  · rfl
  · next h => cases file; simp_all

/-- After `FileIO_Unlock` the descriptor holds no token, whatever `FileLock_Unlock` said. -/
@[simp] theorem fileIOUnlock_lockToken : (fileIOUnlock ops file s).2.1.lockToken = none := by
  rw [fileIOUnlock_snd_fst]

@[simp] theorem fileIOUnlock_posix : (fileIOUnlock ops file s).2.1.posix = file.posix := by
  rw [fileIOUnlock_snd_fst]

@[simp] theorem fileIOUnlock_flags : (fileIOUnlock ops file s).2.1.flags = file.flags := by
  rw [fileIOUnlock_snd_fst]

@[simp] theorem fileIOUnlock_fileName :
    (fileIOUnlock ops file s).2.1.fileName = file.fileName := by
  rw [fileIOUnlock_snd_fst]

end Spec

/-! ## The token lifecycle over a run -/

/-- The calls a run made to the lock primitive, oldest first: the tokens `FileLock_Lock`
returned and the tokens passed to `FileLock_Unlock`. -/
structure LockLog where
  issued : List LockToken
  passed : List LockToken

/-- `ops`, recording its calls in a `LockLog`. -/
def FileLockOps.recording (ops : FileLockOps σ) : FileLockOps (σ × LockLog) where
  lock path readOnly s :=
    let r := ops.lock path readOnly s.1
    (r.1, r.2, { s.2 with issued := s.2.issued ++ r.1.1.toList })
  unlock tok s :=
    let r := ops.unlock tok s.1
    (r.1, r.2, { s.2 with passed := s.2.passed ++ [tok] })

/-- One descriptor during a run: the descriptor, the primitive's state and the log. -/
abbrev LockRun (σ : Type) := FileIODescriptor × σ × LockLog

/-- One call of a run: `FileIO_Lock` under its `ASSERT` (no token held when a lock is asked
for), or `FileIO_Unlock`. -/
inductive LockRunStep (ops : FileLockOps σ) : LockRun σ → LockRun σ → Prop
  | lock (fd : FileIODescriptor) (st : σ × LockLog) (access : FileIOOpenAccess)
      (h : access.locked = true → fd.lockToken = none) :
      LockRunStep ops (fd, st) (fileIOLock ops.recording fd access st).2
  | unlock (fd : FileIODescriptor) (st : σ × LockLog) :
      LockRunStep ops (fd, st) (fileIOUnlock ops.recording fd st).2

/-- The tokens passed to `FileLock_Unlock`, followed by the token still held, are exactly the
tokens `FileLock_Lock` returned, in order. -/
def LockLog.Balanced (r : LockRun σ) : Prop :=
  r.2.2.passed ++ r.1.lockToken.toList = r.2.2.issued

/-- Each call of a run keeps the log balanced. -/
theorem LockRunStep.balanced {ops : FileLockOps σ} {r r' : LockRun σ}
    (h : LockRunStep ops r r') (hb : LockLog.Balanced r) : LockLog.Balanced r' := by
  cases h with
  | lock fd st access hnone =>
    cases hl : access.locked
    · simpa [fileIOLock_of_not_locked _ _ _ _ hl] using hb
    · simp only [LockLog.Balanced, hnone hl, Option.toList_none, List.append_nil] at hb
      simp [LockLog.Balanced, fileIOLock_of_locked _ _ _ _ hl, FileLockOps.recording, hb]
  | unlock fd st =>
    cases ht : fd.lockToken with
    | none => simpa [fileIOUnlock_of_lockToken_none _ _ _ ht] using hb
    | some t =>
      simp only [LockLog.Balanced, ht, Option.toList_some] at hb
      simp [LockLog.Balanced, fileIOUnlock_of_lockToken_some _ _ _ ht, FileLockOps.recording, hb]

/-- The log a run starts from: a token the descriptor already holds counts as acquired. -/
def LockLog.start (fd : FileIODescriptor) : LockLog := ⟨fd.lockToken.toList, []⟩

/-- Every state a run reaches is balanced. -/
theorem balanced_of_reachable {ops : FileLockOps σ} {fd₀ : FileIODescriptor} {s₀ : σ}
    {r : LockRun σ}
    (h : Relation.ReflTransGen (LockRunStep ops) (fd₀, s₀, LockLog.start fd₀) r) :
    LockLog.Balanced r := by
  induction h with
  | refl => simp [LockLog.Balanced, LockLog.start]
  | tail _ hs ih => exact hs.balanced ih

/-- The lock-token lifecycle of one descriptor, for any `FileLock` primitive: after every
call of every run the passed tokens and the held token account for every acquisition, once
each (a token held at the start counting as acquired); `FileIO_Lock` with `FILEIO_OPEN_LOCKED` succeeds exactly when it stored a token; and
`FileIO_Unlock` without a token succeeds without calling `FileLock_Unlock`. -/
theorem lockToken_lifecycle (ops : FileLockOps σ) (fd₀ : FileIODescriptor) (s₀ : σ) :
    (∀ r, Relation.ReflTransGen (LockRunStep ops) (fd₀, s₀, LockLog.start fd₀) r →
        r.2.2.passed ++ r.1.lockToken.toList = r.2.2.issued) ∧
      (∀ fd access s, access.locked = true →
        ((fileIOLock ops fd access s).1 = .success ↔
          (fileIOLock ops fd access s).2.1.lockToken.isSome)) ∧
      (∀ fd st, fd.lockToken = none →
        fileIOUnlock ops.recording fd st = (.success, fd, st)) := by
  refine ⟨fun r hr => balanced_of_reachable hr, fun fd access s hl => ?_,
    fun fd st h => fileIOUnlock_of_lockToken_none _ _ _ h⟩
  simp [fileIOLock_eq_success_iff, hl]

end OpenVmTools
