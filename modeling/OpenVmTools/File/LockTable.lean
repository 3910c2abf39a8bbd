import Mathlib.Logic.Function.Basic
import OpenVmTools.File.Descriptor

/-!
# The `FileLock` table

The `FileLock` module as the processes of one machine see it: every path is read-locked by
a list of holders (none when it is free) or write-locked by one holder. An exclusive lock
excludes every other holder by the shape of `LockState`, not by a proof obligation.

`FileLockTable.ops pid` is the `FileLockOps` instance of process `pid`: a lock that
conflicts with a holder is not granted (`FILELOCK_DEFAULT_WAIT` runs out, `err = 0`), and
every granted token carries the owner and a fresh serial number.

`FileLock` keeps this state on disk, in entries of a `<path>.lck` directory next to the locked
file. The model keeps it apart from `FileSystem`, as the spec does: the file-system results
of this project are about the files `fileIO.c` names, and say nothing about the `.lck`
entries.
-/

namespace OpenVmTools

/-- The locks held on one path. -/
inductive LockState
  | shared (holders : List LockToken)
  | exclusive (holder : LockToken)
  deriving DecidableEq, Repr

/-- The tokens holding a lock on a path. -/
def LockState.holders : LockState → List LockToken
  | .shared hs => hs
  | .exclusive h => [h]

/-- A path without holders is free. -/
theorem LockState.holders_eq_nil {l : LockState} : l.holders = [] ↔ l = .shared [] := by
  cases l <;> simp [LockState.holders]

/-- The `FileLock` table: the locks on every path and the next serial number. -/
structure FileLockTable where
  entries : Path → LockState
  next : Nat

namespace FileLockTable

/-- No path is locked. -/
def empty : FileLockTable := ⟨fun _ => .shared [], 0⟩

/-- Modelled from the spec: `FileLock_Lock` (lib/lock, outside src/) called by process `pid`.
A write lock is granted on a free path, a read lock on a path without a writer; the token
carries the path, the owner and a fresh serial number. A lock that is not granted reports
`err = 0`, as when `FILELOCK_DEFAULT_WAIT` runs out. -/
def lock (pid : Nat) (path : Option Path) (readOnly : Bool) (t : FileLockTable) :
    (Option LockToken × Int) × FileLockTable :=
  match path with
  | none => ((none, ENOENT), t)
  | some p =>
    let tok : LockToken := ⟨p, pid, t.next⟩
    match t.entries p, readOnly with
    | .shared [], false => ((some tok, 0), ⟨Function.update t.entries p (.exclusive tok), t.next + 1⟩)
    | .shared hs, true => ((some tok, 0), ⟨Function.update t.entries p (.shared (tok :: hs)), t.next + 1⟩)
    | _, _ => ((none, 0), t)

/-- Modelled from the spec: `FileLock_Unlock` (lib/lock, outside src/), which drops the token
from its path; `false` if it is not held. -/
def unlock (tok : LockToken) (t : FileLockTable) : Bool × FileLockTable :=
  match t.entries tok.path with
  | .exclusive h =>
    if h = tok then (true, ⟨Function.update t.entries tok.path (.shared []), t.next⟩) else (false, t)
  | .shared hs =>
    if tok ∈ hs then (true, ⟨Function.update t.entries tok.path (.shared (hs.erase tok)), t.next⟩)
    else (false, t)

/-- The `FileLock` primitives as process `pid` calls them. -/
def ops (pid : Nat) : FileLockOps FileLockTable := ⟨lock pid, unlock⟩

/-- Process `pid` holds a lock on `p`. -/
def Holds (t : FileLockTable) (pid : Nat) (p : Path) : Prop :=
  ∃ h ∈ (t.entries p).holders, h.owner = pid

instance (t : FileLockTable) (pid : Nat) (p : Path) : Decidable (t.Holds pid p) :=
  inferInstanceAs (Decidable (∃ h ∈ (t.entries p).holders, h.owner = pid))

@[simp] theorem ops_lock (pid : Nat) : (ops pid).lock = lock pid := rfl
@[simp] theorem ops_unlock (pid : Nat) : (ops pid).unlock = unlock := rfl

/-- A lock on another path leaves the locks on `p` alone. -/
theorem lock_entries_other {pid : Nat} {q : Option Path} {ro : Bool} {t : FileLockTable} {p : Path}
    (h : q ≠ some p) : (lock pid q ro t).2.entries p = t.entries p := by
  unfold lock
  split
  · rfl
  · next q =>
    have hne : p ≠ q := fun e => h (e ▸ rfl)
    split <;> simp [Function.update_noteq hne]

/-- While `p` is write-locked, no lock on `p` is granted and the table is unchanged. -/
theorem lock_of_exclusive {pid : Nat} {ro : Bool} {t : FileLockTable} {p : Path} {h : LockToken}
    (hp : t.entries p = .exclusive h) : lock pid (some p) ro t = ((none, 0), t) := by
  simp [lock, hp]

/-- A lock that is not granted leaves the table as it was. -/
theorem lock_snd_of_none {pid : Nat} {q : Option Path} {ro : Bool} {t : FileLockTable}
    (h : (lock pid q ro t).1.1 = none) : (lock pid q ro t).2 = t := by
  unfold lock at h ⊢
  split
  · rfl
  · split <;> simp_all

/-- A granted lock on `p` is a fresh token of `pid` on `p` that holds `p` afterwards; a write
lock is granted only on a free path, of which it is then the only holder. Releasing the
token at once gives the locks back as they were. -/
theorem lock_of_some {pid : Nat} {p : Path} {ro : Bool} {t : FileLockTable} {tok : LockToken}
    (h : (lock pid (some p) ro t).1.1 = some tok) :
    tok = ⟨p, pid, t.next⟩ ∧ tok ∈ ((lock pid (some p) ro t).2.entries p).holders ∧
      (ro = false → t.entries p = .shared [] ∧ (lock pid (some p) ro t).2.entries p = .exclusive tok) ∧
      (unlock tok (lock pid (some p) ro t).2).2.entries = t.entries := by
  have restore : ∀ x, t.entries p = x → Function.update t.entries p x = t.entries :=
    fun x hx => hx ▸ Function.update_eq_self p t.entries
  cases ro <;> rcases he : t.entries p with (_ | ⟨x, xs⟩) | x <;> simp [lock, he] at h ⊢ <;> subst h <;>
    simp [unlock, LockState.holders, restore _ he]

/-- Releasing a token other than the write lock's holder leaves the locks on `p` alone. -/
theorem unlock_entries_of_exclusive {tok h : LockToken} {t : FileLockTable} {p : Path}
    (hp : t.entries p = .exclusive h) (hne : tok ≠ h) : (unlock tok t).2.entries p = t.entries p := by
  unfold unlock
  by_cases hq : tok.path = p
  · subst hq; simp [hp, Ne.symm hne]
  · split
    · split <;> simp [Function.update_noteq (Ne.symm hq)]
    · split <;> simp [Function.update_noteq (Ne.symm hq)]

/-- A write lock is granted exactly on a free path. -/
theorem lock_write_isSome_iff (pid : Nat) (p : Path) (t : FileLockTable) :
    (lock pid (some p) false t).1.1.isSome ↔ t.entries p = .shared [] := by
  rcases he : t.entries p with (_ | ⟨x, xs⟩) | x <;> simp [lock, he]

/-- A granted lock puts its token in front of the path's holders. -/
theorem lock_holders_of_some {pid : Nat} {p : Path} {ro : Bool} {t : FileLockTable}
    {tok : LockToken} (h : (lock pid (some p) ro t).1.1 = some tok) :
    ((lock pid (some p) ro t).2.entries p).holders = tok :: (t.entries p).holders := by
  cases ro <;> rcases he : t.entries p with (_ | ⟨x, xs⟩) | x <;> simp [lock, he] at h ⊢ <;>
    subst h <;> simp [LockState.holders]

/-- Releasing a token takes it out of its path's holders; one that is not there is a no-op. -/
theorem unlock_holders (tok : LockToken) (t : FileLockTable) :
    ((unlock tok t).2.entries tok.path).holders = (t.entries tok.path).holders.erase tok := by
  unfold unlock
  rcases he : t.entries tok.path with hs | h
  · by_cases hm : tok ∈ hs <;> simp [hm, LockState.holders, he, List.erase_of_not_mem]
  · by_cases hh : h = tok <;> simp [hh, LockState.holders, he]

end FileLockTable

end OpenVmTools
