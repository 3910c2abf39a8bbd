import OpenVmTools.File.Concurrency

/-!
# The lock table holds what the processes hold, and nothing else

`Sys.Inv` says where the two processes' tokens sit in the `FileLockTable`. The converse is what
keeps the file usable: the table holds nothing on `p` that no descriptor accounts for.
`Sys.Accounted` says that the holders of `p` are exactly `A`'s token and `B`'s token, and that
both are tokens on `p`.

A granted lock puts its token in front of the path's holders (`lock_holders_of_some`) and
`FileLock_Unlock` takes it out (`unlock_holders`), so every step keeps `Sys.Accounted` given
`Sys.Inv`: a successful open adds the token its descriptor keeps; a failed one, including a
`FileIO_Create` that unlocks on its error path, leaves the holders alone; the
`FileIO_Close(currFD)` of the exchange and each final close take out the token they release.

* `lock_table_holds_exactly_open_tokens`: in every interleaving that starts with `p` unlocked,
  the holders of `p` are the tokens of the descriptors the processes hold. No call leaves a lock
  behind, not even the reopen that fails and panics, and once neither process holds a
  descriptor of `p`, `p` is free for the next writer.
* `exchange_reopen_panics_iff_second_holder`: the reopen after the `FileIO_Close(currFD)` of
  the exchange asks for the write lock again, and the table then holds exactly `B`'s token. So
  `A` reaches `Panic("Failed to reopen dictionary file.")` exactly when `B` holds any lock on
  `p`, a read lock included, or `open(2)` fails: a reader that opens `p` in the gap stops the
  writer.
-/

namespace OpenVmTools

/-- `FileIO_Close` on the lock table takes the descriptor's token out of its path's
holders. -/
theorem fileIOClose_holders {pid : Nat} {fd : FileIODescriptor} {t : FileLockTable}
    {tok : LockToken} {p : Path} (hfd : fd.lockToken = some tok) (hp : tok.path = p) :
    ((fileIOClose (FileLockTable.ops pid) fd t).2.2.entries p).holders =
      (t.entries p).holders.erase tok := by
  subst hp
  simp only [fileIOClose, fileIOUnlock_of_lockToken_some _ _ _ hfd, FileLockTable.ops_unlock]
  exact FileLockTable.unlock_holders tok t

/-- A locked `FileIO_Open` of `p` that succeeds puts the token its descriptor keeps, a token on
`p`, in front of `p`'s holders; one that fails leaves every path's locks alone. -/
theorem fileIOOpen_holders {pid : Nat} {w w' : World FileLockTable} {file fd' : FileIODescriptor}
    {p : Path} {access : FileIOOpenAccess} {osFd : Option Nat} {r : FileIOResult}
    (hl : access.locked = true)
    (h : fileIOOpen (FileLockTable.ops pid) w file p access osFd = (r, w', fd')) :
    (r = .success ∧ ∃ tok, fd'.lockToken = some tok ∧ tok.path = p ∧
        (w'.locks.entries p).holders = tok :: (w.locks.entries p).holders) ∨
      (r ≠ .success ∧ w'.locks.entries = w.locks.entries) := by
  rcases fileIOOpen_lockTable_cases hl h with ⟨rfl, tok, htok, hw, ht, -, -⟩ | hf
  · refine .inl ⟨rfl, tok, ht, by rw [(FileLockTable.lock_of_some htok).1], ?_⟩
    rw [hw, FileLockTable.lock_holders_of_some htok]
  · exact .inr hf

/-- The tokens holding `p` are `A`'s and `B`'s, in this order, each a token on `p`. -/
structure Sys.Accounted (p : Path) (s : Sys) : Prop where
  holders : (s.world.locks.entries p).holders = s.a.token.toList ++ s.b.token.toList
  a_path : ∀ t, s.a.token = some t → t.path = p
  b_path : ∀ t, s.b.token = some t → t.path = p

section Steps

variable {p : Path} {s : Sys}

/-- The accounting carries over a step that keeps both tokens and the locks on `p`. -/
theorem Sys.Accounted.frame (h : s.Accounted p) {w' : World FileLockTable} {a' : AStage}
    {b' : BStage} (hta : a'.token = s.a.token) (htb : b'.token = s.b.token)
    (he : w'.locks.entries p = s.world.locks.entries p) : Sys.Accounted p ⟨w', a', b'⟩ :=
  ⟨by rw [he, hta, htb]; exact h.holders, fun t ht => h.a_path t (hta ▸ ht),
    fun t ht => h.b_path t (htb ▸ ht)⟩

/-- `A`'s open, or reopen, of `p` from a stage without a token: on success its token is put in
front of `p`'s holders, where `A`'s token belongs. -/
theorem Sys.Accounted.writerOpen (h : s.Accounted p) (hA : s.a.token = none)
    (file : FileIODescriptor) (osFd : Option Nat) (stay : AStage) (hstay : stay.token = none) :
    Sys.Accounted p ⟨(fileIOOpen (FileLockTable.ops 0) s.world file p writerAccess osFd).2.1,
      if (fileIOOpen (FileLockTable.ops 0) s.world file p writerAccess osFd).1.isSuccess then
        .opened (fileIOOpen (FileLockTable.ops 0) s.world file p writerAccess osFd).2.2
      else stay, s.b⟩ := by
  rcases ho : fileIOOpen (FileLockTable.ops 0) s.world file p writerAccess osFd with
    ⟨r, w', fd'⟩
  rcases fileIOOpen_holders rfl ho with ⟨rfl, tok, ht, hp, hw⟩ | ⟨hne, he⟩
  · simp only [FileIOResult.isSuccess, decide_True, ↓reduceIte]
    refine ⟨?_, fun t ht' => ?_, h.b_path⟩
    · rw [hw, h.holders, hA]
      simp [AStage.token, ht]
    · simp only [AStage.token, ht, Option.some.injEq] at ht'
      rwa [← ht']
  · have hr : r.isSuccess = false := by simp [FileIOResult.isSuccess, hne]
    simp only [hr, Bool.false_eq_true, ↓reduceIte]
    exact h.frame (hstay.trans hA.symm) rfl (by rw [he])

/-- `B`'s open of `p` while neither process holds a token: on success its token is `p`'s only
holder. -/
theorem Sys.Accounted.otherOpen (h : s.Accounted p) (hA : s.a.token = none)
    (hB : s.b.token = none) {access : FileIOOpenAccess} (hl : access.locked = true)
    (osFd : Option Nat) :
    Sys.Accounted p ⟨(fileIOOpen (FileLockTable.ops 1) s.world .invalid p access osFd).2.1, s.a,
      if (fileIOOpen (FileLockTable.ops 1) s.world .invalid p access osFd).1.isSuccess then
        .holding (fileIOOpen (FileLockTable.ops 1) s.world .invalid p access osFd).2.2
      else .idle⟩ := by
  rcases ho : fileIOOpen (FileLockTable.ops 1) s.world .invalid p access osFd with ⟨r, w', fd'⟩
  rcases fileIOOpen_holders hl ho with ⟨rfl, tok, ht, hp, hw⟩ | ⟨hne, he⟩
  · simp only [FileIOResult.isSuccess, decide_True, ↓reduceIte]
    refine ⟨?_, h.a_path, fun t ht' => ?_⟩
    · rw [hw, h.holders, hA, hB]
      simp [BStage.token, ht]
    · simp only [BStage.token, ht, Option.some.injEq] at ht'
      rwa [← ht']
  · have hr : r.isSuccess = false := by simp [FileIOResult.isSuccess, hne]
    simp only [hr, Bool.false_eq_true, ↓reduceIte]
    exact h.frame rfl hB.symm (by rw [he])

/-- `A` closes the descriptor that keeps its token: the token leaves `p`'s holders. -/
theorem Sys.Accounted.of_a_release (h : s.Accounted p) {tA : LockToken}
    (hA : s.a.token = some tA) {fd : FileIODescriptor} (hfd : fd.lockToken = some tA)
    (fs : FileSystem) {a' : AStage} (hta : a'.token = none) :
    Sys.Accounted p
      ⟨⟨fs, (fileIOClose (FileLockTable.ops 0) fd s.world.locks).2.2⟩, a', s.b⟩ :=
  ⟨by rw [fileIOClose_holders hfd (h.a_path tA hA), h.holders, hA, hta]; simp,
    fun _ ht => by simp [hta] at ht, h.b_path⟩

/-- Every call of `A` keeps the accounting. -/
theorem Sys.Accounted.aStep (hi : s.Inv p) (h : s.Accounted p) {e : AEvent}
    {w' : World FileLockTable} {a' : AStage} (hs : aStep p s.world s.a e = some (w', a')) :
    Sys.Accounted p ⟨w', a', s.b⟩ := by
  obtain ⟨world, a, b⟩ := s
  have hwf := hi.a_wf
  simp only at hs hwf
  cases AStep.of_aStep hs with
  | «open» osFd => exact h.writerOpen rfl .invalid osFd .start rfl
  | tempFile fd env =>
    have hlocks := (fileIOAtomicTempFile_locks (FileLockTable.ops 0) env world fd .invalid rfl).1
    split <;> exact h.frame rfl rfl (by rw [hlocks])
  | write fd tmp c => exact h.frame rfl rfl rfl
  | begin fd tmp => exact h.frame rfl rfl (by rw [exchangeBegin_locks _ _ _ _ hwf.2.2.2])
  | rename st busy => exact h.frame (by simp [AStage.token]) rfl (by rw [exchangeRename_locks])
  | release st =>
    obtain ⟨tA, htA⟩ := Option.isSome_iff_exists.mp hwf.2.2
    exact h.of_a_release htA htA world.fs rfl
  | reopen st osFd =>
    obtain ⟨hp, hacc⟩ := hwf
    have := h.writerOpen rfl st.currFD osFd .panicked rfl
    rw [exchangeReopen_of_currPath (FileLockTable.ops 0) { st with world := world } osFd hp]
    dsimp only at this ⊢
    rwa [hacc]
  | close fd =>
    obtain ⟨tA, htA⟩ := Option.isSome_iff_exists.mp hwf.2.2
    exact h.of_a_release htA htA world.fs rfl

/-- Every call of `B` keeps the accounting. -/
theorem Sys.Accounted.bStep (hi : s.Inv p) (h : s.Accounted p) {e : BEvent}
    {w' : World FileLockTable} {b' : BStage} (hs : bStep p s.world s.b e = some (w', b')) :
    Sys.Accounted p ⟨w', s.a, b'⟩ := by
  obtain ⟨world, a, b⟩ := s
  have hwf := hi.b_wf
  simp only at hs hwf
  cases BStep.of_bStep hs with
  | «open» access osFd hl =>
    cases hA : a.token with
    | some tA =>
      -- `A` write-locks `p`: the open fails and changes nothing
      rw [fileIOOpen_of_exclusive hl (hi.a_token tA hA).1]
      exact h
    | none => exact h.otherOpen hA rfl hl osFd
  | write fd d _ => exact h.frame rfl rfl rfl
  | close fd =>
    obtain ⟨tB, htB⟩ := Option.isSome_iff_exists.mp hwf
    refine ⟨?_, h.a_path, fun _ ht => nomatch ht⟩
    rw [fileIOClose_holders htB (h.b_path tB htB), h.holders, hi.a_token_of_b_token htB]
    simp [BStage.token, htB]

/-- Every call of either process keeps the accounting. -/
theorem Sys.Accounted.step (hi : s.Inv p) (h : s.Accounted p) {e : Event} {s' : Sys}
    (hs : s.step p e = some s') : s'.Accounted p := by
  cases e with
  | a e =>
    obtain ⟨⟨w', a'⟩, ha, rfl⟩ := Option.map_eq_some'.mp hs
    exact h.aStep hi ha
  | b e =>
    obtain ⟨⟨w', b'⟩, hb, rfl⟩ := Option.map_eq_some'.mp hs
    exact h.bStep hi hb

/-- The accounting holds after every interleaving from a start where `p` is unlocked and
neither process has begun. -/
theorem Sys.Accounted.of_reachable {w₀ : World FileLockTable}
    (h₀ : w₀.locks.entries p = .shared []) (hs : Reachable p ⟨w₀, .start, .idle⟩ s) :
    s.Accounted p := by
  induction hs with
  | refl => exact ⟨by rw [h₀]; rfl, (fun _ h => nomatch h), fun _ h => nomatch h⟩
  | tail hr hst ih =>
    obtain ⟨e, he⟩ := hst
    exact ih.step (Sys.Inv.of_reachable hr) he

/-- While `A` holds no token, `p` is free exactly when `B` holds no lock on it. -/
theorem Sys.Accounted.free_iff (hi : s.Inv p) (h : s.Accounted p) (hA : s.a.token = none) :
    s.world.locks.entries p = .shared [] ↔ ¬ s.world.locks.Holds 1 p := by
  rw [← LockState.holders_eq_nil, h.holders, hA]
  cases hB : s.b.token with
  | none => simp [FileLockTable.Holds, h.holders, hA, hB]
  | some tB => simp [FileLockTable.Holds, h.holders, hA, hB, (hi.b_token tB hB).2]

end Steps

/-- In every interleaving that starts with `p` unlocked, the holders of `p` in the lock table are
exactly the tokens of the descriptors the two processes hold: no open, failed open, exchange,
failed reopen or close leaves a lock behind or drops one a descriptor still keeps. Once neither
process holds a token, `p` is free. -/
theorem lock_table_holds_exactly_open_tokens (p : Path) (w₀ : World FileLockTable)
    (h₀ : w₀.locks.entries p = .shared []) {s : Sys} (hs : Reachable p ⟨w₀, .start, .idle⟩ s) :
    (s.world.locks.entries p).holders = s.a.token.toList ++ s.b.token.toList ∧
      (s.a.token = none → s.b.token = none → s.world.locks.entries p = .shared []) := by
  have h := (Sys.Accounted.of_reachable h₀ hs).holders
  refine ⟨h, fun hA hB => ?_⟩
  rw [hA, hB] at h
  exact LockState.holders_eq_nil.mp h

/-- `B` writes `cfg` in the gap of `A`'s exchange and closes it; `A` reopens `cfg` and closes
it. -/
theorem lock_table_holds_exactly_open_tokens_cfg :
    ∃ s ∈ Sys.run "cfg" cfgStart (gapLockTrace ++ gapWriteTrace ++ [.a .close]),
      s.a.token = none ∧ s.b.token = none ∧ s.world.locks.entries "cfg" = .shared [] := by
  obtain ⟨s, hs, hA, hB⟩ : ∃ s ∈ Sys.run "cfg" cfgStart
      (gapLockTrace ++ gapWriteTrace ++ [.a .close]), s.a.token = none ∧ s.b.token = none := by
    decide
  exact ⟨s, hs, hA, hB,
    (lock_table_holds_exactly_open_tokens "cfg" _ rfl (reachable_of_run hs)).2 hA hB⟩

/-- In every interleaving that starts with `p` unlocked, `A`'s reopen of `p` after the
`FileIO_Close(currFD)` of its exchange panics exactly when `B` holds a lock on `p`, even one for
reading, or `open(2)` returns no descriptor, or `p` names nothing. -/
theorem exchange_reopen_panics_iff_second_holder (p : Path) (w₀ : World FileLockTable)
    (h₀ : w₀.locks.entries p = .shared []) {s s' : Sys} (hs : Reachable p ⟨w₀, .start, .idle⟩ s)
    (osFd : Option Nat) (he : s.step p (.a (.reopen osFd)) = some s') :
    s'.a = .panicked ↔ s.world.locks.Holds 1 p ∨ osFd = none ∨ s.world.fs p = none := by
  have hi := Sys.Inv.of_reachable hs
  have h := Sys.Accounted.of_reachable h₀ hs
  obtain ⟨world, a, b⟩ := s
  obtain ⟨⟨w', a'⟩, ha, rfl⟩ := Option.map_eq_some'.mp he
  simp only at ha
  -- only `A` in the gap of an exchange reopens
  cases AStep.of_aStep ha with
  | reopen st _ =>
    obtain ⟨hp, hacc⟩ : st.currPath = some p ∧ st.currAccess = writerAccess := hi.a_wf
    rw [exchangeReopen_of_currPath (FileLockTable.ops 0) { st with world := world } _ hp]
    dsimp only
    rw [hacc]
    -- the reopen asks for the write lock, granted exactly when `B` holds no lock on `p`
    have hlock : (fileIOLock (FileLockTable.ops 0) (st.currFD.init p) writerAccess
        world.locks).1 = .success ↔ ¬ world.locks.Holds 1 p := by
      rw [fileIOLock_of_locked _ _ _ _ rfl, lockStatus_eq_success_iff]
      simp only [FileLockTable.ops_lock, FileIODescriptor.init_fileName, writerAccess,
        Bool.not_true, FileLockTable.lock_write_isSome_iff]
      exact h.free_iff hi rfl
    have hpanic : ∀ (c : Bool) (fd : FileIODescriptor),
        (if c = true then AStage.opened fd else .panicked) = .panicked ↔ c = false := by
      intro c fd; cases c <;> simp
    rw [hpanic, ← Bool.not_eq_true, FileIOResult.isSuccess_iff, fileIOOpen_eq_success_iff,
      hlock]
    simp only [not_and_or, not_not, Option.not_isSome_iff_eq_none]

/-- `A` opens `cfg` and commits `a=2` over it up to the exchange's `FileIO_Close(currFD)`;
then `B` opens `cfg` locked for reading. -/
def gapReadTrace : List Event :=
  [.a (.open (some 3)), .a (.tempFile tempFileOkEnv), .a (.write [97, 61, 50]), .a .begin,
    .a (.rename fun _ => false), .a .release, .b (.open ⟨true, false, true⟩ (some 5))]

theorem exchange_reopen_panics_iff_second_holder_cfg :
    ∃ s ∈ Sys.run "cfg" cfgStart gapReadTrace, ∃ s' ∈ s.step "cfg" (.a (.reopen (some 3))),
      s'.a = .panicked := by
  obtain ⟨s, hs, s', hs', hB⟩ : ∃ s ∈ Sys.run "cfg" cfgStart gapReadTrace,
      ∃ s' ∈ s.step "cfg" (.a (.reopen (some 3))), s.world.locks.Holds 1 "cfg" := by
    decide
  exact ⟨s, hs, s', hs', (exchange_reopen_panics_iff_second_holder "cfg" _ rfl
    (reachable_of_run hs) _ hs').mpr (.inl hB)⟩

end OpenVmTools
