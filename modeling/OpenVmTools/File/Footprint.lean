import OpenVmTools.File.Concurrency

/-!
# What the two processes change

The programs of `Concurrency` open one file `p`; `A` also makes, writes and renames its
sibling `p~`. This file proves that, in every interleaving, they change nothing else, and it
names the steps that change `p`.

`Sys.Names` adds to `Sys.Inv` where the descriptors point: `A`'s temp descriptor, and the
saved name of `newFD` inside the exchange, name `p~`, and a descriptor `B` holds names `p`.
Every step keeps it (`Sys.Names.step`).

* `two_processes_touch_only_file_and_sibling`: from any start, no interleaving changes a path
  other than `p` and `p~`. The locks are not among these paths: `FileLock` keeps them on disk
  in entries of `p.lck`, which the model keeps as the `FileLockTable` apart from the file
  system, so the statement says nothing about those entries.
* `file_changes_only_by_rename_or_in_gap`: while `A` is between its open of `p` and its final
  close, a step that changes what `p` names is `A`'s `File_RenameRetry`, which moves the
  sibling's node onto `p`, or a write of `B` made while `A` is at the `FileIO_Close(currFD)`
  gap of its exchange. The gap is the only way another writer reaches `p`
  (`exchange_gap_admits_second_writer` shows it does).
-/

namespace OpenVmTools

/-! ## Frame lemmas of the calls -/

section Frames

variable {fs : FileSystem} {r : Path}

/-- `pwrite(2)` through a descriptor named `q` changes the file system at `q` only. -/
theorem fileIOPwrite_other {fd : FileIODescriptor} {q : Path} (buf : List UInt8) (off : Nat)
    (hq : fd.fileName = some q) (hr : r ≠ q) : (fileIOPwrite fs fd buf off).2 r = fs r := by
  simp only [fileIOPwrite, hq]
  split_ifs <;> simp [hr]

/-- `File_RenameRetry` changes the file system at its source and destination only. -/
theorem fileRenameRetry_other {src dst : Path} (busy : Nat → Bool) (n k : Nat) (h₁ : r ≠ src)
    (h₂ : r ≠ dst) : (fileRenameRetry fs src dst busy n k).2 r = fs r := by
  rcases fileRenameRetry_cases fs src dst busy n k with ⟨-, h⟩ | ⟨-, h⟩
  · exact rename_other h h₁ h₂
  · rw [h]

/-- After `File_RenameRetry` the destination names what it named, or what the source named. -/
theorem fileRenameRetry_dst (fs : FileSystem) (src dst : Path) (busy : Nat → Bool) (n k : Nat) :
    (fileRenameRetry fs src dst busy n k).2 dst = fs dst ∨
      (fileRenameRetry fs src dst busy n k).2 dst = fs src := by
  rcases fileRenameRetry_cases fs src dst busy n k with ⟨-, h⟩ | ⟨-, h⟩
  · exact .inr (rename_dst h)
  · exact .inl (by rw [h])

/-- `FileIO_AtomicTempFile` on a descriptor named `p` changes the file system at `p~` only. -/
theorem fileIOAtomicTempFile_fs_other {σ : Type} (ops : FileLockOps σ) (env : TempFileEnv)
    (w : World σ) {fileFD tempFD : FileIODescriptor} {p : Path} (hp : fileFD.fileName = some p)
    (hr : r ≠ p ++ "~") : (fileIOAtomicTempFile ops env w fileFD tempFD).2.1.fs r = w.fs r := by
  rcases fileIOAtomicTempFile_cases ops env w fileFD tempFD hp with
    ⟨-, -, hfs | hfs | ⟨-, n, -, hfs⟩⟩ | ⟨-, n, fd, -, -, hfs⟩ <;> simp [hfs, hr]

end Frames

/-! ## Where the descriptors point -/

/-- `A`'s temp descriptor, and the name of `newFD` saved inside the exchange, name `p~`. -/
def AStage.TempNamed (p : Path) : AStage → Prop
  | .tempMade _ tmp | .written _ tmp => tmp.fileName = some (p ++ "~")
  | .begun st | .renamed st | .released st => st.newPath = some (p ++ "~")
  | _ => True

/-- A descriptor `B` holds is open on `p`. -/
def BStage.Named (p : Path) : BStage → Prop
  | .holding fd => fd.fileName = some p
  | .idle => True

/-- Where both processes' descriptors point. -/
structure Sys.Names (p : Path) (s : Sys) : Prop where
  a_temp : s.a.TempNamed p
  b_file : s.b.Named p

section Steps

variable {p : Path} {w w' : World FileLockTable} {a a' : AStage} {b b' : BStage}

/-- `A`'s calls keep its temp descriptor on `p~`: `FileIO_AtomicTempFile` opens it there. -/
theorem AStage.TempNamed.step (hw : a.Wf p) (ht : a.TempNamed p) {e : AEvent}
    (hs : aStep p w a e = some (w', a')) : a'.TempNamed p := by
  cases AStep.of_aStep hs with
  | «open» _ | reopen _ _ => split <;> trivial
  | tempFile fd env =>
    split
    · next htrue =>
      rcases fileIOAtomicTempFile_cases (FileLockTable.ops 0) env w fd .invalid hw.1 with
        ⟨hf, -⟩ | ⟨-, n, fd', -, hfd, -⟩
      · simp [hf] at htrue
      · simp [AStage.TempNamed, hfd]
    · trivial
  | write _ _ _ | release _ => exact ht
  | begin _ _ | rename _ _ => simpa [AStage.TempNamed] using ht
  | close _ => trivial

/-- `B`'s calls keep its descriptor on `p`. -/
theorem BStage.Named.step (hb : b.Named p) {e : BEvent} (hs : bStep p w b e = some (w', b')) :
    b'.Named p := by
  cases BStep.of_bStep hs with
  | «open» _ _ _ =>
    split
    · next hok => exact (fileIOOpen_of_success _ _ _ _ _ _ (by simpa using hok)).1.2
    · trivial
  | write _ _ _ => exact hb
  | close _ => trivial

/-- Every call of either process keeps the descriptors where they point. -/
theorem Sys.Names.step {s s' : Sys} (hi : s.Inv p) (h : s.Names p) {e : Event}
    (hs : s.step p e = some s') : s'.Names p := by
  cases e with
  | a e =>
    obtain ⟨⟨w', a'⟩, ha, rfl⟩ := Option.map_eq_some'.mp hs
    exact ⟨h.a_temp.step hi.a_wf ha, h.b_file⟩
  | b e =>
    obtain ⟨⟨w', b'⟩, hb, rfl⟩ := Option.map_eq_some'.mp hs
    exact ⟨h.a_temp, h.b_file.step hb⟩

/-- The lock invariant and where the descriptors point hold after every interleaving. -/
theorem Sys.Names.of_reachable {w₀ : World FileLockTable} {s : Sys}
    (hs : Reachable p ⟨w₀, .start, .idle⟩ s) : s.Inv p ∧ s.Names p := by
  induction hs with
  | refl => exact ⟨Sys.Inv.of_tokens_none trivial trivial rfl rfl, trivial, trivial⟩
  | tail _ hst ih =>
    obtain ⟨e, he⟩ := hst
    exact ⟨ih.1.step he, ih.2.step ih.1 he⟩

/-- A call of `A` changes the file system at `p` and `p~` only, and at `p` only in
`File_RenameRetry`, which moves the node of `p~` there. -/
theorem aStep_fs (hw : a.Wf p) (ht : a.TempNamed p) {e : AEvent}
    (hs : aStep p w a e = some (w', a')) :
    (∀ r, r ≠ p → r ≠ p ++ "~" → w'.fs r = w.fs r) ∧
      (w'.fs p = w.fs p ∨ ∃ busy, e = .rename busy ∧ w'.fs p = w.fs (p ++ "~")) := by
  have hne : p ≠ p ++ "~" := (append_tilde_ne p).symm
  cases AStep.of_aStep hs with
  | «open» _ => exact ⟨fun _ _ _ => by simp, .inl (by simp)⟩
  | tempFile fd env =>
    exact ⟨fun r _ hr => fileIOAtomicTempFile_fs_other _ env w hw.1 hr,
      .inl (fileIOAtomicTempFile_fs_other _ env w hw.1 hne)⟩
  | write fd tmp c =>
    exact ⟨fun r _ hr => fileIOPwrite_other c 0 ht hr, .inl (fileIOPwrite_other c 0 ht hne)⟩
  | begin _ _ | release _ | close _ => exact ⟨fun _ _ _ => rfl, .inl rfl⟩
  | rename st busy =>
    rw [exchangeRename_of_paths busy { st with world := w } _ _ ht hw.1]
    refine ⟨fun r h₁ h₂ => fileRenameRetry_other busy 10 0 h₂ h₁, ?_⟩
    rcases fileRenameRetry_dst w.fs (p ++ "~") p busy 10 0 with h | h
    · exact .inl h
    · exact .inr ⟨busy, rfl, h⟩
  | reopen st osFd =>
    have hfs := (exchangeReopen_frame (FileLockTable.ops 0) { st with world := w } osFd).1
    exact ⟨fun r _ _ => by rw [hfs], .inl (by rw [hfs])⟩

/-- A call of `B` changes the file system at `p` only, and only by a write. -/
theorem bStep_fs (hb : b.Named p) {e : BEvent} (hs : bStep p w b e = some (w', b')) :
    (∀ r, r ≠ p → w'.fs r = w.fs r) ∧ (w'.fs p = w.fs p ∨ ∃ d, e = .write d) := by
  cases BStep.of_bStep hs with
  | «open» _ _ _ => exact ⟨fun _ _ => by simp, .inl (by simp)⟩
  | write fd d _ => exact ⟨fun r hr => fileIOPwrite_other d 0 hb hr, .inr ⟨d, rfl⟩⟩
  | close _ => exact ⟨fun _ _ => rfl, .inl rfl⟩

/-- Between its open and its final close, `A` holds no token only in the gap of its
exchange. -/
theorem AStage.eq_released_of_token_none (hw : a.Wf p) (hb : a.between = true)
    (ht : a.token = none) : ∃ st, a = .released st := by
  cases a <;> simp_all [AStage.Wf, AStage.token, AStage.between]

end Steps

/-! ## The footprint of every interleaving -/

/-- In every interleaving of the two programs, from any file system and lock table, no path
other than `p` and its sibling `p~` ever names anything but what it named at the start. The
`p.lck` entries of `FileLock` are the lock table here, not paths of the file system. -/
theorem two_processes_touch_only_file_and_sibling (p : Path) (w₀ : World FileLockTable) {s : Sys}
    (hs : Reachable p ⟨w₀, .start, .idle⟩ s) (r : Path) (h₁ : r ≠ p) (h₂ : r ≠ p ++ "~") :
    s.world.fs r = w₀.fs r := by
  induction hs with
  | refl => rfl
  | @tail s s' hr hst ih =>
    obtain ⟨e, he⟩ := hst
    obtain ⟨hi, hn⟩ := Sys.Names.of_reachable hr
    rw [← ih]
    cases e with
    | a e =>
      obtain ⟨⟨w', a'⟩, ha, rfl⟩ := Option.map_eq_some'.mp he
      exact (aStep_fs hi.a_wf hn.a_temp ha).1 r h₁ h₂
    | b e =>
      obtain ⟨⟨w', b'⟩, hb, rfl⟩ := Option.map_eq_some'.mp he
      exact (bStep_fs hn.b_file hb).1 r h₁

theorem two_processes_touch_only_file_and_sibling_cfg :
    ∃ s ∈ Sys.run "cfg" cfgStart (gapLockTrace ++ gapWriteTrace),
      s.world.fs "cfg.bak" = cfgStart.world.fs "cfg.bak" := by
  obtain ⟨s, hs, -⟩ :
      ∃ s ∈ Sys.run "cfg" cfgStart (gapLockTrace ++ gapWriteTrace), True := by
    decide
  exact ⟨s, hs, two_processes_touch_only_file_and_sibling "cfg" _ (reachable_of_run hs) "cfg.bak"
    (by decide) (by decide)⟩

/-- While `A` is between its open of `p` and its final close, a step of either process that
changes what `p` names is `A`'s `File_RenameRetry`, which leaves on `p` the node `p~` named,
or a write of `B` made while `A` is in the gap after the `FileIO_Close(currFD)` of its
exchange. -/
theorem file_changes_only_by_rename_or_in_gap (p : Path) (w₀ : World FileLockTable)
    {s s' : Sys} {e : Event} (hs : Reachable p ⟨w₀, .start, .idle⟩ s) (hA : s.a.between = true)
    (he : s.step p e = some s') (hne : s'.world.fs p ≠ s.world.fs p) :
    (∃ busy, e = .a (.rename busy) ∧ s'.world.fs p = s.world.fs (p ++ "~")) ∨
      ((∃ st, s.a = .released st) ∧ ∃ d, e = .b (.write d)) := by
  obtain ⟨hi, hn⟩ := Sys.Names.of_reachable hs
  cases e with
  | a e =>
    obtain ⟨⟨w', a'⟩, ha, rfl⟩ := Option.map_eq_some'.mp he
    rcases (aStep_fs hi.a_wf hn.a_temp ha).2 with h | ⟨busy, rfl, h⟩
    · exact absurd h hne
    · exact .inl ⟨busy, rfl, h⟩
  | b e =>
    obtain ⟨⟨w', b'⟩, hb, rfl⟩ := Option.map_eq_some'.mp he
    rcases (bStep_fs hn.b_file hb).2 with h | ⟨d, rfl⟩
    · exact absurd h hne
    -- `B` writes through a descriptor it holds, so `A` holds no token: it is in the gap
    obtain ⟨fd, hfd⟩ : ∃ fd, s.b = .holding fd := by
      cases hsb : s.b
      · simp [hsb, bStep] at hb
      · exact ⟨_, rfl⟩
    have hwf := hi.b_wf
    rw [hfd] at hwf
    obtain ⟨tB, htB⟩ := Option.isSome_iff_exists.mp hwf
    have hA' := hi.a_token_of_b_token (show s.b.token = some tB by rw [hfd]; exact htB)
    exact .inr ⟨AStage.eq_released_of_token_none hi.a_wf hA hA', d, rfl⟩

theorem file_changes_only_by_rename_or_in_gap_cfg :
    ∃ s ∈ Sys.run "cfg" cfgStart gapLockTrace, ∃ s' ∈ s.step "cfg" (.b (.write [98, 61, 55])),
      s.a.between = true ∧ s'.world.fs "cfg" ≠ s.world.fs "cfg" ∧
      ((∃ busy, Event.b (.write [98, 61, 55]) = .a (.rename busy) ∧
          s'.world.fs "cfg" = s.world.fs ("cfg" ++ "~")) ∨
        ((∃ st, s.a = .released st) ∧ ∃ d, Event.b (.write [98, 61, 55]) = .b (.write d))) := by
  obtain ⟨s, hs, s', hs', ha, hne⟩ : ∃ s ∈ Sys.run "cfg" cfgStart gapLockTrace,
      ∃ s' ∈ s.step "cfg" (.b (.write [98, 61, 55])),
        s.a.between = true ∧ s'.world.fs "cfg" ≠ s.world.fs "cfg" := by
    decide
  exact ⟨s, hs, s', hs', ha, hne, file_changes_only_by_rename_or_in_gap "cfg" _
    (reachable_of_run hs) ha hs' hne⟩

end OpenVmTools
