import OpenVmTools.File.Commit

/-!
# Commits one after another

A caller that keeps a file up to date commits over it again and again through the same
descriptor `A`: each commit makes a temp file, writes the new bytes into it and exchanges it
with `A`'s file. `commitRun` is such a run on guests, stopping at the first commit that does not
return `TRUE`.

A commit's bytes can carry the tail of a stale sibling `p~` that `Posix_Unlink` failed to
remove (`atomicCommit_keeps_stale_tail`). A commit that returns `TRUE` renames the sibling over
`p`, so no sibling is left for the next one. `commitRun_exact_after_first`: from the second
commit of a run on, `p` holds exactly the bytes written, with the original's owner and the mode
`fchown` leaves of the original's (applying it again changes nothing, `chownMode_chownMode`),
whatever the outcomes of `Posix_Unlink`.
-/

namespace OpenVmTools

variable {σ : Type}

/-! ## Facts about one commit -/

/-- After `chown(2)` no set-user-ID bit is left, and no set-group-ID bit with group execute. -/
theorem chownMode_bits (m : Nat) :
    (chownMode m).testBit 11 = false ∧
      ((chownMode m).testBit 10 && (chownMode m).testBit 3) = false := by
  simp only [chownMode, Nat.testBit_to_div_mod, Bool.and_eq_true, decide_eq_true_eq]
  split_ifs <;> simp only [decide_eq_false_iff_not, Bool.and_eq_false_iff] <;> omega

theorem chownMode_of_bits {m : Nat} (h₁ : m.testBit 11 = false)
    (h₂ : (m.testBit 10 && m.testBit 3) = false) : chownMode m = m := by
  simp [chownMode, h₁, h₂]

/-- A second `chown(2)` leaves the mode as the first left it. -/
theorem chownMode_chownMode (m : Nat) : chownMode (chownMode m) = chownMode m :=
  chownMode_of_bits (chownMode_bits m).1 (chownMode_bits m).2

@[simp] theorem commitSpec_self (fs : FileSystem) (p : Path) (n : Node) :
    commitSpec fs p n p = some n := by
  simp [commitSpec]

@[simp] theorem commitSpec_sibling (fs : FileSystem) (p : Path) (n : Node) :
    commitSpec fs p n (p ++ "~") = none := by
  simp [commitSpec, append_tilde_ne]

/-- A second commit over `p` replaces the first. -/
theorem commitSpec_commitSpec (fs : FileSystem) (p : Path) (n₁ n₂ : Node) :
    commitSpec (commitSpec fs p n₁) p n₂ = commitSpec fs p n₂ := by
  funext r
  by_cases hp : r = p
  · simp [hp]
  · by_cases hs : r = p ++ "~"
    · subst hs; simp
    · simp [commitSpec, hp, hs]

/-- Without a sibling the temp file starts empty, whatever `Posix_Unlink` does. -/
theorem staleContent_of_none {unlinkOk : Bool} {fs : FileSystem} {s : Path} (h : fs s = none) :
    staleContent unlinkOk fs s = [] := by
  cases unlinkOk <;> simp [staleContent, h]

/-! ## Runs of commits -/

/-- A caller's commits, one after another, over `A`: each with its own outcomes, a fresh temp
descriptor and its bytes. The world and `A` after the last, or `none` once a commit does not
return `TRUE`. -/
def commitRun (ops : FileLockOps σ) :
    World σ → FileIODescriptor → List (TempFileEnv × ExchangeEnv × List UInt8) →
      Option (World σ × FileIODescriptor)
  | w, A, [] => some (w, A)
  | w, A, (envT, envE, c) :: rest =>
    if (atomicCommit ops envT envE w A .invalid c).1 = some true then
      commitRun ops (atomicCommit ops envT envE w A .invalid c).2.1
        (atomicCommit ops envT envE w A .invalid c).2.2.2 rest
    else none

@[simp] theorem commitRun_nil (ops : FileLockOps σ) (w : World σ) (A : FileIODescriptor) :
    commitRun ops w A [] = some (w, A) := rfl

/-- A run goes on past a commit exactly when that commit returns `TRUE`. -/
theorem commitRun_cons_eq_some (ops : FileLockOps σ) (w : World σ) (A : FileIODescriptor)
    (envT : TempFileEnv) (envE : ExchangeEnv) (c : List UInt8)
    (rest : List (TempFileEnv × ExchangeEnv × List UInt8)) (r : World σ × FileIODescriptor) :
    commitRun ops w A ((envT, envE, c) :: rest) = some r ↔
      (atomicCommit ops envT envE w A .invalid c).1 = some true ∧
        commitRun ops (atomicCommit ops envT envE w A .invalid c).2.1
          (atomicCommit ops envT envE w A .invalid c).2.2.2 rest = some r := by
  simp only [commitRun]
  split_ifs with ht <;> simp [ht]

/-- From a file system with no sibling, a run of at least one commit leaves on `p` exactly the
last commit's bytes. -/
theorem commitRun_of_no_sibling (ops : FileLockOps σ)
    (cs : List (TempFileEnv × ExchangeEnv × List UInt8)) (hcs : cs ≠ [])
    (hvmk : ∀ e ∈ cs, e.2.1.osIsVMK = false) :
    ∀ (w : World σ) (A : FileIODescriptor) {p : Path} {n : Node}, A.fileName = some p →
      w.fs p = some n → w.fs (p ++ "~") = none →
      ∀ {w' : World σ} {A' : FileIODescriptor}, commitRun ops w A cs = some (w', A') →
        w'.fs = commitSpec w.fs p ⟨(cs.getLast hcs).2.2, chownMode n.mode, n.uid, n.gid⟩ := by
  induction cs with
  | nil => exact absurd rfl hcs
  | cons e rest ih =>
    obtain ⟨envT, envE, c⟩ := e
    intro w A p n hA hn hs w' A' h
    obtain ⟨ht, h⟩ := (commitRun_cons_eq_some ops w A envT envE c rest _).mp h
    obtain ⟨hfs, hA₁, -⟩ := atomicCommit_replaces_content ops envT envE w A .invalid c
      (hvmk _ (List.mem_cons_self _ _)) hA hn ht
    rw [staleContent_of_none hs, List.drop_nil, List.append_nil] at hfs
    cases rest with
    | nil =>
      obtain ⟨rfl, -⟩ := Prod.mk.inj (Option.some.inj h)
      exact hfs
    | cons e' rest' =>
      have hn₁ : (atomicCommit ops envT envE w A .invalid c).2.1.fs p =
          some ⟨c, chownMode n.mode, n.uid, n.gid⟩ := by rw [hfs]; simp
      have hlast := ih (List.cons_ne_nil e' rest')
        (fun e he => hvmk e (List.mem_cons_of_mem _ he)) _ _ hA₁.2 hn₁ (by rw [hfs]; simp) h
      rw [hlast, hfs, commitSpec_commitSpec, chownMode_chownMode]
      rfl

/-- In a run of commits on guests that all return `TRUE`, the stale tail of a sibling that
`Posix_Unlink` failed to remove can reach only the first commit: after two or more, `p` names a
node with exactly the last commit's bytes, the original's owner and the mode `fchown` leaves of
the original's; `p~` names nothing and every other path is as it was, whatever the outcomes of
`Posix_Unlink`. -/
theorem commitRun_exact_after_first (ops : FileLockOps σ) (w : World σ) (A : FileIODescriptor)
    (first : TempFileEnv × ExchangeEnv × List UInt8)
    (cs : List (TempFileEnv × ExchangeEnv × List UInt8)) {p : Path} {n : Node}
    (hA : A.fileName = some p) (hn : w.fs p = some n)
    (hvmk : ∀ e ∈ first :: cs, e.2.1.osIsVMK = false) (hcs : cs ≠ []) {w' : World σ}
    {A' : FileIODescriptor} (h : commitRun ops w A (first :: cs) = some (w', A')) :
    w'.fs = commitSpec w.fs p ⟨(cs.getLast hcs).2.2, chownMode n.mode, n.uid, n.gid⟩ := by
  obtain ⟨envT, envE, c⟩ := first
  obtain ⟨ht, h⟩ := (commitRun_cons_eq_some ops w A envT envE c cs _).mp h
  obtain ⟨hfs, hA₁, -⟩ := atomicCommit_replaces_content ops envT envE w A .invalid c
    (hvmk _ (List.mem_cons_self _ _)) hA hn ht
  have hn₁ : (atomicCommit ops envT envE w A .invalid c).2.1.fs p =
      some ⟨c ++ (staleContent envT.unlinkOk w.fs (p ++ "~")).drop c.length, chownMode n.mode,
        n.uid, n.gid⟩ := by rw [hfs]; simp
  rw [commitRun_of_no_sibling ops cs hcs (fun e he => hvmk e (List.mem_cons_of_mem _ he)) _ _ hA₁.2
    hn₁ (by rw [hfs]; simp) h, hfs, commitSpec_commitSpec]
  simp only [chownMode_chownMode]

/-- `a=2` then `a=3` committed over `cfg` while its stale sibling `cfg~` survives every
`Posix_Unlink`. -/
def staleCommits : List (TempFileEnv × ExchangeEnv × List UInt8) :=
  [(staleSiblingEnv, guestExchangeEnv, [97, 61, 50]), (staleSiblingEnv, guestExchangeEnv, [97, 61, 51])]

theorem commitRun_exact_after_first_cfg :
    ∃ r ∈ commitRun (FileLockTable.ops 0) ⟨cfgFileSystem, cfgLocks⟩ cfgDescriptor staleCommits,
      (r.1.fs "cfg").map Node.content = some [97, 61, 51] := by
  obtain ⟨r, hr, -⟩ : ∃ r ∈ commitRun (FileLockTable.ops 0) ⟨cfgFileSystem, cfgLocks⟩
      cfgDescriptor staleCommits, True := by decide
  refine ⟨r, hr, ?_⟩
  rw [commitRun_exact_after_first (FileLockTable.ops 0) _ cfgDescriptor _ _ rfl rfl
    (by decide) (List.cons_ne_nil _ _) hr]
  rfl

end OpenVmTools
