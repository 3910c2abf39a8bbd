import OpenVmTools.File.Concurrency
import OpenVmTools.File.ServerExchange

/-!
# The two processes on a VMkernel host

The programs of `Concurrency` on a VMkernel host, with `FileIO_AtomicExchangeFiles` as the
server build compiles it. Process `A` makes the same calls, but its exchange is one call, the
VMFS swap, which leaves `currFD` open; `A` then closes the temp descriptor, which holds no
token. Every other call of either process is the one `Concurrency` models, so the lock
invariant `Sys.Inv` carries over from its step lemmas (`Sys.Inv.stepServer`).

`server_build_shuts_out_second_process`: in every interleaving on a VMkernel host, while `A` is
between its open of `p` and its final close, `B` holds no lock on `p` and no call of `B`
changes anything. The gap that `exchange_gap_admits_second_writer` exhibits on a guest, between
the `FileIO_Close(currFD)` and the reopen of the rename path, does not exist there.
-/

namespace OpenVmTools

/-- The calls that cut the rename path of the exchange into segments. -/
def AEvent.inExchange : AEvent → Bool
  | .begin | .rename _ | .release | .reopen _ => true
  | _ => false

/-- A call of process `A` on a VMkernel host: a call outside the exchange, or the exchange, with
the outcomes of the swap's calls. -/
inductive AServerEvent
  | call (e : AEvent)
  | exchange (env : SwapEnv)

/-- A host for which `HostType_OSIsVMK()` is true. -/
def vmkHost : ExchangeEnv := ⟨true, fun _ => false, none⟩

/-- Process `A`'s program on a VMkernel host. The exchange is the server build's
`FileIO_AtomicExchangeFiles`, after which `A` closes the temp descriptor and goes on with
`currFD`; the segments of the rename path do not occur. -/
def aStepServer (p : Path) (w : World FileLockTable) (a : AStage) :
    AServerEvent → Option (World FileLockTable × AStage)
  | .call e => if e.inExchange then none else aStep p w a e
  | .exchange env =>
    match a with
    | .written fd tmp =>
      let r := fileIOAtomicExchangeFilesServer (FileLockTable.ops 0) vmkHost env w tmp fd
      some (⟨r.2.1.fs, (fileIOClose (FileLockTable.ops 0) r.2.2.1 r.2.1.locks).2.2⟩,
        .opened r.2.2.2)
    | _ => none

/-- A call of either process on a VMkernel host. -/
inductive ServerEvent
  | a (e : AServerEvent)
  | b (e : BEvent)

/-- One call of either process on the shared world of a VMkernel host. -/
def Sys.stepServer (p : Path) (s : Sys) : ServerEvent → Option Sys
  | .a e => (aStepServer p s.world s.a e).map fun r => ⟨r.1, r.2, s.b⟩
  | .b e => (bStep p s.world s.b e).map fun r => ⟨r.1, s.a, r.2⟩

/-- The calls `es` one after another on a VMkernel host. -/
def Sys.runServer (p : Path) (s : Sys) : List ServerEvent → Option Sys
  | [] => some s
  | e :: es => (s.stepServer p e).bind fun s' => s'.runServer p es

/-- `s` is reached from `s₀` by some interleaving of the two programs on a VMkernel host. -/
def ReachableServer (p : Path) (s₀ s : Sys) : Prop :=
  Relation.ReflTransGen (fun s s' => ∃ e, s.stepServer p e = some s') s₀ s

theorem reachableServer_of_run {p : Path} {s s' : Sys} {es : List ServerEvent}
    (h : s.runServer p es = some s') : ReachableServer p s s' := by
  induction es generalizing s with
  | nil => cases h; exact .refl
  | cons e es ih =>
    obtain ⟨s₁, h₁, h₂⟩ := Option.bind_eq_some.mp h
    exact .head ⟨e, h₁⟩ (ih h₂)

/-- The stages `A` can be at on a VMkernel host: none inside the rename path. -/
def AStage.OnServerPath : AStage → Prop
  | .start | .opened _ | .tempMade _ _ | .written _ _ | .closed => True
  | _ => False

/-- Off the rename path, `A` holds its lock whenever it is between its open and its close. -/
theorem AStage.holdsLock_of_between {a : AStage} (ho : a.OnServerPath) (hb : a.between = true) :
    a.holdsLock = true := by
  cases a <;> simp_all [AStage.OnServerPath, AStage.between, AStage.holdsLock]

section Steps

variable {p : Path} {s : Sys}

/-- A call of `A` outside the exchange keeps it off the rename path. -/
theorem onServerPath_of_aStep {a a' : AStage} {w w' : World FileLockTable} {e : AEvent}
    (ha : a.OnServerPath) (he : e.inExchange = false) (hs : aStep p w a e = some (w', a')) :
    a'.OnServerPath := by
  cases AStep.of_aStep hs with
  | «open» _ | tempFile _ _ => split <;> trivial
  | write _ _ _ | close _ => trivial
  | begin _ _ | rename _ _ | release _ | reopen _ _ => simp [AEvent.inExchange] at he

/-- The swap keeps the invariant: `currFD` and its token stay, and closing the temp descriptor
releases nothing. -/
theorem Sys.Inv.exchangeServer (h : s.Inv p) {fd tmp : FileIODescriptor}
    (hA : s.a = .written fd tmp) (env : SwapEnv) :
    Sys.Inv p ⟨⟨(fileIOAtomicExchangeFilesServer (FileLockTable.ops 0) vmkHost env s.world tmp
        fd).2.1.fs, (fileIOClose (FileLockTable.ops 0) tmp s.world.locks).2.2⟩, .opened fd,
      s.b⟩ := by
  have hwf := h.a_wf
  rw [hA] at hwf
  obtain ⟨hn, hf, ht, htmp⟩ := hwf
  refine h.frame ⟨hn, hf, ht⟩ h.b_wf (by rw [hA]; rfl) rfl ?_
  simp [fileIOClose, fileIOUnlock_of_lockToken_none _ _ _ htmp]

/-- Every call of either process on a VMkernel host keeps the invariant, and keeps `A` off the
rename path. -/
theorem Sys.Inv.stepServer (h : s.Inv p) (ho : s.a.OnServerPath) {e : ServerEvent} {s' : Sys}
    (hs : s.stepServer p e = some s') : s'.Inv p ∧ s'.a.OnServerPath := by
  cases e with
  | a e =>
    obtain ⟨⟨w', a'⟩, ha, rfl⟩ := Option.map_eq_some'.mp hs
    cases e with
    | call e =>
      simp only [aStepServer] at ha
      split_ifs at ha with he
      simp only [Bool.not_eq_true] at he
      exact ⟨h.aStep ha, onServerPath_of_aStep ho he ha⟩
    | exchange env =>
      simp only [aStepServer] at ha
      split at ha
      · next fd tmp hA =>
        simp only [Option.some.injEq, Prod.mk.injEq] at ha
        obtain ⟨rfl, rfl⟩ := ha
        exact ⟨by simpa [fileIOAtomicExchangeFilesServer, vmkHost] using
          h.exchangeServer hA env, trivial⟩
      · cases ha
  | b e =>
    obtain ⟨⟨w', b'⟩, hb, rfl⟩ := Option.map_eq_some'.mp hs
    exact ⟨h.bStep hb, ho⟩

/-- The invariant, and `A` off the rename path, after every interleaving on a VMkernel host. -/
theorem Sys.Inv.of_reachableServer {w₀ : World FileLockTable}
    (hs : ReachableServer p ⟨w₀, .start, .idle⟩ s) : s.Inv p ∧ s.a.OnServerPath := by
  induction hs with
  | refl => exact ⟨Sys.Inv.of_tokens_none trivial trivial rfl rfl, trivial⟩
  | tail _ hst ih =>
    obtain ⟨e, he⟩ := hst
    exact ih.1.stepServer ih.2 he

end Steps

/-- In every interleaving on a VMkernel host, while `A` is between its open of `p` and its final
close, `B` holds no lock on `p` and no call of `B` changes the file system or the lock table. -/
theorem server_build_shuts_out_second_process (p : Path) (w₀ : World FileLockTable) {s : Sys}
    (hs : ReachableServer p ⟨w₀, .start, .idle⟩ s) (hA : s.a.between = true) :
    ¬ s.world.locks.Holds 1 p ∧ ∀ e s', s.stepServer p (.b e) = some s' → s'.world = s.world := by
  obtain ⟨hi, ho⟩ := Sys.Inv.of_reachableServer hs
  obtain ⟨hno, hb⟩ := shut_out_of_holdsLock hi (AStage.holdsLock_of_between ho hA)
  refine ⟨hno, fun e s' hs' => ?_⟩
  obtain ⟨⟨w', b'⟩, hbs, rfl⟩ := Option.map_eq_some'.mp hs'
  exact hb e w' b' hbs

/-- `A` opens `/etc/cfg`, writes `a=3` into a fresh `/etc/cfg~` and swaps it in. -/
def etcSwapTrace : List ServerEvent :=
  [.a (.call (.open (some 3))), .a (.call (.tempFile tempFileOkEnv)),
    .a (.call (.write [97, 61, 51])), .a (.exchange etcSwapEnv)]

theorem server_build_shuts_out_second_process_etc :
    ∃ s ∈ Sys.runServer "/etc/cfg" ⟨⟨etcFileSystem, .empty⟩, .start, .idle⟩ etcSwapTrace,
      s.a.between = true ∧ (s.world.fs "/etc/cfg").map Node.content = some [97, 61, 51] ∧
        ¬ s.world.locks.Holds 1 "/etc/cfg" := by
  obtain ⟨s, hs, hA, hc⟩ : ∃ s ∈ Sys.runServer "/etc/cfg"
      ⟨⟨etcFileSystem, .empty⟩, .start, .idle⟩ etcSwapTrace, s.a.between = true ∧
        (s.world.fs "/etc/cfg").map Node.content = some [97, 61, 51] := by
    decide
  exact ⟨s, hs, hA, hc, (server_build_shuts_out_second_process "/etc/cfg" _
    (reachableServer_of_run hs) hA).1⟩

end OpenVmTools
