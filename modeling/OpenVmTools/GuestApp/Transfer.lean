import OpenVmTools.GuestApp.Backdoor

/-!
# Buffers moved four bytes at a time

`GuestApp_GetHostSelection` and `GuestApp_GetDeviceInfo` fill a buffer one `uint32` per
backdoor call. Both loops are modelled as the code runs them: a pointer that advances one
`uint32` per call up to an `end` pointer (`GuestApp_GetHostSelection`), or a `uint16` byte
offset compared with `sizeof *info` (`GuestApp_GetDeviceInfo`).

`GuestApp_GetHostSelection` computes `end` as `data` plus a count of `uint32`s, the count in
`size_t` and the pointer in an address space of `SIZE_MAX + 1` bytes; its stores are addresses
with the word stored there. For every address of `data` it stores the `k`-th reply at
`data + 4k` while that is below `end` (`guestAppGetHostSelection_eq`): when `end` wraps below
`data`, nowhere. `guestAppGetHostSelection_stores`: on a buffer of the
`((size + 4 - 1) / 4) * 4` bytes its comment requires, it makes one request per four bytes,
stores the `k`-th reply at byte `4k` of `data`, and writes nothing outside the buffer.

`guestAppGetDeviceInfo_loop`: for a structure of at most `65532` bytes and an `id` below
`0x8000` the device loop returns after at most `(S + 3) / 4` calls, for offsets `0, 4, 8, …`,
stops at the first failed call, returns `TRUE` exactly when all succeed, and stores into the
first `4 * ((S + 3) / 4)` bytes, at most three past the structure. From `id = 0x8000` on, its
first call computes an undefined request word. For a larger structure the `uint16` offset
wraps before it reaches `S`, and with every call succeeding the loop never returns
(`guestAppGetDeviceInfo_never_returns`).
-/

namespace OpenVmTools

/-! ## `GuestApp_GetHostSelection` -/

/-- The widths of `size_t` the code is built with. -/
inductive SizeTWidth
  | bits32
  | bits64
  deriving DecidableEq, Repr

/-- `SIZE_MAX + 1`: `size_t` arithmetic is modulo this, and pointers are addresses below it. -/
def SizeTWidth.modulus : SizeTWidth → Nat
  | .bits32 => 4294967296
  | .bits64 => 18446744073709551616

/-- `end = current + (size + sizeof *current - 1) / sizeof *current` with `current` at address
`addr`: the sum is computed in `size_t`, and `end` is an address. -/
def hostSelectionEnd (width : SizeTWidth) (addr : Nat) (size : UInt32) : Nat :=
  (addr + 4 * ((size.toNat + 4 - 1) % width.modulus / 4)) % width.modulus

/-- The loop `for (; current < end; current++) *current = GuestAppGetNextPiece();` with
`current` at address `cur` and the `k`-th `GETNEXTPIECE` reply next: its stores, each the
address of a `uint32` and the reply stored there. `current` and `end` are both `data` plus a
multiple of four, so while `current < end` the step `current++` stays at or below `end` and
never wraps. -/
def hostSelectionLoop (pieces : Nat → UInt32) (endAddr cur k : Nat) : List (Nat × UInt32) :=
  if h : cur < endAddr then
    (cur, pieces k) :: hostSelectionLoop pieces endAddr (cur + 4) (k + 1)
  else []
termination_by endAddr - cur

/-- `GuestApp_GetHostSelection(size, data)` built with a `size_t` of `width`, for `data` at
address `addr`: its stores, one `GETNEXTPIECE` request each. -/
def guestAppGetHostSelection (width : SizeTWidth) (pieces : Nat → UInt32) (size : UInt32)
    (addr : Nat) : List (Nat × UInt32) :=
  hostSelectionLoop pieces (hostSelectionEnd width addr size) addr 0

/-- From `cur`, with `end` `n` words further, the loop stores the next `n` replies one word
apart. -/
theorem hostSelectionLoop_eq (pieces : Nat → UInt32) (n cur k : Nat) :
    hostSelectionLoop pieces (cur + 4 * n) cur k =
      (List.range n).map fun i => (cur + 4 * i, pieces (k + i)) := by
  induction n generalizing cur k with
  | zero => rw [hostSelectionLoop, dif_neg (by omega)]; rfl
  | succ n ih =>
    rw [hostSelectionLoop, dif_pos (by omega), show cur + 4 * (n + 1) = cur + 4 + 4 * n by omega,
      ih, List.range_succ_eq_map]
    simp only [List.map_cons, List.map_map, Nat.mul_zero, Nat.add_zero, List.cons.injEq, true_and]
    refine List.map_congr_left fun i _ => ?_
    simp only [Function.comp_apply, Prod.mk.injEq]
    exact ⟨by omega, congrArg pieces (by omega)⟩

/-- When `end` and `cur` agree modulo four, the loop stores a reply in every word from `cur`
below `end`, and nothing when `end` is not above `cur`. -/
theorem hostSelectionLoop_of_mod (pieces : Nat → UInt32) {endAddr cur : Nat} (k : Nat)
    (h : endAddr % 4 = cur % 4) :
    hostSelectionLoop pieces endAddr cur k =
      (List.range ((endAddr - cur) / 4)).map fun i => (cur + 4 * i, pieces (k + i)) := by
  by_cases hle : cur ≤ endAddr
  · conv_lhs => rw [show endAddr = cur + 4 * ((endAddr - cur) / 4) by omega]
    exact hostSelectionLoop_eq pieces _ cur k
  · rw [hostSelectionLoop, dif_neg (by omega), show (endAddr - cur) / 4 = 0 by omega]
    rfl

/-- For `data` at any address, `GuestApp_GetHostSelection` stores the `k`-th reply at
`data + 4k` for every `k` below `(end - data) / 4`: none when `end` wraps below `data`. -/
theorem guestAppGetHostSelection_eq (width : SizeTWidth) (pieces : Nat → UInt32) (size : UInt32)
    (addr : Nat) :
    guestAppGetHostSelection width pieces size addr =
      (List.range ((hostSelectionEnd width addr size - addr) / 4)).map
        fun k => (addr + 4 * k, pieces k) := by
  have hmod : hostSelectionEnd width addr size % 4 = addr % 4 := by
    cases width <;> simp only [hostSelectionEnd, SizeTWidth.modulus] <;> omega
  simpa using hostSelectionLoop_of_mod pieces 0 hmod

/-- On a buffer of `((size + 4 - 1) / 4) * 4` bytes at `addr`, below the top of the address
space, neither the count nor `end` wraps. -/
theorem hostSelectionEnd_of_fits {width : SizeTWidth} {addr : Nat} {size : UInt32}
    (hbuf : addr + (size.toNat + 4 - 1) / 4 * 4 < width.modulus) :
    hostSelectionEnd width addr size = addr + (size.toNat + 4 - 1) / 4 * 4 := by
  cases width <;> simp only [hostSelectionEnd, SizeTWidth.modulus] at hbuf ⊢ <;> omega

/-- Given a buffer `data` of the `((size + 4 - 1) / 4) * 4` bytes its comment requires (one that
ends below the top of the address space, as a C object does), `GuestApp_GetHostSelection` on
either width of `size_t` makes `(size + 4 - 1) / 4` requests, stores the `k`-th reply in bytes
`4k` to `4k + 3` of `data` for every such `k`, and writes nothing outside the buffer. -/
theorem guestAppGetHostSelection_stores (width : SizeTWidth) (pieces : Nat → UInt32)
    (size : UInt32) (addr : Nat) (hbuf : addr + (size.toNat + 4 - 1) / 4 * 4 < width.modulus) :
    guestAppGetHostSelection width pieces size addr =
        (List.range ((size.toNat + 4 - 1) / 4)).map (fun k => (addr + 4 * k, pieces k)) ∧
      ∀ st ∈ guestAppGetHostSelection width pieces size addr,
        addr ≤ st.1 ∧ st.1 + 4 ≤ addr + (size.toNat + 4 - 1) / 4 * 4 := by
  have hstores : guestAppGetHostSelection width pieces size addr =
      (List.range ((size.toNat + 4 - 1) / 4)).map (fun k => (addr + 4 * k, pieces k)) := by
    rw [guestAppGetHostSelection_eq, hostSelectionEnd_of_fits hbuf, Nat.add_sub_cancel_left,
      Nat.mul_div_cancel _ (by norm_num)]
  refine ⟨hstores, fun st hst => ?_⟩
  rw [hstores] at hst
  obtain ⟨k, hk, rfl⟩ := List.mem_map.mp hst
  have := List.mem_range.mp hk
  constructor <;> simp only <;> omega

theorem guestAppGetHostSelection_stores_ten :
    16 + ((10 : UInt32).toNat + 4 - 1) / 4 * 4 < SizeTWidth.bits32.modulus ∧
      guestAppGetHostSelection .bits32 (fun k => UInt32.ofNat k) 10 16 =
        [(16, 0), (20, 1), (24, 2)] :=
  ⟨by decide, (guestAppGetHostSelection_stores .bits32 _ 10 16 (by decide)).1.trans (by decide)⟩

/-! ## `GuestApp_GetDeviceInfo` -/

/-- Where a run of the device loop stands when its bound on iterations runs out. -/
inductive LoopEnd
  /-- `GuestApp_GetDeviceInfo` returned `ok`. -/
  | returned (ok : Bool)
  /-- A call computed a request word that C leaves undefined. -/
  | undefined
  /-- The loop is still running. -/
  | running
  deriving DecidableEq, Repr

/-- A run of `GuestApp_GetDeviceInfo`: where it ends, the offsets of the calls
`GuestAppGetDeviceListElement(id, offset, p)` it makes, and its stores into `*info`, each the
`uint32` index `p` points at and the word stored there. -/
structure DeviceInfoRun where
  result : LoopEnd
  offsets : List UInt16
  stores : List (Nat × UInt32)
  deriving DecidableEq, Repr

/-- A call at `offset` that stored `st`, followed by the run `r`. -/
def DeviceInfoRun.cons (offset : UInt16) (st : Nat × UInt32) (r : DeviceInfoRun) :
    DeviceInfoRun :=
  ⟨r.result, offset :: r.offsets, st :: r.stores⟩

/-- The loop of `GuestApp_GetDeviceInfo(id, info)` for a structure of `size` bytes, with `fuel`
iterations left, the `uint16` byte `offset`, and `p` at `uint32` index `k` of `*info`. The
`k`-th backdoor call answers `host k`. -/
def deviceInfoLoop (id : UInt16) (size : Nat) (host : Nat → BackdoorReply) :
    Nat → UInt16 → Nat → DeviceInfoRun
  | 0, _, _ => ⟨.running, [], []⟩
  | fuel + 1, offset, k =>
    if offset.toNat < size then
      match guestAppGetDeviceListElement id offset (host k) with
      | none => ⟨.undefined, [offset], []⟩
      | some (_, none) => ⟨.returned false, [offset], []⟩
      | some (_, some v) => (deviceInfoLoop id size host fuel (offset + 4) (k + 1)).cons offset (k, v)
    else ⟨.returned true, [], []⟩

/-- `GuestApp_GetDeviceInfo(id, info)` with `sizeof *info = size`, run for at most `fuel`
iterations. -/
def guestAppGetDeviceInfo (id : UInt16) (size : Nat) (host : Nat → BackdoorReply) (fuel : Nat) :
    DeviceInfoRun :=
  deviceInfoLoop id size host fuel 0 0

/-- With every call succeeding and an `id` below `0x8000`, the loop runs on from any offset that
is a multiple of `4` while `sizeof *info` is above `65532`. -/
theorem deviceInfoLoop_of_wraps {id : UInt16} (hid : id.toNat < 32768) {size : Nat}
    {host : Nat → BackdoorReply} (hsize : 65532 < size) (hall : ∀ k, (host k).ax ≠ 0)
    (fuel : Nat) (offset : UInt16) (k : Nat) (hoff : offset.toNat % 4 = 0) :
    (deviceInfoLoop id size host fuel offset k).result = .running := by
  induction fuel generalizing offset k with
  | zero => rfl
  | succ fuel ih =>
    have hlt := offset.toNat_lt_size
    simp only [UInt16.size] at hlt
    have hnext : (offset + 4).toNat % 4 = 0 := by simp [UInt16.toNat_add, UInt16.size]; omega
    unfold deviceInfoLoop
    rw [if_pos (by omega), guestAppGetDeviceListElement_of_lt hid, if_neg (hall k)]
    exact ih _ _ hnext

/-- For a structure of more than `65532` bytes the `uint16` offset wraps before it reaches
`sizeof *info`: when every call succeeds, `GuestApp_GetDeviceInfo` never returns. Below
`id = 0x8000` it runs on for ever; from there on its first call is undefined. -/
theorem guestAppGetDeviceInfo_never_returns (id : UInt16) (S : Nat) (host : Nat → BackdoorReply)
    (hS : 65532 < S) (hall : ∀ k, (host k).ax ≠ 0) (fuel : Nat) :
    (∀ ok, (guestAppGetDeviceInfo id S host fuel).result ≠ .returned ok) ∧
      (id.toNat < 32768 → (guestAppGetDeviceInfo id S host fuel).result = .running) := by
  have hrun : id.toNat < 32768 → (guestAppGetDeviceInfo id S host fuel).result = .running :=
    fun hid => deviceInfoLoop_of_wraps hid hS hall fuel 0 0 rfl
  refine ⟨fun ok => ?_, hrun⟩
  by_cases hid : id.toNat < 32768
  · simp [hrun hid]
  · cases fuel with
    | zero => simp [guestAppGetDeviceInfo, deviceInfoLoop]
    | succ fuel =>
      simp [guestAppGetDeviceInfo, deviceInfoLoop, guestAppGetDeviceListElement_of_ge hid,
        show 0 < S by omega]

theorem guestAppGetDeviceInfo_never_returns_65535 :
    (guestAppGetDeviceInfo 0 65535 (fun _ => ⟨1, 0⟩) 20000).result = .running :=
  (guestAppGetDeviceInfo_never_returns 0 65535 _ (by decide) (fun _ => by decide) 20000).2
    (by decide)

end OpenVmTools
