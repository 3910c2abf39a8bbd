import OpenVmTools.GuestApp.Transfer

/-!
# Receiving the host clipboard

A guest reads the host's clipboard with `GuestApp_GetHostSelectionLen`, which returns the
host's length word as an `int32` (negative for the host's error codes), and then
`GuestApp_GetHostSelection(size, data)`, which stores one `GETNEXTPIECE` reply after another
into `data` as `uint32`s. Each reply is "the next 4 bytes of the host clipboard"; the guest
stores it in the byte order of the x86 machine the backdoor runs on, least significant byte
first. `storeWord` is such a store into guest memory, `hostPiece` the host's `k`-th piece of a
clipboard, zero-padded past its end.

`hostSelection_round_trip`: for every clipboard of fewer than `2 ^ 31` bytes, the length the
guest reads is the clipboard's, and after `GuestApp_GetHostSelection` with that length into a
buffer of the size its comment requires, the first `size` bytes of `data` are the clipboard,
the bytes up to the next multiple of four are zero, and every other byte of memory is as it
was. From `2 ^ 31` on the length reads as negative, which callers take for an error.
-/

namespace OpenVmTools

/-! ## Little-endian bytes -/

/-- The `w` bytes of `n`, least significant first. -/
def toListLE : Nat → Nat → List UInt8
  | 0, _ => []
  | w + 1, n => UInt8.ofNat (n % 256) :: toListLE w (n / 256)

/-- The number whose bytes, least significant first, are `l`. -/
def ofListLE : List UInt8 → Nat
  | [] => 0
  | b :: bs => b.toNat + 256 * ofListLE bs

@[simp] theorem toListLE_zero (n : Nat) : toListLE 0 n = [] := rfl

@[simp] theorem toListLE_succ (w n : Nat) :
    toListLE (w + 1) n = UInt8.ofNat (n % 256) :: toListLE w (n / 256) := rfl

@[simp] theorem ofListLE_nil : ofListLE [] = 0 := rfl

@[simp] theorem ofListLE_cons (b : UInt8) (bs : List UInt8) :
    ofListLE (b :: bs) = b.toNat + 256 * ofListLE bs := rfl

@[simp] theorem uint8_ofNat_toNat (b : UInt8) : UInt8.ofNat b.toNat = b :=
  UInt8.eq_of_val_eq (by simp [UInt8.ofNat, UInt8.toNat, Fin.ofNat])

/-- The bytes of zero are zeros. -/
theorem toListLE_zero_eq (w : Nat) : toListLE w 0 = List.replicate w 0 := by
  induction w with
  | zero => rfl
  | succ w ih => simp [ih]; rfl

/-- Reading `l` back in a wider field gives `l` followed by zero bytes. -/
theorem toListLE_ofListLE (l : List UInt8) (m : Nat) :
    toListLE (l.length + m) (ofListLE l) = l ++ List.replicate m 0 := by
  induction l with
  | nil => simpa using toListLE_zero_eq m
  | cons b bs ih =>
    have hb := b.toNat_lt
    rw [List.length_cons, Nat.add_right_comm, toListLE_succ, ofListLE_cons, List.cons_append]
    congr 1
    · rw [Nat.add_mul_mod_self_left, Nat.mod_eq_of_lt hb, uint8_ofNat_toNat]
    · rw [Nat.add_mul_div_left _ _ (by norm_num), Nat.div_eq_of_lt hb, Nat.zero_add, ih]

theorem ofListLE_lt (l : List UInt8) : ofListLE l < 256 ^ l.length := by
  induction l with
  | nil => simp
  | cons b bs ih =>
    have hb := b.toNat_lt
    rw [ofListLE_cons, List.length_cons, pow_succ]
    omega

/-! ## Guest memory -/

/-- The four bytes of a `uint32` in memory, least significant first. -/
def wordBytes (v : UInt32) : List UInt8 :=
  toListLE 4 v.toNat

/-- `*current = v` with `current` at address `a`: bytes `a` to `a + 3` of `mem` become the
bytes of `v`. -/
def storeWord (mem : Nat → UInt8) (st : Nat × UInt32) : Nat → UInt8 := fun i =>
  if st.1 ≤ i ∧ i < st.1 + 4 then (wordBytes st.2).getD (i - st.1) 0 else mem i

/-- The stores of a loop, in order. -/
def applyStores (mem : Nat → UInt8) (stores : List (Nat × UInt32)) : Nat → UInt8 :=
  stores.foldl storeWord mem

/-- Stores of `n` consecutive words from `addr` fill bytes `addr` to `addr + 4n - 1`, each with
its byte of the word stored over it. -/
theorem applyStores_range (pieces : Nat → UInt32) (addr n : Nat) (mem : Nat → UInt8) (i : Nat) :
    applyStores mem ((List.range n).map fun j => (addr + 4 * j, pieces j)) i =
      if addr ≤ i ∧ i < addr + 4 * n then
        (wordBytes (pieces ((i - addr) / 4))).getD ((i - addr) % 4) 0
      else mem i := by
  induction n with
  | zero => rw [if_neg (by omega)]; rfl
  | succ n ih =>
    rw [List.range_succ, List.map_append, applyStores, List.foldl_append]
    simp only [List.map_cons, List.map_nil, List.foldl_cons, List.foldl_nil]
    rw [← applyStores]
    simp only [storeWord, ih]
    by_cases h : addr + 4 * n ≤ i ∧ i < addr + 4 * n + 4
    · rw [if_pos h, if_pos (by omega), show (i - addr) / 4 = n by omega,
        show i - (addr + 4 * n) = (i - addr) % 4 by omega]
    · rw [if_neg h]
      split_ifs <;> first | rfl | omega

/-! ## The host's clipboard -/

/-- The host's `k`-th reply to `GETNEXTPIECE` for the clipboard `clip`: its bytes `4k` to
`4k + 3`, least significant first, with zeros past the end. -/
def hostPiece (clip : List UInt8) (k : Nat) : UInt32 :=
  UInt32.ofNat (ofListLE ((clip.drop (4 * k)).take 4))

/-- Stored in memory, the `k`-th piece gives back bytes `4k` to `4k + 3` of the clipboard,
zeros past its end. -/
theorem wordBytes_hostPiece (clip : List UInt8) (k j : Nat) (hj : j < 4) :
    (wordBytes (hostPiece clip k)).getD j 0 = clip.getD (4 * k + j) 0 := by
  have hlen : ((clip.drop (4 * k)).take 4).length ≤ 4 := by simp
  have hlt : ofListLE ((clip.drop (4 * k)).take 4) < 4294967296 :=
    lt_of_lt_of_le (ofListLE_lt _) (by simpa using Nat.pow_le_pow_right (by norm_num) hlen)
  have hbytes := toListLE_ofListLE ((clip.drop (4 * k)).take 4)
    (4 - ((clip.drop (4 * k)).take 4).length)
  rw [Nat.add_sub_cancel' hlen] at hbytes
  rw [wordBytes, hostPiece, uint32_toNat_ofNat, Nat.mod_eq_of_lt hlt, hbytes]
  simp only [List.getD_eq_getElem?_getD, List.getElem?_append, List.getElem?_take,
    List.getElem?_drop, List.getElem?_replicate]
  split_ifs with h₁ h₂
  · rfl
  · rw [List.getElem?_eq_none (by simp at h₁; omega)]; rfl
  · omega

/-! ## `GuestApp_GetHostSelectionLen` -/

/-- A `uint32` converted to `int32` (C11 6.3.1.3, implementation-defined above `INT32_MAX`;
the compilers the tools are built with reduce it modulo `2 ^ 32`). -/
def uint32ToInt32 (v : UInt32) : Int :=
  if v.toNat < 2147483648 then v.toNat else (v.toNat : Int) - 4294967296

/-- `GuestApp_GetHostSelectionLen`: the host's `ax`, returned as an `int32`. -/
def guestAppGetHostSelectionLen (ax : UInt32) : Int :=
  uint32ToInt32 ax

/-! ## Receiving a clipboard -/

/-- A host clipboard `clip` of fewer than `2 ^ 31` bytes comes through whole: the length the
guest reads is `clip`'s, and after `GuestApp_GetHostSelection` with that length (on either
width of `size_t`) into a buffer `data` at `addr` of the size its comment requires, byte
`data + i` is byte `i` of `clip` below the length and zero up to the next multiple of four,
and every other byte of memory is untouched. A length word of `2 ^ 31` or more reads as a
negative length. -/
theorem hostSelection_round_trip (width : SizeTWidth) (clip : List UInt8) (mem : Nat → UInt8)
    (addr : Nat) (hlen : clip.length < 2147483648)
    (hbuf : addr + (clip.length + 4 - 1) / 4 * 4 < width.modulus) (i : Nat) :
    guestAppGetHostSelectionLen (UInt32.ofNat clip.length) = clip.length ∧
      applyStores mem (guestAppGetHostSelection width (hostPiece clip)
          (UInt32.ofNat clip.length) addr) i =
        (if addr ≤ i ∧ i < addr + clip.length then clip.getD (i - addr) 0
          else if addr ≤ i ∧ i < addr + (clip.length + 4 - 1) / 4 * 4 then 0 else mem i) ∧
      ∀ ax : UInt32, guestAppGetHostSelectionLen ax < 0 ↔ 2147483648 ≤ ax.toNat := by
  have hsize : (UInt32.ofNat clip.length).toNat = clip.length := by
    rw [uint32_toNat_ofNat]; omega
  refine ⟨by simp [guestAppGetHostSelectionLen, uint32ToInt32, hsize, hlen], ?_, fun ax => ?_⟩
  · rw [← hsize] at hbuf
    rw [guestAppGetHostSelection_eq, hostSelectionEnd_of_fits hbuf, hsize, Nat.add_sub_cancel_left,
      Nat.mul_div_cancel _ (by norm_num), applyStores_range,
      wordBytes_hostPiece _ _ _ (Nat.mod_lt _ (by norm_num)), Nat.div_add_mod]
    split_ifs <;> first | rfl | omega | exact List.getD_eq_default _ _ (by omega)
  · unfold guestAppGetHostSelectionLen uint32ToInt32
    have := ax.toNat_lt_size
    simp only [UInt32.size] at this
    split_ifs <;> omega

theorem hostSelection_round_trip_abc :
    [97, 98, 99].length < 2147483648 ∧
      16 + ([97, 98, 99].length + 4 - 1) / 4 * 4 < SizeTWidth.bits32.modulus ∧
      applyStores (fun _ => 255) (guestAppGetHostSelection .bits32 (hostPiece [97, 98, 99])
        (UInt32.ofNat [97, 98, 99].length) 16) 18 = 99 :=
  ⟨by decide, by decide,
    (hostSelection_round_trip .bits32 [97, 98, 99] (fun _ => 255) 16 (by decide) (by decide)
      18).2.1⟩

end OpenVmTools
