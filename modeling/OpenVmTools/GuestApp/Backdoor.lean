import Mathlib

/-!
# Backdoor request words

The functions of `lib/guestApp/guestApp.c` that talk to the host through the backdoor put a
command in `bp.in.cx.halfs.low` and an argument word in `bp.in.size`, and read the host's
answer from `bp.out.ax` and `bp.out.bx`. Here each function returns the word it sends and
what it makes of the answer, which is an argument.

`GuestApp_SetPos` and `GuestAppGetDeviceListElement` pack two `uint16` values into one word
as `(hi << 16) | lo`. C promotes `hi` to a 32-bit `int` before the shift, and `intShiftLeft`
follows C11 6.5.7: the shift is defined only when its result fits in `int`. So `packHalves`
is defined exactly for `hi < 0x8000`, where it is `hi * 65536 + lo` and the unpacking of
`GuestApp_GetPos` gives both halves back (`packHalves_eq`); from `hi = 0x8000` on it is
undefined (`packHalves_undefined_at_0x8000`), and so is the word of every
`GuestAppGetDeviceListElement` call that `GuestApp_GetDeviceInfo` makes for such an `id`.
`GuestApp_SetDeviceState` puts its flag in bit 31 through the `unsigned` constant
`0x80000000`, and its word is defined for every input.
-/

namespace OpenVmTools

/-! ## Machine words -/

section Words

@[simp] theorem uint16_toNat_ofNat (n : Nat) : (UInt16.ofNat n).toNat = n % 65536 := by
  simp [UInt16.toNat, UInt16.ofNat]

@[simp] theorem uint32_toNat_ofNat (n : Nat) : (UInt32.ofNat n).toNat = n % 4294967296 := by
  simp [UInt32.toNat, UInt32.ofNat]

@[simp] theorem uint32_toNat_toUInt16 (a : UInt32) : a.toUInt16.toNat = a.toNat % 65536 := by
  simp [UInt32.toUInt16, Nat.toUInt16, UInt16.ofNat, UInt16.toNat]

@[simp] theorem uint16_toNat_toUInt32 (a : UInt16) : a.toUInt32.toNat = a.toNat := by
  simp [UInt16.toUInt32, UInt32.ofNat, UInt32.toNat, UInt16.toNat]

@[simp] theorem uint32_toNat_or (a b : UInt32) : (a ||| b).toNat = a.toNat ||| b.toNat := by
  change (UInt32.lor a b).toBitVec.toNat = _
  simp [UInt32.lor, UInt32.toNat]

@[simp] theorem uint32_toNat_shiftRight_16 (a : UInt32) :
    (a >>> 16).toNat = a.toNat / 65536 := by
  change (UInt32.shiftRight a 16).toBitVec.toNat = _
  simp [UInt32.shiftRight, UInt32.mod, BitVec.toNat_ushiftRight, Nat.shiftRight_eq_div_pow,
    UInt32.toNat]

theorem uint16_eq_of_toNat_eq {a b : UInt16} (h : a.toNat = b.toNat) : a = b :=
  UInt16.eq_of_toBitVec_eq (BitVec.eq_of_toNat_eq h)

end Words

/-! ## C `int` arithmetic -/

/-- `INT_MAX` of the 32-bit `int`. -/
def INT_MAX : Int := 2147483647

/-- `e1 << e2` on an `int` (C11 6.5.7): `e1 * 2 ^ e2` when `e1` is non-negative, `e2` is below
the width and the product fits in `int`; undefined (`none`) otherwise. -/
def intShiftLeft (e1 : Int) (e2 : Nat) : Option Int :=
  if 0 ≤ e1 ∧ e2 < 32 ∧ e1 * 2 ^ e2 ≤ INT_MAX then some (e1 * 2 ^ e2) else none

/-- The conversion of an `int` to `uint32` (C11 6.3.1.3): the value modulo `2 ^ 32`. -/
def intToUInt32 (v : Int) : UInt32 :=
  UInt32.ofNat (v % 4294967296).toNat

/-- `(hi << 16) | lo` on two `uint16` operands, both promoted to `int`, stored into a `uint32`;
`none` where the shift is undefined. -/
def packHalves (hi lo : UInt16) : Option UInt32 :=
  (intShiftLeft (hi.toNat : Int) 16).map fun v => intToUInt32 (v.lor lo.toNat)

/-! ## The functions -/

/-- The registers of the host's answer that these functions read. -/
structure BackdoorReply where
  ax : UInt32
  bx : UInt32

/-- `GuestApp_SetPos(x, y)`: the word it sends. -/
def guestAppSetPos (x y : UInt16) : Option UInt32 :=
  packHalves x y

/-- `GuestApp_GetPos`: `*x = ax >> 16` and `*y = ax`, as the 16 bits the `int16`s keep. -/
def guestAppGetPos (ax : UInt32) : UInt16 × UInt16 :=
  ((ax >>> 16).toUInt16, ax.toUInt16)

/-- `GuestApp_SetDeviceState(id, connected)`: the word `(connected ? 0x80000000 : 0) | id`
it sends, computed in `unsigned int`, and whether the host's `ax` is non-zero. -/
def guestAppSetDeviceState (id : UInt16) (connected : Bool) (ax : UInt32) : UInt32 × Bool :=
  ((if connected then 0x80000000 else 0) ||| id.toUInt32, ax != 0)

/-- `GuestAppGetDeviceListElement(id, offset, data)`: the word it sends, and `FALSE` when
the host's `ax` is `FALSE`, else `TRUE` with `*data = bx`; `none` where the word is
undefined. -/
def guestAppGetDeviceListElement (id offset : UInt16) (reply : BackdoorReply) :
    Option (UInt32 × Option UInt32) :=
  (packHalves id offset).map fun word => (word, if reply.ax = 0 then none else some reply.bx)

/-- What `GuestApp_GetAbsoluteMouseState` reports. -/
inductive GuestAppAbsoluteMouseState
  | unavailable
  | available
  | unknown
  deriving DecidableEq, Repr

/-- `GuestApp_GetAbsoluteMouseState`: the host's `ax` for `BDOOR_CMD_ISMOUSEABSOLUTE`, `0` for
unavailable, `1` for available, anything else unknown. -/
def guestAppGetAbsoluteMouseState (ax : UInt32) : GuestAppAbsoluteMouseState :=
  if ax = 0 then .unavailable else if ax = 1 then .available else .unknown

/-! ## Packing two halves -/

/-- `hi << 16` on the promoted `uint16` is defined exactly below `0x8000`. -/
theorem intShiftLeft_16 (n : Nat) :
    intShiftLeft (n : Int) 16 = if n < 32768 then some ((n * 65536 : Nat) : Int) else none := by
  have h16 : (2 : Int) ^ 16 = 65536 := by norm_num
  unfold intShiftLeft INT_MAX
  rw [h16]
  split_ifs <;> first | rfl | omega

/-- On disjoint bits the `int` or of a shifted half and a low half is their sum. -/
theorem lor_shifted_half (hi lo : Nat) (hlo : lo < 65536) :
    Int.lor ((hi * 65536 : Nat) : Int) (lo : Int) = ((hi * 65536 + lo : Nat) : Int) := by
  have h := Nat.mul_add_lt_is_or (i := 16) (by simpa using hlo) hi
  simp only [Int.lor, Int.ofNat_eq_coe, Nat.cast_inj]
  rw [Nat.mul_comm] at h
  exact h.symm

/-- `GuestApp_GetPos` unpacks `hi * 65536 + lo` into `hi` and `lo`. -/
theorem guestAppGetPos_pack (hi lo : UInt16) :
    guestAppGetPos (UInt32.ofNat (hi.toNat * 65536 + lo.toNat)) = (hi, lo) := by
  have hh := hi.toNat_lt_size
  have hl := lo.toNat_lt_size
  simp only [UInt16.size] at hh hl
  simp only [guestAppGetPos, Prod.mk.injEq]
  constructor <;> apply uint16_eq_of_toNat_eq <;> simp <;> omega

/-- `(hi << 16) | lo` is defined exactly for `hi < 0x8000`, where it is `hi * 65536 + lo`;
`GuestApp_GetPos`'s unpacking of that word gives back `hi` and `lo`. -/
theorem packHalves_eq (hi lo : UInt16) :
    packHalves hi lo =
        (if hi.toNat < 32768 then some (UInt32.ofNat (hi.toNat * 65536 + lo.toNat)) else none) ∧
      guestAppGetPos (UInt32.ofNat (hi.toNat * 65536 + lo.toNat)) = (hi, lo) := by
  have hl := lo.toNat_lt_size
  simp only [UInt16.size] at hl
  refine ⟨?_, guestAppGetPos_pack hi lo⟩
  unfold packHalves
  rw [intShiftLeft_16]
  split_ifs with h
  · have hlt : hi.toNat * 65536 + lo.toNat < 4294967296 := by omega
    simp only [Option.map_some', Option.some.injEq, intToUInt32, lor_shifted_half _ _ hl]
    congr 1
    omega
  · rfl

/-- Below `id = 0x8000` the request word is defined, and the call reports the host's answer:
`FALSE` when `ax` is, else `TRUE` with `*data = bx`. -/
theorem guestAppGetDeviceListElement_of_lt {id : UInt16} (hid : id.toNat < 32768)
    (offset : UInt16) (reply : BackdoorReply) :
    guestAppGetDeviceListElement id offset reply =
      some (UInt32.ofNat (id.toNat * 65536 + offset.toNat),
        if reply.ax = 0 then none else some reply.bx) := by
  simp [guestAppGetDeviceListElement, (packHalves_eq id offset).1, hid]

/-- From `id = 0x8000` on, every request word is undefined. -/
theorem guestAppGetDeviceListElement_of_ge {id : UInt16} (hid : ¬ id.toNat < 32768)
    (offset : UInt16) (reply : BackdoorReply) :
    guestAppGetDeviceListElement id offset reply = none := by
  simp [guestAppGetDeviceListElement, (packHalves_eq id offset).1, hid]

/-- At `hi = 0x8000` the shift of both request words overflows `int`. -/
theorem packHalves_undefined_at_0x8000 :
    guestAppSetPos 0x8000 0 = none ∧
      ∀ reply, guestAppGetDeviceListElement 0x8000 0 reply = none := by
  have h : packHalves 0x8000 0 = none := by decide
  exact ⟨h, fun reply => by simp [guestAppGetDeviceListElement, h]⟩

end OpenVmTools
