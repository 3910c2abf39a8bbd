import OpenVmTools.GuestApp.Backdoor

/-!
# Requests over the RPC channel

`GuestApp_SetOptionInVMX`, `GuestApp_IsDiskShrinkCapable` and `GuestApp_IsDiskShrinkEnabled`
talk to the host through `RpcOut_sendOne` (lib/rpcOut, outside src/), which sends a text
request and returns whether the host accepted it, with its reply. Each function is modelled by
the text it sends and what it makes of the outcome and the reply, which are arguments.

`GuestApp_SetOptionInVMX` formats `"vmx.set_option %s %s %s"`: the option's name, its current
value and its new value, separated by single spaces. `guestAppSetOptionInVMX_splitOn`: cut at
its spaces, the request gives back the command and the three arguments exactly when none of
them contains a space. An argument with a space in it reads as two.
-/

namespace OpenVmTools

/-! ## Cutting a text at a separator -/

/-- No piece of a text cut at `x` contains `x`. -/
theorem not_mem_of_mem_splitOn (x : Char) :
    ∀ {t w : List Char}, w ∈ t.splitOn x → x ∉ w
  | [], w, hw => by simp at hw; simp [hw]
  | c :: cs, w, hw => by
    rw [List.splitOn, List.splitOnP_cons] at hw
    split_ifs at hw with hc
    · rcases List.mem_cons.mp hw with rfl | hw
      · simp
      · exact not_mem_of_mem_splitOn x hw
    · obtain ⟨r, rs, hr⟩ := List.exists_cons_of_ne_nil (List.splitOnP_ne_nil (· == x) cs)
      rw [hr, List.modifyHead_cons] at hw
      rcases List.mem_cons.mp hw with rfl | hw
      · rintro (_ | ⟨_, h⟩)
        · simp at hc
        · exact not_mem_of_mem_splitOn x
            (by rw [List.splitOn, hr]; exact List.mem_cons_self r rs) h
      · exact not_mem_of_mem_splitOn x (by rw [List.splitOn, hr]; exact List.mem_cons_of_mem r hw)

/-! ## The functions -/

/-- `GuestApp_SetOptionInVMX(option, currentVal, newVal)`: the request
`"vmx.set_option %s %s %s"` it sends, and its result, that of `RpcOut_sendOne`. -/
def guestAppSetOptionInVMX (rpcOk : Bool) (option currentVal newVal : String) : String × Bool :=
  ("vmx.set_option " ++ option ++ " " ++ currentVal ++ " " ++ newVal, rpcOk)

/-- `GuestApp_IsDiskShrinkCapable`: the request it sends, and whether the host accepted it. -/
def guestAppIsDiskShrinkCapable (rpcOk : Bool) : String × Bool :=
  ("disk.wiper.enable", rpcOk)

/-- `GuestApp_IsDiskShrinkEnabled`: the request it sends, and `TRUE` when the host accepted it
with a reply of one byte (`resultLen == 1`) that `strcmp`, which stops at the first NUL, finds
equal to `"1"`. -/
def guestAppIsDiskShrinkEnabled (reply : Option (List UInt8)) : String × Bool :=
  ("disk.wiper.enable", match reply with
    | some r => r.length == 1 && r.takeWhile (· != 0) == [49]
    | none => false)

/-- Disk shrinking reads as enabled exactly when the host's reply is the one byte `'1'`. -/
theorem guestAppIsDiskShrinkEnabled_iff (reply : Option (List UInt8)) :
    (guestAppIsDiskShrinkEnabled reply).2 = true ↔ reply = some [49] := by
  rcases reply with _ | (_ | ⟨b, _ | ⟨c, r⟩⟩) <;> simp [guestAppIsDiskShrinkEnabled]
  by_cases hb : b = 0 <;> simp [hb, List.takeWhile_cons]

/-- The request of `GuestApp_SetOptionInVMX`, cut at its spaces, gives back the command and the
option's name, current value and new value exactly when none of the three contains a space. -/
theorem guestAppSetOptionInVMX_splitOn (rpcOk : Bool) (option currentVal newVal : String) :
    (guestAppSetOptionInVMX rpcOk option currentVal newVal).1.data.splitOn ' ' =
        ["vmx.set_option".data, option.data, currentVal.data, newVal.data] ↔
      ' ' ∉ option.data ∧ ' ' ∉ currentVal.data ∧ ' ' ∉ newVal.data := by
  have hmsg : (guestAppSetOptionInVMX rpcOk option currentVal newVal).1.data =
      [' '].intercalate ["vmx.set_option".data, option.data, currentVal.data, newVal.data] := by
    simp [guestAppSetOptionInVMX, String.data_append, List.intercalate]
  rw [hmsg]
  constructor
  · intro h
    have hpiece : ∀ w ∈ ["vmx.set_option".data, option.data, currentVal.data, newVal.data],
        ' ' ∉ w := fun w hw => not_mem_of_mem_splitOn ' ' (h ▸ hw)
    exact ⟨hpiece _ (by simp), hpiece _ (by simp), hpiece _ (by simp)⟩
  · rintro ⟨ho, hc, hn⟩
    refine List.splitOn_intercalate _ ' ' ?_ (List.cons_ne_nil _ _)
    intro w hw
    simp only [List.mem_cons, List.mem_singleton, List.not_mem_nil, or_false] at hw
    rcases hw with rfl | rfl | rfl | rfl
    · decide
    · exact ho
    · exact hc
    · exact hn

end OpenVmTools
