/-
# `StratoVirt.Virtio.Defs` — feature bits and the feature-page helpers

The constants `net.rs` imports from `virtio/src/lib.rs`, and the helpers that
turn the 64-bit feature words into the 32-bit pages the transport reads and
writes (`read_u32`, `write_u32` from `util/src/num_ops.rs`, and the trait
default `checked_driver_features`).  None of these files is among the
sources: the bit numbers are the virtio 1.1 specification's, which the spec
cites as the layout the devices follow, and `checkedDriverFeatures` follows
the spec's words "value is masked by `device_features`", with the page it
does not write kept as it was.
-/
import Mathlib.Tactic.Ring

namespace StratoVirt.Virtio

/-! ## Feature bits (virtio 1.1 numbering) -/

def virtioNetFCsum : UInt64 := 0
def virtioNetFGuestCsum : UInt64 := 1
def virtioNetFMac : UInt64 := 5
def virtioNetFGuestTso4 : UInt64 := 7
def virtioNetFGuestTso6 : UInt64 := 8
def virtioNetFGuestEcn : UInt64 := 9
def virtioNetFGuestUfo : UInt64 := 10
def virtioNetFHostTso4 : UInt64 := 11
def virtioNetFHostTso6 : UInt64 := 12
def virtioNetFHostUfo : UInt64 := 14
def virtioNetFCtrlVq : UInt64 := 17
def virtioNetFMq : UInt64 := 22
def virtioNetFCtrlMacAddr : UInt64 := 23
def virtioFRingEventIdx : UInt64 := 29
def virtioFVersion1 : UInt64 := 32

/-! ## Control-queue constants -/

def virtioNetCtrlMq : UInt16 := 4
def virtioNetCtrlMqVqPairsSet : UInt16 := 0
def virtioNetCtrlMqVqPairsMin : UInt16 := 1
def virtioNetCtrlMqVqPairsMax : UInt16 := 0x8000
def virtioNetOk : UInt8 := 0
def virtioNetErr : UInt8 := 1

/-- `virtio_has_feature(features, bit)`. -/
def virtioHasFeature (features bit : UInt64) : Bool :=
  features &&& (1 <<< bit) != 0

/-! ## Feature pages -/

/-- `read_u32(value, page)`: the low or the high half, `0` past page 1. -/
def readU32 (value : UInt64) (page : UInt32) : UInt32 :=
  if page = 0 then value.toUInt32
  else if page = 1 then (value >>> 32).toUInt32
  else 0

/-- Modelled from the spec: the trait default `checked_driver_features`,
"value is masked by `device_features` to prevent enabling unsupported bits".
The masked value becomes page `page` of the result; the other page keeps the
driver features already negotiated. -/
def checkedDriverFeatures (deviceFeatures driverFeatures : UInt64) (page value : UInt32) :
    UInt64 :=
  let v := value &&& readU32 deviceFeatures page
  if page = 0 then ((readU32 driverFeatures 1).toUInt64 <<< 32) ||| v.toUInt64
  else (v.toUInt64 <<< 32) ||| (readU32 driverFeatures 0).toUInt64

/-! ## Feature words bit by bit

The `UInt64` and `UInt32` operations are those of `BitVec` on `toBitVec`;
these lemmas move a feature word to its bits, where the `BitVec.getLsbD`
lemmas compute.  `a &&& ~~~b = 0` — every bit of `a` is a bit of `b` — is the
form the spec's law `driver_features & !device_features == 0` has. -/

@[simp] theorem u64_toBitVec_and (a b : UInt64) : (a &&& b).toBitVec = a.toBitVec &&& b.toBitVec :=
  rfl
@[simp] theorem u64_toBitVec_or (a b : UInt64) : (a ||| b).toBitVec = a.toBitVec ||| b.toBitVec :=
  rfl
@[simp] theorem u64_toBitVec_not (a : UInt64) : (~~~a).toBitVec = ~~~a.toBitVec := rfl
@[simp] theorem u32_toBitVec_and (a b : UInt32) : (a &&& b).toBitVec = a.toBitVec &&& b.toBitVec :=
  rfl
@[simp] theorem u64_toBitVec_shiftLeft_32 (a : UInt64) : (a <<< 32).toBitVec = a.toBitVec <<< 32 :=
  rfl
@[simp] theorem u64_toBitVec_shiftRight_32 (a : UInt64) : (a >>> 32).toBitVec = a.toBitVec >>> 32 :=
  rfl

@[simp] theorem u64_toBitVec_toUInt32 (a : UInt64) : a.toUInt32.toBitVec = a.toBitVec.setWidth 32 := by
  apply BitVec.eq_of_toNat_eq
  simp [UInt64.toUInt32, Nat.toUInt32, UInt32.ofNat, UInt64.toNat]

@[simp] theorem u32_toBitVec_toUInt64 (a : UInt32) : a.toUInt64.toBitVec = a.toBitVec.setWidth 64 := by
  apply BitVec.eq_of_toNat_eq
  simp only [UInt32.toUInt64, BitVec.toNat_setWidth]
  exact (Nat.mod_eq_of_lt (Nat.lt_trans a.toBitVec.isLt (by decide))).symm

/-- `a &&& ~~~b = 0` says that every bit set in `a` is set in `b`. -/
theorem and_not_eq_zero_iff (a b : UInt64) :
    a &&& ~~~b = 0 ↔ ∀ i, a.toBitVec.getLsbD i = true → b.toBitVec.getLsbD i = true := by
  constructor
  · intro h i hi
    have := congrArg (fun x : UInt64 => x.toBitVec.getLsbD i) h
    simpa [hi, BitVec.lt_of_getLsbD hi] using this
  · intro h
    apply UInt64.eq_of_toBitVec_eq
    apply BitVec.eq_of_getLsbD_eq
    intro i
    cases ha : a.toBitVec.getLsbD i
    · simp [ha]
    · simp [ha, h _ ha]

/-- A feature of a word within `dev` is a feature of `dev`. -/
theorem virtioHasFeature_mono {drv dev : UInt64} (bit : UInt64) (h : drv &&& ~~~dev = 0)
    (hd : virtioHasFeature drv bit) : virtioHasFeature dev bit := by
  unfold virtioHasFeature at *
  rw [and_not_eq_zero_iff] at h
  simp only [bne_iff_ne, ne_eq] at *
  intro hdev
  apply hd
  apply UInt64.eq_of_toBitVec_eq
  apply BitVec.eq_of_getLsbD_eq
  intro ⟨i, hi⟩
  have hb := congrArg (fun x : UInt64 => x.toBitVec.getLsbD i) hdev
  simp only [u64_toBitVec_and, BitVec.getLsbD_and] at hb ⊢
  cases ha : drv.toBitVec.getLsbD i
  · simp
  · simpa [h i ha] using hb

/-- A bit `checked_driver_features` sets is a device feature bit (of the page
written) or a driver feature bit (of the page kept). -/
theorem checkedDriverFeatures_bit (dev drv : UInt64) (p v : UInt32) (i : Nat)
    (h : (checkedDriverFeatures dev drv p v).toBitVec.getLsbD i = true) :
    dev.toBitVec.getLsbD i = true ∨ drv.toBitVec.getLsbD i = true := by
  unfold checkedDriverFeatures readU32 at h
  by_cases h0 : p = 0
  · simp [h0] at h
    rcases h with ⟨⟨-, hi⟩, -, -, hd⟩ | ⟨-, -, -, hd⟩
    · exact .inr (by rwa [Nat.add_sub_cancel' hi] at hd)
    · exact .inl hd
  by_cases h1 : p = 1
  · simp [h0, h1] at h
    rcases h with ⟨⟨-, hi⟩, -, -, -, hd⟩ | ⟨-, -, hd⟩
    · exact .inl (by rwa [Nat.add_sub_cancel' hi] at hd)
    · exact .inr hd
  · simp [h0, h1] at h
    exact .inr h.2.2

/-- `checked_driver_features` keeps every bound `b` of both feature words:
with `b` the device features, this is the spec's law for one call. -/
theorem checkedDriverFeatures_within (dev drv b : UInt64) (p v : UInt32)
    (hdev : dev &&& ~~~b = 0) (hdrv : drv &&& ~~~b = 0) :
    checkedDriverFeatures dev drv p v &&& ~~~b = 0 := by
  rw [and_not_eq_zero_iff] at *
  intro i hi
  rcases checkedDriverFeatures_bit dev drv p v i hi with h | h
  · exact hdev i h
  · exact hdrv i h

end StratoVirt.Virtio
