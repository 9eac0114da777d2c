/-
# `StratoVirt.Net.Migration` — the device state a migration carries

`virtio/src/net.rs`, lines 678–686 and 1131–1144.  `VirtioNetState` is
`#[repr(C)]`: `device_features` at byte 0, `driver_features` at byte 8, the
packed seventeen-byte `VirtioNetConfig` at byte 16, and seven bytes of
padding that round the size up to the alignment of a `u64`, forty bytes in
all.  `get_state_vec` copies those forty bytes (`as_bytes`);
`set_state_mut` installs `VirtioNetState::from_bytes(state)`, which checks
the length and nothing else, or fails with `FromBytesError("NET")`.

`ByteCode` is in `util`, which is not among the sources: `as_bytes` is the
object's memory and `from_bytes` the same memory read back, of a blob whose
length is `size_of::<Self>()`.  Words are little-endian, as on the x86_64
and aarch64 hosts the code builds for.  What the padding bytes hold is not
fixed by Rust; `asBytes` takes them as an argument.

**Proved here.**

    a state sent by get_state_vec is installed whole by set_state_mut
    on any device, whatever the padding holds                        (`setStateMut_getStateVec`)
    set_state_mut accepts exactly the forty-byte blobs, each the
    encoding of the state it installs, and fails on any other length  (`setStateMut_spec`)
-/
import StratoVirt.Net.ConfigSpace

namespace StratoVirt.Virtio

/-! ## Little-endian words -/

/-- The `width` little-endian bytes of `v`, as memory holds a word of that
width. -/
def leBytes : (width : Nat) → Nat → List UInt8
  | 0, _ => []
  | w + 1, v => UInt8.ofNat v :: leBytes w (v / 256)

/-- The value of little-endian bytes. -/
def leValue : List UInt8 → Nat
  | [] => 0
  | b :: bs => b.toNat + 256 * leValue bs

/-- The little-endian word of `width` bytes at `offset` of `b`. -/
def leField (b : List UInt8) (offset width : Nat) : Nat :=
  leValue ((b.drop offset).take width)

@[simp] theorem leBytes_length (w v : Nat) : (leBytes w v).length = w := by
  induction w generalizing v <;> simp [leBytes, *]

theorem u8_toNat_ofNat (n : Nat) : (UInt8.ofNat n).toNat = n % 256 := by
  simp [UInt8.ofNat, UInt8.toNat, BitVec.toNat_ofNat]
theorem u16_toNat_ofNat (n : Nat) : (UInt16.ofNat n).toNat = n % 256 ^ 2 := by
  simp [UInt16.ofNat, UInt16.toNat, BitVec.toNat_ofNat]
theorem u32_toNat_ofNat (n : Nat) : (UInt32.ofNat n).toNat = n % 256 ^ 4 := by
  simp [UInt32.ofNat, UInt32.toNat, BitVec.toNat_ofNat]
theorem u64_toNat_ofNat (n : Nat) : (UInt64.ofNat n).toNat = n % 256 ^ 8 := by
  simp [UInt64.ofNat, UInt64.toNat, BitVec.toNat_ofNat]

theorem leValue_leBytes (w v : Nat) : leValue (leBytes w v) = v % 256 ^ w := by
  induction w generalizing v with
  | zero => simp [leBytes, leValue, Nat.mod_one]
  | succ w ih => rw [leBytes, leValue, ih, u8_toNat_ofNat, pow_succ', Nat.mod_mul]

theorem leBytes_leValue (bs : List UInt8) : leBytes bs.length (leValue bs) = bs := by
  induction bs with
  | nil => rfl
  | cons b bs ih =>
      have hb : b.toNat < 256 := b.toBitVec.isLt
      have hlow : UInt8.ofNat (b.toNat + 256 * leValue bs) = b :=
        UInt8.toNat.inj (by rw [u8_toNat_ofNat]; omega)
      have hhigh : (b.toNat + 256 * leValue bs) / 256 = leValue bs := by omega
      rw [List.length_cons, leBytes, leValue, hlow, hhigh, ih]

/-- Only the low `width` bytes of a value are written. -/
theorem leBytes_mod (w v : Nat) : leBytes w (v % 256 ^ w) = leBytes w v := by
  induction w generalizing v with
  | zero => rfl
  | succ w ih =>
      have hlow : UInt8.ofNat (v % 256 ^ (w + 1)) = UInt8.ofNat v :=
        UInt8.toNat.inj (by rw [u8_toNat_ofNat, u8_toNat_ofNat, pow_succ, Nat.mod_mul_left_mod])
      rw [leBytes, leBytes, hlow, pow_succ', Nat.mod_mul_right_div_self, ih]

@[simp] theorem u8_ofNat_leValue (v : UInt8) : UInt8.ofNat (leValue [v]) = v :=
  UInt8.toNat.inj (by rw [u8_toNat_ofNat, leValue, leValue]; exact Nat.mod_eq_of_lt v.toNat_lt_size)
@[simp] theorem u16_ofNat_leValue (v : UInt16) : UInt16.ofNat (leValue (leBytes 2 v.toNat)) = v :=
  UInt16.toNat.inj (by rw [u16_toNat_ofNat, leValue_leBytes, Nat.mod_mod]; exact Nat.mod_eq_of_lt v.toNat_lt_size)
@[simp] theorem u32_ofNat_leValue (v : UInt32) : UInt32.ofNat (leValue (leBytes 4 v.toNat)) = v :=
  UInt32.toNat.inj (by rw [u32_toNat_ofNat, leValue_leBytes, Nat.mod_mod]; exact Nat.mod_eq_of_lt v.toNat_lt_size)
@[simp] theorem u64_ofNat_leValue (v : UInt64) : UInt64.ofNat (leValue (leBytes 8 v.toNat)) = v :=
  UInt64.toNat.inj (by rw [u64_toNat_ofNat, leValue_leBytes, Nat.mod_mod]; exact Nat.mod_eq_of_lt v.toNat_lt_size)

/-! The config's words, written with shifts, are the same bytes. -/

theorem u16_toNat_shiftRight (v k : UInt16) : (v >>> k).toNat = v.toNat / 2 ^ (k.toNat % 16) := by
  show (v.toBitVec >>> (k.toBitVec % 16)).toNat = v.toBitVec.toNat / 2 ^ (k.toBitVec.toNat % 16)
  simp [Nat.shiftRight_eq_div_pow]

theorem u32_toNat_shiftRight (v k : UInt32) : (v >>> k).toNat = v.toNat / 2 ^ (k.toNat % 32) := by
  show (v.toBitVec >>> (k.toBitVec % 32)).toNat = v.toBitVec.toNat / 2 ^ (k.toBitVec.toNat % 32)
  simp [Nat.shiftRight_eq_div_pow]

theorem leBytes16_eq (v : UInt16) : leBytes16 v = leBytes 2 v.toNat := by
  show [UInt8.ofNat v.toNat, UInt8.ofNat (v >>> 8).toNat] = [UInt8.ofNat v.toNat, UInt8.ofNat (v.toNat / 256)]
  rw [u16_toNat_shiftRight]
  rfl

theorem leBytes32_eq (v : UInt32) : leBytes32 v = leBytes 4 v.toNat := by
  show [UInt8.ofNat v.toNat, UInt8.ofNat (v >>> 8).toNat, UInt8.ofNat (v >>> 16).toNat,
      UInt8.ofNat (v >>> 24).toNat] =
    [UInt8.ofNat v.toNat, UInt8.ofNat (v.toNat / 256), UInt8.ofNat (v.toNat / 256 / 256),
      UInt8.ofNat (v.toNat / 256 / 256 / 256)]
  simp only [u32_toNat_shiftRight, Nat.div_div_eq_div_mul]
  rfl

/-! ## `as_bytes` and `from_bytes` -/

/-- `size_of::<VirtioNetState>()`. -/
def stateSize : Nat := 40

/-- `VirtioNetState::as_bytes`, with what its seven padding bytes hold. -/
def VirtioNetState.asBytes (s : VirtioNetState) (padding : Fin 7 → UInt8) : List UInt8 :=
  leBytes 8 s.deviceFeatures.toNat ++ leBytes 8 s.driverFeatures.toNat ++ s.configSpace.asBytes ++
    List.ofFn padding

/-- The packed config as `from_bytes` reads it from its seventeen bytes. -/
def VirtioNetConfig.fromBytes (b : List UInt8) (h : b.length = 17) : VirtioNetConfig :=
  ⟨b.take macAddrLen, by simp [h, macAddrLen], UInt16.ofNat (leField b 6 2), UInt16.ofNat (leField b 8 2),
    UInt16.ofNat (leField b 10 2), UInt32.ofNat (leField b 12 4), UInt8.ofNat (leField b 16 1)⟩

/-- `VirtioNetState::from_bytes`: the blob must be `size_of` long; the
padding is not read. -/
def VirtioNetState.fromBytes (b : List UInt8) : Option VirtioNetState :=
  if h : b.length = stateSize then
    some ⟨UInt64.ofNat (leField b 0 8), UInt64.ofNat (leField b 8 8),
      VirtioNetConfig.fromBytes ((b.drop 16).take 17) (by simp [h, stateSize])⟩
  else none

/-- `StateTransfer::get_state_vec` of `Net`. -/
def Net.getStateVec (n : Net) (padding : Fin 7 → UInt8) : Except String (List UInt8) :=
  .ok (n.state.asBytes padding)

/-- `StateTransfer::set_state_mut` of `Net`. -/
def Net.setStateMut (n : Net) (state : List UInt8) : Except String Net :=
  match VirtioNetState.fromBytes state with
  | some s => .ok { n with state := s }
  | none => .error "FromBytesError(NET)"

@[simp] theorem VirtioNetState.asBytes_length (s : VirtioNetState) (padding : Fin 7 → UInt8) :
    (s.asBytes padding).length = stateSize := by
  simp [asBytes, stateSize]

/-! ## Decoding what was encoded -/

theorem VirtioNetConfig.fromBytes_asBytes (c : VirtioNetConfig) :
    VirtioNetConfig.fromBytes c.asBytes c.asBytes_length = c := by
  obtain ⟨mac, hmac, status, pairs, mtu, speed, duplex⟩ := c
  simp [fromBytes, asBytes, leField, leBytes16_eq, leBytes32_eq, hmac, macAddrLen, List.drop_append_eq_append_drop,
    List.take_append_eq_append_take, List.drop_eq_nil_of_le]

theorem VirtioNetConfig.fromBytes_congr {b b' : List UInt8} (h : b.length = 17) (h' : b'.length = 17)
    (e : b = b') : VirtioNetConfig.fromBytes b h = VirtioNetConfig.fromBytes b' h' := by
  subst e; rfl

theorem VirtioNetState.fromBytes_asBytes (s : VirtioNetState) (padding : Fin 7 → UInt8) :
    fromBytes (s.asBytes padding) = some s := by
  have hcfg : ((s.asBytes padding).drop 16).take 17 = s.configSpace.asBytes := by
    simp [asBytes, List.drop_append_eq_append_drop, List.take_append_eq_append_take, List.drop_eq_nil_of_le]
  obtain ⟨dev, drv, c⟩ := s
  rw [fromBytes, dif_pos (asBytes_length _ _), VirtioNetConfig.fromBytes_congr _ c.asBytes_length hcfg,
    VirtioNetConfig.fromBytes_asBytes]
  simp [asBytes, leField, List.take_append_eq_append_take, List.drop_append_eq_append_drop, List.drop_eq_nil_of_le]

/-! ## Encoding what was decoded -/

theorem leBytes_leField (b : List UInt8) (o w : Nat) (h : o + w ≤ b.length) :
    leBytes w (leField b o w) = (b.drop o).take w := by
  have hw : ((b.drop o).take w).length = w := by simp; omega
  have hbytes := leBytes_leValue ((b.drop o).take w)
  rwa [hw] at hbytes

theorem VirtioNetConfig.asBytes_fromBytes (b : List UInt8) (h : b.length = 17) :
    (VirtioNetConfig.fromBytes b h).asBytes = b := by
  simp only [fromBytes, asBytes, leBytes16_eq, leBytes32_eq, u16_toNat_ofNat, u32_toNat_ofNat, leBytes_mod]
  rw [show [UInt8.ofNat (leField b 16 1)] = leBytes 1 (leField b 16 1) from rfl]
  rw [leBytes_leField b 6 2 (by omega), leBytes_leField b 8 2 (by omega), leBytes_leField b 10 2 (by omega),
    leBytes_leField b 12 4 (by omega), leBytes_leField b 16 1 (by omega)]
  simp only [macAddrLen, ← List.take_add]
  exact List.take_of_length_le (by omega)

/-- Every blob of the right length decodes, and encodes back to itself with
its own last seven bytes as the padding. -/
theorem VirtioNetState.asBytes_fromBytes (b : List UInt8) (h : b.length = stateSize) :
    ∃ s padding, fromBytes b = some s ∧ s.asBytes padding = b := by
  have hpad : List.ofFn (fun i : Fin 7 => b.getD (33 + i) 0) = b.drop 33 := by
    apply List.ext_getElem
    · simp [h, stateSize]
    · intro i _ hi
      rw [List.getElem_ofFn, List.getElem_drop, List.getD_eq_getElem?_getD,
        List.getElem?_eq_getElem (by rw [List.length_drop] at hi; exact (by omega : 33 + i < b.length))]
      rfl
  refine ⟨_, fun i => b.getD (33 + i) 0, dif_pos h, ?_⟩
  simp only [stateSize] at h
  simp only [asBytes, u64_toNat_ofNat, leBytes_mod, leBytes_leField b 0 8 (by omega),
    leBytes_leField b 8 8 (by omega), VirtioNetConfig.asBytes_fromBytes, hpad, List.drop_zero, ← List.take_add]
  exact List.take_append_drop 33 b

/-! ## `get_state_vec` and `set_state_mut` -/

/-- **The migration round trip.**  What `get_state_vec` sends, `set_state_mut`
installs on any destination device: the same device and driver features and
the same config, whatever the padding holds, and nothing else of the
destination changes. -/
theorem setStateMut_getStateVec (src dst : Net) (padding : Fin 7 → UInt8) :
    (src.getStateVec padding >>= dst.setStateMut) = .ok { dst with state := src.state } := by
  simp only [Net.getStateVec, bind, Except.bind, Net.setStateMut, VirtioNetState.fromBytes_asBytes]

/-- **`set_state_mut` checks the length only.**  Every forty-byte blob is
installed, as the state whose encoding it is; any other length is refused
with `FromBytesError("NET")`.  Nothing ties the installed driver features
to the device features, or the config to the device's configuration. -/
theorem setStateMut_spec (dst : Net) (b : List UInt8) :
    (b.length = stateSize →
      ∃ s padding, s.asBytes padding = b ∧ dst.setStateMut b = .ok { dst with state := s }) ∧
    (b.length ≠ stateSize → dst.setStateMut b = .error "FromBytesError(NET)") := by
  refine ⟨fun h => ?_, fun h => by simp [Net.setStateMut, VirtioNetState.fromBytes, h]⟩
  obtain ⟨s, padding, hs, hb⟩ := VirtioNetState.asBytes_fromBytes b h
  exact ⟨s, padding, hb, by simp [Net.setStateMut, hs]⟩

end StratoVirt.Virtio
