/-
# `StratoVirt.Net.ConfigSpace` — the device config as the guest reads and writes it

`virtio/src/net.rs`, lines 966–992.  The config is `VirtioNetConfig`,
`#[repr(C, packed)]`; `as_bytes` is its seventeen bytes in field order, each
field little-endian (`asBytes`).

`read_config(offset, data)` fails past the end, and otherwise copies the
config bytes from `offset` to the front of `data` with `write_all`, as many
as both have.  `write_config(offset, data)` stores into the config only the
legacy MAC write: six bytes at offset 0 while neither `CTRL_MAC_ADDR` nor
`VERSION_1` is negotiated; every other write is accepted and dropped.

`read_config` checks `offset + data.len()` with `checked_add`; a Rust slice
holds at most `isize::MAX` bytes, so the sum never overflows past an offset
inside the config, and the results about reads assume that bound.

**Proved here.**

    a write changes the config only in the legacy MAC case, and then
    exactly its first six bytes; a read inside the config fills
    min(len - offset, buf.len()) bytes and keeps the rest of buf;
    a read past it fails; so a read after a write returns the data
    in the legacy MAC case and what it returned before otherwise       (`config_write_then_read`)
-/
import StratoVirt.Net.Realize

namespace StratoVirt.Virtio

/-- `MAC_ADDR_LEN`. -/
def macAddrLen : Nat := 6

/-- The little-endian bytes of a `u16`. -/
def leBytes16 (v : UInt16) : List UInt8 := [v.toUInt8, (v >>> 8).toUInt8]

/-- The little-endian bytes of a `u32`. -/
def leBytes32 (v : UInt32) : List UInt8 :=
  [v.toUInt8, (v >>> 8).toUInt8, (v >>> 16).toUInt8, (v >>> 24).toUInt8]

/-- `ByteCode::as_bytes` of the packed `VirtioNetConfig`. -/
def VirtioNetConfig.asBytes (c : VirtioNetConfig) : List UInt8 :=
  c.mac ++ leBytes16 c.status ++ leBytes16 c.maxVirtqueuePairs ++ leBytes16 c.mtu ++
    leBytes32 c.speed ++ [c.duplex]

/-- The config with its MAC bytes replaced. -/
def VirtioNetConfig.setMac (c : VirtioNetConfig) (mac : List UInt8) (h : mac.length = 6) :
    VirtioNetConfig :=
  { c with mac := mac, mac_len := h }

@[simp] theorem VirtioNetConfig.asBytes_length (c : VirtioNetConfig) : c.asBytes.length = 17 := by
  simp [asBytes, c.mac_len, leBytes16, leBytes32]

/-- The MAC bytes are the first six of the config. -/
theorem VirtioNetConfig.asBytes_setMac (c : VirtioNetConfig) (mac : List UInt8) (h : mac.length = 6) :
    (c.setMac mac h).asBytes = mac ++ c.asBytes.drop macAddrLen := by
  simp [asBytes, setMac, macAddrLen, List.drop_append_eq_append_drop, c.mac_len, List.append_assoc]

/-! ## `read_config` and `write_config` -/

/-- The text of `VirtioError::DevConfigOverflow(offset, config_len)`. -/
def devConfigOverflow (offset : UInt64) (configLen : Nat) : String :=
  "DevConfigOverflow(" ++ toString offset ++ ", " ++ toString configLen ++ ")"

/-- `write_all` of `src` into the slice `buf`: the bytes go to its front, and
a slice too short for them is the `WriteZero` error. -/
def writeAll (buf src : List UInt8) : Except String (List UInt8) :=
  if src.length ≤ buf.length then .ok (src ++ buf.drop src.length) else .error "failed to write whole buffer"

/-- `Net::read_config(offset, data)`: the buffer after the call. -/
def Net.readConfig (n : Net) (offset : UInt64) (data : List UInt8) : Except String (List UInt8) :=
  let configSlice := n.state.configSpace.asBytes
  let configLen := configSlice.length
  if offset.toNat ≥ configLen then .error (devConfigOverflow offset configLen)
  else if offset.toNat + data.length < 2 ^ 64 then
    let end_ := offset.toNat + data.length
    writeAll data ((configSlice.drop offset.toNat).take (min end_ configLen - offset.toNat))
  else .ok data

/-- `Net::write_config(offset, data)`. -/
def Net.writeConfig (n : Net) (offset : UInt64) (data : List UInt8) : Except String Net :=
  let configSlice := n.state.configSpace.asBytes
  if h : !virtioHasFeature n.state.driverFeatures virtioNetFCtrlMacAddr &&
      !virtioHasFeature n.state.driverFeatures virtioFVersion1 && offset == 0 &&
      data.length == macAddrLen && data != configSlice.take data.length then
    .ok { n with state := { n.state with configSpace := n.state.configSpace.setMac data (by
      simp only [Bool.and_eq_true, beq_iff_eq] at h; exact h.1.2) } }
  else .ok n

/-- The legacy MAC write, as the spec describes it: six bytes at offset 0
while neither `CTRL_MAC_ADDR` nor `VERSION_1` is negotiated. -/
def legacyMacWrite (driverFeatures offset : UInt64) (data : List UInt8) : Prop :=
  offset = 0 ∧ data.length = macAddrLen ∧ virtioHasFeature driverFeatures virtioNetFCtrlMacAddr = false ∧
    virtioHasFeature driverFeatures virtioFVersion1 = false

instance (driverFeatures offset : UInt64) (data : List UInt8) :
    Decidable (legacyMacWrite driverFeatures offset data) :=
  inferInstanceAs (Decidable (_ ∧ _))

/-! ## What they do -/

/-- A write leaves everything but the config, and the config is the written
MAC on top of the old bytes in the legacy case, the old config otherwise. -/
theorem writeConfig_eq (n : Net) (offset : UInt64) (data : List UInt8) :
    ∃ n', n.writeConfig offset data = .ok n' ∧
      { n' with state := { n'.state with configSpace := n.state.configSpace } } = n ∧
      n'.state.configSpace.asBytes =
        if legacyMacWrite n.state.driverFeatures offset data then
          data ++ n.state.configSpace.asBytes.drop macAddrLen
        else n.state.configSpace.asBytes := by
  unfold Net.writeConfig
  dsimp only
  split
  · rename_i h
    simp only [Bool.and_eq_true, Bool.not_eq_true', beq_iff_eq, bne_iff_ne, ne_eq] at h
    obtain ⟨⟨⟨⟨hmac, hv1⟩, ho⟩, hlen⟩, -⟩ := h
    refine ⟨_, rfl, rfl, ?_⟩
    rw [if_pos ⟨ho, hlen, hmac, hv1⟩, VirtioNetConfig.asBytes_setMac]
  · rename_i h
    refine ⟨n, rfl, rfl, ?_⟩
    split
    · rename_i hl
      obtain ⟨ho, hlen, hmac, hv1⟩ := hl
      have hsame : data = n.state.configSpace.asBytes.take data.length := by
        simpa [ho, hlen, hmac, hv1] using h
      conv_lhs => rw [← List.take_append_drop macAddrLen n.state.configSpace.asBytes]
      rw [← hlen, ← hsame]
    · rfl

/-- A read inside the config copies `min(len - offset, buf.len())` config
bytes from `offset` to the front of `buf` and keeps the rest of `buf`; a read
at or past the end fails. -/
theorem readConfig_eq (n : Net) (offset : UInt64) (buf : List UInt8) (hbuf : buf.length < 2 ^ 63) :
    n.readConfig offset buf =
      if offset.toNat < n.state.configSpace.asBytes.length then
        .ok ((n.state.configSpace.asBytes.drop offset.toNat).take buf.length ++
          buf.drop (n.state.configSpace.asBytes.length - offset.toNat))
      else .error (devConfigOverflow offset n.state.configSpace.asBytes.length) := by
  simp only [Net.readConfig, VirtioNetConfig.asBytes_length]
  split
  · rw [if_neg (by omega)]
  generalize hcfg : n.state.configSpace.asBytes = cfg
  have hlen : (cfg.drop offset.toNat).length = 17 - offset.toNat := by simp [← hcfg]
  have htake : (cfg.drop offset.toNat).take (min (offset.toNat + buf.length) 17 - offset.toNat) =
      (cfg.drop offset.toNat).take buf.length := by
    rw [← List.take_of_length_le (le_of_eq hlen), List.take_take, List.take_take]
    congr 1; omega
  have hdrop : buf.drop (min buf.length (17 - offset.toNat)) = buf.drop (17 - offset.toNat) := by
    by_cases hb : buf.length ≤ 17 - offset.toNat
    · rw [List.drop_eq_nil_of_le (by omega), List.drop_eq_nil_of_le hb]
    · rw [min_eq_right (by omega)]
  rw [if_pos (by omega), if_pos (by omega), writeAll, htake, if_pos (by simp), List.length_take, hlen, hdrop]

/-- A read sees the config only through its bytes. -/
theorem readConfig_of_asBytes {n n' : Net}
    (h : n'.state.configSpace.asBytes = n.state.configSpace.asBytes) : n'.readConfig = n.readConfig := by
  funext offset buf
  simp only [Net.readConfig, h]

/-- **The config round trip.**  For every device, offset and data, the write
succeeds and changes nothing but, in the legacy MAC case, the first six config
bytes, which become the data; a read inside the config fills
`min(len - offset, buf.len())` bytes of `buf` from `offset` and keeps the rest,
and a read past it fails; so reading back what was written returns the data in
the legacy MAC case and what a read returned before the write otherwise. -/
theorem config_write_then_read (n : Net) (offset : UInt64) (data buf : List UInt8)
    (hbuf : buf.length < 2 ^ 63) :
    (∃ n', n.writeConfig offset data = .ok n' ∧
      { n' with state := { n'.state with configSpace := n.state.configSpace } } = n ∧
      n'.state.configSpace.asBytes =
        if legacyMacWrite n.state.driverFeatures offset data then
          data ++ n.state.configSpace.asBytes.drop macAddrLen
        else n.state.configSpace.asBytes) ∧
    n.readConfig offset buf =
      (if offset.toNat < n.state.configSpace.asBytes.length then
        .ok ((n.state.configSpace.asBytes.drop offset.toNat).take buf.length ++
          buf.drop (n.state.configSpace.asBytes.length - offset.toNat))
      else .error (devConfigOverflow offset n.state.configSpace.asBytes.length)) ∧
    (buf.length = data.length →
      (n.writeConfig offset data >>= fun n' => n'.readConfig offset buf) =
        if legacyMacWrite n.state.driverFeatures offset data then .ok data
        else n.readConfig offset buf) := by
  refine ⟨writeConfig_eq n offset data, readConfig_eq n offset buf hbuf, fun hlen => ?_⟩
  obtain ⟨n', hw, -, hbytes⟩ := writeConfig_eq n offset data
  simp only [hw, bind, Except.bind]
  split
  · rename_i hl
    rw [if_pos hl] at hbytes
    obtain ⟨ho, hmac, -, -⟩ := hl
    rw [readConfig_eq n' offset buf hbuf, hbytes]
    simp [ho, hlen, hmac, macAddrLen]
  · rw [if_neg ‹_›] at hbytes
    rw [readConfig_of_asBytes hbytes]

/-- `test_net_init`'s four-byte write at offset 0 on a realized default device
is not the legacy MAC write: reading back returns the old bytes. -/
theorem net_init_write_not_read_back :
    [0, 0, 0, 0].length < 2 ^ 63 ∧
    ((Net.default 100 101).writeConfig 0 [7, 7, 7, 7] >>= fun n' => n'.readConfig 0 [0, 0, 0, 0]) =
      (Net.default 100 101).readConfig 0 [0, 0, 0, 0] := by
  refine ⟨by decide, ?_⟩
  have h := (config_write_then_read (Net.default 100 101) 0 [7, 7, 7, 7] [0, 0, 0, 0] (by decide)).2.2 rfl
  rwa [if_neg (by decide)] at h

end StratoVirt.Virtio
