/-
# `StratoVirt.Vfio.Access` — `read_config` and `write_config` of a VFIO device

`vfio/src/vfio_pci.rs`, lines 342–459.  The guest's config accesses to a
passed-through device go through these two functions.

* `read_config` answers an access that *starts* in `[BAR_0, BAR_5 + 4)` from
  the emulated config, and every other access from the host device, clearing
  the INTx pin (`0x3d`) and the multi-function bit (`0x0e`) of what it read.
* `write_config` forwards the write to the host, then stores it in the
  emulated config, and — by the first range the write overlaps of COMMAND,
  the BARs and the MSI-X capability — remaps the BARs or calls
  `vfio_enable_msix` / `vfio_disable_msix` on an Enable transition.  A failed
  host call is logged and the function returns; nothing is rolled back.

The host is a record: the bytes of its config region and which reads fail
(`VfioDevice`), and how each host call of one `write_config` ends
(`WriteOutcomes`).  `write_config` returns the host calls it made.

**Proved here.**

    reads that do not straddle BAR_0 see the same bytes on hosts
    that differ only in the BARs                              (`readConfig_agree_of_not_straddle`)
    0x3d reads 0 and 0x0e has bit 7 clear                    (`readConfig_clears`)
    a read starting at 0x0e returns host BAR_0 bytes          (`bar_bytes_reach_guest`)
    Enable 0→1 calls enable, 1→0 calls disable; the host agrees
    with the emulated bit while those calls succeed           (`writeConfig_msix`, `msix_agreement`)
    a failed enable keeps the emulated bit set                (`enable_failure_kept`)
    every write returns, on a device whose buffer holds the
    header and the MSI-X capability, and a failed host call
    rolls nothing back                                        (`writeConfig_never_panics`)
    a write overlapping COMMAND tests bit 1 of the byte at its
    own offset: a STATUS byte write remaps with MSE clear, and
    another does not remap with MSE set                      (`status_byte_decides_remap`)
-/
import StratoVirt.Pci.Config

namespace StratoVirt.Vfio

open StratoVirt.Pci

/-- The host VFIO device as the config accesses meet it. -/
structure VfioDevice where
  /-- The bytes of its config region. -/
  region : Nat → UInt8
  /-- Whether `read_region` of `size` bytes at `offset` fails. -/
  readFails : Nat → Nat → Bool

/-- `read_region(data, config_offset, offset)`. -/
def VfioDevice.readRegion (dev : VfioDevice) (offset size : Nat) : Option (List UInt8) :=
  if dev.readFails offset size then none
  else some ((List.range size).map fun i => dev.region (offset + i))

/-- The fields of `VfioPciDevice` the config accesses use. -/
structure VfioPciDevice where
  pciConfig : PciConfig
  configSize : Nat

/-! ## `read_config` -/

/-- The loop of `read_config` on byte `i` read from the device. -/
def clearHostByte (pos : Nat) (b : UInt8) : UInt8 :=
  if pos = 0x3d then b &&& 0 else if pos = 0x0e then b &&& 0x7f else b

/-- `read_config(offset, data)`: the buffer after the call. -/
def VfioPciDevice.readConfig (d : VfioPciDevice) (dev : VfioDevice) (offset : Nat)
    (data : List UInt8) : List UInt8 :=
  let size := data.length
  let end_ := offset + size
  if end_ > d.configSize ∨ size > 4 then data
  else if offset ≥ bar0 ∧ offset < bar5 + regSize then d.pciConfig.read offset size
  else match dev.readRegion offset size with
    | none => data
    | some bytes => bytes.enum.map fun (i, b) => clearHostByte (i + offset) b

/-- Two host devices whose config regions differ only in the six BAR registers. -/
def VfioDevice.agreeOutsideBars (a b : VfioDevice) : Prop :=
  a.readFails = b.readFails ∧ ∀ j, (j < bar0 ∨ bar5 + regSize ≤ j) → a.region j = b.region j

/-- What an accepted read returns from the host: byte `i` is the host's byte
`offset + i`, cleared as the loop clears it. -/
theorem readConfig_of_host (d : VfioPciDevice) (dev : VfioDevice) {offset : Nat} {data : List UInt8}
    (hacc : offset + data.length ≤ d.configSize) (hsize : data.length ≤ 4)
    (hhost : ¬(offset ≥ bar0 ∧ offset < bar5 + regSize)) (hok : dev.readFails offset data.length = false) :
    d.readConfig dev offset data =
      (List.range data.length).map fun i => clearHostByte (offset + i) (dev.region (offset + i)) := by
  simp only [VfioPciDevice.readConfig, VfioDevice.readRegion, hok]
  rw [if_neg (by omega), if_neg hhost]
  apply List.ext_getElem
  · simp
  · intro i h1 h2
    simp [Nat.add_comm]

/-- A read that starts below `BAR_0` and ends by it, or starts at or above it,
returns the same bytes from two hosts that differ only in the BARs. -/
theorem readConfig_agree_of_not_straddle (d : VfioPciDevice) {a b : VfioDevice}
    (hab : a.agreeOutsideBars b) (offset : Nat) (data : List UInt8)
    (h : offset + data.length ≤ bar0 ∨ bar0 ≤ offset) :
    d.readConfig a offset data = d.readConfig b offset data := by
  by_cases hacc : offset + data.length ≤ d.configSize ∧ data.length ≤ 4
  · by_cases hemu : offset ≥ bar0 ∧ offset < bar5 + regSize
    · simp only [VfioPciDevice.readConfig, hemu, and_self, ↓reduceIte]
    cases hok : a.readFails offset data.length
    · rw [readConfig_of_host d a hacc.1 hacc.2 hemu hok,
        readConfig_of_host d b hacc.1 hacc.2 hemu (hab.1 ▸ hok)]
      refine List.map_congr_left fun i hi => ?_
      rw [hab.2 _ (by simp only [List.mem_range] at hi; simp only [bar0, bar5, regSize] at *; omega)]
    · simp only [VfioPciDevice.readConfig, VfioDevice.readRegion, ← hab.1, hok, ↓reduceIte]
  · simp only [VfioPciDevice.readConfig]
    rw [if_pos (by omega), if_pos (by omega)]

/-- Every byte an accepted read returns at `0x3d` is `0`, and at `0x0e` has
bit 7 clear, unless the host read fails and the buffer is left as it was. -/
theorem readConfig_clears (d : VfioPciDevice) (dev : VfioDevice) {offset : Nat} {data : List UInt8}
    (hacc : offset + data.length ≤ d.configSize) (hsize : data.length ≤ 4)
    (hok : dev.readFails offset data.length = false) {i : Nat} (hi : i < data.length) :
    (offset + i = 0x3d → (d.readConfig dev offset data).getD i 0 = 0) ∧
    (offset + i = 0x0e → (d.readConfig dev offset data).getD i 0 &&& 0x80 = 0) := by
  by_cases hemu : offset ≥ bar0 ∧ offset < bar5 + regSize
  · simp only [bar0, bar5, regSize] at hemu
    exact ⟨fun h => by omega, fun h => by omega⟩
  rw [readConfig_of_host d dev hacc hsize hemu hok]
  simp only [List.getD_eq_getElem?_getD, List.getElem?_map, List.getElem?_range hi,
    Option.map_some', Option.getD_some, clearHostByte]
  refine ⟨fun h => ?_, fun h => ?_⟩
  · simp only [h, if_true]
    exact UInt8.eq_of_toBitVec_eq (BitVec.and_zero)
  · rw [if_neg (by omega), if_pos h]
    apply UInt8.eq_of_toBitVec_eq
    show (dev.region (offset + i)).toBitVec &&& 0x7f#8 &&& 0x80#8 = 0#8
    rw [BitVec.and_assoc]
    simp

/-- A device with 256 bytes of config space, read through two hosts: one
whose config region is all zero, and one whose BAR registers are all ones. -/
def probeDevice : VfioPciDevice := ⟨⟨fun _ => 0, 256, fun _ => 0, fun _ => 0, none⟩, 256⟩

def zeroHost : VfioDevice := ⟨fun _ => 0, fun _ _ => false⟩

def barHost : VfioDevice := ⟨fun j => if bar0 ≤ j ∧ j < bar5 + regSize then 0xff else 0, fun _ _ => false⟩

theorem zeroHost_agree_barHost : zeroHost.agreeOutsideBars barHost := by
  refine ⟨rfl, fun j hj => ?_⟩
  simp only [zeroHost, barHost]
  rw [if_neg (by omega)]

/-- A read of the four bytes just below `BAR_0` does not tell the two hosts apart. -/
theorem probe_below_bar0_agrees :
    probeDevice.readConfig zeroHost 0x0c [0, 0, 0, 0] = probeDevice.readConfig barHost 0x0c [0, 0, 0, 0] :=
  readConfig_agree_of_not_straddle probeDevice zeroHost_agree_barHost 0x0c [0, 0, 0, 0] (.inl (by decide))

/-- A 4-byte read at the header-type register `0x0e` starts outside the BARs,
so it goes to the host, and its last two bytes are the host's `BAR_0`. -/
theorem bar_bytes_reach_guest :
    zeroHost.agreeOutsideBars barHost ∧
    probeDevice.readConfig zeroHost 0x0e [0, 0, 0, 0] = [0, 0, 0, 0] ∧
    probeDevice.readConfig barHost 0x0e [0, 0, 0, 0] = [0, 0, 0xff, 0xff] :=
  ⟨zeroHost_agree_barHost, by decide, by decide⟩

/-! ## `write_config` -/

/-- A call `write_config` makes on the host, and whether it succeeded. -/
inductive HostCall where
  | writeRegion (ok : Bool)
  | updateBarMapping (ok : Bool)
  | setupBarsMmap (ok : Bool)
  | enableMsix (ok : Bool)
  | disableMsix (ok : Bool)
deriving DecidableEq, Repr

/-- How each host call of one `write_config` ends. -/
structure WriteOutcomes where
  writeRegion : Bool
  updateBarMapping : Bool
  setupBarsMmap : Bool
  enableMsix : Bool
  disableMsix : Bool

/-- `LittleEndian::read_u32(data)` of a 4-byte buffer. -/
def leU32 (data : List UInt8) : UInt32 :=
  (data.getD 0 0).toUInt32 ||| (data.getD 1 0).toUInt32 <<< 8 |||
    (data.getD 2 0).toUInt32 <<< 16 ||| (data.getD 3 0).toUInt32 <<< 24

/-- The host call an Enable transition of the MSI-X branch makes. -/
def msixCalls (host : WriteOutcomes) (wasEnable isEnable : Bool) : List HostCall :=
  if !wasEnable && isEnable then [.enableMsix host.enableMsix]
  else if wasEnable && !isEnable then [.disableMsix host.disableMsix]
  else []

/-- `write_config(offset, data)`: the device after the call and the host calls
made, or a panic of an `unwrap`. -/
def VfioPciDevice.writeConfig (d : VfioPciDevice) (host : WriteOutcomes) (offset : Nat)
    (data : List UInt8) : Except String (VfioPciDevice × List HostCall) :=
  let size := data.length
  let end_ := offset + size
  if end_ > d.configSize ∨ size > 4 then .ok (d, [])
  else if !host.writeRegion then .ok (d, [.writeRegion false])
  else
    let capOffset := d.pciConfig.msixCapOffset.getD 0
    let c := d.pciConfig.write offset data
    let d' := { d with pciConfig := c }
    if rangesOverlap offset end_ command (command + 4) then
      match c.leReadU32 offset with
      | none => .error "panic: le_read_u32 past the config space"
      | some v =>
          if v &&& commandMemorySpace.toUInt32 != 0 then
            if host.updateBarMapping then
              .ok (d', [.writeRegion true, .updateBarMapping true, .setupBarsMmap host.setupBarsMmap])
            else .ok (d', [.writeRegion true, .updateBarMapping false])
          else .ok (d', [.writeRegion true])
    else if rangesOverlap offset end_ bar0 (bar5 + regSize) then
      if size = 4 ∧ leU32 data ≠ 0xffffffff then
        .ok (d', [.writeRegion true, .updateBarMapping host.updateBarMapping])
      else .ok (d', [.writeRegion true])
    else if rangesOverlap offset end_ capOffset (capOffset + msixCapSize) then
      match d.pciConfig.isMsixEnabled capOffset, c.isMsixEnabled capOffset with
      | some wasEnable, some isEnable => .ok (d', .writeRegion true :: msixCalls host wasEnable isEnable)
      | _, _ => .error "panic: is_msix_enabled past the config space"
    else .ok (d', [.writeRegion true])

/-- Whether MSI-X is enabled on the host after `calls`, from `enabled`: a
successful enable or disable sets it, a failed one leaves it. -/
def msixAfter (enabled : Bool) : List HostCall → Bool
  | [] => enabled
  | .enableMsix true :: calls => msixAfter true calls
  | .disableMsix true :: calls => msixAfter false calls
  | _ :: calls => msixAfter enabled calls

/-- The MSI-X Enable bit of the emulated config at the MSI-X capability. -/
def VfioPciDevice.msixEnableBit (d : VfioPciDevice) : Bool :=
  match d.pciConfig.msixCapOffset with
  | some cap => (d.pciConfig.isMsixEnabled cap).getD false
  | none => false

/-- A device whose MSI-X capability lies in the capability area — at or after
`0x40`, where PCI places capabilities — and within the config buffer. -/
structure MsixDevice where
  dev : VfioPciDevice
  cap : Nat
  cap_eq : dev.pciConfig.msixCapOffset = some cap
  cap_ge : 0x40 ≤ cap
  cap_end : cap + msixCapSize ≤ dev.pciConfig.len

theorem MsixDevice.isMsixEnabled_eq (m : MsixDevice) :
    m.dev.pciConfig.isMsixEnabled m.cap = some m.dev.msixEnableBit := by
  have := m.cap_end
  simp only [VfioPciDevice.msixEnableBit, m.cap_eq, PciConfig.isMsixEnabled, PciConfig.leReadU16,
    msixCapControl, msixCapSize] at this ⊢
  rw [if_pos (by omega)]
  rfl

/-- Storing a write keeps the capability in place. -/
def MsixDevice.write (m : MsixDevice) (offset : Nat) (data : List UInt8) : MsixDevice :=
  ⟨{ m.dev with pciConfig := m.dev.pciConfig.write offset data }, m.cap, m.cap_eq, m.cap_ge, m.cap_end⟩

/-- What one `write_config` can do to a device with its MSI-X capability in
place: nothing (the access is rejected, or the host write fails), or store
the write and then either stay clear of the capability and call neither
enable nor disable, or make the call the Enable transition asks for. -/
theorem writeConfig_cases (m : MsixDevice) (host : WriteOutcomes) (offset : Nat) (data : List UInt8) :
    ∃ d calls, m.dev.writeConfig host offset data = .ok (d, calls) ∧
      (d = m.dev ∧ (calls = [] ∨ calls = [.writeRegion false]) ∨
        d = (m.write offset data).dev ∧ ∃ rest, calls = .writeRegion true :: rest ∧
          ((offset + data.length ≤ m.cap ∨ m.cap + msixCapSize ≤ offset) ∧
              (∀ ok, .enableMsix ok ∉ rest ∧ .disableMsix ok ∉ rest) ∨
            rest = msixCalls host m.dev.msixEnableBit (m.write offset data).dev.msixEnableBit)) := by
  have h40 := m.cap_ge
  have hend := m.cap_end
  simp only [msixCapSize] at hend
  unfold VfioPciDevice.writeConfig
  by_cases hacc : offset + data.length > m.dev.configSize ∨ data.length > 4
  · rw [if_pos hacc]; exact ⟨_, _, rfl, .inl ⟨rfl, .inl rfl⟩⟩
  rw [if_neg hacc]
  by_cases hw : host.writeRegion = false
  · rw [if_pos (by simp [hw])]; exact ⟨_, _, rfl, .inl ⟨rfl, .inr rfl⟩⟩
  rw [if_neg (by simpa using hw)]
  simp only [m.cap_eq, Option.getD_some]
  split
  · rename_i hov
    simp only [rangesOverlap, command, Bool.not_eq_true', Bool.or_eq_false_iff,
      decide_eq_false_iff_not] at hov
    rw [PciConfig.leReadU32, if_pos (by simp only [PciConfig.write_len]; omega)]
    dsimp only
    split
    · split <;> exact ⟨_, _, rfl, .inr ⟨rfl, _, rfl, .inl ⟨by omega, by simp⟩⟩⟩
    · exact ⟨_, _, rfl, .inr ⟨rfl, _, rfl, .inl ⟨by omega, by simp⟩⟩⟩
  split
  · rename_i hov
    simp only [rangesOverlap, bar0, bar5, regSize, Bool.not_eq_true', Bool.or_eq_false_iff,
      decide_eq_false_iff_not] at hov
    split <;> exact ⟨_, _, rfl, .inr ⟨rfl, _, rfl, .inl ⟨by omega, by simp⟩⟩⟩
  split
  · rw [m.isMsixEnabled_eq, show (m.dev.pciConfig.write offset data).isMsixEnabled m.cap = _ from
      (m.write offset data).isMsixEnabled_eq]
    exact ⟨_, _, rfl, .inr ⟨rfl, _, rfl, .inr rfl⟩⟩
  · rename_i hov
    simp only [rangesOverlap, Bool.not_eq_true', Bool.not_eq_false', Bool.or_eq_false_iff,
      decide_eq_false_iff_not, not_le] at hov
    exact ⟨_, _, rfl, .inr ⟨rfl, _, rfl, .inl ⟨by omega, by simp⟩⟩⟩

/-- A write that stays clear of the capability keeps the Enable bit. -/
theorem MsixDevice.msixEnableBit_write (m : MsixDevice) {offset : Nat} {data : List UInt8}
    (h : offset + data.length ≤ m.cap ∨ m.cap + msixCapSize ≤ offset) :
    (m.write offset data).dev.msixEnableBit = m.dev.msixEnableBit := by
  simp only [msixCapSize] at h
  have hc : (m.write offset data).dev.pciConfig.isMsixEnabled m.cap =
      m.dev.pciConfig.isMsixEnabled m.cap :=
    PciConfig.isMsixEnabled_congr _ rfl (PciConfig.write_apply_of_not_mem _ _ _ (by simp [msixCapControl]; omega))
      (PciConfig.write_apply_of_not_mem _ _ _ (by simp [msixCapControl]; omega))
  have hw : (m.write offset data).dev.pciConfig.isMsixEnabled m.cap = some _ :=
    (m.write offset data).isMsixEnabled_eq
  rw [hw, m.isMsixEnabled_eq] at hc
  exact Option.some.inj hc

/-- Calls that neither enable nor disable MSI-X leave the host as it was. -/
theorem msixAfter_of_forall (enabled : Bool) :
    ∀ calls : List HostCall, (∀ ok, .enableMsix ok ∉ calls ∧ .disableMsix ok ∉ calls) →
      msixAfter enabled calls = enabled
  | [], _ => rfl
  | c :: calls, h => by
      have ih := msixAfter_of_forall enabled calls fun ok => ⟨fun m => (h ok).1 (.tail _ m),
        fun m => (h ok).2 (.tail _ m)⟩
      cases c with
      | enableMsix ok => exact absurd (.head _) (h ok).1
      | disableMsix ok => exact absurd (.head _) (h ok).2
      | writeRegion | updateBarMapping | setupBarsMmap => exact ih

/-- One `write_config` on a device with its MSI-X capability in place: it
does not panic and keeps the capability in place; it calls
`vfio_enable_msix` exactly when it turns the Enable bit from clear to set,
and `vfio_disable_msix` exactly when it turns it from set to clear, each
ending as the host makes it end; and when the call it makes succeeds, the
host's MSI-X state after the call is the Enable bit. -/
theorem writeConfig_msix (m : MsixDevice) (host : WriteOutcomes) (offset : Nat) (data : List UInt8) :
    ∃ m' : MsixDevice, ∃ calls, m.dev.writeConfig host offset data = .ok (m'.dev, calls) ∧
      m'.cap = m.cap ∧
      ((∃ ok, .enableMsix ok ∈ calls) ↔ m.dev.msixEnableBit = false ∧ m'.dev.msixEnableBit = true) ∧
      ((∃ ok, .disableMsix ok ∈ calls) ↔ m.dev.msixEnableBit = true ∧ m'.dev.msixEnableBit = false) ∧
      (∀ ok, (.enableMsix ok ∈ calls → ok = host.enableMsix) ∧
        (.disableMsix ok ∈ calls → ok = host.disableMsix)) ∧
      (.enableMsix false ∉ calls → .disableMsix false ∉ calls →
        m'.dev.msixEnableBit = msixAfter m.dev.msixEnableBit calls) := by
  obtain ⟨d, calls, h, ⟨rfl, rfl | rfl⟩ | ⟨rfl, rest, rfl, ⟨hdisj, hno⟩ | rfl⟩⟩ :=
    writeConfig_cases m host offset data
  · exact ⟨m, [], h, rfl, by simp, by simp, by simp, fun _ _ => rfl⟩
  · exact ⟨m, _, h, rfl, by simp, by simp, by simp, fun _ _ => rfl⟩
  · have hbit := m.msixEnableBit_write hdisj
    refine ⟨m.write offset data, _, h, rfl, ?_, ?_, fun ok => ?_, fun _ _ => ?_⟩
    · simp [hbit, (hno _).1]
    · simp [hbit, (hno _).2]
    · simp [(hno ok).1, (hno ok).2]
    · simp only [msixAfter, msixAfter_of_forall _ rest hno, hbit]
  · refine ⟨m.write offset data, _, h, rfl, ?_⟩
    generalize m.dev.msixEnableBit = was
    generalize (m.write offset data).dev.msixEnableBit = is
    cases was <;> cases is <;> simp [msixCalls, msixAfter] <;> intro hok <;> simp [hok, msixAfter]

/-! ## Runs of writes -/

/-- A guest config write, and how the host calls it triggers end. -/
structure ConfigWrite where
  host : WriteOutcomes
  offset : Nat
  data : List UInt8

/-- The device and whether MSI-X is enabled on the host device. -/
structure VfioSystem where
  dev : VfioPciDevice
  hostMsix : Bool

/-- One guest write; a panic leaves the system as it was. -/
def VfioSystem.step (s : VfioSystem) (w : ConfigWrite) : VfioSystem :=
  match s.dev.writeConfig w.host w.offset w.data with
  | .ok (d, calls) => ⟨d, msixAfter s.hostMsix calls⟩
  | .error _ => s

/-- When every enable and disable the host is asked for succeeds, the host's
MSI-X state follows the Enable bit along the whole run. -/
theorem msix_run_agrees (writes : List ConfigWrite)
    (hok : ∀ w ∈ writes, w.host.enableMsix = true ∧ w.host.disableMsix = true) :
    ∀ m : MsixDevice, (writes.foldl VfioSystem.step ⟨m.dev, m.dev.msixEnableBit⟩).dev.msixEnableBit =
      (writes.foldl VfioSystem.step ⟨m.dev, m.dev.msixEnableBit⟩).hostMsix := by
  induction writes with
  | nil => intro m; rfl
  | cons w writes ih =>
      intro m
      obtain ⟨m', calls, h, -, -, -, hhost, hagree⟩ := writeConfig_msix m w.host w.offset w.data
      have hw := hok w (.head _)
      have hstep : VfioSystem.step ⟨m.dev, m.dev.msixEnableBit⟩ w = ⟨m'.dev, m'.dev.msixEnableBit⟩ := by
        rw [VfioSystem.step, h, hagree (fun hm => by simpa [hw.1] using (hhost false).1 hm)
          (fun hm => by simpa [hw.2] using (hhost false).2 hm)]
      rw [List.foldl_cons, hstep]
      exact ih (fun w' hw' => hok w' (.tail _ hw')) m'

/-- A device with 256 bytes of config space and its MSI-X capability at
`0x40`, whose Enable and Function Mask bits the guest may write. -/
def msixDevice : VfioPciDevice :=
  ⟨⟨fun _ => 0, 256, fun j => if j = 0x43 then 0xc0 else 0, fun _ => 0, some 0x40⟩, 256⟩

def failingEnable : WriteOutcomes := ⟨true, true, true, false, true⟩

def hostOk : WriteOutcomes := ⟨true, true, true, true, true⟩

/-- `msixDevice` with its capability in place at `0x40`. -/
def msixAt40 : MsixDevice := ⟨msixDevice, 0x40, rfl, by decide, by decide⟩

/-- The guest sets Enable, then clears it, on a host that grants both calls. -/
def enableThenDisable : List ConfigWrite := [⟨hostOk, 0x43, [0x80]⟩, ⟨hostOk, 0x43, [0]⟩]

/-- Every `write_config` on a device with its MSI-X capability in place calls
`vfio_enable_msix` exactly on a clear-to-set transition of the emulated
Enable bit and `vfio_disable_msix` exactly on a set-to-clear one, and keeps
the host's MSI-X state equal to the bit when the call it makes succeeds; so
along a run in which every such call succeeds, the two agree after every
write.  A failed call leaves the bit as written. -/
theorem msix_agreement (m : MsixDevice) (host : WriteOutcomes) (offset : Nat) (data : List UInt8)
    (writes : List ConfigWrite) :
    (∃ m' : MsixDevice, ∃ calls, m.dev.writeConfig host offset data = .ok (m'.dev, calls) ∧
      ((∃ ok, .enableMsix ok ∈ calls) ↔ m.dev.msixEnableBit = false ∧ m'.dev.msixEnableBit = true) ∧
      ((∃ ok, .disableMsix ok ∈ calls) ↔ m.dev.msixEnableBit = true ∧ m'.dev.msixEnableBit = false) ∧
      (.enableMsix false ∉ calls → .disableMsix false ∉ calls →
        m'.dev.msixEnableBit = msixAfter m.dev.msixEnableBit calls)) ∧
    ((∀ w ∈ writes, w.host.enableMsix = true ∧ w.host.disableMsix = true) →
      (writes.foldl VfioSystem.step ⟨m.dev, m.dev.msixEnableBit⟩).dev.msixEnableBit =
        (writes.foldl VfioSystem.step ⟨m.dev, m.dev.msixEnableBit⟩).hostMsix) := by
  obtain ⟨m', calls, h, -, henable, hdisable, -, hagree⟩ := writeConfig_msix m host offset data
  exact ⟨⟨m', calls, h, henable, hdisable, hagree⟩, fun hok => msix_run_agrees writes hok m⟩

theorem enable_then_disable_agrees :
    (∀ w ∈ enableThenDisable, w.host.enableMsix = true ∧ w.host.disableMsix = true) ∧
      (enableThenDisable.foldl VfioSystem.step ⟨msixAt40.dev, msixAt40.dev.msixEnableBit⟩).dev.msixEnableBit =
        (enableThenDisable.foldl VfioSystem.step ⟨msixAt40.dev, msixAt40.dev.msixEnableBit⟩).hostMsix :=
  ⟨by decide, (msix_agreement msixAt40 hostOk 0x43 [0x80] enableThenDisable).2 (by decide)⟩

/-- The guest sets Enable and `vfio_enable_msix` fails: the emulated bit stays
set while the host has MSI-X disabled.  Clearing the bit next calls
`vfio_disable_msix` on the disabled host. -/
theorem enable_failure_kept :
    let s := VfioSystem.step ⟨msixDevice, false⟩ ⟨failingEnable, 0x43, [0x80]⟩
    (msixDevice.writeConfig failingEnable 0x43 [0x80]).toOption.map (·.2) =
      some [.writeRegion true, .enableMsix false] ∧
    s.dev.msixEnableBit = true ∧ s.hostMsix = false ∧
    (s.dev.writeConfig hostOk 0x43 [0]).toOption.map (·.2) = some [.writeRegion true, .disableMsix true] := by
  decide

/-! ## Every write returns -/

/-- `is_msix_enabled` reads the Message Control word: it returns when that
word lies in the buffer. -/
theorem isMsixEnabled_isSome (c : PciConfig) {offset : Nat} (h : offset + msixCapSize ≤ c.len) :
    ∃ b, c.isMsixEnabled offset = some b := by
  simp only [msixCapSize] at h
  simp only [PciConfig.isMsixEnabled, PciConfig.leReadU16, msixCapControl]
  rw [if_pos (by omega)]
  exact ⟨_, rfl⟩

/-- **`write_config` never panics.**  On a device whose buffer holds the
header up to `BAR_0` and the MSI-X capability at `cap_offset` (0 when there
is none), every call returns, whatever the offset, the data and the host's
answers: its `le_read_u32` and `is_msix_enabled` unwraps all succeed.  The
write is stored when the access is accepted and the host write succeeds, and
whatever later host call fails, nothing rolls it back; otherwise the device
is as it was. -/
theorem writeConfig_never_panics (d : VfioPciDevice) (host : WriteOutcomes) (offset : Nat)
    (data : List UInt8) (hhdr : bar0 ≤ d.pciConfig.len)
    (hcap : d.pciConfig.msixCapOffset.getD 0 + msixCapSize ≤ d.pciConfig.len) :
    ∃ calls, d.writeConfig host offset data =
      .ok (if offset + data.length ≤ d.configSize ∧ data.length ≤ 4 ∧ host.writeRegion = true then
          { d with pciConfig := d.pciConfig.write offset data } else d, calls) := by
  unfold VfioPciDevice.writeConfig
  by_cases hacc : offset + data.length > d.configSize ∨ data.length > 4
  · rw [if_pos hacc, if_neg (show ¬(offset + data.length ≤ d.configSize ∧ data.length ≤ 4 ∧ _) by omega)]
    exact ⟨_, rfl⟩
  rw [if_neg hacc]
  cases hw : host.writeRegion
  · rw [if_pos (show (!false) = true from rfl),
      if_neg (show ¬(offset + data.length ≤ d.configSize ∧ data.length ≤ 4 ∧ false = true) by simp)]
    exact ⟨_, rfl⟩
  rw [if_neg (show ¬(!true) = true from nofun),
    if_pos (show offset + data.length ≤ d.configSize ∧ data.length ≤ 4 ∧ true = true from ⟨by omega, by omega, rfl⟩)]
  dsimp only
  split
  · rename_i hov
    simp only [rangesOverlap, command, Bool.not_eq_true', Bool.or_eq_false_iff, decide_eq_false_iff_not] at hov
    simp only [bar0] at hhdr
    rw [PciConfig.leReadU32, if_pos (by simp only [PciConfig.write_len]; omega)]
    dsimp only
    split
    · split <;> exact ⟨_, rfl⟩
    · exact ⟨_, rfl⟩
  split
  · split <;> exact ⟨_, rfl⟩
  split
  · obtain ⟨b, hb⟩ := isMsixEnabled_isSome d.pciConfig hcap
    obtain ⟨b', hb'⟩ := isMsixEnabled_isSome (d.pciConfig.write offset data) hcap
    rw [hb, hb']
    exact ⟨_, rfl⟩
  · exact ⟨_, rfl⟩

theorem msix_device_write_returns :
    bar0 ≤ msixDevice.pciConfig.len ∧
      msixDevice.pciConfig.msixCapOffset.getD 0 + msixCapSize ≤ msixDevice.pciConfig.len ∧
      ∃ calls, msixDevice.writeConfig failingEnable 0x43 [0x80] =
        .ok (if 0x43 + [(0x80 : UInt8)].length ≤ msixDevice.configSize ∧ [(0x80 : UInt8)].length ≤ 4 ∧
            failingEnable.writeRegion = true then
          { msixDevice with pciConfig := msixDevice.pciConfig.write 0x43 [0x80] } else msixDevice, calls) :=
  ⟨by decide, by decide, writeConfig_never_panics msixDevice failingEnable 0x43 [0x80] (by decide) (by decide)⟩

/-! ## The COMMAND branch

`write_config` decides whether to remap from `le_read_u32(config, offset)`,
the dword at the write's own offset, not at `COMMAND`: its bit 1 is MSE only
for a write that starts at `COMMAND`. -/

/-- A device with 256 bytes of config space, none of it guest-writable, whose
STATUS register reports medium DEVSEL timing (bit 9, bit 1 of byte `0x07`) and
whose COMMAND register has MSE clear. -/
def devselDevice : VfioPciDevice :=
  ⟨⟨fun j => if j = 0x07 then 0x02 else 0, 256, fun _ => 0, fun _ => 0, none⟩, 256⟩

/-- The same device with MSE set in COMMAND and STATUS clear. -/
def mseDevice : VfioPciDevice :=
  ⟨⟨fun j => if j = 0x04 then 0x02 else 0, 256, fun _ => 0, fun _ => 0, none⟩, 256⟩

/-- A one-byte write to the read-only STATUS byte `0x07` remaps the BARs
while MSE stays clear; a one-byte write to STATUS byte `0x06` does not remap
while MSE is set. -/
theorem status_byte_decides_remap :
    (devselDevice.writeConfig hostOk 0x07 [0]).toOption.map
        (fun r => (r.2, (r.1.pciConfig.leReadU16 command).map (· &&& commandMemorySpace))) =
      some ([.writeRegion true, .updateBarMapping true, .setupBarsMmap true], some 0) ∧
    (mseDevice.writeConfig hostOk 0x06 [0]).toOption.map
        (fun r => (r.2, (r.1.pciConfig.leReadU16 command).map (· &&& commandMemorySpace))) =
      some ([.writeRegion true], some commandMemorySpace) := by
  decide

end StratoVirt.Vfio
