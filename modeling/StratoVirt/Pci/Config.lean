/-
# `StratoVirt.Pci.Config` — the emulated PCI configuration space

Modelled from the spec (§4.6, "PCI configuration emulation"): the `pci`
crate is not among the sources.  `vfio_pci.rs` uses its byte buffer with the
write mask and write-clear mask, the little-endian register reads, the
offset of the MSI-X capability, `ranges_overlap` and `is_msix_enabled`; this
module gives exactly those.  The register offsets and bits are the PCI Local
Bus Specification 3.0's.

The buffer is `config : Nat → UInt8` with its length `len`: after
`get_pci_config` it is the host's config region, `config_size` bytes long.
A register read past `len` fails, as `le_read_u16` and `le_read_u32` do.

`write(offset, data)` is the spec's rule, byte by byte:
`new = (old & !write_mask) | (incoming & write_mask)`, then
`new &= !(incoming & write_clear_mask)`.  It moves only the bytes it is
given (`write_apply_of_not_mem`).
-/
import Mathlib.Tactic.Ring

namespace StratoVirt.Pci

/-! ## Registers (PCI 3.0) -/

def command : Nat := 0x04
def bar0 : Nat := 0x10
def bar5 : Nat := 0x24
def regSize : Nat := 4
def commandIoSpace : UInt16 := 0x0001
def commandMemorySpace : UInt16 := 0x0002
def commandBusMaster : UInt16 := 0x0004
def commandInterruptDisable : UInt16 := 0x0400
def barIoSpace : UInt8 := 0x01
def barMem64Bit : UInt8 := 0x04
def ioBaseAddrMask : UInt32 := 0xfffffffc
def memBaseAddrMask : UInt64 := 0xfffffffffffffff0
def msixCapControl : Nat := 0x02
def msixCapEnable : UInt16 := 0x8000
def msixCapSize : Nat := 12
def msixCapTable : Nat := 0x04
def msixTableOffset : UInt32 := 0xfffffff8
def msixTableBir : UInt16 := 0x07
def msixTableSizeMax : UInt16 := 0x07ff
def msixTableEntrySize : UInt16 := 16

/-- `ranges_overlap(start, end, range_start, range_end)`: the half-open ranges
meet, `!(start >= range_end || range_start >= end)`. -/
def rangesOverlap (start end_ rangeStart rangeEnd : Nat) : Bool :=
  !(start ≥ rangeEnd || rangeStart ≥ end_)

/-! ## Registers byte by byte

`le_read_u16`/`le_read_u32` assemble little-endian bytes and
`le_write_u16`/`le_write_u32` take them apart.  The `UInt8`, `UInt16` and
`UInt32` operations are those of `BitVec` on `toBitVec`, where the `getLsbD`
lemmas compute. -/

@[simp] theorem u8_toBitVec_toUInt16 (a : UInt8) : a.toUInt16.toBitVec = a.toBitVec.setWidth 16 := by
  apply BitVec.eq_of_toNat_eq
  simp only [UInt8.toUInt16, BitVec.toNat_setWidth]
  exact (Nat.mod_eq_of_lt (Nat.lt_trans a.toBitVec.isLt (by decide))).symm
@[simp] theorem u8_toBitVec_toUInt32 (a : UInt8) : a.toUInt32.toBitVec = a.toBitVec.setWidth 32 := by
  apply BitVec.eq_of_toNat_eq
  simp only [UInt8.toUInt32, BitVec.toNat_setWidth]
  exact (Nat.mod_eq_of_lt (Nat.lt_trans a.toBitVec.isLt (by decide))).symm
@[simp] theorem u16_toBitVec_toUInt8 (a : UInt16) : a.toUInt8.toBitVec = a.toBitVec.setWidth 8 := by
  apply BitVec.eq_of_toNat_eq
  simp [UInt16.toUInt8, Nat.toUInt8, UInt8.ofNat, UInt16.toNat]
@[simp] theorem u32_toBitVec_toUInt8 (a : UInt32) : a.toUInt8.toBitVec = a.toBitVec.setWidth 8 := by
  apply BitVec.eq_of_toNat_eq
  simp [UInt32.toUInt8, Nat.toUInt8, UInt8.ofNat, UInt32.toNat]
@[simp] theorem u16_toBitVec_or (a b : UInt16) : (a ||| b).toBitVec = a.toBitVec ||| b.toBitVec := rfl
@[simp] theorem u32_toBitVec_or (a b : UInt32) : (a ||| b).toBitVec = a.toBitVec ||| b.toBitVec := rfl
@[simp] theorem u32_toBitVec_and (a b : UInt32) : (a &&& b).toBitVec = a.toBitVec &&& b.toBitVec := rfl
@[simp] theorem u8_toBitVec_and (a b : UInt8) : (a &&& b).toBitVec = a.toBitVec &&& b.toBitVec := rfl
@[simp] theorem u16_toBitVec_shiftLeft_8 (a : UInt16) : (a <<< 8).toBitVec = a.toBitVec <<< 8 := rfl
@[simp] theorem u16_toBitVec_shiftRight_8 (a : UInt16) : (a >>> 8).toBitVec = a.toBitVec >>> 8 := rfl
@[simp] theorem u32_toBitVec_shiftLeft_8 (a : UInt32) : (a <<< 8).toBitVec = a.toBitVec <<< 8 := rfl
@[simp] theorem u32_toBitVec_shiftLeft_16 (a : UInt32) : (a <<< 16).toBitVec = a.toBitVec <<< 16 := rfl
@[simp] theorem u32_toBitVec_shiftLeft_24 (a : UInt32) : (a <<< 24).toBitVec = a.toBitVec <<< 24 := rfl
@[simp] theorem u32_toBitVec_shiftRight_8 (a : UInt32) : (a >>> 8).toBitVec = a.toBitVec >>> 8 := rfl
@[simp] theorem u32_toBitVec_shiftRight_16 (a : UInt32) : (a >>> 16).toBitVec = a.toBitVec >>> 16 := rfl
@[simp] theorem u32_toBitVec_shiftRight_24 (a : UInt32) : (a >>> 24).toBitVec = a.toBitVec >>> 24 := rfl

/-- Masking a little-endian dword with a byte-wide mask keeps only its low
byte, masked. -/
theorem leU32_and_byte (b0 b1 b2 b3 m : UInt8) :
    (b0.toUInt32 ||| b1.toUInt32 <<< 8 ||| b2.toUInt32 <<< 16 ||| b3.toUInt32 <<< 24) &&& m.toUInt32 =
      (b0 &&& m).toUInt32 := by
  apply UInt32.eq_of_toBitVec_eq
  apply BitVec.eq_of_getLsbD_eq
  intro ⟨i, hi⟩
  by_cases h8 : i < 8
  · simp (disch := omega) [h8, show i < 16 by omega, show i < 24 by omega, BitVec.getLsbD_ge]
  · simp (disch := omega) [h8, BitVec.getLsbD_ge]

/-- A byte widened to a dword is that byte followed by three zero bytes. -/
theorem toUInt32_bytes (x : UInt8) :
    x.toUInt32.toUInt8 = x ∧ (x.toUInt32 >>> 8).toUInt8 = 0 ∧ (x.toUInt32 >>> 16).toUInt8 = 0 ∧
      (x.toUInt32 >>> 24).toUInt8 = 0 := by
  refine ⟨?_, ?_, ?_, ?_⟩ <;> apply UInt8.eq_of_toBitVec_eq <;> apply BitVec.eq_of_getLsbD_eq <;>
    intro ⟨i, hi⟩ <;> simp (disch := omega) [hi, BitVec.getLsbD_ge]

/-- The two bytes of a word reassemble to it. -/
theorem leU16_bytes (v : UInt16) : v.toUInt8.toUInt16 ||| (v >>> 8).toUInt8.toUInt16 <<< 8 = v := by
  apply UInt16.eq_of_toBitVec_eq
  apply BitVec.eq_of_getLsbD_eq
  intro ⟨i, hi⟩
  by_cases h8 : i < 8
  · simp (disch := omega) [h8, hi, BitVec.getLsbD_ge]
  · simp (disch := omega) [h8, hi, show i - 8 < 8 by omega, show i - 8 < 16 by omega, BitVec.getLsbD_ge,
      show i - 8 + 8 = i by omega]

theorem toUInt32_eq_zero (x : UInt8) : x.toUInt32 = 0 ↔ x = 0 := by
  constructor
  · intro h; simpa [(toUInt32_bytes x).1] using congrArg UInt32.toUInt8 h
  · rintro rfl; rfl

/-! ## The buffer -/

structure PciConfig where
  config : Nat → UInt8
  len : Nat
  writeMask : Nat → UInt8
  writeClearMask : Nat → UInt8
  /-- `msix.msix_cap_offset`, when the device has MSI-X. -/
  msixCapOffset : Option Nat

namespace PciConfig

variable (c : PciConfig)

/-- One byte of `write`. -/
def writeByte (old incoming writeMask writeClearMask : UInt8) : UInt8 :=
  ((old &&& ~~~writeMask) ||| (incoming &&& writeMask)) &&& ~~~(incoming &&& writeClearMask)

/-- `PciConfig::write`; the caller keeps `offset + data.len()` within `len`. -/
def write (offset : Nat) (data : List UInt8) : PciConfig :=
  { c with config := fun j =>
      if offset ≤ j ∧ j < offset + data.length then
        writeByte (c.config j) (data.getD (j - offset) 0) (c.writeMask j) (c.writeClearMask j)
      else c.config j }

/-- `PciConfig::read`: the `size` bytes at `offset`. -/
def read (offset size : Nat) : List UInt8 := (List.range size).map fun i => c.config (offset + i)

/-- `le_read_u16(&config, offset)`. -/
def leReadU16 (offset : Nat) : Option UInt16 :=
  if offset + 2 ≤ c.len then
    some ((c.config offset).toUInt16 ||| (c.config (offset + 1)).toUInt16 <<< 8)
  else none

/-- `le_read_u32(&config, offset)`. -/
def leReadU32 (offset : Nat) : Option UInt32 :=
  if offset + 4 ≤ c.len then
    some ((c.config offset).toUInt32 ||| (c.config (offset + 1)).toUInt32 <<< 8 |||
      (c.config (offset + 2)).toUInt32 <<< 16 ||| (c.config (offset + 3)).toUInt32 <<< 24)
  else none

/-- The buffer with `bytes` stored from `offset` on. -/
def setBytes (offset : Nat) (bytes : List UInt8) : PciConfig :=
  { c with config := fun j =>
      if offset ≤ j ∧ j < offset + bytes.length then bytes.getD (j - offset) 0 else c.config j }

/-- `le_write_u16(&mut config, offset, v)`. -/
def leWriteU16 (offset : Nat) (v : UInt16) : Option PciConfig :=
  if offset + 2 ≤ c.len then some (c.setBytes offset [v.toUInt8, (v >>> 8).toUInt8]) else none

/-- `le_write_u32(&mut config, offset, v)`. -/
def leWriteU32 (offset : Nat) (v : UInt32) : Option PciConfig :=
  if offset + 4 ≤ c.len then
    some (c.setBytes offset [v.toUInt8, (v >>> 8).toUInt8, (v >>> 16).toUInt8, (v >>> 24).toUInt8])
  else none

/-- `is_msix_enabled(offset, &config)`; `none` is the panic of its `unwrap`. -/
def isMsixEnabled (offset : Nat) : Option Bool :=
  (c.leReadU16 (offset + msixCapControl)).map fun ctl => ctl &&& msixCapEnable != 0

@[simp] theorem write_len (offset : Nat) (data : List UInt8) : (c.write offset data).len = c.len :=
  rfl
@[simp] theorem write_writeMask (offset : Nat) (data : List UInt8) :
    (c.write offset data).writeMask = c.writeMask := rfl
@[simp] theorem write_writeClearMask (offset : Nat) (data : List UInt8) :
    (c.write offset data).writeClearMask = c.writeClearMask := rfl
@[simp] theorem write_msixCapOffset (offset : Nat) (data : List UInt8) :
    (c.write offset data).msixCapOffset = c.msixCapOffset := rfl

/-- A write moves only the bytes it covers. -/
theorem write_apply_of_not_mem (offset : Nat) (data : List UInt8) {j : Nat}
    (h : j < offset ∨ offset + data.length ≤ j) : (c.write offset data).config j = c.config j := by
  simp only [write]
  rw [if_neg (by omega)]

/-- The MSI-X Enable bit depends only on the byte `offset + 3`. -/
theorem isMsixEnabled_congr {c' : PciConfig} {offset : Nat} (hlen : c'.len = c.len)
    (h2 : c'.config (offset + msixCapControl) = c.config (offset + msixCapControl))
    (h3 : c'.config (offset + msixCapControl + 1) = c.config (offset + msixCapControl + 1)) :
    c'.isMsixEnabled offset = c.isMsixEnabled offset := by
  simp only [isMsixEnabled, leReadU16, hlen, h2, h3]

end PciConfig

end StratoVirt.Pci
