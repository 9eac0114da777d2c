/-
# `StratoVirt.Vfio.Msix` — the MSI-X table and the mmap list of its BAR

`vfio/src/vfio_pci.rs`, lines 157–192 and 232–277.  `get_msix_info` reads the
table's BAR, offset and entry count from the MSI-X capability;
`fixup_msix_region` then takes the table's pages out of the one mmap entry
of that BAR, so that the guest maps the rest of the BAR and every access to
the table traps.

The table's start and end are aligned to the host page size `p` with the
`i64` trick `x & (0 - p)`; on two's-complement words this is the `u64`
`x &&& (0 - p)` (`tableStart`, `tableEnd`), which for `p = 2^k` rounds down
to a multiple of `p` (`and_zero_sub_toNat`).  The region keeps only the
fields the function reads and writes: its size and mmap list.

**Proved here.**

    get_msix_info gives an offset below 2³² and 16·e bytes, 1 ≤ e ≤ 2048      (`getMsixInfo_table`)
    start and end are the table's bounds rounded to pages                  (`tableStart_toNat`, `tableEnd_toNat`)
    when start ≤ size, the entries cover exactly [0, size) minus
    [start, end), in at most two ascending, non-empty, disjoint entries     (`fixupRegion_carves`)
    a table whose page starts past the BAR is mapped past the BAR           (`table_past_bar_mapped`)
-/
import Mathlib.Data.UInt
import StratoVirt.Pci.Config

namespace StratoVirt.Vfio

open StratoVirt.Pci

/-- `MsixTable`. -/
structure MsixTable where
  tableBar : UInt8
  tableOffset : UInt64
  tableSize : UInt64
deriving DecidableEq, Repr

/-- `VfioMsixInfo`; `vfio_irq` is not read by the functions modelled. -/
structure VfioMsixInfo where
  table : MsixTable
  enteries : UInt16
deriving DecidableEq, Repr

/-- `get_msix_info`, with the MSI-X capability at `capOffset` (what
`find_pci_cap(MSIX_CAP_ID)` returns) and whether `get_irqs_info` succeeds. -/
def getMsixInfo (irqsInfoOk : Bool) (c : PciConfig) (capOffset : Nat) : Except String VfioMsixInfo :=
  if !irqsInfoOk then .error "Failed to get vfio irqs info"
  else match c.leReadU32 (capOffset + msixCapTable), c.leReadU16 (capOffset + msixCapControl) with
    | some table, some ctrl =>
        let enteries := (ctrl &&& msixTableSizeMax) + 1
        if !(1 ≤ enteries ∧ enteries ≤ msixTableSizeMax + 1) then
          .error ("The number of MSI-X vectors is invalid, MSI-X vectors are " ++ toString enteries)
        else
          .ok ⟨⟨(table.toUInt16 &&& msixTableBir).toUInt8, (table &&& msixTableOffset).toUInt64,
            (enteries * msixTableEntrySize).toUInt64⟩, enteries⟩
    | none, _ => .error "le_read_u32 past the config space"
    | some _, none => .error "le_read_u16 past the config space"

/-- `MmapInfo`. -/
structure MmapInfo where
  offset : UInt64
  size : UInt64
deriving DecidableEq, Repr

/-- The fields of `VfioRegion` that `fixup_msix_region` reads and writes. -/
structure VfioRegion where
  size : UInt64
  mmaps : List MmapInfo
deriving DecidableEq, Repr

/-- The table's start, aligned down to the page. -/
def tableStart (pageSize : UInt64) (table : MsixTable) : UInt64 :=
  table.tableOffset &&& (0 - pageSize)

/-- The table's end, aligned up to the page. -/
def tableEnd (pageSize : UInt64) (table : MsixTable) : UInt64 :=
  (table.tableOffset + table.tableSize + (pageSize - 1)) &&& (0 - pageSize)

/-- `fixup_msix_region` on the region of the table's BAR. -/
def fixupRegion (pageSize : UInt64) (table : MsixTable) (region : VfioRegion) : VfioRegion :=
  match region.mmaps with
  | [m] =>
      if m.offset ≠ 0 ∨ region.size ≠ m.size then region
      else
        let start := tableStart pageSize table
        let end_ := tableEnd pageSize table
        if start = 0 then
          if end_ ≥ region.size then { region with mmaps := [] }
          else { region with mmaps := [⟨end_, region.size - end_⟩] }
        else if end_ ≥ region.size then { region with mmaps := [{ m with size := start }] }
        else { region with mmaps := [⟨0, start⟩, ⟨end_, region.size - end_⟩] }
  | _ => region

/-- `fixup_msix_region(&mut vfio_bars)`. -/
def fixupMsixRegion (pageSize : UInt64) (msixInfo : Option VfioMsixInfo) (bars : List VfioRegion) :
    Except String (List VfioRegion) :=
  match msixInfo with
  | none => .error "Failed to get MSIX info"
  | some info =>
      match bars[info.table.tableBar.toNat]? with
      | none => .error "Failed to get vfio bar info"
      | some region => .ok (bars.set info.table.tableBar.toNat (fixupRegion pageSize info.table region))

/-! ## Page alignment -/

theorem toNat_zero_sub (p : UInt64) (hp : 0 < p.toNat) : (0 - p).toNat = 2 ^ 64 - p.toNat := by
  have hlt := p.toNat_lt_size
  simp only [UInt64.toNat, UInt64.sub_def, BitVec.toNat_sub, UInt64.toBitVec_ofNat,
    BitVec.toNat_ofNat] at hlt hp ⊢
  simp only [UInt64.size, Nat.zero_mod, Nat.add_zero] at hlt ⊢
  omega

/-- Clearing the low `k` bits of a 64-bit word rounds it down to a multiple of `2^k`. -/
theorem and_two_pow_sub (x k : Nat) (hk : k ≤ 64) (hx : x < 2 ^ 64) :
    x &&& (2 ^ 64 - 2 ^ k) = x / 2 ^ k * 2 ^ k := by
  have h : 2 ^ 64 - 2 ^ k = 2 ^ k * (2 ^ (64 - k) - 1) := by
    rw [Nat.mul_sub, mul_one, ← Nat.pow_add, Nat.add_sub_cancel' hk]
  rw [h, Nat.mul_comm (x / 2 ^ k)]
  apply Nat.eq_of_testBit_eq
  intro i
  rw [Nat.testBit_and, Nat.testBit_mul_pow_two, Nat.testBit_mul_pow_two, Nat.testBit_two_pow_sub_one,
    ← Nat.shiftRight_eq_div_pow, Nat.testBit_shiftRight]
  by_cases hki : k ≤ i
  · by_cases hi : i < 64
    · simp [hki, show i - k < 64 - k by omega, Nat.add_sub_cancel' hki]
    · simp [Nat.add_sub_cancel' hki,
        Nat.testBit_lt_two_pow (lt_of_lt_of_le hx (Nat.pow_le_pow_right (by decide) (by omega : 64 ≤ i)))]
  · simp [hki]

/-- The `& (0 - p)` trick rounds down to a multiple of `p = 2^k`. -/
theorem and_zero_sub_toNat (x p : UInt64) {k : Nat} (hp : p.toNat = 2 ^ k) (hk : k < 64) :
    (x &&& (0 - p)).toNat = x.toNat / 2 ^ k * 2 ^ k := by
  rw [UInt64.and_toNat, toNat_zero_sub p (by rw [hp]; exact Nat.two_pow_pos k), hp]
  exact and_two_pow_sub _ _ hk.le x.toNat_lt_size

theorem tableStart_toNat (p : UInt64) (table : MsixTable) {k : Nat} (hp : p.toNat = 2 ^ k) (hk : k < 64) :
    (tableStart p table).toNat = table.tableOffset.toNat / 2 ^ k * 2 ^ k :=
  and_zero_sub_toNat _ _ hp hk

/-- For a table below 2³² of at most 2¹⁵ bytes, the end rounds the table's
last byte up to a page: nothing wraps. -/
theorem tableEnd_toNat (p : UInt64) (table : MsixTable) {k : Nat} (hp : p.toNat = 2 ^ k) (hk : k < 64)
    (ht : table.tableOffset.toNat < 2 ^ 32) (hs : table.tableSize.toNat ≤ 2 ^ 15) :
    (tableEnd p table).toNat =
      (table.tableOffset.toNat + table.tableSize.toNat + 2 ^ k - 1) / 2 ^ k * 2 ^ k := by
  have hk' : 2 ^ k ≤ 2 ^ 63 := Nat.pow_le_pow_right (by decide) (by omega)
  have h1 : (1 : UInt64) ≤ p := by
    rw [UInt64.le_def, BitVec.le_def]; show 1 ≤ p.toNat; rw [hp]; exact Nat.one_le_two_pow
  have hsum : (table.tableOffset + table.tableSize + (p - 1)).toNat =
      table.tableOffset.toNat + table.tableSize.toNat + 2 ^ k - 1 := by
    have hsub : (p - 1).toNat = 2 ^ k - 1 := by rw [UInt64.toNat_sub_of_le _ _ h1, hp]; rfl
    simp only [UInt64.toNat, UInt64.add_def, BitVec.toNat_add] at hsub ht hs ⊢
    rw [hsub, Nat.mod_eq_of_lt (by omega), Nat.mod_eq_of_lt (by omega)]
    have : 1 ≤ 2 ^ k := Nat.one_le_two_pow
    omega
  rw [tableEnd, and_zero_sub_toNat _ _ hp hk, hsum]

/-- The table `get_msix_info` gives: an offset below 2³², and 16 bytes for
each of between 1 and 2048 entries. -/
theorem getMsixInfo_table {irqsInfoOk : Bool} {c : PciConfig} {capOffset : Nat} {info : VfioMsixInfo}
    (h : getMsixInfo irqsInfoOk c capOffset = .ok info) :
    info.table.tableOffset.toNat < 2 ^ 32 ∧
      ∃ e, 1 ≤ e ∧ e ≤ 2048 ∧ info.table.tableSize.toNat = 16 * e := by
  unfold getMsixInfo at h
  split at h
  · cases h
  split at h
  · rename_i table ctrl _ _
    dsimp only at h
    split at h
    · cases h
    cases h
    have hle : (ctrl &&& msixTableSizeMax).toNat ≤ 0x7ff := by
      rw [UInt16.and_toNat]; exact Nat.and_le_right
    refine ⟨UInt32.toNat_lt_size _, (ctrl &&& msixTableSizeMax).toNat + 1, by omega, by omega, ?_⟩
    show (((ctrl &&& msixTableSizeMax) + 1) * msixTableEntrySize).toBitVec.toNat = _
    simp only [UInt16.add_def, UInt16.mul_def, BitVec.toNat_add, BitVec.toNat_mul]
    simp only [UInt16.toNat] at hle ⊢
    rw [show (1 : UInt16).toBitVec.toNat = 1 from rfl, show msixTableEntrySize.toBitVec.toNat = 16 from rfl]
    omega
  · cases h
  · cases h

/-! ## Carving the table out -/

/-- Byte `x` lies in one of the entries. -/
def Mapped (mmaps : List MmapInfo) (x : Nat) : Prop :=
  ∃ m ∈ mmaps, m.offset.toNat ≤ x ∧ x < m.offset.toNat + m.size.toNat

@[simp] theorem mapped_nil (x : Nat) : ¬Mapped [] x := by simp [Mapped]

@[simp] theorem mapped_cons (m : MmapInfo) (ms : List MmapInfo) (x : Nat) :
    Mapped (m :: ms) x ↔ (m.offset.toNat ≤ x ∧ x < m.offset.toNat + m.size.toNat) ∨ Mapped ms x := by
  simp [Mapped]

/-- The entries are non-empty, ascending and disjoint. -/
def Ascending (mmaps : List MmapInfo) : Prop :=
  (∀ m ∈ mmaps, 0 < m.size.toNat) ∧
    mmaps.Chain' fun a b => a.offset.toNat + a.size.toNat ≤ b.offset.toNat

/-- On a region whose one mmap entry covers it all, `fixup_msix_region` leaves
at most two non-empty, ascending, disjoint entries covering exactly the
region minus `[start, end)` — when `start ≤ end` and the table's first page
starts within the region. -/
theorem fixupRegion_covers (p : UInt64) (table : MsixTable) (size : UInt64)
    (hse : (tableStart p table).toNat ≤ (tableEnd p table).toNat)
    (hin : (tableStart p table).toNat ≤ size.toNat) :
    let r := fixupRegion p table ⟨size, [⟨0, size⟩]⟩
    r.size = size ∧ r.mmaps.length ≤ 2 ∧ Ascending r.mmaps ∧
      ∀ x, Mapped r.mmaps x ↔
        x < size.toNat ∧ ¬((tableStart p table).toNat ≤ x ∧ x < (tableEnd p table).toNat) := by
  simp only [fixupRegion, ne_eq, not_true_eq_false, or_self, ↓reduceIte]
  generalize tableStart p table = s at *
  generalize tableEnd p table = e at *
  have hz : ∀ a : UInt64, a = 0 ↔ a.toNat = 0 := fun a =>
    ⟨fun h => h ▸ rfl, fun h => UInt64.toNat.inj (h.trans rfl)⟩
  have hle : ∀ a b : UInt64, a ≤ b ↔ a.toNat ≤ b.toNat := fun a b => by
    rw [UInt64.le_def, BitVec.le_def]; rfl
  split_ifs with h0 h1 h1 <;> simp only [hz, hle] at h0 h1
  · refine ⟨rfl, by simp, by simp [Ascending], fun x => ?_⟩
    simp; omega
  · have hsub := UInt64.toNat_sub_of_le size e ((hle e size).2 (by omega))
    refine ⟨rfl, by simp, by simp [Ascending, hsub]; omega, fun x => ?_⟩
    simp [hsub]; omega
  · refine ⟨rfl, by simp, by simp [Ascending]; omega, fun x => ?_⟩
    simp; omega
  · have hsub := UInt64.toNat_sub_of_le size e ((hle e size).2 (by omega))
    refine ⟨rfl, by simp, by simp [Ascending, hsub]; omega, fun x => ?_⟩
    simp [hsub]; omega

/-- A region of any other shape is left as it is. -/
theorem fixupRegion_of_not_full (p : UInt64) (table : MsixTable) (region : VfioRegion)
    (h : region.mmaps ≠ [⟨0, region.size⟩]) : fixupRegion p table region = region := by
  unfold fixupRegion
  split
  · rename_i m hm
    rw [if_pos]
    by_contra hc
    obtain ⟨o, sz⟩ := m
    simp only [ne_eq, not_or, not_not] at hc
    exact h (by rw [hm, hc.1, hc.2])
  · rfl

/-- For a table `get_msix_info` gives and a page size `2^k`: `[start, end)` is
the table rounded out to pages, and when `start` lies within the region the
entries left cover exactly the region minus those pages. -/
theorem fixupRegion_carves {irqsInfoOk : Bool} {c : PciConfig} {capOffset : Nat} {info : VfioMsixInfo}
    (hinfo : getMsixInfo irqsInfoOk c capOffset = .ok info) (p : UInt64) {k : Nat}
    (hp : p.toNat = 2 ^ k) (hk : k < 64) (size : UInt64)
    (hin : (tableStart p info.table).toNat ≤ size.toNat) :
    let r := fixupRegion p info.table ⟨size, [⟨0, size⟩]⟩
    (tableStart p info.table).toNat ≤ info.table.tableOffset.toNat ∧
    info.table.tableOffset.toNat + info.table.tableSize.toNat ≤ (tableEnd p info.table).toNat ∧
    r.mmaps.length ≤ 2 ∧ Ascending r.mmaps ∧
    ∀ x, Mapped r.mmaps x ↔
      x < size.toNat ∧ ¬((tableStart p info.table).toNat ≤ x ∧ x < (tableEnd p info.table).toNat) := by
  obtain ⟨ht, e, he1, he2, hs⟩ := getMsixInfo_table hinfo
  have hstart : (tableStart p info.table).toNat ≤ info.table.tableOffset.toNat := by
    rw [tableStart_toNat p _ hp hk]; exact Nat.div_mul_le_self _ _
  have hend : info.table.tableOffset.toNat + info.table.tableSize.toNat ≤ (tableEnd p info.table).toNat := by
    rw [tableEnd_toNat p _ hp hk ht (by omega)]
    generalize info.table.tableOffset.toNat + info.table.tableSize.toNat = n at *
    have : n + 2 ^ k - 1 < (n + 2 ^ k - 1) / 2 ^ k * 2 ^ k + 2 ^ k := Nat.lt_div_mul_add (Nat.two_pow_pos k)
    omega
  obtain ⟨-, hlen, hasc, hmapped⟩ := fixupRegion_covers p info.table size (by omega) hin
  exact ⟨hstart, hend, hlen, hasc, hmapped⟩

/-- An MSI-X capability at `0x40` whose table is at offset `0x3000` of BAR 0,
with one entry. -/
def farTableConfig : PciConfig :=
  ⟨fun j => if j = 0x45 then 0x30 else 0, 256, fun _ => 0, fun _ => 0, some 0x40⟩

/-- In a BAR of four pages the same table's page is carved out and the pages
below it stay mapped. -/
theorem farTable_carved_from_large_bar :
    getMsixInfo true farTableConfig 0x40 = .ok ⟨⟨0, 0x3000, 16⟩, 1⟩ ∧
    ∀ x, Mapped (fixupRegion 0x1000 ⟨0, 0x3000, 16⟩ ⟨0x4000, [⟨0, 0x4000⟩]⟩).mmaps x ↔
      x < (0x4000 : UInt64).toNat ∧
        ¬((tableStart 0x1000 ⟨0, 0x3000, 16⟩).toNat ≤ x ∧ x < (tableEnd 0x1000 ⟨0, 0x3000, 16⟩).toNat) :=
  have hinfo : getMsixInfo true farTableConfig 0x40 = .ok ⟨⟨0, 0x3000, 16⟩, 1⟩ := rfl
  ⟨hinfo, (fixupRegion_carves hinfo 0x1000 (show (0x1000 : UInt64).toNat = 2 ^ 12 from rfl) (by decide)
    0x4000 (by decide)).2.2.2.2⟩

/-- A BAR of one page whose table lies two pages past its end: the table's
page starts beyond the BAR, and the one entry is stretched to `0x3000`
bytes, mapping two pages past the BAR's end. -/
theorem table_past_bar_mapped :
    (getMsixInfo true farTableConfig 0x40).toOption.map (·.table) = some ⟨0, 0x3000, 16⟩ ∧
    (fixupMsixRegion 0x1000 (getMsixInfo true farTableConfig 0x40).toOption
      [⟨0x1000, [⟨0, 0x1000⟩]⟩]).toOption = some [⟨0x1000, [⟨0, 0x3000⟩]⟩] := by
  decide

end StratoVirt.Vfio
