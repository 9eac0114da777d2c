/-
# `StratoVirt.Vfio.Reset` — `pci_config_reset`

`vfio/src/vfio_pci.rs`, lines 124–154.  After `get_pci_config` has read the
host's config region into the emulated buffer, `pci_config_reset` clears IO,
MSE, bus master and INTx-disable in COMMAND, writes COMMAND to the device,
and then clears the base address of each of the six BAR slots: a slot whose
bit 0 is set is taken for an I/O BAR and keeps bits 0–1, any other for a
memory BAR and keeps bits 0–3.

Each slot is classified by its own dword.  The upper dword of a 64-bit memory
BAR is one slot like the others, so it keeps bits 0–1 or 0–3 of the host's
address, its bits 32–35 (`upper_dword_keeps_address_bits`).

The errors of the `pci` crate's `le_read_*`/`le_write_*` and of
`write_region` come from code outside the sources; their texts here name the
call that fails.

**Proved here.**

    on every image of at least 0x28 bytes the reset succeeds; COMMAND
    loses IO, MSE, bus master and INTx-disable; the bytes outside COMMAND
    and the BARs stay; every slot keeps bits 0-1 (I/O) or 0-3 (memory)
    of its low byte and zeroes the other three                       (`pciConfigReset_slots`)
    so the upper dword of a 64-bit BAR keeps host address bits       (`upper_dword_keeps_address_bits`)
    the reset succeeds only on an image holding the six slots and
    with the COMMAND write succeeding                                (`pciConfigReset_ok`)
-/
import StratoVirt.Vfio.Access

namespace StratoVirt.Vfio

open StratoVirt.Pci

/-- `PCI_ROM_SLOT`: the loop runs over the six BAR slots. -/
def pciRomSlot : Nat := 6

/-- The bits of a slot's low byte the reset keeps: bits 0–1 when bit 0 marks
an I/O BAR, bits 0–3 otherwise. -/
def typeBits (low : UInt8) : UInt8 := if low &&& barIoSpace != 0 then 0x03 else 0x0f

/-- One round of the loop of `pci_config_reset`: slot `i`. -/
def resetBar (c : PciConfig) (i : Nat) : Except String PciConfig :=
  let offset := bar0 + regSize * i
  match c.leReadU32 offset with
  | none => .error "le_read_u32 past the config space"
  | some v =>
      let v := if v &&& barIoSpace.toUInt32 != 0 then v &&& ~~~ioBaseAddrMask
        else v &&& ~~~memBaseAddrMask.toUInt32
      match c.leWriteU32 offset v with
      | none => .error "le_write_u32 past the config space"
      | some c => .ok c

/-- `pci_config_reset`; `writeOk` is whether `write_region` of COMMAND succeeds. -/
def VfioPciDevice.pciConfigReset (d : VfioPciDevice) (writeOk : Bool) : Except String VfioPciDevice :=
  match d.pciConfig.leReadU16 command with
  | none => .error "le_read_u16 past the config space"
  | some cmd =>
      let cmd := cmd &&& ~~~(commandIoSpace ||| commandMemorySpace ||| commandBusMaster |||
        commandInterruptDisable)
      match d.pciConfig.leWriteU16 command cmd with
      | none => .error "le_write_u16 past the config space"
      | some c =>
          if !writeOk then .error "write_region of COMMAND failed"
          else ((List.range pciRomSlot).foldlM resetBar c).map fun c => { d with pciConfig := c }

/-! ## One slot, then the loop -/

/-- The buffer once slots `0 .. n - 1` are reset: each slot's low byte keeps
its type bits, its other bytes are zero, every other byte stays. -/
def resetUpTo (c : PciConfig) (n : Nat) : PciConfig :=
  { c with config := fun j =>
      if bar0 ≤ j ∧ j < bar0 + regSize * n then
        if (j - bar0) % regSize = 0 then c.config j &&& typeBits (c.config j) else 0
      else c.config j }

@[simp] theorem resetUpTo_len (c : PciConfig) (n : Nat) : (resetUpTo c n).len = c.len := rfl

/-- Slot `i` of a buffer that holds it: its low byte keeps its type bits and
the other three bytes become zero. -/
theorem resetBar_eq (c : PciConfig) (i : Nat) (h : bar0 + regSize * i + 4 ≤ c.len) :
    resetBar c i = .ok (c.setBytes (bar0 + regSize * i)
      [c.config (bar0 + regSize * i) &&& typeBits (c.config (bar0 + regSize * i)), 0, 0, 0]) := by
  generalize ho : bar0 + regSize * i = o at h
  have hio' : ~~~ioBaseAddrMask = (0x03 : UInt8).toUInt32 := by decide
  have hmem' : ~~~memBaseAddrMask.toUInt32 = (0x0f : UInt8).toUInt32 := by decide
  simp only [resetBar, ho, PciConfig.leReadU32, if_pos h, leU32_and_byte, hio', hmem']
  rw [← apply_ite UInt8.toUInt32]
  simp only [bne_iff_ne, ne_eq, toUInt32_eq_zero]
  rw [show (if c.config o &&& barIoSpace ≠ 0 then c.config o &&& 0x03 else c.config o &&& 0x0f) =
      c.config o &&& typeBits (c.config o) by unfold typeBits; split <;> simp_all]
  simp only [PciConfig.leWriteU32, if_pos h, (toUInt32_bytes _).1, (toUInt32_bytes _).2.1,
    (toUInt32_bytes _).2.2.1, (toUInt32_bytes _).2.2.2]

theorem resetUpTo_zero (c : PciConfig) : resetUpTo c 0 = c := by
  have h : ∀ j, ¬(bar0 ≤ j ∧ j < bar0 + regSize * 0) := fun j hj => by omega
  simp only [resetUpTo, h, if_false]

/-- Round `n` of the loop takes the buffer with slots `0 .. n - 1` reset to
the one with slots `0 .. n` reset. -/
theorem resetBar_resetUpTo (c : PciConfig) (n : Nat) (h : bar0 + regSize * (n + 1) ≤ c.len) :
    resetBar (resetUpTo c n) n = .ok (resetUpTo c (n + 1)) := by
  have hlow : (resetUpTo c n).config (bar0 + regSize * n) = c.config (bar0 + regSize * n) := by
    simp only [resetUpTo]; rw [if_neg (by omega)]
  rw [resetBar_eq _ n (by simp only [resetUpTo_len, bar0, regSize] at *; omega), hlow]
  simp only [resetUpTo, PciConfig.setBytes, List.length_cons, List.length_nil, Except.ok.injEq]
  congr 1
  funext j
  simp only [bar0, regSize] at *
  by_cases hs : 16 + 4 * n ≤ j ∧ j < 16 + 4 * n + 4
  · obtain ⟨k, hk, rfl⟩ : ∃ k < 4, j = 16 + 4 * n + k := ⟨j - (16 + 4 * n), by omega, by omega⟩
    rw [if_pos (show 16 + 4 * n ≤ 16 + 4 * n + k ∧ 16 + 4 * n + k < 16 + 4 * n + (0 + 1 + 1 + 1 + 1) by omega),
      if_pos (show 16 ≤ 16 + 4 * n + k ∧ 16 + 4 * n + k < 16 + 4 * (n + 1) by omega),
      show 16 + 4 * n + k - (16 + 4 * n) = k by omega]
    match k, hk with
    | 0, _ => rw [if_pos (by omega)]; rfl
    | 1, _ => rw [if_neg (by omega)]; rfl
    | 2, _ => rw [if_neg (by omega)]; rfl
    | 3, _ => rw [if_neg (by omega)]; rfl
  · rw [if_neg (by omega)]
    exact if_congr (by omega) rfl rfl

/-- The first `n` rounds of the loop reset slots `0 .. n - 1`. -/
theorem foldlM_resetBar (c : PciConfig) (h : bar0 + regSize * pciRomSlot ≤ c.len) :
    ∀ n ≤ pciRomSlot, (List.range n).foldlM resetBar c = .ok (resetUpTo c n)
  | 0, _ => by rw [resetUpTo_zero]; rfl
  | n + 1, hn => by
      rw [List.range_succ, List.foldlM_append, foldlM_resetBar c h n (by omega)]
      simp only [pciRomSlot] at hn h
      show List.foldlM resetBar (resetUpTo c n) [n] = _
      rw [List.foldlM_cons, resetBar_resetUpTo c n (by simp only [bar0, regSize] at *; omega)]
      rfl

/-- A slot's round succeeds only on a buffer that holds the slot, and keeps
its length. -/
theorem resetBar_ok {c c' : PciConfig} {i : Nat} (h : resetBar c i = .ok c') :
    bar0 + regSize * i + 4 ≤ c.len ∧ c'.len = c.len := by
  unfold resetBar at h
  by_cases hl : bar0 + regSize * i + 4 ≤ c.len
  · simp only [PciConfig.leReadU32, PciConfig.leWriteU32, if_pos hl, Except.ok.injEq] at h
    exact ⟨hl, by rw [← h]; rfl⟩
  · simp [PciConfig.leReadU32, hl] at h

/-- The first `n` rounds succeed only on a buffer that holds the first `n`
slots. -/
theorem foldlM_resetBar_len (c : PciConfig) :
    ∀ n (c' : PciConfig), (List.range n).foldlM resetBar c = .ok c' →
      (∀ i < n, bar0 + regSize * i + 4 ≤ c.len) ∧ c'.len = c.len
  | 0, c', h => by cases h; exact ⟨fun i hi => absurd hi (Nat.not_lt_zero i), rfl⟩
  | n + 1, c', h => by
      rw [List.range_succ, List.foldlM_append] at h
      cases hn : (List.range n).foldlM resetBar c with
      | error e => simp [hn, bind, Except.bind] at h
      | ok c1 =>
          obtain ⟨hprev, hlen1⟩ := foldlM_resetBar_len c n c1 hn
          simp only [hn, bind, Except.bind, List.foldlM_cons, List.foldlM_nil] at h
          cases h1 : resetBar c1 n with
          | error e => simp [h1] at h
          | ok c2 =>
              simp only [h1, pure, Except.pure, Except.ok.injEq] at h
              obtain ⟨hslot, hlen2⟩ := resetBar_ok h1
              subst h
              refine ⟨fun i hi => ?_, by rw [hlen2, hlen1]⟩
              rcases Nat.lt_succ_iff_lt_or_eq.mp hi with hi | rfl
              · exact hprev i hi
              · rwa [← hlen1]

/-- `pci_config_reset` succeeds only on a buffer that holds the six slots,
with the COMMAND write succeeding; it then rewrites COMMAND and resets every
slot. -/
theorem pciConfigReset_ok {d d' : VfioPciDevice} {writeOk : Bool} (h : d.pciConfigReset writeOk = .ok d') :
    bar0 + regSize * pciRomSlot ≤ d.pciConfig.len ∧ writeOk = true ∧
      ∃ cmd : UInt16, d' = { d with
        pciConfig := resetUpTo (d.pciConfig.setBytes command [cmd.toUInt8, (cmd >>> 8).toUInt8]) pciRomSlot } := by
  unfold VfioPciDevice.pciConfigReset at h
  by_cases h6 : command + 2 ≤ d.pciConfig.len
  · simp only [PciConfig.leReadU16, PciConfig.leWriteU16, if_pos h6] at h
    cases hw : writeOk
    · simp [hw] at h
    · simp only [hw, Bool.not_true] at h
      generalize hc : d.pciConfig.setBytes command _ = c at h
      cases hf : (List.range pciRomSlot).foldlM resetBar c with
      | error e => simp [hf, Except.map] at h
      | ok c' =>
          have hlen : c.len = d.pciConfig.len := by rw [← hc]; rfl
          have hslots : bar0 + regSize * pciRomSlot ≤ c.len := by
            have := (foldlM_resetBar_len c pciRomSlot c' hf).1 5 (by decide)
            simp only [bar0, regSize, pciRomSlot] at *; omega
          simp only [Bool.false_eq_true, if_false, foldlM_resetBar c hslots pciRomSlot le_rfl,
            Except.map, Except.ok.injEq] at h
          exact ⟨hlen ▸ hslots, rfl, _, by rw [← h, ← hc]⟩
  · simp [PciConfig.leReadU16, h6] at h

/-- **What `pci_config_reset` leaves.**  On every config image of at least
`0x28` bytes, with the COMMAND write to the device succeeding, the reset
succeeds; COMMAND loses IO, MSE, bus master and INTx-disable; every byte
outside COMMAND and the BAR slots stays; and every one of the six slots keeps
the type bits of its low byte and zeroes its other three bytes, each slot
classified by its own bit 0. -/
theorem pciConfigReset_slots (d : VfioPciDevice) (hlen : bar0 + regSize * pciRomSlot ≤ d.pciConfig.len) :
    ∃ c, d.pciConfigReset true = .ok { d with pciConfig := c } ∧ c.len = d.pciConfig.len ∧
      c.leReadU16 command = (d.pciConfig.leReadU16 command).map (· &&& ~~~(commandIoSpace |||
        commandMemorySpace ||| commandBusMaster ||| commandInterruptDisable)) ∧
      (∀ j, (j < command ∨ command + 2 ≤ j) → (j < bar0 ∨ bar0 + regSize * pciRomSlot ≤ j) →
        c.config j = d.pciConfig.config j) ∧
      ∀ i < pciRomSlot, c.config (bar0 + regSize * i) =
          d.pciConfig.config (bar0 + regSize * i) &&& typeBits (d.pciConfig.config (bar0 + regSize * i)) ∧
        ∀ k, 0 < k → k < regSize → c.config (bar0 + regSize * i + k) = 0 := by
  simp only [bar0, regSize, pciRomSlot, command] at *
  have h6 : 4 + 2 ≤ d.pciConfig.len := by omega
  generalize hcmd : ((d.pciConfig.config 4).toUInt16 ||| (d.pciConfig.config 5).toUInt16 <<< 8) &&&
    ~~~(commandIoSpace ||| commandMemorySpace ||| commandBusMaster ||| commandInterruptDisable) = cmd
  generalize hc0 : d.pciConfig.setBytes 4 [cmd.toUInt8, (cmd >>> 8).toUInt8] = c0
  have hlen0 : c0.len = d.pciConfig.len := by rw [← hc0]; rfl
  have hc0j : ∀ j, (j < 4 ∨ 6 ≤ j) → c0.config j = d.pciConfig.config j := fun j hj => by
    rw [← hc0]; simp only [PciConfig.setBytes]; rw [if_neg (by simp; omega)]
  have hrun := foldlM_resetBar c0 (by simp only [bar0, regSize, pciRomSlot]; omega) 6 le_rfl
  refine ⟨resetUpTo c0 6, ?_, hlen0, ?_, fun j hj hb => ?_, fun i hi => ⟨?_, fun k hk0 hk => ?_⟩⟩
  · simp only [VfioPciDevice.pciConfigReset, PciConfig.leReadU16, PciConfig.leWriteU16, command,
      if_pos h6, hcmd, hc0, Bool.not_true, pciRomSlot, hrun]
    rfl
  · have hbyte : ∀ j, 4 ≤ j → j < 6 → (resetUpTo c0 6).config j = c0.config j := fun j h4 h6 => by
      simp only [resetUpTo, bar0, regSize]; rw [if_neg (by omega)]
    simp only [PciConfig.leReadU16, resetUpTo_len, hlen0, if_pos h6, Option.map_some', hcmd,
      hbyte 4 le_rfl (by omega), hbyte 5 (by omega) (by omega)]
    simp only [← hc0, PciConfig.setBytes, List.length_cons, List.length_nil]
    rw [if_pos (by omega), if_pos (by omega)]
    exact congrArg some (leU16_bytes cmd)
  · simp only [resetUpTo, bar0, regSize]
    rw [if_neg (by omega), hc0j j (by omega)]
  · simp only [resetUpTo, bar0, regSize]
    rw [if_pos (by omega), if_pos (by omega), hc0j _ (by omega)]
  · simp only [resetUpTo, bar0, regSize]
    rw [if_pos (by omega), if_neg (by omega)]

/-- A 64-bit prefetchable memory BAR in slots 0 and 1 whose upper dword holds
host address bit 32. -/
def bar64Device : VfioPciDevice :=
  ⟨⟨fun j => if j = 0x10 then 0x0c else if j = 0x14 then 0x01 else 0, 256, fun _ => 0, fun _ => 0, none⟩,
    256⟩

theorem bar64_upper_slot_reset :
    ∃ c, bar64Device.pciConfigReset true = .ok { bar64Device with pciConfig := c } ∧
      c.config (bar0 + regSize * 1) = 1 := by
  obtain ⟨c, hc, -, -, -, hslot⟩ := pciConfigReset_slots bar64Device (by decide)
  exact ⟨c, hc, by rw [(hslot 1 (by decide)).1]; decide⟩

/-- Slot 0 is a 64-bit memory BAR; its upper dword, slot 1, is taken for an
I/O BAR by its bit 0 and keeps bits 0–1, so after the reset it still reads 1:
host address bit 32. -/
theorem upper_dword_keeps_address_bits :
    (bar64Device.pciConfig.leReadU32 bar0).map (· &&& barMem64Bit.toUInt32) = some barMem64Bit.toUInt32 ∧
    (bar64Device.pciConfigReset true).toOption.map (fun d => d.pciConfig.leReadU32 (bar0 + regSize)) =
      some (some 1) := by
  decide

end StratoVirt.Vfio
