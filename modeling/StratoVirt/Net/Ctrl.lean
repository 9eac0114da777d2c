/-
# `StratoVirt.Net.Ctrl` — the control queue: `NetCtrlHandler::handle_ctrl`

`virtio/src/net.rs`, lines 115–186.  `handle_ctrl` pops one element.  It reads
the header `CrtlHdr { class, cmd }` with `read_object` at the address of the
first out descriptor and, for the MQ class, the `u16` pair count with
`read_object` at the address of the second out descriptor when there is one.
It writes `VIRTIO_NET_OK` to the first in descriptor, publishes the element
with the lengths of the descriptors it used, and raises the interrupt when
`should_notify` says so.  A failure returns before the publish.

Guest memory is `GuestMem`, the byte at each guest address or `none` where
nothing is mapped.  `read_object` of a two-byte object reads `addr` and
`addr + 1`, whatever descriptor these bytes belong to: the reads follow the
descriptors' addresses, not the bytes of the command.

The spec's control command is a byte string — class, cmd, then the
little-endian pair count — and `ctrlCommandOk` is its verdict on one string,
modelled from the spec (§4.4, "Control queue").

**Proved here.**

    with the layout a conforming driver uses — the header in one
    two-byte descriptor, then at most one two-byte count descriptor —
    handle_ctrl answers the spec's verdict on the command bytes and
    publishes a used entry exactly when that verdict is OK            (`handleCtrl_conforming`)
    the same command bytes [MQ, VQ_PAIRS_SET, 0, 0] in one out descriptor
    get VIRTIO_NET_OK and a used entry, split over two they get an error
    and none, and the spec's verdict is an error; with the header split
    over two one-byte descriptors, the outcome follows a guest byte that
    lies in neither                                                   (`ctrl_outcome_follows_layout`)
-/
import StratoVirt.Net.Device

namespace StratoVirt.Virtio

/-- Guest memory as `read_object` and `write_object` see it. -/
structure GuestMem where
  byte : UInt64 → Option UInt8

/-- `read_object` of a two-byte object at `addr`: its bytes in memory order. -/
def GuestMem.read2 (mem : GuestMem) (addr : UInt64) : Option (UInt8 × UInt8) := do
  let b0 ← mem.byte addr
  let b1 ← mem.byte (addr + 1)
  pure (b0, b1)

/-- `write_object::<u8>(v, addr)`; it fails where nothing is mapped. -/
def GuestMem.write (mem : GuestMem) (addr : UInt64) (v : UInt8) : Option GuestMem :=
  if (mem.byte addr).isSome then some ⟨fun a => if a = addr then some v else mem.byte a⟩ else none

/-- The used length and the verdict of the out descriptors: the header at the
first one, the pair count at the second. -/
def ctrlOutLen (mem : GuestMem) : List ElemIovec → Except String UInt32
  | [] => .ok 0
  | ctrlDesc :: rest =>
      match mem.read2 ctrlDesc.addr with
      | none => .error "Failed to get control queue descriptor"
      | some (cls, cmd) =>
          if cls.toUInt16 = virtioNetCtrlMq then
            if cmd.toUInt16 ≠ virtioNetCtrlMqVqPairsSet then
              .error ("Control queue header command can't match " ++ toString virtioNetCtrlMqVqPairsSet)
            else match rest with
              | [] => .ok ctrlDesc.len
              | mqDesc :: _ =>
                  match mem.read2 mqDesc.addr with
                  | none => .error "Failed to read multi queue descriptor"
                  | some (lo, hi) =>
                      let queuePairs := lo.toUInt16 ||| hi.toUInt16 <<< 8
                      if !(virtioNetCtrlMqVqPairsMin ≤ queuePairs ∧ queuePairs ≤ virtioNetCtrlMqVqPairsMax) then
                        .error ("Invalid queue pairs " ++ toString queuePairs)
                      else .ok (ctrlDesc.len + mqDesc.len)
          else .error ("Control queue header class can't match " ++ toString virtioNetCtrlMq)

/-- `NetCtrlHandler::handle_ctrl`; `irqOk` is whether the interrupt callback
succeeds.  The handler and the memory after the call. -/
def NetCtrlHandler.handleCtrl (h : NetCtrlHandler) (mem : GuestMem) (irqOk : Bool) :
    Except String Unit × NetCtrlHandler × GuestMem :=
  match h.queue.popAvail with
  | .error _ => (.error "Failed to pop avail ring for net control queue", h, mem)
  | .ok (elem, q) =>
      let h := { h with queue := q }
      if elem.descNum == 0 then (.ok (), h, mem)
      else match ctrlOutLen mem elem.outIovec with
        | .error e => (.error e, h, mem)
        | .ok usedLen =>
            let status : Except String (UInt32 × GuestMem) :=
              match elem.inIovec with
              | [] => .ok (usedLen, mem)
              | status :: _ =>
                  match mem.write status.addr virtioNetOk with
                  | none => .error "Failed to write the control queue status"
                  | some mem => .ok (usedLen + status.len, mem)
            match status with
            | .error e => (.error e, h, mem)
            | .ok (usedLen, mem) =>
                let r := (h.queue.addUsed elem.index usedLen).shouldNotify h.driverFeatures
                let h := { h with queue := r.2 }
                if r.1 && !irqOk then (.error "Failed to trigger interrupt for ctrl", h, mem)
                else (.ok (), h, mem)

/-- Modelled from the spec: the verdict on one control command, a class and
a cmd byte and, when present, the little-endian pair count. -/
def ctrlCommandOk (bytes : List UInt8) : Bool :=
  match bytes with
  | cls :: cmd :: rest =>
      cls.toUInt16 == virtioNetCtrlMq && cmd.toUInt16 == virtioNetCtrlMqVqPairsSet &&
        match rest with
        | lo :: hi :: _ =>
            let n := lo.toUInt16 ||| hi.toUInt16 <<< 8
            decide (virtioNetCtrlMqVqPairsMin ≤ n ∧ n ≤ virtioNetCtrlMqVqPairsMax)
        | _ => true
  | _ => false

/-- The bytes of the descriptors `out`, concatenated in order: what the
command is, whatever its split; `none` when a byte is unmapped. -/
def outBytes (mem : GuestMem) (out : List ElemIovec) : Option (List UInt8) :=
  (out.mapM fun d => (List.range d.len.toNat).mapM fun i => mem.byte (d.addr + UInt64.ofNat i)).map List.flatten

/-! ## The conforming layout -/

/-- The bytes of a two-byte descriptor are what `read_object` of a two-byte
object at its address reads. -/
theorem descBytes_two (mem : GuestMem) (d : ElemIovec) (hd : d.len = 2) :
    (List.range d.len.toNat).mapM (fun i => mem.byte (d.addr + UInt64.ofNat i)) =
      (mem.read2 d.addr).map fun p => [p.1, p.2] := by
  rw [hd]
  show [0, 1].mapM (fun i => mem.byte (d.addr + UInt64.ofNat i)) = _
  have h0 : d.addr + UInt64.ofNat 0 = d.addr := by simp
  have h1 : d.addr + UInt64.ofNat 1 = d.addr + 1 := rfl
  simp only [List.mapM_cons, List.mapM_nil, h0, h1, GuestMem.read2]
  cases mem.byte d.addr <;> cases mem.byte (d.addr + 1) <;> rfl

/-- With the header in a two-byte descriptor and at most one two-byte count
descriptor after it, the verdict of the out descriptors is the spec's verdict
on their bytes. -/
theorem ctrlOutLen_conforming (mem : GuestMem) (hdr : ElemIovec) (rest : List ElemIovec)
    (bytes : List UInt8) (hhdr : hdr.len = 2) (hrest : rest = [] ∨ ∃ d, rest = [d] ∧ d.len = 2)
    (hb : outBytes mem (hdr :: rest) = some bytes) :
    (ctrlOutLen mem (hdr :: rest)).toBool = ctrlCommandOk bytes := by
  rcases hrest with rfl | ⟨d, rfl, hd⟩
  · simp only [outBytes, List.mapM_cons, List.mapM_nil, descBytes_two mem hdr hhdr] at hb
    cases hp : mem.read2 hdr.addr with
    | none => simp [hp] at hb
    | some p =>
        obtain ⟨cls, cmd⟩ := p
        simp only [hp] at hb
        cases hb
        simp only [ctrlOutLen, hp, ctrlCommandOk]
        split_ifs <;> simp_all [Except.toBool]
  · simp only [outBytes, List.mapM_cons, List.mapM_nil, descBytes_two mem hdr hhdr,
      descBytes_two mem d hd] at hb
    cases hp : mem.read2 hdr.addr with
    | none => simp [hp] at hb
    | some p =>
        cases hq : mem.read2 d.addr with
        | none => simp [hp, hq] at hb
        | some q =>
            obtain ⟨cls, cmd⟩ := p
            obtain ⟨lo, hi⟩ := q
            simp only [hp, hq] at hb
            cases hb
            simp only [ctrlOutLen, hp, hq, ctrlCommandOk]
            split_ifs <;> simp_all [Except.toBool, imp_iff_not_or]

/-- **`handle_ctrl` on a conforming layout.**  When the popped chain carries
the header in a two-byte descriptor and at most one two-byte count descriptor,
and its status byte is mapped, `handle_ctrl` succeeds exactly when the spec's
verdict on the command bytes is OK, and publishes one used entry exactly
then. -/
theorem handleCtrl_conforming (h : NetCtrlHandler) (mem : GuestMem) (c : Chain) (q' : SplitVring)
    (hpop : h.queue.popAvail = .ok (c.toElement, q'))
    (hdr : ElemIovec) (rest : List ElemIovec) (hout : c.outIovec = hdr :: rest) (hhdr : hdr.len = 2)
    (hrest : rest = [] ∨ ∃ d, rest = [d] ∧ d.len = 2)
    (bytes : List UInt8) (hb : outBytes mem c.outIovec = some bytes)
    (hstatus : ∀ s ∈ c.inIovec.head?, (mem.byte s.addr).isSome) :
    (h.handleCtrl mem true).1.toBool = ctrlCommandOk bytes ∧
    (h.handleCtrl mem true).2.1.queue.usedRing.length =
      q'.usedRing.length + if ctrlCommandOk bytes then 1 else 0 := by
  have hv := ctrlOutLen_conforming mem hdr rest bytes hhdr hrest (hout ▸ hb)
  have hdesc : (c.toElement.descNum == 0) = false := by simpa using c.descNum_pos
  unfold NetCtrlHandler.handleCtrl
  rw [hpop]
  dsimp only
  rw [if_neg (by simp [hdesc]), show c.toElement.outIovec = hdr :: rest from hout]
  cases hl : ctrlOutLen mem (hdr :: rest) with
  | error e => simp [hl, Except.toBool] at hv ⊢; simp [← hv]
  | ok len =>
      simp only [hl, Except.toBool] at hv
      cases hin : c.inIovec with
      | nil => simp [Chain.toElement, hin, SplitVring.shouldNotify_snd, ← hv, Except.toBool]
      | cons s tl =>
          have hs : (mem.byte s.addr).isSome := hstatus s (by simp [hin])
          simp [Chain.toElement, hin, GuestMem.write, hs, SplitVring.shouldNotify_snd, ← hv, Except.toBool]

/-! ## One command, three layouts -/

/-- A control ring holding the chain `c`. -/
def ctrlRing (c : Chain) : SplitVring :=
  { ready := true, availIdx := 1, chainAt := fun _ => some c, availFlags := 0, usedEvent := 0,
    nextAvail := 0, nextUsed := 0, signalUsed := 0, usedRing := [] }

def ctrlHandler (c : Chain) : NetCtrlHandler := ⟨ctrlRing c, 3, 0, 5⟩

/-- The command in one out descriptor at `0x100`, the status at `0x200`. -/
def oneDesc : Chain := ⟨0, [⟨0x200, 1⟩], [⟨0x100, 4⟩], .inl (List.cons_ne_nil _ _), by decide⟩

/-- The same bytes as header and count, two bytes each. -/
def twoDescs : Chain :=
  ⟨0, [⟨0x200, 1⟩], [⟨0x100, 2⟩, ⟨0x102, 2⟩], .inl (List.cons_ne_nil _ _), by decide⟩

/-- The header split over two one-byte descriptors, at `0x100` and `0x300`. -/
def splitHeader : Chain :=
  ⟨0, [⟨0x200, 1⟩], [⟨0x100, 1⟩, ⟨0x300, 1⟩], .inl (List.cons_ne_nil _ _), by decide⟩

/-- Class `MQ` at `0x100`, zeros after it, and `0x01` at `0x301`. -/
def ctrlMem : GuestMem :=
  ⟨fun a => if a = 0x100 then some 4 else if a = 0x301 then some 1 else if a < 0x1000 then some 0 else none⟩

/-- The same memory with `0x01` at `0x101`. -/
def noisyMem : GuestMem := ⟨fun a => if a = 0x101 then some 1 else ctrlMem.byte a⟩

/-- Whether `handle_ctrl` reports success, and how many used entries it published. -/
def ctrlOutcome (c : Chain) (mem : GuestMem) : Bool × Nat :=
  let r := (ctrlHandler c).handleCtrl mem true
  (r.1.toBool, r.2.1.queue.usedRing.length)

/-- Header and count in two two-byte descriptors: the verdict is the spec's. -/
theorem two_descs_verdict :
    outBytes ctrlMem twoDescs.outIovec = some [4, 0, 0, 0] ∧
    ((ctrlHandler twoDescs).handleCtrl ctrlMem true).1.toBool = ctrlCommandOk [4, 0, 0, 0] :=
  ⟨by decide, (handleCtrl_conforming (ctrlHandler twoDescs) ctrlMem twoDescs _ rfl ⟨0x100, 2⟩
    [⟨0x102, 2⟩] rfl rfl (.inr ⟨_, rfl, rfl⟩) [4, 0, 0, 0] (by decide) (by simp [twoDescs, ctrlMem])).1⟩

/-- The command bytes `[MQ, VQ_PAIRS_SET, 0, 0]` ask for zero pairs, which the
spec rejects.  In one descriptor `handle_ctrl` answers `VIRTIO_NET_OK` and
publishes the element, since it looks for the count only in a second
descriptor; split two and two, it rejects the count and publishes nothing.
With the header `[MQ, VQ_PAIRS_SET]` split over two one-byte descriptors, the
outcome changes with the byte at `0x101`, which lies in neither descriptor. -/
theorem ctrl_outcome_follows_layout :
    outBytes ctrlMem oneDesc.outIovec = some [4, 0, 0, 0] ∧
    outBytes ctrlMem twoDescs.outIovec = some [4, 0, 0, 0] ∧ ctrlCommandOk [4, 0, 0, 0] = false ∧
    ctrlOutcome oneDesc ctrlMem = (true, 1) ∧ ctrlOutcome twoDescs ctrlMem = (false, 0) ∧
    outBytes ctrlMem splitHeader.outIovec = some [4, 0] ∧
    outBytes noisyMem splitHeader.outIovec = some [4, 0] ∧ ctrlCommandOk [4, 0] = true ∧
    ctrlOutcome splitHeader ctrlMem = (true, 1) ∧ ctrlOutcome splitHeader noisyMem = (false, 0) := by
  decide

end StratoVirt.Virtio
