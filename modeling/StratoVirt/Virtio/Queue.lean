/-
# `StratoVirt.Virtio.Queue` — the split virtqueue the net handlers drive

Modelled from the spec (§4.2, "Virtqueue engine"): the ring lives in
`virtio/src/queue.rs`, which is not among the sources.  The handlers of
`net.rs` use five operations of it, and this module gives exactly those:

* `pop_avail` parses the chain at `last_avail_idx` and advances it; it returns
  the empty element (`desc_num = 0`) when the queue is not ready or the avail
  ring is empty, and fails when the chain does not validate;
* `add_used` publishes `(head, len)` and advances `used_idx`;
* `should_notify` is the flags test, or the event-index test when
  `VIRTIO_F_RING_EVENT_IDX` is negotiated, and records `signal_used`;
* `push_back` rewinds `last_avail_idx` by one;
* `avail_ring_len` is `avail_idx - last_avail_idx` modulo 2¹⁶.

The indices are `UInt16`, wrapping as `Wrapping<u16>` does.  The guest side —
the avail index and what the descriptor table holds at each avail position —
is a field of the record, fixed during a handler call.  The used ring is kept
as the list of every entry published, oldest first: that is what "published
exactly once, in pop order" is about.
-/
import Mathlib.Data.UInt
import StratoVirt.Virtio.Defs

namespace StratoVirt.Virtio

/-- One guest buffer of a chain, `ElemIovec { addr, len }`. -/
structure ElemIovec where
  addr : UInt64
  len : UInt32
deriving DecidableEq, Repr

/-- A chain that passed `pop_avail`'s validation: at least its head
descriptor, each descriptor sorted into `in_iovec` or `out_iovec` by its WRITE
flag, and the total length at most 2³² - 1. -/
structure Chain where
  index : UInt16
  inIovec : List ElemIovec
  outIovec : List ElemIovec
  has_desc : inIovec ≠ [] ∨ outIovec ≠ []
  total_len_lt : ((inIovec ++ outIovec).map (·.len.toNat)).sum < 2 ^ 32

/-- `Element`: what `pop_avail` returns; `desc_num = 0` means nothing was popped. -/
structure Element where
  index : UInt16
  descNum : Nat
  inIovec : List ElemIovec
  outIovec : List ElemIovec

def Element.empty : Element := ⟨0, 0, [], []⟩

def Chain.toElement (c : Chain) : Element :=
  ⟨c.index, c.inIovec.length + c.outIovec.length, c.inIovec, c.outIovec⟩

theorem Chain.descNum_pos (c : Chain) : c.toElement.descNum ≠ 0 := by
  rcases c.has_desc with h | h <;> simp [Chain.toElement, List.length_eq_zero, h]

/-- A used-ring entry. -/
structure UsedElem where
  id : UInt16
  len : UInt32
deriving DecidableEq, Repr

/-- `VRING_AVAIL_F_NO_INTERRUPT`. -/
def vringAvailFNoInterrupt : UInt16 := 1

/-- A split ring as its device side sees it. -/
structure SplitVring where
  ready : Bool
  /-- `avail->idx`, written by the driver. -/
  availIdx : UInt16
  /-- The chain at each avail position, `none` when it does not validate. -/
  chainAt : UInt16 → Option Chain
  availFlags : UInt16
  /-- `used_event`, read when the event index is negotiated. -/
  usedEvent : UInt16
  /-- `next_avail`, the spec's `last_avail_idx`. -/
  nextAvail : UInt16
  /-- `next_used`, the spec's `used_idx`. -/
  nextUsed : UInt16
  signalUsed : UInt16
  /-- Every used entry published, oldest first. -/
  usedRing : List UsedElem

namespace SplitVring

variable (q : SplitVring)

def availRingLen : UInt16 := q.availIdx - q.nextAvail

/-- Chains popped and neither published nor pushed back. -/
def inFlight : UInt16 := q.nextAvail - q.nextUsed

/-- The ring once the chain at `last_avail_idx` is taken. -/
def advance : SplitVring := { q with nextAvail := q.nextAvail + 1 }

def popAvail : Except String (Element × SplitVring) :=
  if !q.ready || q.availRingLen == 0 then .ok (Element.empty, q)
  else match q.chainAt q.nextAvail with
    | none => .error "Failed to get vring element"
    | some c => .ok (c.toElement, q.advance)

def addUsed (index : UInt16) (len : UInt32) : SplitVring :=
  { q with usedRing := q.usedRing ++ [⟨index, len⟩], nextUsed := q.nextUsed + 1 }

def pushBack : SplitVring := { q with nextAvail := q.nextAvail - 1 }

/-- `should_notify`: the decision, and the ring with `signal_used` updated. -/
def shouldNotify (features : UInt64) : Bool × SplitVring :=
  let new := q.nextUsed
  let old := q.signalUsed
  let q' := { q with signalUsed := new }
  if !virtioHasFeature features virtioFRingEventIdx then
    (q.availFlags &&& vringAvailFNoInterrupt == 0, q')
  else (new - q.usedEvent - 1 < new - old, q')

/-! ## What each operation changes -/

@[simp] theorem advance_nextAvail : q.advance.nextAvail = q.nextAvail + 1 := rfl
@[simp] theorem advance_nextUsed : q.advance.nextUsed = q.nextUsed := rfl
@[simp] theorem advance_usedRing : q.advance.usedRing = q.usedRing := rfl
@[simp] theorem advance_availIdx : q.advance.availIdx = q.availIdx := rfl
@[simp] theorem advance_chainAt : q.advance.chainAt = q.chainAt := rfl
@[simp] theorem advance_ready : q.advance.ready = q.ready := rfl
@[simp] theorem addUsed_nextAvail (i : UInt16) (l : UInt32) :
    (q.addUsed i l).nextAvail = q.nextAvail := rfl
@[simp] theorem addUsed_nextUsed (i : UInt16) (l : UInt32) :
    (q.addUsed i l).nextUsed = q.nextUsed + 1 := rfl
@[simp] theorem addUsed_usedRing (i : UInt16) (l : UInt32) :
    (q.addUsed i l).usedRing = q.usedRing ++ [⟨i, l⟩] := rfl
@[simp] theorem addUsed_availIdx (i : UInt16) (l : UInt32) :
    (q.addUsed i l).availIdx = q.availIdx := rfl
@[simp] theorem addUsed_chainAt (i : UInt16) (l : UInt32) :
    (q.addUsed i l).chainAt = q.chainAt := rfl
@[simp] theorem addUsed_ready (i : UInt16) (l : UInt32) :
    (q.addUsed i l).ready = q.ready := rfl
@[simp] theorem pushBack_nextAvail : q.pushBack.nextAvail = q.nextAvail - 1 := rfl
@[simp] theorem pushBack_nextUsed : q.pushBack.nextUsed = q.nextUsed := rfl
@[simp] theorem pushBack_usedRing : q.pushBack.usedRing = q.usedRing := rfl
@[simp] theorem pushBack_availIdx : q.pushBack.availIdx = q.availIdx := rfl
@[simp] theorem pushBack_chainAt : q.pushBack.chainAt = q.chainAt := rfl
@[simp] theorem pushBack_ready : q.pushBack.ready = q.ready := rfl

/-- `should_notify` moves only `signal_used`. -/
theorem shouldNotify_snd (f : UInt64) :
    (q.shouldNotify f).2 = { q with signalUsed := q.nextUsed } := by
  unfold shouldNotify; split <;> rfl

/-- What `pop_avail` can do: return the empty element with the ring unchanged
when it is not ready or empty, fail, or pop the chain at `last_avail_idx`. -/
theorem popAvail_cases {e : Element} {q' : SplitVring} (h : q.popAvail = .ok (e, q')) :
    (e = Element.empty ∧ q' = q ∧ (q.ready = false ∨ q.availRingLen = 0)) ∨
      (q.ready = true ∧ q.availRingLen ≠ 0 ∧ ∃ c, q.chainAt q.nextAvail = some c ∧
        e = c.toElement ∧ q' = q.advance) := by
  unfold popAvail at h
  split at h
  · cases h
    simp_all
  · rename_i hc
    simp only [Bool.or_eq_true, Bool.not_eq_true', beq_iff_eq, not_or, Bool.not_eq_false] at hc
    split at h
    · cases h
    · cases h; exact .inr ⟨hc.1, hc.2, _, ‹_›, rfl, rfl⟩

/-! ## Index arithmetic

Each operation moves `last_avail_idx` or `used_idx` by one, modulo 2¹⁶. -/

theorem u16_ofNat_succ (k : Nat) : UInt16.ofNat (k + 1) = UInt16.ofNat k + 1 := by
  apply UInt16.eq_of_toBitVec_eq
  show BitVec.ofNat 16 (k + 1) = BitVec.ofNat 16 k + 1#16
  bv_omega

/-- `push_back` undoes the advance of `pop_avail`. -/
@[simp] theorem advance_pushBack : q.advance.pushBack = q := by
  simp only [pushBack, advance, add_sub_cancel_right]

theorem advance_inFlight : q.advance.inFlight = q.inFlight + 1 := by
  apply UInt16.eq_of_toBitVec_eq
  simp only [inFlight, advance, UInt16.add_def, UInt16.sub_def]
  bv_omega

/-- Popping from a non-empty ring shortens it by one. -/
theorem availRingLen_pop_toNat (a n : UInt16) (h : a - n ≠ 0) :
    (a - (n + 1)).toNat + 1 = (a - n).toNat := by
  have h' : (a - n).toBitVec ≠ 0 := fun e => h (UInt16.eq_of_toBitVec_eq e)
  simp only [UInt16.toNat, UInt16.sub_def, UInt16.add_def, UInt16.toBitVec_ofNat] at h' ⊢
  bv_omega

end SplitVring

end StratoVirt.Virtio
