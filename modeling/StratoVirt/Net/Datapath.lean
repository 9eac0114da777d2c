/-
# `StratoVirt.Net.Datapath` — `NetIoHandler::handle_rx` and `handle_tx`

`virtio/src/net.rs`, lines 280–447.  Both handlers are a loop that pops a
chain, moves its bytes to or from the tap with one `readv`/`writev`, and
publishes it; they differ in what they do when the tap call fails:

* `handle_rx` rewinds the ring with `push_back` and breaks (`EAGAIN`, or any
  other error after draining the tap once), and returns `Ok`;
* `handle_tx` `bail!`s with the chain still popped.

The loops are written with the combinator `loop`, which runs a body that
either goes round again or stops with the handler's result.  Its fuel is
`avail_ring_len + 1`: every round that goes on has popped a chain, and
`loop_induction` is the one place where that bound is used.

What the host does is the record `TapIo`: the translation of guest addresses
(`get_host_address_from_cache`), the result of the `k`-th tap call of this
handler call given the iovecs passed, and whether the `k`-th `interrupt_cb`
succeeds.  Its one constraint is the system call's: no more bytes than the
buffers hold.  Every result below holds for all such hosts.

The two loops touch disjoint parts of the handler: `handle_rx` runs the same
whatever the tx ring holds and leaves it alone (`handleRx_setTxQueue`), and
`handle_tx` does the same for the rx side and `is_listening`
(`handleTx_setRx`).  `loop_map` lifts this from one round to the loop.

On success `handle_tx` has sent every chain the ring offered, in pop order,
each published once with length 0 (`handleTx_sends`); `handle_rx` instead
stops at the first chain the tap has no packet for.
-/
import Mathlib.Algebra.BigOperators.Group.List
import StratoVirt.Virtio.Queue

namespace StratoVirt.Virtio


/-! ## The handler's records -/

/-- A `Tap`, as the handlers see it: its fd. -/
structure Tap where
  fd : Int
deriving DecidableEq, Repr

structure RxVirtio where
  queueFull : Bool
  queue : SplitVring
  queueEvt : Int

structure TxVirtio where
  queue : SplitVring
  queueEvt : Int

/-- `NetIoHandler`; `mem_space`, `interrupt_cb` and the channel's receiver are
the host's side and enter through `TapIo` and the update event. -/
structure NetIoHandler where
  rx : RxVirtio
  tx : TxVirtio
  tap : Option Tap
  tapFd : Int
  driverFeatures : UInt64
  updateEvt : Int
  deactivateEvt : Int
  isListening : Bool

namespace NetIoHandler

def setRxQueue (h : NetIoHandler) (q : SplitVring) : NetIoHandler :=
  { h with rx := { h.rx with queue := q } }

def setTxQueue (h : NetIoHandler) (q : SplitVring) : NetIoHandler :=
  { h with tx := { h.tx with queue := q } }

def setQueueFull (h : NetIoHandler) (b : Bool) : NetIoHandler :=
  { h with rx := { h.rx with queueFull := b } }

@[simp] theorem setRxQueue_rx_queue (h : NetIoHandler) (q : SplitVring) :
    (h.setRxQueue q).rx.queue = q := rfl
@[simp] theorem setRxQueue_tap (h : NetIoHandler) (q : SplitVring) :
    (h.setRxQueue q).tap = h.tap := rfl
@[simp] theorem setRxQueue_driverFeatures (h : NetIoHandler) (q : SplitVring) :
    (h.setRxQueue q).driverFeatures = h.driverFeatures := rfl
@[simp] theorem setTxQueue_tx_queue (h : NetIoHandler) (q : SplitVring) :
    (h.setTxQueue q).tx.queue = q := rfl
@[simp] theorem setTxQueue_tap (h : NetIoHandler) (q : SplitVring) :
    (h.setTxQueue q).tap = h.tap := rfl
@[simp] theorem setTxQueue_driverFeatures (h : NetIoHandler) (q : SplitVring) :
    (h.setTxQueue q).driverFeatures = h.driverFeatures := rfl
@[simp] theorem setQueueFull_rx_queue (h : NetIoHandler) (b : Bool) :
    (h.setQueueFull b).rx.queue = h.rx.queue := rfl
@[simp] theorem setQueueFull_tap (h : NetIoHandler) (b : Bool) :
    (h.setQueueFull b).tap = h.tap := rfl
@[simp] theorem setQueueFull_driverFeatures (h : NetIoHandler) (b : Bool) :
    (h.setQueueFull b).driverFeatures = h.driverFeatures := rfl

end NetIoHandler

/-! ## The host -/

/-- `libc::iovec`. -/
structure Iovec where
  base : UInt64
  len : Nat
deriving DecidableEq, Repr

/-- What a `readv`/`writev` on the non-blocking tap returns: a byte count, or
`-1` with `EAGAIN`, or `-1` with any other error. -/
inductive IoResult where
  | bytes (n : Nat)
  | wouldBlock
  | failed
deriving DecidableEq, Repr

structure TapIo where
  hostAddr : UInt64 → UInt64
  io : Nat → List Iovec → IoResult
  irqOk : Nat → Bool
  /-- `readv(2)` and `writev(2)` never report more bytes than the buffers hold. -/
  io_le : ∀ k iovs n, io k iovs = .bytes n → n ≤ (iovs.map (·.len)).sum

/-- The iovecs a handler builds from a chain's buffers: each one whose guest
address translates, the others logged and skipped. -/
def hostIovecs (env : TapIo) (l : List ElemIovec) : List Iovec :=
  l.filterMap fun e =>
    let a := env.hostAddr e.addr
    if a ≠ 0 then some ⟨a, e.len.toNat⟩ else none

theorem hostIovecs_len_le (env : TapIo) :
    ∀ l : List ElemIovec, ((hostIovecs env l).map (·.len)).sum ≤ (l.map (·.len.toNat)).sum
  | [] => le_rfl
  | e :: l => by
      have ih := hostIovecs_len_le env l
      by_cases h : env.hostAddr e.addr = 0 <;> simp [hostIovecs, h] at ih ⊢ <;> omega

/-- A count read into a validated chain fits a `u32`. -/
theorem readv_lt (env : TapIo) (c : Chain) (k n : Nat)
    (h : env.io k (hostIovecs env c.inIovec) = .bytes n) : n < 2 ^ 32 := by
  have h1 := env.io_le k _ n h
  have h2 := hostIovecs_len_le env c.inIovec
  have h3 := c.total_len_lt
  simp only [List.map_append, List.sum_append] at h3
  omega

/-! ## Loops -/

/-- One round of a handler loop: go round again, or leave it with a result
(`break` gives `Ok`, `?` and `bail!` an error). -/
inductive Flow (σ : Type) where
  | next (s : σ)
  | stop (r : Except String Unit) (s : σ)

/-- A loop run for at most `fuel` rounds. -/
def loop {σ : Type} (body : σ → Flow σ) : Nat → σ → Except String Unit × σ
  | 0, s => (.ok (), s)
  | n + 1, s =>
      match body s with
      | .next s' => loop body n s'
      | .stop r s' => (r, s')

/-- The induction every loop proof goes through: an invariant `P` kept by the
rounds that go on, which also shrink the measure `μ`, gives `Q` of the result
when every way of stopping gives it and the fuel exceeds the measure. -/
theorem loop_induction {σ : Type} {body : σ → Flow σ} (μ : σ → Nat) (P : σ → Prop)
    (Q : Except String Unit × σ → Prop)
    (hnext : ∀ s s', P s → body s = .next s' → P s' ∧ μ s' < μ s)
    (hstop : ∀ s r s', P s → body s = .stop r s' → Q (r, s')) :
    ∀ n s, P s → μ s < n → Q (loop body n s)
  | 0, _, _, h => absurd h (Nat.not_lt_zero _)
  | n + 1, s, hs, hμ => by
      unfold loop
      split
      · rename_i s' hb
        obtain ⟨hs', hμ'⟩ := hnext s s' hs hb
        exact loop_induction μ P Q hnext hstop n s' hs' (by omega)
      · exact hstop s _ _ hs ‹_›

/-- What every round keeps, the loop keeps, whatever the fuel. -/
theorem loop_keeps {σ : Type} {body : σ → Flow σ} (P : σ → Prop)
    (hbody : ∀ s s', P s → (body s = .next s' ∨ ∃ r, body s = .stop r s') → P s') :
    ∀ n s, P s → P (loop body n s).2
  | 0, _, hs => hs
  | n + 1, s, hs => by
      unfold loop
      split
      · exact loop_keeps P hbody n _ (hbody s _ hs (.inl ‹_›))
      · exact hbody s _ hs (.inr ⟨_, ‹_›⟩)

/-- A change of state applied to what a round leaves. -/
def Flow.map {σ τ : Type} (f : σ → τ) : Flow σ → Flow τ
  | .next s => .next (f s)
  | .stop r s => .stop r (f s)

/-- A change of state the rounds commute with commutes with the whole loop. -/
theorem loop_map {σ : Type} {body : σ → Flow σ} (f : σ → σ) (hf : ∀ s, body (f s) = (body s).map f) :
    ∀ n s, loop body n (f s) = ((loop body n s).1, f (loop body n s).2)
  | 0, _ => rfl
  | n + 1, s => by
      simp only [loop, hf]
      cases body s with
      | next s' => exact loop_map f hf n s'
      | stop r s' => rfl

/-! ## `handle_rx` -/

/-- One round of `handle_rx`'s `while let Some(tap)` loop; `k` counts the
`readv` calls made so far. -/
def rxIteration (env : TapIo) : NetIoHandler × Nat → Flow (NetIoHandler × Nat)
  | (h, k) =>
    match h.tap with
    | none => .stop (.ok ()) (h, k)
    | some _ =>
      if h.rx.queue.availRingLen == 0 then .stop (.ok ()) (h.setQueueFull true, k)
      else match h.rx.queue.popAvail with
        | .error _ => .stop (.error "Failed to pop avail ring for net rx") (h, k)
        | .ok (elem, q) =>
          if elem.descNum == 0 then .stop (.ok ()) (h.setRxQueue q, k)
          else match env.io k (hostIovecs env elem.inIovec) with
            -- `EAGAIN`: the tap is empty
            | .wouldBlock => .stop (.ok ()) (h.setRxQueue q.pushBack, k + 1)
            -- any other error: the tap is drained once with `read` and the loop left
            | .failed => .stop (.ok ()) (h.setRxQueue q.pushBack, k + 1)
            | .bytes n =>
              let r := (q.addUsed elem.index (UInt32.ofNat n)).shouldNotify h.driverFeatures
              if r.1 && !env.irqOk k then
                .stop (.error "Failed to trigger interrupt for net") (h.setRxQueue r.2, k + 1)
              else .next (h.setRxQueue r.2, k + 1)

/-- `handle_rx`, with the number of `readv` calls it made. -/
def handleRxLoop (env : TapIo) (h : NetIoHandler) : Except String Unit × (NetIoHandler × Nat) :=
  loop (rxIteration env) (h.rx.queue.availRingLen.toNat + 1) (h, 0)

def handleRx (env : TapIo) (h : NetIoHandler) : Except String Unit × NetIoHandler :=
  ((handleRxLoop env h).1, (handleRxLoop env h).2.1)

/-- The ring after a chain was received with `n` bytes and published. -/
def rxPublished (h : NetIoHandler) (c : Chain) (n : Nat) : SplitVring :=
  ((h.rx.queue.advance.addUsed c.index (UInt32.ofNat n)).shouldNotify h.driverFeatures).2

/-- `handle_rx` pops the chain `c` in this round. -/
def RxPops (h : NetIoHandler) (c : Chain) : Prop :=
  h.tap.isSome ∧ h.rx.queue.ready = true ∧ h.rx.queue.availRingLen ≠ 0 ∧
    h.rx.queue.chainAt h.rx.queue.nextAvail = some c

/-- What one round of `handle_rx` can do. -/
theorem rxIteration_cases (env : TapIo) (h : NetIoHandler) (k : Nat) :
    rxIteration env (h, k) = .stop (.ok ()) (h, k) ∨
    (h.rx.queue.availRingLen = 0 ∧
      rxIteration env (h, k) = .stop (.ok ()) (h.setQueueFull true, k)) ∨
    (∃ e, rxIteration env (h, k) = .stop (.error e) (h, k)) ∨
    (∃ c, RxPops h c ∧
      (env.io k (hostIovecs env c.inIovec) = .wouldBlock ∨
        env.io k (hostIovecs env c.inIovec) = .failed) ∧
      rxIteration env (h, k) = .stop (.ok ()) (h.setRxQueue h.rx.queue.advance.pushBack, k + 1)) ∨
    (∃ c n, RxPops h c ∧ env.io k (hostIovecs env c.inIovec) = .bytes n ∧
      (rxIteration env (h, k) = .next (h.setRxQueue (rxPublished h c n), k + 1) ∨
        ∃ e, rxIteration env (h, k) = .stop (.error e) (h.setRxQueue (rxPublished h c n), k + 1))) := by
  unfold rxIteration
  cases htap : h.tap with
  | none => exact .inl (by simp only [htap])
  | some tap =>
  by_cases hlen : h.rx.queue.availRingLen = 0
  · exact .inr (.inl ⟨hlen, by simp only [htap, hlen, beq_self_eq_true, if_true]⟩)
  simp only [htap, hlen, beq_iff_eq, if_false]
  rcases hpop : h.rx.queue.popAvail with e | ⟨elem, q⟩
  · exact .inr (.inr (.inl ⟨_, rfl⟩))
  rcases SplitVring.popAvail_cases _ hpop with ⟨rfl, rfl, -⟩ | ⟨hready, -, c, hc, rfl, rfl⟩
  · exact .inl rfl
  have hpops : RxPops h c := ⟨by simp [htap], hready, hlen, hc⟩
  simp only [c.descNum_pos, beq_iff_eq, if_false]
  rcases hio : env.io k (hostIovecs env c.toElement.inIovec) with n | _ | _
  · refine .inr (.inr (.inr (.inr ⟨c, n, hpops, hio, ?_⟩)))
    simp only [rxPublished, Chain.toElement]
    split
    · exact .inr ⟨_, rfl⟩
    · exact .inl rfl
  · exact .inr (.inr (.inr (.inl ⟨c, hpops, .inl hio, rfl⟩)))
  · exact .inr (.inr (.inr (.inl ⟨c, hpops, .inr hio, rfl⟩)))

/-- `handle_rx` changes the rx ring and `queue_full`, nothing else. -/
theorem handleRx_frame (env : TapIo) (h : NetIoHandler) :
    ∃ q b, (handleRx env h).2 = { h with rx := { h.rx with queue := q, queueFull := b } } := by
  refine loop_keeps (fun s => ∃ q b, s.1 = { h with rx := { h.rx with queue := q, queueFull := b } })
    ?_ _ (h, 0) ⟨h.rx.queue, h.rx.queueFull, rfl⟩
  rintro ⟨_, k⟩ s' ⟨q, b, rfl⟩ hb
  rcases rxIteration_cases env _ k with
    h1 | ⟨-, h1⟩ | ⟨e, h1⟩ | ⟨c, -, -, h1⟩ | ⟨c, n, -, -, h1 | ⟨e, h1⟩⟩ <;>
    rcases hb with hb | ⟨r, hb⟩ <;> rw [h1] at hb <;> cases hb <;> exact ⟨_, _, rfl⟩

/-- A round of `handle_rx` neither reads nor writes the tx ring. -/
theorem rxIteration_setTxQueue (env : TapIo) (q : SplitVring) (h : NetIoHandler) (k : Nat) :
    rxIteration env (h.setTxQueue q, k) = (rxIteration env (h, k)).map fun s => (s.1.setTxQueue q, s.2) := by
  unfold rxIteration
  dsimp only [NetIoHandler.setTxQueue]
  repeat' split
  all_goals rfl

theorem handleRx_setTxQueue (env : TapIo) (h : NetIoHandler) (q : SplitVring) :
    handleRx env (h.setTxQueue q) = ((handleRx env h).1, (handleRx env h).2.setTxQueue q) :=
  congrArg (fun r => (r.1, r.2.1)) (loop_map (fun s : NetIoHandler × Nat => (s.1.setTxQueue q, s.2))
    (fun s => rxIteration_setTxQueue env q s.1 s.2) (h.rx.queue.availRingLen.toNat + 1) (h, 0))

section
variable (h : NetIoHandler) (c : Chain) (n : Nat)

@[simp] theorem rxPublished_ready : (rxPublished h c n).ready = h.rx.queue.ready := by
  simp [rxPublished, SplitVring.shouldNotify_snd]
@[simp] theorem rxPublished_availIdx : (rxPublished h c n).availIdx = h.rx.queue.availIdx := by
  simp [rxPublished, SplitVring.shouldNotify_snd]
@[simp] theorem rxPublished_chainAt : (rxPublished h c n).chainAt = h.rx.queue.chainAt := by
  simp [rxPublished, SplitVring.shouldNotify_snd]
@[simp] theorem rxPublished_nextAvail :
    (rxPublished h c n).nextAvail = h.rx.queue.nextAvail + 1 := by
  simp [rxPublished, SplitVring.shouldNotify_snd]
@[simp] theorem rxPublished_nextUsed :
    (rxPublished h c n).nextUsed = h.rx.queue.nextUsed + 1 := by
  simp [rxPublished, SplitVring.shouldNotify_snd]
@[simp] theorem rxPublished_usedRing :
    (rxPublished h c n).usedRing = h.rx.queue.usedRing ++ [⟨c.index, UInt32.ofNat n⟩] := by
  simp [rxPublished, SplitVring.shouldNotify_snd]

theorem rxPublished_availRingLen (hp : RxPops h c) :
    (rxPublished h c n).availRingLen.toNat + 1 = h.rx.queue.availRingLen.toNat := by
  simpa [SplitVring.availRingLen] using SplitVring.availRingLen_pop_toNat _ _ hp.2.2.1

end

/-- `q` is `q₀` after `m` chains were received and published, in pop order:
the `k`-th is the chain at `last_avail_idx + k`, published once with the byte
count its `readv` returned. -/
structure Received (env : TapIo) (q₀ : SplitVring) (m : Nat) (q : SplitVring) : Prop where
  ready : q.ready = q₀.ready
  availIdx : q.availIdx = q₀.availIdx
  chainAt : q.chainAt = q₀.chainAt
  nextAvail : q.nextAvail = q₀.nextAvail + UInt16.ofNat m
  nextUsed : q.nextUsed = q₀.nextUsed + UInt16.ofNat m
  len : m + q.availRingLen.toNat = q₀.availRingLen.toNat
  used : ∃ used : List UsedElem, q.usedRing = q₀.usedRing ++ used ∧ used.length = m ∧
    ∀ k < m, ∃ c n, q₀.chainAt (q₀.nextAvail + UInt16.ofNat k) = some c ∧
      env.io k (hostIovecs env c.inIovec) = .bytes n ∧ n < 2 ^ 32 ∧
      used[k]? = some ⟨c.index, UInt32.ofNat n⟩

theorem Received.zero (env : TapIo) (q₀ : SplitVring) : Received env q₀ 0 q₀ :=
  ⟨rfl, rfl, rfl, (add_zero _).symm, (add_zero _).symm, by simp, [], by simp, rfl,
    fun _ h => absurd h (by omega)⟩

/-- The in-flight count does not move while chains are received. -/
theorem Received.inFlight {env : TapIo} {q₀ q : SplitVring} {m : Nat}
    (hr : Received env q₀ m q) : q.inFlight = q₀.inFlight := by
  simp only [SplitVring.inFlight, hr.nextAvail, hr.nextUsed, add_sub_add_right_eq_sub]

/-- Receiving one more chain. -/
theorem Received.succ {env : TapIo} {h : NetIoHandler} {q₀ : SplitVring} {m : Nat} {c : Chain}
    {n : Nat} (hr : Received env q₀ m h.rx.queue) (hp : RxPops h c)
    (hn : env.io m (hostIovecs env c.inIovec) = .bytes n) (hlt : n < 2 ^ 32) :
    Received env q₀ (m + 1) (rxPublished h c n) := by
  obtain ⟨used, hu, hlen, hall⟩ := hr.used
  have hc : q₀.chainAt (q₀.nextAvail + UInt16.ofNat m) = some c := by
    rw [← hr.chainAt, ← hr.nextAvail]; exact hp.2.2.2
  refine ⟨by simp [hr.ready], by simp [hr.availIdx], by simp [hr.chainAt],
    by simp [hr.nextAvail, SplitVring.u16_ofNat_succ, add_assoc],
    by simp [hr.nextUsed, SplitVring.u16_ofNat_succ, add_assoc],
    by have := rxPublished_availRingLen h c n hp; have := hr.len; omega,
    used ++ [⟨c.index, UInt32.ofNat n⟩], by simp [hu], by simp [hlen], fun k hk => ?_⟩
  rcases Nat.lt_succ_iff_lt_or_eq.mp hk with hk | rfl
  · obtain ⟨c', n', h1, h2, h3, h4⟩ := hall k hk
    exact ⟨c', n', h1, h2, h3, by rw [List.getElem?_append_left (by omega)]; exact h4⟩
  · exact ⟨c, n, hc, hn, hlt, by simp [← hlen]⟩

/-- **`handle_rx` accounts for every chain it pops.**  It makes at most
`avail_ring_len` pops.  When it returns `Ok`, the first `m` chains were
published once each, in pop order, with the byte count `readv` returned, and
the one further pop, if any, is the chain whose `readv` failed, pushed back and
not published; the in-flight count is unchanged. -/
theorem handleRx_accounts (env : TapIo) (h : NetIoHandler) :
    (handleRxLoop env h).2.2 ≤ h.rx.queue.availRingLen.toNat ∧
    ((handleRx env h).1 = .ok () →
      ∃ m, Received env h.rx.queue m (handleRx env h).2.rx.queue ∧
        ((handleRxLoop env h).2.2 = m ∨
          (handleRxLoop env h).2.2 = m + 1 ∧
            ∃ c, h.rx.queue.chainAt (h.rx.queue.nextAvail + UInt16.ofNat m) = some c ∧
              (env.io m (hostIovecs env c.inIovec) = .wouldBlock ∨
                env.io m (hostIovecs env c.inIovec) = .failed)) ∧
        (handleRx env h).2.rx.queue.inFlight = h.rx.queue.inFlight) := by
  let q₀ := h.rx.queue
  let P : NetIoHandler × Nat → Prop := fun s =>
    s.1.tap = h.tap ∧ s.1.driverFeatures = h.driverFeatures ∧ Received env q₀ s.2 s.1.rx.queue
  let Q : Except String Unit × (NetIoHandler × Nat) → Prop := fun r =>
    r.2.2 ≤ q₀.availRingLen.toNat ∧ (r.1 = .ok () →
      ∃ m, Received env q₀ m r.2.1.rx.queue ∧
        (r.2.2 = m ∨ r.2.2 = m + 1 ∧ ∃ c, q₀.chainAt (q₀.nextAvail + UInt16.ofNat m) = some c ∧
          (env.io m (hostIovecs env c.inIovec) = .wouldBlock ∨
            env.io m (hostIovecs env c.inIovec) = .failed)))
  have hQ : Q (handleRxLoop env h) := by
    refine loop_induction (fun s => s.1.rx.queue.availRingLen.toNat) P Q ?_ ?_ _ (h, 0)
      ⟨rfl, rfl, Received.zero env q₀⟩ (Nat.lt_succ_self _)
    · rintro ⟨h', k⟩ s' ⟨htap, hdf, hr⟩ hb
      rcases rxIteration_cases env h' k with
        h1 | ⟨-, h1⟩ | ⟨e, h1⟩ | ⟨c, -, -, h1⟩ | ⟨c, n, hp, hn, h1 | ⟨e, h1⟩⟩ <;>
        rw [h1] at hb <;> cases hb
      exact ⟨⟨by simpa using htap, by simpa using hdf, hr.succ hp hn (readv_lt env c k n hn)⟩,
        by have := rxPublished_availRingLen h' c n hp; simp only [NetIoHandler.setRxQueue_rx_queue]; omega⟩
    · rintro ⟨h', k⟩ r s' ⟨-, -, hr⟩ hb
      have hlen : k + h'.rx.queue.availRingLen.toNat = q₀.availRingLen.toNat := hr.len
      have hpos : ∀ c, RxPops h' c → k + 1 ≤ q₀.availRingLen.toNat := fun c hp => by
        have : h'.rx.queue.availRingLen.toNat ≠ 0 := fun h0 =>
          hp.2.2.1 (UInt16.toNat.inj (by simpa using h0))
        omega
      rcases rxIteration_cases env h' k with
        h1 | ⟨-, h1⟩ | ⟨e, h1⟩ | ⟨c, hp, hfail, h1⟩ | ⟨c, n, hp, -, h1 | ⟨e, h1⟩⟩ <;>
        rw [h1] at hb <;> cases hb
      · exact ⟨show k ≤ _ by omega, fun _ => ⟨k, hr, .inl rfl⟩⟩
      · exact ⟨show k ≤ _ by omega, fun _ => ⟨k, hr, .inl rfl⟩⟩
      · exact ⟨show k ≤ _ by omega, nofun⟩
      · refine ⟨hpos c hp, fun _ => ⟨k, by simpa using hr, .inr ⟨rfl, c, ?_, hfail⟩⟩⟩
        rw [← hr.chainAt, ← hr.nextAvail]; exact hp.2.2.2
      · exact ⟨hpos c hp, nofun⟩
  refine ⟨hQ.1, fun hok => ?_⟩
  obtain ⟨m, hr, hm⟩ := hQ.2 hok
  exact ⟨m, hr, hm, hr.inFlight⟩

/-! ## `handle_tx` -/

/-- `read_len` of `handle_tx`: the `writev` of the element's buffers, made only
with a tap and a non-empty iovec list, `0` otherwise. -/
def txReadLen (env : TapIo) (h : NetIoHandler) (k : Nat) (elem : Element) : IoResult :=
  let iovecs := hostIovecs env elem.outIovec
  match h.tap with
  | some _ => if iovecs.isEmpty then .bytes 0 else env.io k iovecs
  | none => .bytes 0

/-- One round of `handle_tx`'s `loop`; `k` counts the chains popped so far. -/
def txIteration (env : TapIo) : NetIoHandler × Nat → Flow (NetIoHandler × Nat)
  | (h, k) =>
    match h.tx.queue.popAvail with
    | .error _ => .stop (.error "Failed to pop avail ring for net tx") (h, k)
    | .ok (elem, q) =>
      if elem.descNum == 0 then .stop (.ok ()) (h.setTxQueue q, k)
      else
        match txReadLen env h k elem with
        | .bytes _ =>
          let r := (q.addUsed elem.index 0).shouldNotify h.driverFeatures
          if r.1 && !env.irqOk k then
            .stop (.error "Failed to trigger interrupt for net") (h.setTxQueue r.2, k + 1)
          else .next (h.setTxQueue r.2, k + 1)
        | _ => .stop (.error "Failed to call writev for net handle_tx") (h.setTxQueue q, k + 1)

def handleTx (env : TapIo) (h : NetIoHandler) : Except String Unit × NetIoHandler :=
  let r := loop (txIteration env) (h.tx.queue.availRingLen.toNat + 1) (h, 0)
  (r.1, r.2.1)

/-- The tx ring after the chain `c` was sent and published with length 0. -/
def txPublished (h : NetIoHandler) (c : Chain) : SplitVring :=
  ((h.tx.queue.advance.addUsed c.index 0).shouldNotify h.driverFeatures).2

/-- `handle_tx` pops the chain `c` in this round. -/
def TxPops (h : NetIoHandler) (c : Chain) : Prop :=
  h.tx.queue.ready = true ∧ h.tx.queue.availRingLen ≠ 0 ∧
    h.tx.queue.chainAt h.tx.queue.nextAvail = some c

/-- What one round of `handle_tx` can do, with the text of each error. -/
theorem txIteration_cases (env : TapIo) (h : NetIoHandler) (k : Nat) :
    txIteration env (h, k) = .stop (.ok ()) (h, k) ∨
    txIteration env (h, k) = .stop (.error "Failed to pop avail ring for net tx") (h, k) ∨
    (∃ c n, TxPops h c ∧ txReadLen env h k c.toElement = .bytes n ∧
      (txIteration env (h, k) = .next (h.setTxQueue (txPublished h c), k + 1) ∨
        txIteration env (h, k) =
          .stop (.error "Failed to trigger interrupt for net") (h.setTxQueue (txPublished h c), k + 1))) ∨
    (∃ c, TxPops h c ∧ (∀ n, txReadLen env h k c.toElement ≠ .bytes n) ∧
      txIteration env (h, k) =
        .stop (.error "Failed to call writev for net handle_tx") (h.setTxQueue h.tx.queue.advance, k + 1)) := by
  unfold txIteration
  dsimp only
  rcases hpop : h.tx.queue.popAvail with e | ⟨elem, q⟩
  · exact .inr (.inl rfl)
  rcases SplitVring.popAvail_cases _ hpop with ⟨rfl, rfl, -⟩ | ⟨hready, hlen, c, hc, rfl, rfl⟩
  · exact .inl rfl
  have hpops : TxPops h c := ⟨hready, hlen, hc⟩
  simp only [c.descNum_pos, beq_iff_eq, if_false]
  rcases hw : txReadLen env h k c.toElement with n | _ | _ <;> simp only [hw]
  · refine .inr (.inr (.inl ⟨c, n, hpops, hw, ?_⟩))
    simp only [txPublished, Chain.toElement]
    split
    · exact .inr rfl
    · exact .inl rfl
  · exact .inr (.inr (.inr ⟨c, hpops, by simp [hw], trivial⟩))
  · exact .inr (.inr (.inr ⟨c, hpops, by simp [hw], trivial⟩))

/-- `handle_tx` changes the tx ring, nothing else. -/
theorem handleTx_frame (env : TapIo) (h : NetIoHandler) : ∃ q, (handleTx env h).2 = h.setTxQueue q := by
  refine loop_keeps (fun s => ∃ q, s.1 = h.setTxQueue q) ?_ _ (h, 0) ⟨h.tx.queue, rfl⟩
  rintro ⟨_, k⟩ s' ⟨q, rfl⟩ hb
  rcases txIteration_cases env _ k with
    h1 | h1 | ⟨c, n, -, -, h1 | h1⟩ | ⟨c, -, -, h1⟩ <;>
    rcases hb with hb | ⟨r, hb⟩ <;> rw [h1] at hb <;> cases hb <;> exact ⟨_, rfl⟩

/-- A round of `handle_tx` neither reads nor writes the rx side or `is_listening`. -/
theorem txIteration_setRx (env : TapIo) (rx : RxVirtio) (b : Bool) (h : NetIoHandler) (k : Nat) :
    txIteration env ({ h with rx := rx, isListening := b }, k) =
      (txIteration env (h, k)).map fun s => ({ s.1 with rx := rx, isListening := b }, s.2) := by
  have hw : txReadLen env { h with rx := rx, isListening := b } k = txReadLen env h k := rfl
  unfold txIteration
  dsimp only
  rw [hw]
  repeat' split
  all_goals rfl

theorem handleTx_setRx (env : TapIo) (h : NetIoHandler) (rx : RxVirtio) (b : Bool) :
    handleTx env { h with rx := rx, isListening := b } =
      ((handleTx env h).1, { (handleTx env h).2 with rx := rx, isListening := b }) :=
  congrArg (fun r => (r.1, r.2.1))
    (loop_map (fun s : NetIoHandler × Nat => ({ s.1 with rx := rx, isListening := b }, s.2))
      (fun s => txIteration_setRx env rx b s.1 s.2) (h.tx.queue.availRingLen.toNat + 1) (h, 0))

theorem txPublished_inFlight (h : NetIoHandler) (c : Chain) :
    (txPublished h c).inFlight = h.tx.queue.inFlight := by
  simp [txPublished, SplitVring.shouldNotify_snd, SplitVring.inFlight,
    add_sub_add_right_eq_sub]

theorem txPublished_availRingLen (h : NetIoHandler) (c : Chain) (hp : TxPops h c) :
    (txPublished h c).availRingLen.toNat + 1 = h.tx.queue.availRingLen.toNat := by
  simpa [txPublished, SplitVring.shouldNotify_snd, SplitVring.availRingLen] using
    SplitVring.availRingLen_pop_toNat _ _ hp.2.1

/-- One chain of one 64-byte buffer. -/
def txOneChain : Chain := ⟨0, [], [⟨0x1000, 64⟩], .inr (by simp), by decide⟩

/-- A ready ring with nothing in it. -/
def idleRing : SplitVring :=
  { ready := true, availIdx := 0, chainAt := fun _ => none, availFlags := 0, usedEvent := 0,
    nextAvail := 0, nextUsed := 0, signalUsed := 0, usedRing := [] }

/-- A handler whose tx ring holds `txOneChain` and nothing is in flight. -/
def txOneHandler : NetIoHandler :=
  { rx := ⟨false, idleRing, 1⟩,
    tx := ⟨{ idleRing with availIdx := 1, chainAt := fun _ => some txOneChain }, 2⟩,
    tap := some ⟨3⟩, tapFd := 3, driverFeatures := 0, updateEvt := 4, deactivateEvt := 5,
    isListening := true }

/-- Every `writev` on the non-blocking tap fails with `EAGAIN`. -/
def tapFull : TapIo := ⟨fun a => a, fun _ _ => .wouldBlock, fun _ => true, fun _ _ _ h => nomatch h⟩

/-- With the tap full, `handle_tx` pops the chain, gets `EAGAIN` and bails:
the chain is neither published nor pushed back, and the in-flight count goes
from 0 to 1. -/
theorem handleTx_eagain_chain_in_flight :
    (handleTx tapFull txOneHandler).1 = .error "Failed to call writev for net handle_tx" ∧
    txOneHandler.tx.queue.inFlight = 0 ∧
    (handleTx tapFull txOneHandler).2.tx.queue.inFlight = 1 ∧
    (handleTx tapFull txOneHandler).2.tx.queue.usedRing = [] :=
  ⟨rfl, rfl, rfl, rfl⟩

/-! ## What `handle_tx` sends when it succeeds -/

/-- A round of `handle_tx` that returns `Ok` found the ring not ready or empty,
and changed nothing. -/
theorem txIteration_stop_ok (env : TapIo) (h : NetIoHandler) (k : Nat) {s' : NetIoHandler × Nat}
    (hs : txIteration env (h, k) = .stop (.ok ()) s') :
    s' = (h, k) ∧ (h.tx.queue.ready = false ∨ h.tx.queue.availRingLen = 0) := by
  unfold txIteration at hs
  dsimp only at hs
  split at hs
  · cases hs
  rename_i elem q hpop
  rcases SplitVring.popAvail_cases _ hpop with ⟨rfl, rfl, hr⟩ | ⟨-, -, c, -, rfl, rfl⟩
  · cases hs
    exact ⟨rfl, hr⟩
  · simp only [c.descNum_pos, beq_iff_eq, if_false] at hs
    split at hs
    · split at hs <;> cases hs
    · cases hs

/-- `q` is the tx ring of `h` after `m` chains were sent and published, in
pop order: the `k`-th is the chain at `last_avail_idx + k`, its `writev`
(made only with a tap and a mapped buffer) went through, and it was published
once with length 0. -/
structure Sent (env : TapIo) (h : NetIoHandler) (m : Nat) (q : SplitVring) : Prop where
  ready : q.ready = h.tx.queue.ready
  availIdx : q.availIdx = h.tx.queue.availIdx
  chainAt : q.chainAt = h.tx.queue.chainAt
  nextAvail : q.nextAvail = h.tx.queue.nextAvail + UInt16.ofNat m
  nextUsed : q.nextUsed = h.tx.queue.nextUsed + UInt16.ofNat m
  len : m + q.availRingLen.toNat = h.tx.queue.availRingLen.toNat
  used : ∃ used : List UsedElem, q.usedRing = h.tx.queue.usedRing ++ used ∧ used.length = m ∧
    ∀ k < m, ∃ c n, h.tx.queue.chainAt (h.tx.queue.nextAvail + UInt16.ofNat k) = some c ∧
      txReadLen env h k c.toElement = .bytes n ∧ used[k]? = some ⟨c.index, 0⟩

theorem Sent.zero (env : TapIo) (h : NetIoHandler) : Sent env h 0 h.tx.queue :=
  ⟨rfl, rfl, rfl, (add_zero _).symm, (add_zero _).symm, by simp, [], by simp, rfl,
    fun _ h => absurd h (by omega)⟩

/-- Sending one more chain. -/
theorem Sent.succ {env : TapIo} {h h' : NetIoHandler} {m : Nat} {c : Chain} {n : Nat}
    (hr : Sent env h m h'.tx.queue) (htap : h'.tap = h.tap) (hp : TxPops h' c)
    (hn : txReadLen env h' m c.toElement = .bytes n) :
    Sent env h (m + 1) (txPublished h' c) := by
  obtain ⟨used, hu, hlen, hall⟩ := hr.used
  have hc : h.tx.queue.chainAt (h.tx.queue.nextAvail + UInt16.ofNat m) = some c := by
    rw [← hr.chainAt, ← hr.nextAvail]; exact hp.2.2
  have hw : txReadLen env h m c.toElement = .bytes n := by
    rw [← hn]; unfold txReadLen; rw [htap]
  refine ⟨by simp [txPublished, SplitVring.shouldNotify_snd, hr.ready],
    by simp [txPublished, SplitVring.shouldNotify_snd, hr.availIdx],
    by simp [txPublished, SplitVring.shouldNotify_snd, hr.chainAt],
    by simp [txPublished, SplitVring.shouldNotify_snd, hr.nextAvail, SplitVring.u16_ofNat_succ, add_assoc],
    by simp [txPublished, SplitVring.shouldNotify_snd, hr.nextUsed, SplitVring.u16_ofNat_succ, add_assoc],
    by have := txPublished_availRingLen h' c hp; have := hr.len; omega,
    used ++ [⟨c.index, 0⟩], by simp [txPublished, SplitVring.shouldNotify_snd, hu], by simp [hlen],
    fun k hk => ?_⟩
  rcases Nat.lt_succ_iff_lt_or_eq.mp hk with hk | rfl
  · obtain ⟨c', n', h1, h2, h3⟩ := hall k hk
    exact ⟨c', n', h1, h2, by rw [List.getElem?_append_left (by omega)]; exact h3⟩
  · exact ⟨c, n, hc, hw, by simp [← hlen]⟩

/-- **`handle_tx` sends everything it is offered.**  When `handle_tx` returns
`Ok` it has sent `m` chains in pop order — the `k`-th the chain at
`last_avail_idx + k`, its `writev` through, published once with length 0 —
and, with the ring ready, `m` is the whole `avail_ring_len` it started
from: no offered chain waits for the next kick. -/
theorem handleTx_sends (env : TapIo) (h : NetIoHandler) (hok : (handleTx env h).1 = .ok ()) :
    ∃ m, Sent env h m (handleTx env h).2.tx.queue ∧
      (h.tx.queue.ready = true → m = h.tx.queue.availRingLen.toNat) := by
  let P : NetIoHandler × Nat → Prop := fun s => s.1.tap = h.tap ∧ Sent env h s.2 s.1.tx.queue
  let Q : Except String Unit × (NetIoHandler × Nat) → Prop := fun r => r.1 = .ok () →
    ∃ m, Sent env h m r.2.1.tx.queue ∧ (h.tx.queue.ready = true → m = h.tx.queue.availRingLen.toNat)
  have hQ : Q (loop (txIteration env) (h.tx.queue.availRingLen.toNat + 1) (h, 0)) := by
    refine loop_induction (fun s => s.1.tx.queue.availRingLen.toNat) P Q ?_ ?_ _ (h, 0) ⟨rfl, Sent.zero env h⟩
      (Nat.lt_succ_self _)
    · rintro ⟨h', k⟩ s' ⟨htap, hr⟩ hb
      rcases txIteration_cases env h' k with
        h1 | h1 | ⟨c, n, hp, hn, h1 | h1⟩ | ⟨c, -, -, h1⟩ <;> rw [h1] at hb <;> cases hb
      exact ⟨⟨htap, hr.succ htap hp hn⟩,
        by have := txPublished_availRingLen h' c hp; simp only [NetIoHandler.setTxQueue_tx_queue]; omega⟩
    · rintro ⟨h', k⟩ r s' ⟨-, hr⟩ hb rfl
      obtain ⟨rfl, hdone⟩ := txIteration_stop_ok env h' k hb
      have hlen : k + h'.tx.queue.availRingLen.toNat = h.tx.queue.availRingLen.toNat := hr.len
      refine ⟨k, hr, fun hready => ?_⟩
      rcases hdone with hn | hz
      · rw [← hr.ready, hn] at hready; cases hready
      · rw [hz] at hlen; exact hlen
  exact hQ hok

/-- A tap that takes every byte it is given. -/
def tapTakesAll : TapIo :=
  ⟨fun a => a, fun _ iovs => .bytes (iovs.map (·.len)).sum, fun _ => true,
    fun _ _ _ h => (IoResult.bytes.inj h) ▸ le_rfl⟩

theorem tx_one_sent :
    (handleTx tapTakesAll txOneHandler).1 = .ok () ∧
      ∃ m, Sent tapTakesAll txOneHandler m (handleTx tapTakesAll txOneHandler).2.tx.queue ∧
        (txOneHandler.tx.queue.ready = true → m = txOneHandler.tx.queue.availRingLen.toNat) :=
  have h : (handleTx tapTakesAll txOneHandler).1 = .ok () := rfl
  ⟨h, handleTx_sends tapTakesAll txOneHandler h⟩

end StratoVirt.Virtio
