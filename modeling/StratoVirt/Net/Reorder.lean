/-
# `StratoVirt.Net.Reorder` — a tx kick commutes with the rx side

`virtio/src/net.rs`, lines 295–447 and 557–671.  The closures of a pair
handler share one `NetIoHandler` behind one lock, but the tx queue's closure
and the rx side touch disjoint parts of it:

* `handle_tx` reads the tx ring, the tap and `driver_features`, and writes
  the tx ring; it returns no notifiers;
* the rx queue's closure reads the tap and `is_listening`, sets
  `is_listening` and resumes the tap's fd; the tap's closure runs
  `handle_rx`, which reads the rx side, the tap and `driver_features` and
  writes the rx side, and parks the tap's fd when the rx ring is full.

Neither changes what the other's fd holds in the registry.  So on a live
handler (`NetLive`) a tx kick can be moved past any number of rx kicks, tap
events and events on fds the handler does not hold, each with its own host:
the registry and the handler come out the same.  The other fds do not
commute with it: an update replaces the tap `handle_tx` writes to, and
`deactivate_evt` removes the tx queue's fd.

**Proved here.**

    a tx kick and an event on any fd but update_evt, deactivate_evt
    and the tx queue's own commute on a live handler                    (`NetLoop.step_tx_comm`)
    from activation, after any run that has not fired deactivate_evt,
    a tx kick gives the same registry and handler whether it comes
    before a sequence of such events or after it                        (`netLoop_tx_reorder`)
-/
import StratoVirt.Net.IoLoop

namespace StratoVirt.Virtio

open StratoVirt.EventLoop

/-! ## The rx side's closures and `handle_tx` -/

theorem rxKickHandler_setTxQueue (h : NetIoHandler) (q : SplitVring) :
    rxKickHandler (h.setTxQueue q) = ((rxKickHandler h).1.setTxQueue q, (rxKickHandler h).2) := by
  unfold rxKickHandler
  dsimp only [NetIoHandler.setTxQueue]
  split
  · split <;> rfl
  · rfl

/-- The rx kick changes `is_listening` only. -/
theorem rxKickHandler_frame (h : NetIoHandler) : ∃ b, (rxKickHandler h).1 = { h with isListening := b } := by
  unfold rxKickHandler
  split
  · split
    · exact ⟨true, rfl⟩
    · exact ⟨h.isListening, rfl⟩
  · exact ⟨h.isListening, rfl⟩

theorem tapHandler_setTxQueue (env : TapIo) (h : NetIoHandler) (q : SplitVring) :
    tapHandler env (h.setTxQueue q) = ((tapHandler env h).1.setTxQueue q, (tapHandler env h).2) := by
  simp only [tapHandler, handleRx_setTxQueue]
  generalize (handleRx env h).2 = g
  dsimp only [NetIoHandler.setTxQueue]
  split
  · split <;> rfl
  · rfl

/-- The tap's closure changes the rx side and `is_listening` only. -/
theorem tapHandler_frame (env : TapIo) (h : NetIoHandler) :
    ∃ rx b, (tapHandler env h).1 = { h with rx := rx, isListening := b } := by
  obtain ⟨q, b, hq⟩ := handleRx_frame env h
  simp only [tapHandler, hq]
  split
  · split
    · exact ⟨_, false, rfl⟩
    · exact ⟨_, h.isListening, rfl⟩
  · exact ⟨_, h.isListening, rfl⟩

/-- The rx kick and the tap's closure run on the handler `handle_tx` leaves
as on the one before it: same batch, and the handler is the one `handle_tx`
leaves after them. -/
theorem runNetHandler_handleTx (envT env : TapIo) (r : Option Tap) (h : NetIoHandler) {hk : NetHandler}
    (hk' : hk = .rx ∨ hk = .tap) :
    runNetHandler env r (handleTx envT h).2 hk =
      ((handleTx envT (runNetHandler env r h hk).1).2, (runNetHandler env r h hk).2) := by
  obtain ⟨q, hq⟩ := handleTx_frame envT h
  have hcomm : runNetHandler env r (h.setTxQueue q) hk =
      ((runNetHandler env r h hk).1.setTxQueue q, (runNetHandler env r h hk).2) := by
    rcases hk' with rfl | rfl
    · exact rxKickHandler_setTxQueue h q
    · exact tapHandler_setTxQueue env h q
  have hframe : ∃ rx b, (runNetHandler env r h hk).1 = { h with rx := rx, isListening := b } := by
    rcases hk' with rfl | rfl
    · obtain ⟨b, hb⟩ := rxKickHandler_frame h
      exact ⟨h.rx, b, hb⟩
    · exact tapHandler_frame env h
  obtain ⟨rx, b, hf⟩ := hframe
  rw [hq, hcomm, hf, handleTx_setRx, hq]
  rfl

/-! ## One swap -/

section
variable {s : NetLoop} {k : Nat} {st : EventStatus} (hs : NetLive s k st)
include hs

/-- Past `update_evt`, `deactivate_evt` and the tx queue's fd, the live table
holds the rx kick or the tap's closure alive, or nothing that runs. -/
theorem NetLive.queue_closure {fd : Int} (hu : fd ≠ s.h.updateEvt) (hd : fd ≠ s.h.deactivateEvt)
    (hx : fd ≠ s.h.tx.queueEvt) :
    (∀ hks, s.reg fd ≠ some (.alive, hks)) ∨ ∃ hk, (hk = .rx ∨ hk = .tap) ∧ s.reg fd = some (.alive, [hk]) := by
  rw [hs.2.1]
  unfold netLive
  simp only [hu, hd, hx, if_false]
  split_ifs
  · exact .inr ⟨.rx, .inl rfl, rfl⟩
  split
  · split_ifs
    · cases st
      · exact .inr ⟨.tap, .inr rfl, rfl⟩
      · exact .inl fun _ h => nomatch h
    · exact .inl nofun
  · exact .inl nofun

/-- **A tx kick and an rx-side event commute.**  On a live handler, a tx
kick and an event on any fd but `update_evt`, `deactivate_evt` and the tx
queue's own, each with its own host, give the same registry and handler in
either order. -/
theorem NetLoop.step_tx_comm (envT env : TapIo) (rT r : Option Tap) {fd : Int} (hu : fd ≠ s.h.updateEvt)
    (hd : fd ≠ s.h.deactivateEvt) (hx : fd ≠ s.h.tx.queueEvt) :
    (s.step envT rT s.h.tx.queueEvt).step env r fd = (s.step env r fd).step envT rT s.h.tx.queueEvt := by
  obtain ⟨st', hl, hf⟩ := NetLoop.step_queue hs env r hu hd
  have htx : (s.step env r fd).h.tx.queueEvt = s.h.tx.queueEvt := congrArg (·.2.2.2) hf
  rw [NetLoop.step_tx_eq hs, ← htx, NetLoop.step_tx_eq hl]
  rcases hs.queue_closure hu hd hx with hn | ⟨hk, hk', h1⟩
  · rw [s.step_of_not_alive env r hn, NetLoop.step_of_not_alive ⟨s.reg, (handleTx envT s.h).2⟩ env r hn]
  · rw [s.step_single env r h1, NetLoop.step_single ⟨s.reg, (handleTx envT s.h).2⟩ env r h1,
      runNetHandler_handleTx envT env r s.h hk']

end

/-! ## Every run -/

theorem NetLoop.run_tx_defer (h0 : NetIoHandler) (eT : NetEvent) (htx : eT.fd = h0.tx.queueEvt) :
    ∀ (es : List NetEvent) (s : NetLoop) (k : Nat) (st : EventStatus), NetLive s k st → fdsOf s.h = fdsOf h0 →
      (∀ e ∈ es, e.fd ≠ h0.updateEvt ∧ e.fd ≠ h0.deactivateEvt ∧ e.fd ≠ h0.tx.queueEvt) →
      s.run (eT :: es) = s.run (es ++ [eT])
  | [], _, _, _, _, _, _ => rfl
  | e :: es, s, k, st, hs, hf, hes => by
      obtain ⟨hu, hd, hx⟩ := hes e (.head _)
      have hu' : s.h.updateEvt = h0.updateEvt := congrArg (·.1) hf
      have hd' : s.h.deactivateEvt = h0.deactivateEvt := congrArg (·.2.1) hf
      have hx' : s.h.tx.queueEvt = h0.tx.queueEvt := congrArg (·.2.2.2) hf
      obtain ⟨st', hl, hf'⟩ := NetLoop.step_queue hs e.env e.received (hu'.symm ▸ hu) (hd'.symm ▸ hd)
      have ih := run_tx_defer h0 eT htx es _ _ st' hl (hf'.trans hf) fun e' he' => hes e' (.tail _ he')
      simp only [run, List.cons_append] at ih ⊢
      rw [htx, ← hx', NetLoop.step_tx_comm hs _ _ _ _ (hu'.symm ▸ hu) (hd'.symm ▸ hd) (hx'.symm ▸ hx), hx', ← htx]
      exact ih

/-- **A tx kick can wait.**  From activation on an empty registry, after any
run that has not fired `deactivate_evt` (any hosts, any valid taps sent on
the channel), a tx kick followed by a sequence of events on fds other than
`update_evt`, `deactivate_evt` and the tx queue's — rx kicks, tap events,
fds the handler does not hold — leaves the same registry and handler as the
sequence followed by the tx kick. -/
theorem netLoop_tx_reorder (h : NetIoHandler) (hh : FdsApart h) (pre es : List NetEvent) (eT : NetEvent)
    (hpre : ∀ e ∈ pre, ∀ t ∈ e.received, TapApart h t) (hlive : pre.any (·.fd == h.deactivateEvt) = false)
    (htx : eT.fd = h.tx.queueEvt)
    (hes : ∀ e ∈ es, e.fd ≠ h.updateEvt ∧ e.fd ≠ h.deactivateEvt ∧ e.fd ≠ h.tx.queueEvt) :
    (NetLoop.activate Registry.empty h).run (pre ++ eT :: es) =
      (NetLoop.activate Registry.empty h).run (pre ++ es ++ [eT]) := by
  obtain ⟨hf, -, hl⟩ := NetLoop.run_live h pre _ 0 .alive ⟨hh, activate_table hh, fun h => nomatch h⟩ rfl hpre
  obtain ⟨st, hs⟩ := hl hlive
  rw [List.append_assoc, NetLoop.run_append, NetLoop.run_append]
  exact NetLoop.run_tx_defer h eT htx es _ _ st hs hf hes

/-- A tx kick on the pair handler's tx queue. -/
def txKick : NetEvent := ⟨quietHost, none, 2⟩

/-- An rx kick, then an event on the tap `tapUpdateKick` ends with. -/
def rxThenTap : List NetEvent := [⟨quietHost, none, 1⟩, ⟨quietHost, none, 6⟩]

theorem tx_kick_waits :
    FdsApart (pairHandler (some ⟨3⟩)) ∧
      (∀ e ∈ tapUpdateKick, ∀ t ∈ e.received, TapApart (pairHandler (some ⟨3⟩)) t) ∧
      tapUpdateKick.any (·.fd == (pairHandler (some ⟨3⟩)).deactivateEvt) = false ∧
      txKick.fd = (pairHandler (some ⟨3⟩)).tx.queueEvt ∧
      (∀ e ∈ rxThenTap, e.fd ≠ (pairHandler (some ⟨3⟩)).updateEvt ∧
        e.fd ≠ (pairHandler (some ⟨3⟩)).deactivateEvt ∧ e.fd ≠ (pairHandler (some ⟨3⟩)).tx.queueEvt) ∧
      (NetLoop.activate Registry.empty (pairHandler (some ⟨3⟩))).run (tapUpdateKick ++ txKick :: rxThenTap) =
        (NetLoop.activate Registry.empty (pairHandler (some ⟨3⟩))).run (tapUpdateKick ++ rxThenTap ++ [txKick]) :=
  ⟨by decide, by decide, by decide, rfl, by decide,
    netLoop_tx_reorder (pairHandler (some ⟨3⟩)) (by decide) tapUpdateKick rxThenTap txKick (by decide) (by decide) rfl
      (by decide)⟩

end StratoVirt.Virtio
