/-
# `StratoVirt.Net.Notifiers` — one `NetIoHandler` and the event loop

`virtio/src/net.rs`, lines 449–672: the notifier batches a pair handler hands
to the event loop.  `internal_notifiers` registers five closures, one per fd
the handler owns — `update_evt`, `deactivate_evt`, the rx and tx queue
events, and the tap when there is one — and each closure returns a batch:

* the update handler takes the tap sent on its channel, deletes the update,
  rx, tx and old tap fds, and calls `internal_notifiers` again;
* the deactivate handler deletes the four event fds and the tap fd;
* the rx-kick handler resumes a parked tap;
* the tap handler runs `handle_rx` and parks the tap when the ring is full;
* the tx-kick handler runs `handle_tx` and returns nothing.

`NetLoop` is the registry together with the handler; `NetLoop.step` fires one
fd.

**Proved here.**

    the deactivate batch removes every fd the handler owns            (`deactivateEvtHandler_removes`)
    an update keeps update_evt registered once and appends one
    more deactivate handler to deactivate_evt                         (`updateEvtHandler_control`)
    after n updates deactivate_evt holds n + 1 deactivate handlers     (`updates_stack_deactivate`)
    so the deactivate event then deletes fds already removed          (`update_then_deactivate`)
    an update after a park registers the new tap alive while
    is_listening stays false, and the next rx kick resumes it         (`park_update_kick`)
-/
import StratoVirt.EventLoop
import StratoVirt.Net.Datapath

namespace StratoVirt.Virtio

open StratoVirt.EventLoop

/-- The closures `internal_notifiers` builds, by what they do. -/
inductive NetHandler where
  | update
  | deactivate
  | rx
  | tx
  | tap
deriving DecidableEq, Repr

/-- `build_event_notifier`. -/
def buildEventNotifier (fd : Int) (handler : Option NetHandler) (op : NotifierOperation)
    (event : UInt32) : EventNotifier NetHandler :=
  ⟨op, fd, event, handler.toList⟩

/-- `EventNotifierHelper::internal_notifiers` for `NetIoHandler`. -/
def internalNotifiers (h : NetIoHandler) : List (EventNotifier NetHandler) :=
  [buildEventNotifier h.updateEvt (some .update) .addShared eventSetIn,
    buildEventNotifier h.deactivateEvt (some .deactivate) .addShared eventSetIn,
    buildEventNotifier h.rx.queueEvt (some .rx) .addShared eventSetIn,
    buildEventNotifier h.tx.queueEvt (some .tx) .addShared eventSetIn] ++
  match h.tap with
  | some tap => [buildEventNotifier tap.fd (some .tap) .addShared (eventSetIn ||| eventSetEdgeTriggered)]
  | none => []

/-- `update_evt_handler`: `received` is what `receiver.recv()` gave, `None`
also when it failed. -/
def updateEvtHandler (received : Option Tap) (h : NetIoHandler) :
    NetIoHandler × List (EventNotifier NetHandler) :=
  let oldTapFd := h.tapFd
  let h := { h with tap := received, tapFd := match received with | some t => t.fd | none => -1 }
  let notifiers :=
    [buildEventNotifier h.updateEvt none .delete eventSetIn,
      buildEventNotifier h.rx.queueEvt none .delete eventSetIn,
      buildEventNotifier h.tx.queueEvt none .delete eventSetIn] ++
    (if oldTapFd ≠ -1 then [buildEventNotifier oldTapFd none .delete eventSetIn] else [])
  (h, notifiers ++ internalNotifiers h)

/-- `deactivate_evt_handler`. -/
def deactivateEvtHandler (h : NetIoHandler) : NetIoHandler × List (EventNotifier NetHandler) :=
  let notifiers : List (EventNotifier NetHandler) :=
    [⟨.delete, h.updateEvt, eventSetIn, []⟩, ⟨.delete, h.deactivateEvt, eventSetIn, []⟩,
      ⟨.delete, h.rx.queueEvt, eventSetIn, []⟩, ⟨.delete, h.tx.queueEvt, eventSetIn, []⟩]
  if h.tapFd ≠ -1 then
    ({ h with tapFd := -1 }, notifiers ++ [⟨.delete, h.tapFd, eventSetIn, []⟩])
  else (h, notifiers)

/-- The rx queue-event closure. -/
def rxKickHandler (h : NetIoHandler) : NetIoHandler × List (EventNotifier NetHandler) :=
  match h.tap with
  | some tap =>
      if !h.isListening then ({ h with isListening := true }, [⟨.resume, tap.fd, eventSetIn, []⟩])
      else (h, [])
  | none => (h, [])

/-- The tap closure.  An error of `handle_rx` goes to `report_virtio_error`,
which raises the config interrupt and signals `deactivate_evt`: it changes
nothing here, and the deactivate event is one `NetLoop` can fire. -/
def tapHandler (env : TapIo) (h : NetIoHandler) : NetIoHandler × List (EventNotifier NetHandler) :=
  let h := (handleRx env h).2
  match h.tap with
  | some tap =>
      if h.rx.queueFull then
        ({ h.setQueueFull false with isListening := false },
          [⟨.park, tap.fd, eventSetIn ||| eventSetEdgeTriggered, []⟩])
      else (h, [])
  | none => (h, [])

/-- Run one closure; `env` is the host during it, `received` what the channel
holds for an update. -/
def runNetHandler (env : TapIo) (received : Option Tap) (h : NetIoHandler) :
    NetHandler → NetIoHandler × List (EventNotifier NetHandler)
  | .update => updateEvtHandler received h
  | .deactivate => deactivateEvtHandler h
  | .rx => rxKickHandler h
  | .tx => ((handleTx env h).2, [])
  | .tap => tapHandler env h

/-- The registry and the one handler whose fds are in it. -/
structure NetLoop where
  reg : Registry NetHandler
  h : NetIoHandler

namespace NetLoop

/-- After `activate`: the handler's `internal_notifiers` applied to `reg`. -/
def activate (reg : Registry NetHandler) (h : NetIoHandler) : NetLoop :=
  ⟨reg.applyBatch (internalNotifiers h), h⟩

/-- The batch firing `fd` applies. -/
def batch (s : NetLoop) (env : TapIo) (received : Option Tap) (fd : Int) :
    List (EventNotifier NetHandler) :=
  (fire (runNetHandler env received) s.reg s.h fd).2.2

def step (s : NetLoop) (env : TapIo) (received : Option Tap) (fd : Int) : NetLoop :=
  let r := fire (runNetHandler env received) s.reg s.h fd
  ⟨r.1, r.2.1⟩

end NetLoop

/-! ## A pair handler

A pair handler with rx queue event 1, tx queue event 2, `update_evt` 4 and
`deactivate_evt` 5, both rings empty; with a tap its fd is 3. -/

/-- A ready ring with nothing in it. -/
def emptyRing : SplitVring :=
  { ready := true, availIdx := 0, chainAt := fun _ => none, availFlags := 0, usedEvent := 0,
    nextAvail := 0, nextUsed := 0, signalUsed := 0, usedRing := [] }

def pairHandler (tap : Option Tap) : NetIoHandler :=
  { rx := ⟨false, emptyRing, 1⟩, tx := ⟨emptyRing, 2⟩, tap := tap,
    tapFd := match tap with | some t => t.fd | none => -1,
    driverFeatures := 0, updateEvt := 4, deactivateEvt := 5, isListening := true }

/-- A host whose tap never has a packet and whose interrupts go through. -/
def quietHost : TapIo := ⟨fun a => a, fun _ _ => .wouldBlock, fun _ => true, fun _ _ _ h => nomatch h⟩

/-! ## What the batches do -/

/-- The deactivate batch deletes the four event fds, and the tap's fd when there is one. -/
theorem deactivateEvtHandler_batch (h : NetIoHandler) :
    (∀ n ∈ (deactivateEvtHandler h).2, n.op = .delete) ∧
    (deactivateEvtHandler h).2.map (·.rawFd) =
      [h.updateEvt, h.deactivateEvt, h.rx.queueEvt, h.tx.queueEvt] ++ if h.tapFd ≠ -1 then [h.tapFd] else [] := by
  unfold deactivateEvtHandler
  split <;> simp [*]

/-- The deactivate batch removes every fd the handler owns, whatever the registry held. -/
theorem deactivateEvtHandler_removes (reg : Registry NetHandler) (h : NetIoHandler) (fd : Int)
    (hfd : fd = h.updateEvt ∨ fd = h.deactivateEvt ∨ fd = h.rx.queueEvt ∨ fd = h.tx.queueEvt ∨
      (h.tapFd ≠ -1 ∧ fd = h.tapFd)) :
    reg.applyBatch (deactivateEvtHandler h).2 fd = none := by
  obtain ⟨hops, hfds⟩ := deactivateEvtHandler_batch h
  rw [Registry.applyBatch_deletes _ _ _ hops, hfds, if_pos]
  rcases hfd with rfl | rfl | rfl | rfl | ⟨hne, rfl⟩ <;> simp [*]

/-- `update_evt` and `deactivate_evt` are apart from each other and from the
handler's other fds: its queue events and the tap it holds, if any. -/
def ControlFdsApart (h : NetIoHandler) : Prop :=
  h.tapFd = (h.tap.map (·.fd)).getD (-1) ∧ h.updateEvt ≠ h.deactivateEvt ∧
    h.rx.queueEvt ≠ h.updateEvt ∧ h.rx.queueEvt ≠ h.deactivateEvt ∧
    h.tx.queueEvt ≠ h.updateEvt ∧ h.tx.queueEvt ≠ h.deactivateEvt ∧
    ∀ t ∈ h.tap, t.fd ≠ h.updateEvt ∧ t.fd ≠ h.deactivateEvt

@[simp] theorem updateEvtHandler_updateEvt (r : Option Tap) (h : NetIoHandler) :
    (updateEvtHandler r h).1.updateEvt = h.updateEvt := rfl
@[simp] theorem updateEvtHandler_deactivateEvt (r : Option Tap) (h : NetIoHandler) :
    (updateEvtHandler r h).1.deactivateEvt = h.deactivateEvt := rfl

theorem updateEvtHandler_control {reg : Registry NetHandler} (r : Option Tap) {h : NetIoHandler}
    (hh : ControlFdsApart h) (hr : ∀ t ∈ r, t.fd ≠ h.updateEvt ∧ t.fd ≠ h.deactivateEvt)
    {st : EventStatus} {hs : List NetHandler} (hD : reg h.deactivateEvt = some (st, hs)) :
    reg.applyBatch (updateEvtHandler r h).2 h.updateEvt = some (.alive, [.update]) ∧
    reg.applyBatch (updateEvtHandler r h).2 h.deactivateEvt = some (st, hs ++ [.deactivate]) ∧
    ControlFdsApart (updateEvtHandler r h).1 := by
  obtain ⟨hsync, hUD, hRU, hRD, hTU, hTD, hold⟩ := hh
  have hold' : h.tapFd ≠ -1 → h.updateEvt ≠ h.tapFd ∧ h.deactivateEvt ≠ h.tapFd := by
    cases ht : h.tap with
    | none => simp [hsync, ht]
    | some t => simpa [hsync, ht, eq_comm] using fun _ => hold t ht
  have hr' : ∀ t, r = some t → h.updateEvt ≠ t.fd ∧ h.deactivateEvt ≠ t.fd :=
    fun t ht => ⟨(hr t ht).1.symm, (hr t ht).2.symm⟩
  clear hsync hold hr
  have := hUD.symm; have := hRU.symm; have := hRD.symm; have := hTU.symm; have := hTD.symm
  by_cases hm : h.tapFd = -1 <;> rcases r with _ | t <;>
    simp [updateEvtHandler, internalNotifiers, buildEventNotifier, Registry.applyBatch_append,
      Registry.apply, ControlFdsApart, *] <;>
    exact ⟨(hr' t rfl).1.symm, (hr' t rfl).2.symm⟩

/-- Activation registers `update_evt` and `deactivate_evt` with one handler each. -/
theorem activate_control (h : NetIoHandler) (hh : ControlFdsApart h) :
    (NetLoop.activate Registry.empty h).reg h.updateEvt = some (.alive, [.update]) ∧
    (NetLoop.activate Registry.empty h).reg h.deactivateEvt = some (.alive, [.deactivate]) := by
  obtain ⟨-, hUD, hRU, hRD, hTU, hTD, hold⟩ := hh
  have := hUD.symm; have := hRU.symm; have := hRD.symm; have := hTU.symm; have := hTD.symm
  cases ht : h.tap with
  | none =>
      simp [NetLoop.activate, internalNotifiers, buildEventNotifier, Registry.applyBatch_append,
        Registry.apply, Registry.empty, ht, *]
  | some t =>
      have ho := hold t ht
      have := ho.1.symm; have := ho.2.symm
      simp [NetLoop.activate, internalNotifiers, buildEventNotifier, Registry.applyBatch_append,
        Registry.apply, Registry.empty, ht, *]

/-- Update events carrying `rs`, each delivered to `update_evt`. -/
def NetLoop.updates (env : TapIo) : NetLoop → List (Option Tap) → NetLoop
  | s, [] => s
  | s, r :: rs => NetLoop.updates env (s.step env r s.h.updateEvt) rs

/-- Each update event adds one more deactivate handler to `deactivate_evt`. -/
theorem updates_deactivate (env : TapIo) :
    ∀ (rs : List (Option Tap)) (s : NetLoop) {st : EventStatus} {hs : List NetHandler},
      ControlFdsApart s.h → (∀ r ∈ rs, ∀ t ∈ r, t.fd ≠ s.h.updateEvt ∧ t.fd ≠ s.h.deactivateEvt) →
      s.reg s.h.updateEvt = some (.alive, [.update]) → s.reg s.h.deactivateEvt = some (st, hs) →
      (s.updates env rs).reg s.h.deactivateEvt = some (st, hs ++ List.replicate rs.length .deactivate)
  | [], s, _, _, _, _, _, hD => by simpa [NetLoop.updates] using hD
  | r :: rs, s, st, hs, hh, hrs, hU, hD => by
      obtain ⟨hU', hD', hh'⟩ := updateEvtHandler_control r hh (hrs r (.head _)) hD
      have hstep : s.step env r s.h.updateEvt =
          ⟨s.reg.applyBatch (updateEvtHandler r s.h).2, (updateEvtHandler r s.h).1⟩ := by
        simp only [NetLoop.step, fire_single _ _ _ hU, runNetHandler]
      have ih := updates_deactivate env rs ⟨_, _⟩ hh' (fun r' hr' => by simpa using hrs r' (.tail _ hr'))
        (by simpa using hU') (by simpa using hD')
      rw [NetLoop.updates, hstep]
      simpa [List.replicate_succ] using ih

/-- After activation and any number of updates whose taps stay apart from the
control fds, `deactivate_evt` holds one deactivate handler per update, plus
the one activation registered. -/
theorem updates_stack_deactivate (env : TapIo) (h : NetIoHandler) (hh : ControlFdsApart h)
    (rs : List (Option Tap)) (hrs : ∀ r ∈ rs, ∀ t ∈ r, t.fd ≠ h.updateEvt ∧ t.fd ≠ h.deactivateEvt) :
    ((NetLoop.activate Registry.empty h).updates env rs).reg h.deactivateEvt =
      some (.alive, List.replicate (rs.length + 1) .deactivate) := by
  obtain ⟨hU, hD⟩ := activate_control h hh
  simpa [List.replicate_succ] using updates_deactivate env rs _ hh hrs hU hD

theorem two_updates_three_deactivates :
    ((NetLoop.activate Registry.empty (pairHandler none)).updates quietHost [none, none]).reg 5 =
      some (.alive, [.deactivate, .deactivate, .deactivate]) :=
  updates_stack_deactivate quietHost (pairHandler none)
    ⟨rfl, by decide, by decide, by decide, by decide, by decide, fun _ ht => nomatch ht⟩ [none, none] (by simp)

/-! ## Two interleavings -/

/-- The handler with no tap, once activated and sent one update carrying `None`. -/
def updatedOnce : NetLoop := (NetLoop.activate Registry.empty (pairHandler none)).step quietHost none 4

/-- After one update carrying `None`, `deactivate_evt` holds two deactivate
handlers: the update batch re-adds it without deleting it.  The deactivate
event then runs both, and the second batch deletes fds the first has already
removed.  (All five fds are gone afterwards.) -/
theorem update_then_deactivate :
    updatedOnce.reg 5 = some (.alive, [.deactivate, .deactivate]) ∧
    updatedOnce.reg.batchOk (updatedOnce.batch quietHost none 5) = false ∧
    ((updatedOnce.step quietHost none 5).reg 4, (updatedOnce.step quietHost none 5).reg 5,
      (updatedOnce.step quietHost none 5).reg 1, (updatedOnce.step quietHost none 5).reg 2) =
      (none, none, none, none) := by
  decide

/-- The handler with tap 3 after a tap event on its empty rx ring. -/
def parkedTap : NetLoop := (NetLoop.activate Registry.empty (pairHandler (some ⟨3⟩))).step quietHost none 3

/-- Then an update bringing tap 6. -/
def updatedTap : NetLoop := parkedTap.step quietHost (some ⟨6⟩) 4

/-- The tap is parked when the rx ring is full; an update then brings a new
tap, registered alive, while `is_listening` stays `false`; the next rx kick
resumes that alive fd. -/
theorem park_update_kick :
    parkedTap.reg 3 = some (.parked, [.tap]) ∧ parkedTap.h.isListening = false ∧
    updatedTap.h.tap = some ⟨6⟩ ∧ updatedTap.reg 6 = some (.alive, [.tap]) ∧
    updatedTap.h.isListening = false ∧
    updatedTap.batch quietHost none 1 = [⟨.resume, 6, eventSetIn, []⟩] ∧
    updatedTap.reg.batchOk (updatedTap.batch quietHost none 1) = false := by
  decide

end StratoVirt.Virtio
