/-
# `StratoVirt.Net.CtrlNotifiers` — the control handler in the event loop

`virtio/src/net.rs`, lines 188–251.  `NetCtrlHandler::internal_notifiers`
registers two closures with `AddShared`: on the control queue's event fd one
that runs `handle_ctrl`, and on `deactivate_evt` one that returns
`deactivate_evt_handler()`, the deletion of both fds.  The ctrl closure
returns no notifiers; an error of `handle_ctrl` is logged and handed to
`report_virtio_error`, which raises the config interrupt and signals
`deactivate_evt`.  Nothing changes in the registry then, and the deactivate
event is one the loop can fire.

`CtrlLoop` is the registry with the handler, from the registry
`internal_notifiers` makes of an empty one (`CtrlLoop.activate`).  A run is
any sequence of events: the fd that fires, with the guest memory and the
interrupt outcome of that moment, which the guest and the host choose.  The
memory `handle_ctrl` leaves is not kept: the next event brings its own.

**Proved here.**

    along every run from activation, whatever fds fire in whatever
    order, the registry holds the two fds with one closure each until
    the deactivate fd fires, and nothing once it has; every batch the
    loop applies finds each fd it names registered                     (`ctrlLoop_run`)
-/
import StratoVirt.Net.Ctrl

namespace StratoVirt.Virtio

open StratoVirt.EventLoop

/-- The closures `NetCtrlHandler::internal_notifiers` builds, by what they do. -/
inductive CtrlClosure where
  | ctrl
  | deactivate
deriving DecidableEq, Repr

/-- `NetCtrlHandler::internal_notifiers`: `build_event_notifier(fd, Some(h),
AddShared, IN)` for the control queue's event fd and for `deactivate_evt`. -/
def NetCtrlHandler.internalNotifiers (h : NetCtrlHandler) : List (EventNotifier CtrlClosure) :=
  [⟨.addShared, h.queueEvt, eventSetIn, [.ctrl]⟩, ⟨.addShared, h.deactivateEvt, eventSetIn, [.deactivate]⟩]

/-- `NetCtrlHandler::deactivate_evt_handler`. -/
def NetCtrlHandler.deactivateEvtHandler (h : NetCtrlHandler) : List (EventNotifier CtrlClosure) :=
  [⟨.delete, h.queueEvt, eventSetIn, []⟩, ⟨.delete, h.deactivateEvt, eventSetIn, []⟩]

/-- Run one closure, with the guest memory and the interrupt outcome of the
moment. -/
def runCtrlClosure (mem : GuestMem) (irqOk : Bool) (h : NetCtrlHandler) :
    CtrlClosure → NetCtrlHandler × List (EventNotifier CtrlClosure)
  | .ctrl => ((h.handleCtrl mem irqOk).2.1, [])
  | .deactivate => (h, h.deactivateEvtHandler)

/-- One event: the guest memory, whether the interrupt goes through, and the
fd that fired. -/
structure CtrlEvent where
  mem : GuestMem
  irqOk : Bool
  fd : Int

structure CtrlLoop where
  reg : Registry CtrlClosure
  h : NetCtrlHandler

namespace CtrlLoop

def activate (h : NetCtrlHandler) : CtrlLoop := ⟨Registry.empty.applyBatch h.internalNotifiers, h⟩

def fireEvent (s : CtrlLoop) (e : CtrlEvent) :
    Registry CtrlClosure × NetCtrlHandler × List (EventNotifier CtrlClosure) :=
  fire (runCtrlClosure e.mem e.irqOk) s.reg s.h e.fd

def step (s : CtrlLoop) (e : CtrlEvent) : CtrlLoop := ⟨(s.fireEvent e).1, (s.fireEvent e).2.1⟩

def run : CtrlLoop → List CtrlEvent → CtrlLoop
  | s, [] => s
  | s, e :: es => (s.step e).run es

/-- Whether every batch along the run finds its fds as it needs. -/
def runOk : CtrlLoop → List CtrlEvent → Bool
  | _, [] => true
  | s, e :: es => s.reg.batchOk (s.fireEvent e).2.2 && (s.step e).runOk es

end CtrlLoop

/-- The registry while the handler is live: its two fds, one closure each. -/
def ctrlLive (queueEvt deactivateEvt : Int) : Registry CtrlClosure := fun fd =>
  if fd = queueEvt then some (.alive, [.ctrl])
  else if fd = deactivateEvt then some (.alive, [.deactivate])
  else none

/-! ## One event -/

/-- `handle_ctrl` changes the queue only. -/
theorem handleCtrl_queue_only (h : NetCtrlHandler) (mem : GuestMem) (irqOk : Bool) :
    ∃ q, (h.handleCtrl mem irqOk).2.1 = { h with queue := q } := by
  unfold NetCtrlHandler.handleCtrl
  dsimp only
  repeat' split
  all_goals exact ⟨_, rfl⟩

theorem activate_reg (h : NetCtrlHandler) (hfd : h.queueEvt ≠ h.deactivateEvt) :
    (CtrlLoop.activate h).reg = ctrlLive h.queueEvt h.deactivateEvt := by
  funext fd
  by_cases hq : fd = h.queueEvt
  · subst hq
    simp [CtrlLoop.activate, NetCtrlHandler.internalNotifiers, Registry.applyBatch, Registry.apply,
      Registry.empty, ctrlLive, hfd]
  · by_cases hd : fd = h.deactivateEvt <;>
      simp [CtrlLoop.activate, NetCtrlHandler.internalNotifiers, Registry.applyBatch, Registry.apply,
        Registry.empty, ctrlLive, hq, hd, Ne.symm hfd]

/-- An event on a live handler: the deactivate fd empties the registry with a
batch that finds both fds, any other fd leaves it as it was; the handler's
fds stay. -/
theorem CtrlLoop.step_live (s : CtrlLoop) (e : CtrlEvent) (hfd : s.h.queueEvt ≠ s.h.deactivateEvt)
    (hreg : s.reg = ctrlLive s.h.queueEvt s.h.deactivateEvt) :
    (s.step e).h.queueEvt = s.h.queueEvt ∧ (s.step e).h.deactivateEvt = s.h.deactivateEvt ∧
      (s.step e).reg = (if e.fd = s.h.deactivateEvt then Registry.empty else s.reg) ∧
      s.reg.batchOk (s.fireEvent e).2.2 = true := by
  obtain ⟨reg, h⟩ := s
  dsimp only at hfd hreg ⊢
  subst hreg
  by_cases hq : e.fd = h.queueEvt
  · have hlive : ctrlLive h.queueEvt h.deactivateEvt e.fd = some (.alive, [.ctrl]) := by
      simp [ctrlLive, hq]
    obtain ⟨q, hh⟩ := handleCtrl_queue_only h e.mem e.irqOk
    simp only [step, fireEvent, fire_single _ _ _ hlive]
    simp [runCtrlClosure, hh, hq, hfd, Registry.batchOk]
  · by_cases hd : e.fd = h.deactivateEvt
    · have hlive : ctrlLive h.queueEvt h.deactivateEvt e.fd = some (.alive, [.deactivate]) := by
        simp [ctrlLive, hq, hd, Ne.symm hfd]
      refine ⟨by simp [step, fireEvent, fire_single _ _ _ hlive, runCtrlClosure],
        by simp [step, fireEvent, fire_single _ _ _ hlive, runCtrlClosure], ?_, ?_⟩
      · simp only [step, fireEvent, fire_single _ _ _ hlive, runCtrlClosure, if_pos hd]
        funext fd
        rw [Registry.applyBatch_deletes _ _ _ (by simp [NetCtrlHandler.deactivateEvtHandler])]
        simp [NetCtrlHandler.deactivateEvtHandler, ctrlLive, Registry.empty]
        split_ifs <;> simp_all
      · simp [fireEvent, fire_single _ _ _ hlive, runCtrlClosure, NetCtrlHandler.deactivateEvtHandler,
          Registry.batchOk, Registry.targets, ctrlLive, Registry.apply, hfd, Ne.symm hfd]
    · have hnone : ctrlLive h.queueEvt h.deactivateEvt e.fd = none := by simp [ctrlLive, hq, hd]
      simp [step, fireEvent, fire, hnone, hd, Registry.batchOk]

/-- An event on an empty registry changes nothing. -/
theorem CtrlLoop.step_empty (s : CtrlLoop) (e : CtrlEvent) (hreg : s.reg = Registry.empty) :
    s.step e = s ∧ s.reg.batchOk (s.fireEvent e).2.2 = true := by
  obtain ⟨reg, h⟩ := s
  dsimp only at hreg
  subst hreg
  simp [step, fireEvent, fire, Registry.empty, Registry.batchOk]

/-! ## Every run -/

theorem CtrlLoop.run_empty (s : CtrlLoop) (hreg : s.reg = Registry.empty) :
    ∀ es, s.run es = s ∧ s.runOk es = true
  | [] => ⟨rfl, rfl⟩
  | e :: es => by
      obtain ⟨hs, hok⟩ := s.step_empty e hreg
      simp only [run, runOk, hs, hok, Bool.true_and]
      exact run_empty s hreg es

theorem CtrlLoop.run_live (s : CtrlLoop) (hfd : s.h.queueEvt ≠ s.h.deactivateEvt)
    (hreg : s.reg = ctrlLive s.h.queueEvt s.h.deactivateEvt) :
    ∀ es : List CtrlEvent, (s.run es).reg =
        (if es.any (·.fd == s.h.deactivateEvt) then Registry.empty else s.reg) ∧ s.runOk es = true
  | [] => ⟨rfl, rfl⟩
  | e :: es => by
      obtain ⟨hq, hd, hstep, hok⟩ := s.step_live e hfd hreg
      simp only [run, runOk, hok, Bool.true_and, List.any_cons]
      by_cases he : e.fd = s.h.deactivateEvt
      · rw [if_pos he] at hstep
        have := (s.step e).run_empty hstep es
        simp [he, this.1, this.2, hstep]
      · rw [if_neg he] at hstep
        have := (s.step e).run_live (by rwa [hq, hd]) (by rw [hstep, hq, hd, hreg]) es
        simp [he, this.1, this.2, hstep, hd]

/-- **The control handler's registrations.**  From activation, along every
run — any fds firing in any order, with any guest memory and interrupt
outcomes — the registry is the live table, the control queue's fd with the
ctrl closure and `deactivate_evt` with the deactivate closure and nothing
else, until `deactivate_evt` fires; from then on it is empty.  Every batch
the loop applies on the way finds each fd it deletes registered. -/
theorem ctrlLoop_run (h : NetCtrlHandler) (hfd : h.queueEvt ≠ h.deactivateEvt) (es : List CtrlEvent) :
    ((CtrlLoop.activate h).run es).reg =
        (if es.any (·.fd == h.deactivateEvt) then Registry.empty else ctrlLive h.queueEvt h.deactivateEvt) ∧
      (CtrlLoop.activate h).runOk es = true := by
  have := (CtrlLoop.activate h).run_live hfd (activate_reg h hfd) es
  rwa [activate_reg h hfd] at this

/-- A control handler on fd 3 with `deactivate_evt` 5, an empty ring. -/
def ctrlAt3 : NetCtrlHandler := ⟨emptyRing, 3, 0, 5⟩

/-- A ctrl kick on unmapped memory, then the deactivate event. -/
def kickThenDeactivate : List CtrlEvent := [⟨⟨fun _ => none⟩, true, 3⟩, ⟨⟨fun _ => none⟩, true, 5⟩]

theorem kick_then_deactivate_empties :
    ctrlAt3.queueEvt ≠ ctrlAt3.deactivateEvt ∧
      ((CtrlLoop.activate ctrlAt3).run kickThenDeactivate).reg =
        (if kickThenDeactivate.any (·.fd == ctrlAt3.deactivateEvt) then Registry.empty
          else ctrlLive ctrlAt3.queueEvt ctrlAt3.deactivateEvt) ∧
      (CtrlLoop.activate ctrlAt3).runOk kickThenDeactivate = true :=
  ⟨by decide, ctrlLoop_run ctrlAt3 (by decide) kickThenDeactivate⟩

end StratoVirt.Virtio
