/-
# `StratoVirt.Net.IoLoop` — a pair handler over whole runs

`virtio/src/net.rs`, lines 294–672.  `Net.Notifiers` gives the five closures
of one `NetIoHandler` and what firing one fd does; here the loop runs on,
event after event, in any order: the update, deactivate, rx and tx event
fds and the tap fd fire as the guest, the host and the update channel make
them, and each update brings whatever tap the channel holds.

A run starts from `activate` on an empty registry, with the handler's four
event fds apart from each other and every tap it holds or is sent a valid fd
apart from them (`FdsApart`, `TapApart`).  The live table `netLive` is what
the registry holds then: one closure on `update_evt`, on each queue event
and on the tap, and on `deactivate_evt` one deactivate closure more for each
update so far, since the update batch re-adds it without deleting it.

**Proved here.**

    along every run, before deactivate_evt fires the registry is the
    live table of the handler's current tap after k updates: no old
    tap fd stays registered, no closure but the deactivate one is ever
    doubled, and a parked tap always has is_listening false, so the
    next rx kick resumes it; once deactivate_evt has fired the
    registry is empty for good                                         (`netLoop_run`)
-/
import StratoVirt.Net.Notifiers

namespace StratoVirt.Virtio

open StratoVirt.EventLoop

/-! ## Runs and the live table -/

/-- One event of the loop: the host during the closures it runs, what the
update channel holds, and the fd that fires. -/
structure NetEvent where
  env : TapIo
  received : Option Tap
  fd : Int

def NetLoop.run : NetLoop → List NetEvent → NetLoop
  | s, [] => s
  | s, e :: es => (s.step e.env e.received e.fd).run es

theorem NetLoop.run_append (s : NetLoop) (es es' : List NetEvent) : s.run (es ++ es') = (s.run es).run es' := by
  induction es generalizing s with
  | nil => rfl
  | cons e es ih => exact ih _

/-- The four event fds of a handler. -/
def fdsOf (h : NetIoHandler) : Int × Int × Int × Int :=
  (h.updateEvt, h.deactivateEvt, h.rx.queueEvt, h.tx.queueEvt)

/-- A tap the handler can hold: a valid fd, none of its four event fds. -/
def TapApart (h : NetIoHandler) (t : Tap) : Prop :=
  0 ≤ t.fd ∧ t.fd ≠ h.updateEvt ∧ t.fd ≠ h.deactivateEvt ∧ t.fd ≠ h.rx.queueEvt ∧ t.fd ≠ h.tx.queueEvt

instance (h : NetIoHandler) (t : Tap) : Decidable (TapApart h t) :=
  inferInstanceAs (Decidable (_ ∧ _))

/-- The handler's fds: the four event fds apart from each other, `tap_fd`
the fd of the tap it holds or -1, and that tap apart from them. -/
def FdsApart (h : NetIoHandler) : Prop :=
  h.tapFd = (h.tap.map (·.fd)).getD (-1) ∧ h.updateEvt ≠ h.deactivateEvt ∧
    h.updateEvt ≠ h.rx.queueEvt ∧ h.updateEvt ≠ h.tx.queueEvt ∧ h.deactivateEvt ≠ h.rx.queueEvt ∧
    h.deactivateEvt ≠ h.tx.queueEvt ∧ h.rx.queueEvt ≠ h.tx.queueEvt ∧ ∀ t ∈ h.tap, TapApart h t

instance (h : NetIoHandler) : Decidable (FdsApart h) :=
  inferInstanceAs (Decidable (_ ∧ _))

/-- The registry of a live handler after `k` updates, its tap at status `st`. -/
def netLive (h : NetIoHandler) (k : Nat) (st : EventStatus) : Registry NetHandler := fun fd =>
  if fd = h.updateEvt then some (.alive, [.update])
  else if fd = h.deactivateEvt then some (.alive, List.replicate (k + 1) .deactivate)
  else if fd = h.rx.queueEvt then some (.alive, [.rx])
  else if fd = h.tx.queueEvt then some (.alive, [.tx])
  else match h.tap with
    | some t => if fd = t.fd then some (st, [.tap]) else none
    | none => none

/-- A live handler after `k` updates, its tap at status `st`: its fds apart,
the registry its live table, and the tap parked only while `is_listening`
is false. -/
def NetLive (s : NetLoop) (k : Nat) (st : EventStatus) : Prop :=
  FdsApart s.h ∧ s.reg = netLive s.h k st ∧ (st = .parked → s.h.isListening = false)

theorem TapApart.congr {a b : NetIoHandler} {t : Tap} (hab : fdsOf a = fdsOf b) (ht : TapApart b t) :
    TapApart a t := by
  simp only [fdsOf, Prod.mk.injEq] at hab
  simpa only [TapApart, hab] using ht

/-- The four event fds apart, in both orientations. -/
theorem FdsApart.facts {h : NetIoHandler} (hh : FdsApart h) :
    h.updateEvt ≠ h.deactivateEvt ∧ h.updateEvt ≠ h.rx.queueEvt ∧ h.updateEvt ≠ h.tx.queueEvt ∧
    h.deactivateEvt ≠ h.updateEvt ∧ h.deactivateEvt ≠ h.rx.queueEvt ∧ h.deactivateEvt ≠ h.tx.queueEvt ∧
    h.rx.queueEvt ≠ h.updateEvt ∧ h.rx.queueEvt ≠ h.deactivateEvt ∧ h.rx.queueEvt ≠ h.tx.queueEvt ∧
    h.tx.queueEvt ≠ h.updateEvt ∧ h.tx.queueEvt ≠ h.deactivateEvt ∧ h.tx.queueEvt ≠ h.rx.queueEvt := by
  obtain ⟨-, h1, h2, h3, h4, h5, h6, -⟩ := hh
  exact ⟨h1, h2, h3, h1.symm, h4, h5, h2.symm, h4.symm, h6, h3.symm, h5.symm, h6.symm⟩

/-- The tap a handler holds: `tap_fd` is its fd, a valid one, apart from the
event fds in both orientations. -/
theorem FdsApart.tap_facts {h : NetIoHandler} (hh : FdsApart h) {t : Tap} (ht : h.tap = some t) :
    h.tapFd = t.fd ∧ 0 ≤ t.fd ∧ h.updateEvt ≠ t.fd ∧ h.deactivateEvt ≠ t.fd ∧ h.rx.queueEvt ≠ t.fd ∧
      h.tx.queueEvt ≠ t.fd ∧ t.fd ≠ h.updateEvt ∧ t.fd ≠ h.deactivateEvt ∧ t.fd ≠ h.rx.queueEvt ∧
      t.fd ≠ h.tx.queueEvt := by
  obtain ⟨hsync, -, -, -, -, -, -, hold⟩ := hh
  obtain ⟨h0, h1, h2, h3, h4⟩ := hold t ht
  exact ⟨by simp [hsync, ht], h0, h1.symm, h2.symm, h3.symm, h4.symm, h1, h2, h3, h4⟩

/-- A `tap_fd` other than -1 is a valid fd apart from the event fds. -/
theorem FdsApart.tapFd_facts {h : NetIoHandler} (hh : FdsApart h) (hne : h.tapFd ≠ -1) :
    0 ≤ h.tapFd ∧ h.updateEvt ≠ h.tapFd ∧ h.deactivateEvt ≠ h.tapFd ∧ h.rx.queueEvt ≠ h.tapFd ∧
      h.tx.queueEvt ≠ h.tapFd := by
  cases ht : h.tap with
  | none => exact absurd (by simpa [ht] using hh.1) hne
  | some t =>
    obtain ⟨hfd, h0, h1, h2, h3, h4, -⟩ := hh.tap_facts ht
    rw [hfd]
    exact ⟨h0, h1, h2, h3, h4⟩

/-- The live table holds nothing outside the four event fds and `tap_fd`. -/
theorem netLive_eq_none {h : NetIoHandler} (hh : FdsApart h) (k : Nat) (st : EventStatus) {fd : Int}
    (hu : fd ≠ h.updateEvt) (hd : fd ≠ h.deactivateEvt) (hx : fd ≠ h.rx.queueEvt) (hy : fd ≠ h.tx.queueEvt)
    (ht : h.tapFd ≠ -1 → fd ≠ h.tapFd) : netLive h k st fd = none := by
  cases htap : h.tap with
  | none => simp [netLive, htap, hu, hd, hx, hy]
  | some t =>
    obtain ⟨hfd, h0, -⟩ := hh.tap_facts htap
    simp [netLive, htap, hu, hd, hx, hy, ← hfd, ht (by omega)]

/-! ## The batches on the live table -/

/-- `internal_notifiers` on a registry holding at most `deactivate_evt`, with
`k` deactivate closures (nothing there when `k = 0`), gives the live table
after `k` updates. -/
theorem internalNotifiers_table {h : NetIoHandler} (hh : FdsApart h) {R : Registry NetHandler} {k : Nat}
    (hR : ∀ fd, fd ≠ h.deactivateEvt → R fd = none)
    (hd : R h.deactivateEvt = none ∧ k = 0 ∨ R h.deactivateEvt = some (.alive, List.replicate k .deactivate)) :
    R.applyBatch (internalNotifiers h) = netLive h k .alive := by
  obtain ⟨h1, h2, h3, h4, h5, h6, h7, h8, h9, h10, h11, h12⟩ := hh.facts
  have hu := hR _ h1; have hx := hR _ h8; have hy := hR _ h11
  funext fd
  cases ht : h.tap with
  | none =>
    simp only [internalNotifiers, buildEventNotifier, ht, List.append_nil, Registry.applyBatch_cons,
      Registry.applyBatch_nil]
    by_cases fu : fd = h.updateEvt; · subst fu; simp [Registry.apply, netLive, *]
    by_cases fd' : fd = h.deactivateEvt
    · subst fd'; rcases hd with ⟨hd, rfl⟩ | hd <;> simp [Registry.apply, netLive, List.replicate_succ', *]
    by_cases fx : fd = h.rx.queueEvt; · subst fx; simp [Registry.apply, netLive, *]
    by_cases fy : fd = h.tx.queueEvt; · subst fy; simp [Registry.apply, netLive, *]
    simp [Registry.apply, netLive, hR _ fd', *]
  | some t =>
    obtain ⟨-, -, t1, t2, t3, t4, t5, t6, t7, t8⟩ := hh.tap_facts ht
    simp only [internalNotifiers, buildEventNotifier, ht, Registry.applyBatch_append, Registry.applyBatch_cons,
      Registry.applyBatch_nil]
    by_cases fu : fd = h.updateEvt; · subst fu; simp [Registry.apply, netLive, *]
    by_cases fd' : fd = h.deactivateEvt
    · subst fd'; rcases hd with ⟨hd, rfl⟩ | hd <;> simp [Registry.apply, netLive, List.replicate_succ', *]
    by_cases fx : fd = h.rx.queueEvt; · subst fx; simp [Registry.apply, netLive, *]
    by_cases fy : fd = h.tx.queueEvt; · subst fy; simp [Registry.apply, netLive, *]
    by_cases fn : fd = t.fd; · subst fn; simp [Registry.apply, netLive, hR _ t6, *]
    simp [Registry.apply, netLive, hR _ fd', *]

/-- Activation on an empty registry gives the live table before any update. -/
theorem activate_table {h : NetIoHandler} (hh : FdsApart h) :
    (NetLoop.activate Registry.empty h).reg = netLive h 0 .alive :=
  internalNotifiers_table hh (fun _ _ => rfl) (.inl ⟨rfl, rfl⟩)

/-- The handler an update leaves keeps its fds apart, with the tap it was sent. -/
theorem updateEvtHandler_fdsApart {h : NetIoHandler} (hh : FdsApart h) {r : Option Tap}
    (hr : ∀ t ∈ r, TapApart h t) : FdsApart (updateEvtHandler r h).1 := by
  obtain ⟨-, h1, h2, h3, h4, h5, h6, -⟩ := hh
  exact ⟨by cases r <;> rfl, h1, h2, h3, h4, h5, h6, hr⟩

/-- The update batch: its deletes leave `deactivate_evt` alone, and
`internal_notifiers` of the new handler adds one more deactivate closure
there and everything else fresh. -/
theorem updateEvtHandler_table {h : NetIoHandler} (hh : FdsApart h) {r : Option Tap}
    (hr : ∀ t ∈ r, TapApart h t) (k : Nat) (st : EventStatus) :
    (netLive h k st).applyBatch (updateEvtHandler r h).2 = netLive (updateEvtHandler r h).1 (k + 1) .alive := by
  obtain ⟨-, -, -, h4, h5, h6, -⟩ := hh.facts
  let dels : List (EventNotifier NetHandler) :=
    [⟨.delete, h.updateEvt, eventSetIn, []⟩, ⟨.delete, h.rx.queueEvt, eventSetIn, []⟩,
      ⟨.delete, h.tx.queueEvt, eventSetIn, []⟩] ++
    if h.tapFd ≠ -1 then [⟨.delete, h.tapFd, eventSetIn, []⟩] else []
  have hdels : ∀ fd, (netLive h k st).applyBatch dels fd =
      if fd ∈ dels.map (·.rawFd) then none else netLive h k st fd :=
    fun fd => Registry.applyBatch_deletes _ _ _ (by simp only [dels]; split <;> simp)
  rw [show (updateEvtHandler r h).2 = dels ++ internalNotifiers (updateEvtHandler r h).1 from rfl,
    Registry.applyBatch_append]
  refine internalNotifiers_table (updateEvtHandler_fdsApart hh hr) (fun fd (hd : fd ≠ h.deactivateEvt) => ?_)
    (.inr ?_)
  · rw [hdels]
    split_ifs with hm
    · rfl
    simp only [dels, List.map_append, List.map_cons, List.map_nil, List.mem_append, List.mem_cons,
      List.not_mem_nil, or_false, not_or] at hm
    exact netLive_eq_none hh k st hm.1.1 hd hm.1.2.1 hm.1.2.2 fun hne => by simpa [hne] using hm.2
  · have htap := fun hne => (hh.tapFd_facts hne).2.2.1
    rw [hdels, if_neg (by simp only [dels]; split <;> simp [*, h4, h5, h6])]
    simp [netLive, h4]

/-- Parking or resuming the tap's fd sets the status the table gives the tap. -/
theorem netLive_tapStatus {h : NetIoHandler} (hh : FdsApart h) {t : Tap} (ht : h.tap = some t) (k : Nat)
    (st : EventStatus) (ev : UInt32) :
    (netLive h k st).apply ⟨.park, t.fd, ev, []⟩ = netLive h k .parked ∧
      (netLive h k st).apply ⟨.resume, t.fd, ev, []⟩ = netLive h k .alive := by
  obtain ⟨-, -, t1, t2, t3, t4, t5, t6, t7, t8⟩ := hh.tap_facts ht
  constructor <;> funext fd <;> by_cases hn : fd = t.fd <;> simp [Registry.apply, netLive, ht, hn, *]

@[simp] theorem runNetHandler_deactivate (env : TapIo) (r : Option Tap) (h : NetIoHandler) :
    runNetHandler env r h .deactivate = deactivateEvtHandler h := rfl

/-- Deactivate closures in a row, once `tap_fd` is -1: the handler stays as
it is and only deletes are added to the batch. -/
theorem foldl_deactivate (env : TapIo) (r : Option Tap) {g : NetIoHandler} (hg : g.tapFd = -1) :
    ∀ (n : Nat) (acc : List (EventNotifier NetHandler)), ∃ more,
      (List.replicate n NetHandler.deactivate).foldl
          (fun acc hk => ((runNetHandler env r acc.1 hk).1, acc.2 ++ (runNetHandler env r acc.1 hk).2)) (g, acc) =
        (g, acc ++ more) ∧ ∀ n ∈ more, n.op = .delete
  | 0, acc => ⟨[], by simp⟩
  | n + 1, acc => by
      have hd : (deactivateEvtHandler g).1 = g := by simp [deactivateEvtHandler, hg]
      obtain ⟨more, hmore, hops⟩ := foldl_deactivate env r hg n (acc ++ (deactivateEvtHandler g).2)
      refine ⟨(deactivateEvtHandler g).2 ++ more, ?_, ?_⟩
      · rw [List.replicate_succ, List.foldl_cons]
        simpa [runNetHandler_deactivate, hd] using hmore
      · exact fun m hm => (List.mem_append.1 hm).elim ((deactivateEvtHandler_batch g).1 m) (hops m)

/-! ## One event on a live handler -/

/-- An fd that is not registered alive runs nothing. -/
theorem NetLoop.step_of_not_alive (s : NetLoop) (env : TapIo) (r : Option Tap) {fd : Int}
    (hfd : ∀ hs, s.reg fd ≠ some (.alive, hs)) : s.step env r fd = s := by
  unfold step fire
  split
  · exact absurd ‹_› (hfd _)
  · rfl

/-- An fd with one closure, alive: the closure runs and its batch is applied. -/
theorem NetLoop.step_single (s : NetLoop) (env : TapIo) (r : Option Tap) {fd : Int} {hk : NetHandler}
    (hfd : s.reg fd = some (.alive, [hk])) :
    s.step env r fd = ⟨s.reg.applyBatch (runNetHandler env r s.h hk).2, (runNetHandler env r s.h hk).1⟩ := by
  simp only [step, fire_single _ _ _ hfd]

section
variable {s : NetLoop} {k : Nat} {st : EventStatus} (hs : NetLive s k st) (env : TapIo) (r : Option Tap)
include hs

theorem NetLoop.step_update (hr : ∀ t ∈ r, TapApart s.h t) :
    NetLive (s.step env r s.h.updateEvt) (k + 1) .alive ∧ fdsOf (s.step env r s.h.updateEvt).h = fdsOf s.h := by
  obtain ⟨hh, hreg, -⟩ := hs
  have hu : s.reg s.h.updateEvt = some (.alive, [.update]) := by rw [hreg]; simp [netLive]
  rw [s.step_single env r hu]
  exact ⟨⟨updateEvtHandler_fdsApart hh hr, by rw [hreg]; exact updateEvtHandler_table hh hr k st,
    fun h => nomatch h⟩, rfl⟩

theorem NetLoop.step_deactivate :
    (s.step env r s.h.deactivateEvt).reg = Registry.empty ∧
      fdsOf (s.step env r s.h.deactivateEvt).h = fdsOf s.h := by
  obtain ⟨hh, hreg, -⟩ := hs
  obtain ⟨-, -, -, h4, -⟩ := hh.facts
  have hd : s.reg s.h.deactivateEvt = some (.alive, List.replicate (k + 1) .deactivate) := by
    rw [hreg]; simp [netLive, h4]
  have hg : (deactivateEvtHandler s.h).1.tapFd = -1 := by
    unfold deactivateEvtHandler
    split
    · rfl
    · exact not_not.mp ‹_›
  obtain ⟨more, hmore, hops⟩ := foldl_deactivate env r hg k (deactivateEvtHandler s.h).2
  simp only [step, fire, hd, List.replicate_succ, List.foldl_cons, runNetHandler_deactivate, List.nil_append,
    hmore]
  obtain ⟨hops1, hfds⟩ := deactivateEvtHandler_batch s.h
  refine ⟨funext fun fd => ?_, by unfold deactivateEvtHandler; split <;> rfl⟩
  rw [Registry.applyBatch_deletes _ _ _ fun n hn => (List.mem_append.1 hn).elim (hops1 n) (hops n), List.map_append,
    hfds, hreg]
  refine ite_eq_left_iff.2 fun hm => ?_
  simp only [List.mem_append, List.mem_cons, List.not_mem_nil, or_false, not_or] at hm
  exact netLive_eq_none hh k st hm.1.1.1 hm.1.1.2.1 hm.1.1.2.2.1 hm.1.1.2.2.2 fun hne => by simpa [hne] using hm.1.2

theorem NetLoop.step_rx :
    ∃ st', NetLive (s.step env r s.h.rx.queueEvt) k st' ∧ fdsOf (s.step env r s.h.rx.queueEvt).h = fdsOf s.h := by
  obtain ⟨hh, hreg, hpark⟩ := hs
  obtain ⟨-, -, -, -, -, -, h7, h8, -, -, -, -⟩ := hh.facts
  have hx : s.reg s.h.rx.queueEvt = some (.alive, [.rx]) := by rw [hreg]; simp [netLive, h7, h8]
  rw [s.step_single env r hx]
  simp only [runNetHandler, rxKickHandler]
  split
  · rename_i t ht
    split
    · refine ⟨.alive, ⟨hh, ?_, fun h => nomatch h⟩, rfl⟩
      rw [hreg]
      exact (netLive_tapStatus hh ht k st eventSetIn).2
    · exact ⟨st, ⟨hh, hreg, hpark⟩, rfl⟩
  · exact ⟨st, ⟨hh, hreg, hpark⟩, rfl⟩

/-- The tx kick runs `handle_tx` and changes no registration. -/
theorem NetLoop.step_tx_eq : s.step env r s.h.tx.queueEvt = ⟨s.reg, (handleTx env s.h).2⟩ := by
  obtain ⟨hh, hreg, -⟩ := hs
  obtain ⟨-, -, -, -, -, -, -, -, -, h10, h11, h12⟩ := hh.facts
  have hy : s.reg s.h.tx.queueEvt = some (.alive, [.tx]) := by rw [hreg]; simp [netLive, h10, h11, h12]
  rw [s.step_single env r hy]
  simp only [runNetHandler, Registry.applyBatch_nil]

theorem NetLoop.step_tx :
    NetLive (s.step env r s.h.tx.queueEvt) k st ∧ fdsOf (s.step env r s.h.tx.queueEvt).h = fdsOf s.h := by
  obtain ⟨q, hq⟩ := handleTx_frame env s.h
  rw [NetLoop.step_tx_eq hs env r, hq]
  exact ⟨hs, rfl⟩

theorem NetLoop.step_tap {t : Tap} (ht : s.h.tap = some t) :
    ∃ st', NetLive (s.step env r t.fd) k st' ∧ fdsOf (s.step env r t.fd).h = fdsOf s.h := by
  obtain ⟨hh, hreg, hpark⟩ := hs
  obtain ⟨-, -, -, -, -, -, t5, t6, t7, t8⟩ := hh.tap_facts ht
  have htap : s.reg t.fd = some (st, [.tap]) := by rw [hreg]; simp [netLive, t5, t6, t7, t8, ht]
  cases st with
  | parked =>
    rw [s.step_of_not_alive env r (by simp [htap])]
    exact ⟨.parked, ⟨hh, hreg, hpark⟩, rfl⟩
  | alive =>
    obtain ⟨q, b, hq⟩ := handleRx_frame env s.h
    rw [s.step_single env r htap]
    simp only [runNetHandler, tapHandler, hq]
    split
    · rename_i t' ht'
      obtain rfl : t' = t := Option.some.inj (ht'.symm.trans ht)
      cases b
      · exact ⟨.alive, ⟨hh, hreg, hpark⟩, rfl⟩
      · refine ⟨.parked, ⟨hh, ?_, fun _ => rfl⟩, rfl⟩
        rw [hreg]
        exact (netLive_tapStatus hh ht k .alive _).1
    · rename_i hnone
      simp [ht] at hnone

/-- An fd the live table does not hold runs nothing. -/
theorem NetLoop.step_other {fd : Int} (hfd : netLive s.h k st fd = none) : s.step env r fd = s :=
  s.step_of_not_alive env r (by rw [hs.2.1, hfd]; simp)

/-- An event on any fd but `update_evt` and `deactivate_evt` leaves a live
handler with the same updates and event fds. -/
theorem NetLoop.step_queue {fd : Int} (hu : fd ≠ s.h.updateEvt) (hd : fd ≠ s.h.deactivateEvt) :
    ∃ st', NetLive (s.step env r fd) k st' ∧ fdsOf (s.step env r fd).h = fdsOf s.h := by
  by_cases hx : fd = s.h.rx.queueEvt
  · subst hx; exact NetLoop.step_rx hs env r
  by_cases hy : fd = s.h.tx.queueEvt
  · subst hy; exact ⟨st, NetLoop.step_tx hs env r⟩
  cases ht : s.h.tap with
  | some t =>
    by_cases hn : fd = t.fd
    · subst hn; exact NetLoop.step_tap hs env r ht
    · exact ⟨st, by rw [NetLoop.step_other hs env r (by simp [netLive, ht, hu, hd, hx, hy, hn])]; exact ⟨hs, rfl⟩⟩
  | none => exact ⟨st, by rw [NetLoop.step_other hs env r (by simp [netLive, ht, hu, hd, hx, hy])]; exact ⟨hs, rfl⟩⟩

/-- **One event on a live handler.**  `deactivate_evt` empties the registry;
any other fd leaves a live handler, one update further when it is
`update_evt`; the event fds stay. -/
theorem NetLoop.step_live (e : NetEvent) (hr : ∀ t ∈ e.received, TapApart s.h t) :
    fdsOf (s.step e.env e.received e.fd).h = fdsOf s.h ∧
      (e.fd = s.h.deactivateEvt → (s.step e.env e.received e.fd).reg = Registry.empty) ∧
      (e.fd ≠ s.h.deactivateEvt →
        ∃ st', NetLive (s.step e.env e.received e.fd) (k + if e.fd = s.h.updateEvt then 1 else 0) st') := by
  obtain ⟨env, r, fd⟩ := e
  obtain ⟨h1, -⟩ := hs.1.facts
  dsimp only at hr ⊢
  by_cases hu : fd = s.h.updateEvt
  · subst hu
    obtain ⟨hl, hf⟩ := NetLoop.step_update hs env r hr
    exact ⟨hf, fun h => absurd h h1, fun _ => ⟨.alive, by simpa using hl⟩⟩
  by_cases hd : fd = s.h.deactivateEvt
  · subst hd
    obtain ⟨he, hf⟩ := NetLoop.step_deactivate hs env r
    exact ⟨hf, fun _ => he, fun h => absurd rfl h⟩
  obtain ⟨st', hl, hf⟩ := NetLoop.step_queue hs env r hu hd
  exact ⟨hf, fun h => absurd h hd, fun _ => ⟨st', by simpa [hu] using hl⟩⟩

end

/-! ## Every run -/

/-- Once the registry is empty, nothing fires again. -/
theorem NetLoop.run_empty (s : NetLoop) (hs : s.reg = Registry.empty) : ∀ es, s.run es = s
  | [] => rfl
  | e :: es => by
      rw [run, s.step_of_not_alive _ _ (by simp [hs, Registry.empty])]
      exact run_empty s hs es

theorem NetLoop.run_live (h0 : NetIoHandler) :
    ∀ (es : List NetEvent) (s : NetLoop) (k : Nat) (st : EventStatus), NetLive s k st → fdsOf s.h = fdsOf h0 →
      (∀ e ∈ es, ∀ t ∈ e.received, TapApart h0 t) →
      fdsOf (s.run es).h = fdsOf h0 ∧
        (es.any (·.fd == h0.deactivateEvt) = true → (s.run es).reg = Registry.empty) ∧
        (es.any (·.fd == h0.deactivateEvt) = false →
          ∃ st', NetLive (s.run es) (k + es.countP (·.fd == h0.updateEvt)) st')
  | [], s, k, st, hs, hf, _ => ⟨hf, by simp, fun _ => ⟨st, hs⟩⟩
  | e :: es, s, k, st, hs, hf, hes => by
      have hd : s.h.deactivateEvt = h0.deactivateEvt := congrArg (·.2.1) hf
      have hu : s.h.updateEvt = h0.updateEvt := congrArg (·.1) hf
      obtain ⟨hf', hdead, hlive⟩ :=
        NetLoop.step_live hs e (fun t ht => TapApart.congr hf (hes e (.head _) t ht))
      by_cases he : e.fd = h0.deactivateEvt
      · have hempty := hdead (he.trans hd.symm)
        have hany : (e :: es).any (·.fd == h0.deactivateEvt) = true := by
          simp only [List.any_cons, he, beq_self_eq_true, Bool.true_or]
        rw [run, (s.step e.env e.received e.fd).run_empty hempty es]
        exact ⟨hf'.trans hf, fun _ => hempty, fun h => nomatch hany.symm.trans h⟩
      · have hany : (e :: es).any (·.fd == h0.deactivateEvt) = es.any (·.fd == h0.deactivateEvt) := by
          simp only [List.any_cons, beq_false_of_ne he, Bool.false_or]
        obtain ⟨st', hl⟩ := hlive (fun h => he (h.trans hd))
        obtain ⟨hf2, hdead2, hlive2⟩ := run_live h0 es _ _ st' hl (hf'.trans hf)
          (fun e' he' => hes e' (.tail _ he'))
        refine ⟨hf2, fun h => hdead2 (hany.symm.trans h), fun h => ?_⟩
        obtain ⟨st'', hl2⟩ := hlive2 (hany.symm.trans h)
        refine ⟨st'', ?_⟩
        rw [run, List.countP_cons]
        by_cases heu : e.fd = h0.updateEvt
        · simpa [heu, hu, Nat.add_assoc, Nat.add_comm 1] using hl2
        · simpa [heu, hu] using hl2

/-- **The pair handler's registrations over every run.**  From activation on
an empty registry, along every run — the update, deactivate, queue and tap
fds firing in any order, any host, any taps sent on the channel, each a
valid fd apart from the handler's event fds — the handler keeps its event
fds, and:

* until `deactivate_evt` fires the registry is exactly the live table of the
  handler's current tap after the `k` updates so far: `update_evt`, the rx
  and tx queue events and the tap with one closure each, `deactivate_evt`
  with `k + 1`, no other fd, in particular no earlier tap's; and the tap is
  parked only while `is_listening` is false, so the next rx kick resumes it;
* once `deactivate_evt` has fired the registry is empty. -/
theorem netLoop_run (h : NetIoHandler) (hh : FdsApart h) (es : List NetEvent)
    (hes : ∀ e ∈ es, ∀ t ∈ e.received, TapApart h t) :
    fdsOf ((NetLoop.activate Registry.empty h).run es).h = fdsOf h ∧
      (es.any (·.fd == h.deactivateEvt) = true →
        ((NetLoop.activate Registry.empty h).run es).reg = Registry.empty) ∧
      (es.any (·.fd == h.deactivateEvt) = false →
        ∃ st, NetLive ((NetLoop.activate Registry.empty h).run es) (es.countP (·.fd == h.updateEvt)) st) := by
  have := NetLoop.run_live h es _ 0 .alive ⟨hh, activate_table hh, fun h => nomatch h⟩ rfl hes
  rwa [Nat.zero_add] at this

/-- The handler with tap 3: a tap event on its empty rx ring, then an update
bringing tap 6, then an rx kick. -/
def tapUpdateKick : List NetEvent :=
  [⟨quietHost, none, 3⟩, ⟨quietHost, some ⟨6⟩, 4⟩, ⟨quietHost, none, 1⟩]

theorem tap_update_kick_live :
    FdsApart (pairHandler (some ⟨3⟩)) ∧ (∀ e ∈ tapUpdateKick, ∀ t ∈ e.received, TapApart (pairHandler (some ⟨3⟩)) t) ∧
      fdsOf ((NetLoop.activate Registry.empty (pairHandler (some ⟨3⟩))).run tapUpdateKick).h =
          fdsOf (pairHandler (some ⟨3⟩)) ∧
        (tapUpdateKick.any (·.fd == (pairHandler (some ⟨3⟩)).deactivateEvt) = true →
          ((NetLoop.activate Registry.empty (pairHandler (some ⟨3⟩))).run tapUpdateKick).reg = Registry.empty) ∧
        (tapUpdateKick.any (·.fd == (pairHandler (some ⟨3⟩)).deactivateEvt) = false →
          ∃ st, NetLive ((NetLoop.activate Registry.empty (pairHandler (some ⟨3⟩))).run tapUpdateKick)
            (tapUpdateKick.countP (·.fd == (pairHandler (some ⟨3⟩)).updateEvt)) st) :=
  ⟨by decide, by decide, netLoop_run (pairHandler (some ⟨3⟩)) (by decide) tapUpdateKick (by decide)⟩

end StratoVirt.Virtio
