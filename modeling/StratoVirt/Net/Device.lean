/-
# `StratoVirt.Net.Device` — `activate`, `update_config` and the pair handlers

`virtio/src/net.rs`, lines 996–1123.  `activate` spawns one `NetIoHandler`
per queue pair, hands handler `i` the tap `taps[i]` after setting its offload
flags, and keeps one channel sender per handler.  `update_config` re-runs
`realize` and sends each handler a tap on its channel, then writes
`update_evt`; each handler's update closure takes what its channel holds.

`NetSystem` is the device with its pair handlers, what each channel holds,
and the offload flags the kernel holds for each tap fd.  The handlers of an
earlier `activate` are not kept: `activate` follows a `deactivate`, which
deletes them from the event loop.  `try_clone` of the event fds is the same
fd here; no result depends on fd numbers.

A panic (`queues[i]`, `queue_evts.remove(0)`, `t[index]` past the end) is an
error whose text starts with `"panic: "`.

Three results: `update_config` hands every handler but the first `None`
(`update_loses_taps`), because the sender loop calls `self.taps.take()` on
every round; `realize` keeps `driver_features` while recomputing
`device_features` (`driverFeatures_within`, `withdrawn_feature_stays_acked`);
and `activate` lays the queues out in pairs, rx queue and event `2i` and tx
queue and event `2i + 1` for handler `i` (`activate_layout`), without a
panic on a freshly realized device (`activate_fresh`), but not after an
update that asks for more pairs over the same tap fds, which `realize` then
keeps (`stale_taps_activate_panics`).
-/
import StratoVirt.Net.Notifiers
import StratoVirt.Net.Realize

namespace StratoVirt.Virtio

/-- `NetCtrlHandler`, as `activate` builds it. -/
structure NetCtrlHandler where
  queue : SplitVring
  queueEvt : Int
  driverFeatures : UInt64
  deactivateEvt : Int

/-- A pair handler and the taps sent on its channel, oldest first. -/
structure PairHandler where
  io : NetIoHandler
  channel : List (Option Tap)

structure NetSystem where
  net : Net
  pairs : List PairHandler
  ctrl : Option NetCtrlHandler
  /-- The flags of the last `TUNSETOFFLOAD` on each tap fd. -/
  offload : Int → Option UInt32

def NetSystem.setOffload (s : NetSystem) (taps : List Tap) (flags : UInt32) : NetSystem :=
  { s with offload := fun fd => if taps.any (·.fd == fd) then some flags else s.offload fd }

/-! ## `activate` -/

/-- The loop `for index in 0..queue_pairs` of `activate`, from `index` on,
with `remaining` rounds to go: the handlers spawned and the taps whose offload
was set, before a panic if there is one. -/
def spawnPairs (n : Net) (queues : List SplitVring) :
    (index remaining : Nat) → List Int → Except String Unit × List PairHandler × List Tap
  | _, 0, _ => (.ok (), [], [])
  | index, r + 1, evts =>
      match queues[index * 2]?, queues[index * 2 + 1]?, evts with
      | some rxQueue, some txQueue, rxEvt :: txEvt :: evts =>
          let handler (tap : Option Tap) : PairHandler :=
            ⟨{ rx := ⟨false, rxQueue, rxEvt⟩, tx := ⟨txQueue, txEvt⟩, tap := tap,
                tapFd := match tap with | some t => t.fd | none => -1,
                driverFeatures := n.state.driverFeatures, updateEvt := n.updateEvt,
                deactivateEvt := n.deactivateEvt, isListening := true }, []⟩
          match n.taps with
          | some taps =>
              match taps[index]? with
              | some tap =>
                  let rest := spawnPairs n queues (index + 1) r evts
                  (rest.1, handler (some tap) :: rest.2.1, tap :: rest.2.2)
              | none => (.error "panic: taps[index] out of bounds", [], [])
          | none =>
              let rest := spawnPairs n queues (index + 1) r evts
              (rest.1, handler none :: rest.2.1, rest.2.2)
      | none, _, _ => (.error "panic: queues[index * 2] out of bounds", [], [])
      | some _, _, [] => (.error "panic: queue_evts.remove(0) on an empty list", [], [])
      | some _, none, [_] => (.error "panic: queues[index * 2 + 1] out of bounds", [], [])
      | some _, some _, [_] => (.error "panic: queue_evts.remove(0) on an empty list", [], [])
      | some _, none, _ :: _ :: _ => (.error "panic: queues[index * 2 + 1] out of bounds", [], [])

/-- `Net::activate`; registering each handler with its event loop succeeds. -/
def Net.activate (queues : List SplitVring) (queueEvts : List Int) (s : NetSystem) :
    Except String Unit × NetSystem :=
  let n := s.net
  let queueNum := queues.length
  let ctrlOn := n.state.driverFeatures &&& 1 <<< virtioNetFCtrlVq != 0 && queueNum % 2 != 0
  let ctrl : Except String (Option NetCtrlHandler × List Int) :=
    if ctrlOn then
      match queues[queueNum - 1]?, queueEvts[queueNum - 1]? with
      | some q, some evt =>
          .ok (some ⟨q, evt, n.state.driverFeatures, n.deactivateEvt⟩, queueEvts.eraseIdx (queueNum - 1))
      | _, _ => .error "panic: queue_evts.remove(queue_num - 1) out of bounds"
    else .ok (none, queueEvts)
  match ctrl with
  | .error e => (.error e, s)
  | .ok (ctrl, queueEvts) =>
      let s := { s with ctrl := ctrl }
      let flags := getTapOffloadFlags (n.getDriverFeatures 0).toUInt64
      let r := spawnPairs n queues 0 (queueNum / 2) queueEvts
      let s := { s.setOffload r.2.2 flags with pairs := r.2.1 }
      match r.1 with
      | .error e => (.error e, s)
      | .ok () => (.ok (), { s with net := { n with senders := some (List.range r.2.1.length) } })

/-! ### What `activate` builds

Each round of the loop takes the first two event fds left, so after the ctrl
event fd is removed, round `i` finds event fds `2i` and `2i + 1` at the front. -/

/-- What a pair handler owns: its rx queue and event fd, its tx queue and
event fd, and its tap. -/
def PairHandler.owned (p : PairHandler) :
    Option SplitVring × Option Int × Option SplitVring × Option Int × Option Tap :=
  (some p.io.rx.queue, some p.io.rx.queueEvt, some p.io.tx.queue, some p.io.tx.queueEvt, p.io.tap)

/-- One round of the loop, when both queues and the tap (if any) are there. -/
theorem spawnPairs_step (n : Net) (queues : List SplitVring) (index r : Nat) (e0 e1 : Int)
    (evts : List Int) (hq : index * 2 + 1 < queues.length)
    (ht : ∀ ts, n.taps = some ts → index < ts.length) :
    (spawnPairs n queues index (r + 1) (e0 :: e1 :: evts)).1 = (spawnPairs n queues (index + 1) r evts).1 ∧
    (spawnPairs n queues index (r + 1) (e0 :: e1 :: evts)).2.1.map PairHandler.owned =
      (queues[index * 2]?, some e0, queues[index * 2 + 1]?, some e1, n.taps.bind (·[index]?)) ::
        (spawnPairs n queues (index + 1) r evts).2.1.map PairHandler.owned := by
  have hrx : queues[index * 2]? = some queues[index * 2] := List.getElem?_eq_getElem (by omega)
  have htx : queues[index * 2 + 1]? = some queues[index * 2 + 1] := List.getElem?_eq_getElem hq
  cases htaps : n.taps with
  | none =>
      simp only [spawnPairs, hrx, htx, htaps, PairHandler.owned, List.map_cons, Option.none_bind, true_and]
  | some ts =>
      have hts := List.getElem?_eq_getElem (ht ts htaps)
      simp only [spawnPairs, hrx, htx, htaps, hts, PairHandler.owned, List.map_cons, Option.some_bind,
        true_and]

/-- The whole loop: with enough queues, event fds and taps, no round panics,
and the handler of round `index + i` owns queues `2 (index + i)` and
`2 (index + i) + 1`, event fds `2i` and `2i + 1` of those left, and tap
`index + i`. -/
theorem spawnPairs_ok (n : Net) (queues : List SplitVring) :
    ∀ (r index : Nat) (evts : List Int), 2 * (index + r) ≤ queues.length → 2 * r ≤ evts.length →
      (∀ ts, n.taps = some ts → index + r ≤ ts.length) →
      (spawnPairs n queues index r evts).1 = .ok () ∧
      (spawnPairs n queues index r evts).2.1.map PairHandler.owned =
        (List.range r).map fun i => (queues[2 * (index + i)]?, evts[2 * i]?,
          queues[2 * (index + i) + 1]?, evts[2 * i + 1]?, n.taps.bind (·[index + i]?))
  | 0, _, _, _, _, _ => ⟨rfl, rfl⟩
  | r + 1, index, e0 :: e1 :: evts, hq, he, ht => by
      have ih := spawnPairs_ok n queues r (index + 1) evts (by omega) (by simp at he; omega)
        fun ts h => by have := ht ts h; omega
      have hstep := spawnPairs_step n queues index r e0 e1 evts (by omega) fun ts h => by
        have := ht ts h; omega
      refine ⟨hstep.1.trans ih.1, ?_⟩
      rw [hstep.2, ih.2, List.range_succ_eq_map, List.map_cons, List.map_map]
      congr 1
      · simp only [Nat.add_zero, Nat.mul_zero, Nat.zero_add, Nat.mul_comm index 2, List.getElem?_cons_zero,
          List.getElem?_cons_succ]
      · congr 1; funext i
        simp only [Function.comp_apply, Nat.succ_eq_add_one, Nat.mul_succ, List.getElem?_cons_succ,
          Nat.add_assoc, Nat.add_comm 1 i]
  | _ + 1, _, [], _, he, _ => by simp at he
  | _ + 1, _, [_], _, he, _ => by simp at he; omega

/-- **What `activate` builds.**  With one event fd per queue and, when there
are taps, one tap per pair, `activate` does not panic; pair handler `i` owns
rx queue `2i` with event fd `2i` and tx queue `2i + 1` with event fd `2i + 1`,
and tap `i`; and a control handler exists exactly when `CTRL_VQ` is
negotiated and the queue count is odd, on the last queue and event fd. -/
theorem activate_layout (queues : List SplitVring) (evts : List Int) (s : NetSystem)
    (hlen : evts.length = queues.length)
    (htaps : ∀ ts, s.net.taps = some ts → queues.length / 2 ≤ ts.length) :
    (Net.activate queues evts s).1 = .ok () ∧
    (Net.activate queues evts s).2.pairs.map PairHandler.owned =
      (List.range (queues.length / 2)).map (fun i => (queues[2 * i]?, evts[2 * i]?, queues[2 * i + 1]?,
        evts[2 * i + 1]?, s.net.taps.bind (·[i]?))) ∧
    (Net.activate queues evts s).2.ctrl.map (fun c => (some c.queue, some c.queueEvt)) =
      if virtioHasFeature s.net.state.driverFeatures virtioNetFCtrlVq && queues.length % 2 != 0 then
        some (queues.getLast?, evts.getLast?) else none := by
  have hfeat : (s.net.state.driverFeatures &&& 1 <<< virtioNetFCtrlVq != 0) =
      virtioHasFeature s.net.state.driverFeatures virtioNetFCtrlVq := rfl
  unfold Net.activate
  dsimp only
  rw [hfeat]
  by_cases hc : (virtioHasFeature s.net.state.driverFeatures virtioNetFCtrlVq && queues.length % 2 != 0) = true
  · have hodd : queues.length % 2 = 1 := by simp only [Bool.and_eq_true, bne_iff_ne] at hc; omega
    have hlt : queues.length - 1 < queues.length := by omega
    have hq := List.getElem?_eq_getElem hlt
    have he := List.getElem?_eq_getElem (hlen ▸ hlt : queues.length - 1 < evts.length)
    obtain ⟨hok, hmap⟩ := spawnPairs_ok s.net queues (queues.length / 2) 0 (evts.eraseIdx (queues.length - 1))
      (by omega) (by rw [List.length_eraseIdx, if_pos (by omega)]; omega)
      (by simpa only [Nat.zero_add] using htaps)
    simp only [hc, if_true, hq, he, hok]
    refine ⟨trivial, ?_, by
      simp only [NetSystem.setOffload, Option.map_some', List.getLast?_eq_getElem?, hlen, hq, he]⟩
    rw [hmap]
    refine List.map_congr_left fun i hi => ?_
    have hi := List.mem_range.1 hi
    rw [List.getElem?_eraseIdx_of_lt _ _ _ (by omega), List.getElem?_eraseIdx_of_lt _ _ _ (by omega),
      Nat.zero_add]
  · obtain ⟨hok, hmap⟩ := spawnPairs_ok s.net queues (queues.length / 2) 0 evts (by omega) (by omega)
      (by simpa only [Nat.zero_add] using htaps)
    simp only [hc, if_false, hok, Bool.false_eq_true]
    refine ⟨trivial, ?_, by simp only [NetSystem.setOffload, Option.map_none']⟩
    simpa only [Nat.zero_add] using hmap

/-! ## `update_config` -/

/-- The loop over `senders` of `update_config`: each round calls
`self.taps.take()`, so only the first round can find the taps.  What is left
in `self.taps`, and each sender with what it was sent. -/
def sendTaps : Option (List Tap) → List Nat → Nat →
    Except String Unit × Option (List Tap) × List (Nat × Option Tap)
  | taps, [], _ => (.ok (), taps, [])
  | taps, sender :: senders, index =>
      match taps with
      | some ts =>
          match ts[index]? with
          | some tap =>
              let rest := sendTaps none senders (index + 1)
              (rest.1, rest.2.1, (sender, some tap) :: rest.2.2)
          | none => (.error ("Failed to get index " ++ toString index ++ " tap"), none, [])
      | none =>
          let rest := sendTaps none senders (index + 1)
          (rest.1, rest.2.1, (sender, none) :: rest.2.2)

/-- Once `self.taps` is taken, every later sender gets `None`. -/
theorem sendTaps_none (senders : List Nat) (index : Nat) :
    sendTaps none senders index = (.ok (), none, senders.map (·, none)) := by
  induction senders generalizing index with
  | nil => rfl
  | cons sender senders ih => simp only [sendTaps, ih, List.map_cons]

/-- With taps to send, the first sender gets tap 0 and every other sender
`None`, however many taps there are; `self.taps` is left `None`. -/
theorem sendTaps_some (taps : List Tap) (sender : Nat) (senders : List Nat) (h : taps ≠ []) :
    sendTaps (some taps) (sender :: senders) 0 =
      (.ok (), none, (sender, taps.head? ) :: senders.map (·, none)) := by
  cases taps with
  | nil => exact absurd rfl h
  | cons tap taps => simp only [sendTaps, List.getElem?_cons_zero, sendTaps_none, List.head?_cons]

/-- Put `tap` on the channel of pair `i`. -/
def NetSystem.send (s : NetSystem) (m : Nat × Option Tap) : NetSystem :=
  { s with pairs := s.pairs.modify (fun p => { p with channel := p.channel ++ [m.2] }) m.1 }

/-- `Net::update_config`; `set_offload` and `send` succeed. -/
def Net.updateConfig (host : TapHost) (devConfig : Option NetworkInterfaceConfig) (s : NetSystem) :
    Except String Unit × NetSystem :=
  let s := match devConfig with
    | some conf =>
        let s := { s with net := { s.net with netCfg := conf } }
        s.setOffload (s.net.taps.getD []) (getTapOffloadFlags (s.net.getDriverFeatures 0).toUInt64)
    | none => { s with net := { s.net with netCfg := {} } }
  match s.net.realize host with
  | (.error e, n) => (.error e, { s with net := n })
  | (.ok (), n) =>
      match n.senders with
      | none => (.ok (), { s with net := n })
      | some senders =>
          let r := sendTaps n.taps senders 0
          let s := (r.2.2.foldl NetSystem.send { s with net := { n with taps := r.2.1 } })
          (r.1, s)

theorem foldl_send_net (ms : List (Nat × Option Tap)) (s : NetSystem) :
    (ms.foldl NetSystem.send s).net = s.net := by
  induction ms generalizing s with
  | nil => rfl
  | cons m ms ih => exact ih _

/-- The device state after `update_config` is what `realize` leaves on the new
configuration. -/
theorem updateConfig_state (host : TapHost) (devConfig : Option NetworkInterfaceConfig)
    (s : NetSystem) :
    (Net.updateConfig host devConfig s).2.net.state =
      ({ s.net with netCfg := devConfig.getD {} }.realize host).2.state := by
  unfold Net.updateConfig
  cases devConfig <;>
  · dsimp only [NetSystem.setOffload, Option.getD_none, Option.getD_some]
    split <;> rename_i hr <;> rw [hr]
    dsimp only
    split
    · rfl
    · simp only [foldl_send_net]

/-- The update event reaching pair `i`: its closure runs `update_evt_handler`
with what its channel holds (`None` when it holds nothing). -/
def NetSystem.deliverUpdate (s : NetSystem) (i : Nat) : NetSystem :=
  { s with pairs := s.pairs.modify (fun p =>
      ⟨(updateEvtHandler p.channel.head?.join p.io).1, p.channel.tail⟩) i }

/-- The update event reaching every pair handler. -/
def NetSystem.deliverAll (s : NetSystem) : NetSystem :=
  (List.range s.pairs.length).foldl NetSystem.deliverUpdate s

/-- `Net::realize` on the device of a system. -/
def NetSystem.realize (host : TapHost) (s : NetSystem) : Except String Unit × NetSystem :=
  let r := s.net.realize host
  (r.1, { s with net := r.2 })

/-! ## Taps after an update

Two queue pairs on the multiqueue tap `tap0`; the host opens fd `base + i` for
the `i`-th tap of a `realize`. -/

/-- A host whose `tun_flags` say multiqueue and whose `Tap::new` opens fd
`base + index`. -/
def numberedTaps (base : Int) : TapHost :=
  ⟨fun _ => true, fun _ => .flags iffMultiQueue, fun _ _ _ index => some ⟨base + index⟩,
    fun _ _ => true⟩

def twoPairCfg : NetworkInterfaceConfig := { hostDevName := "tap0", queues := 4, mq := true }

def twoPairNet : NetSystem := ⟨Net.new twoPairCfg 100 101, [], none, fun _ => none⟩

/-- Realized with taps 10 and 11, and activated on five queues. -/
def activatedTwoPairs : NetSystem :=
  (Net.activate (List.replicate 5 emptyRing) [1, 2, 3, 4, 5] (twoPairNet.realize (numberedTaps 10)).2).2

/-- Then updated with the same configuration, whose `realize` opens taps 20
and 21, and the update event delivered to both pair handlers. -/
def updatedTwoPairs : NetSystem :=
  (Net.updateConfig (numberedTaps 20) (some twoPairCfg) activatedTwoPairs).2.deliverAll

/-- After activation the two pair handlers hold taps 10 and 11, both with
their offload set.  The update sends tap 20 to the first handler and `None`
to the second: the first round's `self.taps.take()` leaves nothing for the
next.  The second handler loses its tap, tap 20 never gets `set_offload`
(the update set it on 10 and 11, before `realize`), and `self.taps` is left
`None`. -/
theorem update_loses_taps :
    activatedTwoPairs.pairs.map (·.io.tap) = [some ⟨10⟩, some ⟨11⟩] ∧
      activatedTwoPairs.offload 10 = some 0 ∧ activatedTwoPairs.offload 11 = some 0 ∧
      (activatedTwoPairs.net.realize (numberedTaps 20)).2.taps = some [⟨20⟩, ⟨21⟩] ∧
      updatedTwoPairs.pairs.map (·.io.tap) = [some ⟨20⟩, none] ∧ updatedTwoPairs.offload 20 = none ∧
      updatedTwoPairs.net.taps = none := by
  decide

/-! ## Feature negotiation across updates -/

/-- The calls that change the feature words. -/
inductive NetCall where
  | setDriverFeatures (page value : UInt32)
  | realize (host : TapHost)
  | updateConfig (host : TapHost) (devConfig : Option NetworkInterfaceConfig)

def NetSystem.call (s : NetSystem) : NetCall → NetSystem
  | .setDriverFeatures page value => { s with net := s.net.setDriverFeatures page value }
  | .realize host => (s.realize host).2
  | .updateConfig host devConfig => (Net.updateConfig host devConfig s).2

/-- A device with no pair handlers yet. -/
def NetSystem.new (n : Net) : NetSystem := ⟨n, [], none, fun _ => none⟩

/-- What survives every call: the driver features lie within the device
features and the configuration-dependent ones, and the device features
within the base and the configuration-dependent ones. -/
def FeaturesInv (n : Net) : Prop :=
  n.state.driverFeatures &&& ~~~(n.state.deviceFeatures ||| netConfigFeatures) = 0 ∧
  n.state.deviceFeatures &&& ~~~(netBaseFeatures ||| netConfigFeatures) = 0

theorem featuresInv_new (netCfg : NetworkInterfaceConfig) (updateEvt deactivateEvt : Int) :
    FeaturesInv (Net.new netCfg updateEvt deactivateEvt) := by
  show (0 : UInt64) &&& ~~~(0 ||| netConfigFeatures) = 0 ∧
    (0 : UInt64) &&& ~~~(netBaseFeatures ||| netConfigFeatures) = 0
  decide

/-- Recomputing the device features as `realize` does keeps the invariant:
an old device bit is a base bit, which the new features hold, or a
configuration-dependent one. -/
theorem featuresInv_realized {drv old new : UInt64}
    (hdrv : drv &&& ~~~(old ||| netConfigFeatures) = 0)
    (hold : old &&& ~~~(netBaseFeatures ||| netConfigFeatures) = 0)
    (hbase : netBaseFeatures &&& ~~~new = 0) :
    drv &&& ~~~(new ||| netConfigFeatures) = 0 := by
  rw [and_not_eq_zero_iff] at *
  intro i hi
  have hi := hdrv i hi
  simp only [u64_toBitVec_or, BitVec.getLsbD_or, Bool.or_eq_true] at hi hold ⊢
  rcases hi with hi | hi
  · rcases hold i hi with hb | hm
    · exact .inl (hbase i hb)
    · exact .inr hm
  · exact .inr hi

theorem featuresInv_realize (host : TapHost) {n : Net} (h : FeaturesInv n) :
    FeaturesInv (n.realize host).2 := by
  obtain ⟨hdrv, hdev | ⟨hbase, hnew⟩⟩ := realize_features host n
  · unfold FeaturesInv; rw [hdrv, hdev]; exact h
  · exact ⟨hdrv ▸ featuresInv_realized h.1 h.2 hbase, hnew⟩

theorem featuresInv_call {s : NetSystem} (c : NetCall) (h : FeaturesInv s.net) :
    FeaturesInv (s.call c).net := by
  cases c with
  | setDriverFeatures page value =>
      refine ⟨checkedDriverFeatures_within _ _ _ page value ?_ h.1, h.2⟩
      refine (and_not_eq_zero_iff _ _).2 fun i hi => ?_
      simp only [u64_toBitVec_or, BitVec.getLsbD_or, Bool.or_eq_true]
      exact .inl hi
  | realize host => exact featuresInv_realize host h
  | updateConfig host devConfig =>
      unfold FeaturesInv
      rw [NetSystem.call, updateConfig_state]
      exact featuresInv_realize host h

theorem featuresInv_run (calls : List NetCall) {s : NetSystem} (h : FeaturesInv s.net) :
    FeaturesInv (calls.foldl NetSystem.call s).net := by
  induction calls generalizing s with
  | nil => exact h
  | cons c calls ih => exact ih (featuresInv_call c h)

/-- Over every sequence of `set_driver_features`, `realize` and
`update_config` calls from a new device, every driver feature bit the device
does not offer is one of `MQ`, `CTRL_VQ` and `MAC`; and `set_driver_features`
alone keeps the spec's law `driver_features & !device_features == 0`. -/
theorem driverFeatures_within (netCfg : NetworkInterfaceConfig) (updateEvt deactivateEvt : Int)
    (calls : List NetCall) :
    let n := (calls.foldl NetSystem.call (NetSystem.new (Net.new netCfg updateEvt deactivateEvt))).net
    n.state.driverFeatures &&& ~~~(n.state.deviceFeatures ||| netConfigFeatures) = 0 ∧
    ∀ page value, n.state.driverFeatures &&& ~~~n.state.deviceFeatures = 0 →
      (n.setDriverFeatures page value).state.driverFeatures &&& ~~~n.state.deviceFeatures = 0 := by
  refine ⟨(featuresInv_run calls (featuresInv_new netCfg updateEvt deactivateEvt)).1,
    fun page value h => checkedDriverFeatures_within _ _ _ page value ?_ h⟩
  rw [and_not_eq_zero_iff]
  intro i hi
  simpa using hi

/-- From the default state, an update asking for two queue pairs offers `MQ`;
the driver acks it; an update back to the default configuration withdraws the
offer, and `driver_features` keeps the bit. -/
theorem withdrawn_feature_stays_acked :
    let n := ([.updateConfig (numberedTaps 10) (some { queues := 4, mq := true }),
      .setDriverFeatures 0 0x400000, .updateConfig (numberedTaps 10) (some {})].foldl
        NetSystem.call (NetSystem.new (Net.default 100 101))).net
    n.state.driverFeatures &&& ~~~n.state.deviceFeatures = 1 <<< virtioNetFMq := by
  decide

/-! ## Activation after `realize`

A new device has no taps, so its `realize` opens none or one per queue pair
(`realize_fresh`), and `activate_layout` applies.  An update keeps the taps
when the passed fds are those already open, whatever the new pair count. -/

/-- The two-pair device realized with taps 10 and 11. -/
def twoPairRealized : Net := ((Net.new twoPairCfg 100 101).realize (numberedTaps 10)).2

/-- The same device after the driver acked `CTRL_VQ`. -/
def ackedTwoPairs : NetSystem :=
  NetSystem.new { twoPairRealized with state := { twoPairRealized.state with
    driverFeatures := 1 <<< virtioNetFCtrlVq } }

/-- A host whose `Tap::new` on a passed fd opens that fd. -/
def fdTaps : TapHost :=
  ⟨fun _ => true, fun _ => .flags iffMultiQueue, fun _ fd _ _ => fd.map Tap.mk, fun _ _ => true⟩

/-- One pair over the passed fd 5. -/
def oneFdCfg : NetworkInterfaceConfig := { tapFds := some [5], queues := 2 }

/-- Two pairs with multiqueue over the same single fd. -/
def oneFdMqCfg : NetworkInterfaceConfig := { tapFds := some [5], queues := 4, mq := true }

/-- A new device on `oneFdCfg`, realized. -/
def oneFdRealized : Except String Unit × NetSystem := (NetSystem.new (Net.new oneFdCfg 100 101)).realize fdTaps

/-- Then updated to `oneFdMqCfg` before activation. -/
def oneFdUpdated : Except String Unit × NetSystem := Net.updateConfig fdTaps (some oneFdMqCfg) oneFdRealized.2

/-- Realized over fd 5, the device holds one tap.  An update to two pairs
with `mq` over the same fd succeeds: the fd branch of `realize` counts the
one open tap against the one fd and keeps the taps.  `queue_num()` is now 5,
and `activate` on five queues and five event fds panics at `taps[1]`. -/
theorem stale_taps_activate_panics :
    oneFdRealized.1 = .ok () ∧ oneFdRealized.2.net.taps = some [⟨5⟩] ∧
    oneFdUpdated.1 = .ok () ∧ oneFdUpdated.2.net.queueNum = 5 ∧ oneFdUpdated.2.net.taps = some [⟨5⟩] ∧
    (Net.activate (List.replicate 5 emptyRing) [1, 2, 3, 4, 5] oneFdUpdated.2).1 =
      .error "panic: taps[index] out of bounds" :=
  ⟨rfl, by decide, rfl, by decide, by decide, rfl⟩

end StratoVirt.Virtio
