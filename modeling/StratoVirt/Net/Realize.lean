/-
# `StratoVirt.Net.Realize` — the `Net` record, `create_tap` and `realize`

`virtio/src/net.rs`, lines 674–921 and 950–963.  `realize` recomputes the
device features from the configuration alone: the ten features every net
device offers, `MQ` and `CTRL_VQ` when the configuration asks for multiqueue
with a pair count in `[1, 0x8000]`, and `MAC` when the configured address
parses.  It then opens the taps (`create_tap`) from the host device name or
the passed fds.  It never touches `driver_features`.

The host — whether an iothread exists, the tap's `tun_flags`, `Tap::new` and
`TUNSETVNETHDRSZ` — is the record `TapHost`, one per call.

**Proved here.**

    build_device_config_space, for every string: a bad field among the
    first seven gives 0, seven good fields panic, at most six good
    fields are stored zero-padded                                     (`buildDeviceConfigSpace_fields`)
    so three fields pass for an address, seven index past the buffer  (`partial_mac_accepted`)
    realize keeps driver_features and recomputes device_features      (`realize_features`)
    on a device with no taps yet, a successful realize opens no taps
    or exactly queues / 2 of them, and offers CTRL_VQ only with mq    (`realize_fresh`)
    by a host device name, a successful realize opens queues / 2 taps
    of that name, and with at least one pair the tap's multiqueue
    flag is set exactly when more than one pair is configured         (`realize_byName`)
-/
import Mathlib.Data.String.Basic
import StratoVirt.Net.Datapath

namespace StratoVirt.Virtio

/-! ## Records -/

/-- `NetworkInterfaceConfig`, the fields `net.rs` reads; the default is the
config parser's (`queues = 2`, everything else empty). -/
structure NetworkInterfaceConfig where
  id : String := ""
  hostDevName : String := ""
  mac : Option String := none
  tapFds : Option (List Int) := none
  iothread : Option String := none
  queues : UInt16 := 2
  mq : Bool := false
deriving DecidableEq, Repr

/-- `VirtioNetConfig`: `#[repr(C, packed)]`, 17 bytes. -/
structure VirtioNetConfig where
  mac : List UInt8
  mac_len : mac.length = 6
  status : UInt16
  maxVirtqueuePairs : UInt16
  mtu : UInt16
  speed : UInt32
  duplex : UInt8
deriving DecidableEq

def VirtioNetConfig.default : VirtioNetConfig :=
  ⟨List.replicate 6 0, rfl, 0, 0, 0, 0, 0⟩

/-- `VirtioNetState`, the migrated part of `Net`. -/
structure VirtioNetState where
  deviceFeatures : UInt64
  driverFeatures : UInt64
  configSpace : VirtioNetConfig
deriving DecidableEq

def VirtioNetState.default : VirtioNetState := ⟨0, 0, VirtioNetConfig.default⟩

/-- `Net`; a sender is known by the index of the pair handler it feeds. -/
structure Net where
  netCfg : NetworkInterfaceConfig
  taps : Option (List Tap)
  state : VirtioNetState
  senders : Option (List Nat)
  updateEvt : Int
  deactivateEvt : Int

/-- `Net::default()`, with the two event fds it opens. -/
def Net.default (updateEvt deactivateEvt : Int) : Net :=
  ⟨{}, none, VirtioNetState.default, none, updateEvt, deactivateEvt⟩

/-- `Net::new(net_cfg)`. -/
def Net.new (netCfg : NetworkInterfaceConfig) (updateEvt deactivateEvt : Int) : Net :=
  { Net.default updateEvt deactivateEvt with netCfg := netCfg }

/-- `QUEUE_NUM_NET`. -/
def queueNumNet : Nat := 2

/-- `queue_num`; `queues + 1` is a `u16` sum, wrapping as a release build does. -/
def Net.queueNum (n : Net) : Nat :=
  if n.netCfg.mq then (n.netCfg.queues + 1).toNat else queueNumNet

/-! ## Features -/

/-- What every realized net device offers. -/
def netBaseFeatures : UInt64 :=
  1 <<< virtioFVersion1 ||| 1 <<< virtioNetFCsum ||| 1 <<< virtioNetFGuestCsum |||
    1 <<< virtioNetFGuestTso4 ||| 1 <<< virtioNetFGuestTso6 ||| 1 <<< virtioNetFGuestUfo |||
    1 <<< virtioNetFHostTso4 ||| 1 <<< virtioNetFHostTso6 ||| 1 <<< virtioNetFHostUfo |||
    1 <<< virtioFRingEventIdx

/-- The bits `realize` offers or not depending on the configuration. -/
def netConfigFeatures : UInt64 := 1 <<< virtioNetFMq ||| 1 <<< virtioNetFCtrlVq ||| 1 <<< virtioNetFMac

/-- `get_device_features`. -/
def Net.getDeviceFeatures (n : Net) (page : UInt32) : UInt32 := readU32 n.state.deviceFeatures page

/-- `get_driver_features`. -/
def Net.getDriverFeatures (n : Net) (page : UInt32) : UInt32 := readU32 n.state.driverFeatures page

/-- `set_driver_features`. -/
def Net.setDriverFeatures (n : Net) (page value : UInt32) : Net :=
  { n with state := { n.state with
      driverFeatures := checkedDriverFeatures n.state.deviceFeatures n.state.driverFeatures page value } }

/-- `TUN_F_*` of `linux/if_tun.h`. -/
def tunFCsum : UInt32 := 0x01
def tunFTso4 : UInt32 := 0x02
def tunFTso6 : UInt32 := 0x04
def tunFTsoEcn : UInt32 := 0x08
def tunFUfo : UInt32 := 0x10

/-- `get_tap_offload_flags`. -/
def getTapOffloadFlags (features : UInt64) : UInt32 :=
  (if virtioHasFeature features virtioNetFGuestCsum then tunFCsum else 0) |||
  (if virtioHasFeature features virtioNetFGuestTso4 then tunFTso4 else 0) |||
  (if virtioHasFeature features virtioNetFGuestTso6 then tunFTso6 else 0) |||
  (if virtioHasFeature features virtioNetFGuestEcn then tunFTsoEcn else 0) |||
  (if virtioHasFeature features virtioNetFGuestUfo then tunFUfo else 0)

/-! ## The MAC address -/

/-- `char::to_digit(16)`. -/
def hexDigit (c : Char) : Option Nat :=
  if '0' ≤ c ∧ c ≤ '9' then some (c.toNat - '0'.toNat)
  else if 'a' ≤ c ∧ c ≤ 'f' then some (c.toNat - 'a'.toNat + 10)
  else if 'A' ≤ c ∧ c ≤ 'F' then some (c.toNat - 'A'.toNat + 10)
  else none

/-- `u8::from_str_radix(s, 16)`: one optional `+`, at least one hex digit,
no overflow. -/
def parseHexU8 (s : String) : Option UInt8 :=
  let ds := match s.toList with
    | '+' :: rest => rest
    | l => l
  if ds.isEmpty then none
  else (ds.foldlM (fun acc c => do
      let d ← hexDigit c
      if acc * 16 + d < 256 then some (acc * 16 + d) else none) 0).map UInt8.ofNat

/-- How the loop of `build_device_config_space` ends. -/
inductive MacScan where
  /-- every field parsed, and went into `bytes` -/
  | parsed (bytes : List UInt8)
  /-- a field did not parse: the early `return` -/
  | unparsed
  /-- a seventh field parsed: `bytes[6]` panics -/
  | outOfBounds

/-- The loop `for (i, s) in mac.split(':').enumerate()` over `bytes`. -/
def scanMac : Nat → List String → List UInt8 → MacScan
  | _, [], bytes => .parsed bytes
  | i, s :: ss, bytes =>
      match parseHexU8 s with
      | none => .unparsed
      | some v => if i < 6 then scanMac (i + 1) ss (bytes.set i v) else .outOfBounds

/-- `build_device_config_space`: the features it returns and the config it
leaves, or `none` for the panic.  `mac.split(':')` splits on a character. -/
def buildDeviceConfigSpace (cfg : VirtioNetConfig) (mac : String) :
    Option (UInt64 × VirtioNetConfig) :=
  match scanMac 0 (mac.split (· == ':')) (List.replicate 6 0) with
  | .unparsed => some (0, cfg)
  | .outOfBounds => none
  | .parsed bytes =>
      if h : bytes.length = 6 then some (1 <<< virtioNetFMac, { cfg with mac := bytes, mac_len := h })
      else none

/-! ## What `build_device_config_space` accepts -/

/-- Fields that all parse, from slot `i` with room for them, land in slots
`i, i + 1, …`; the other bytes stay. -/
theorem scanMac_parsed : ∀ (fields : List String) (i : Nat) (bytes : List UInt8),
    (∀ f ∈ fields, (parseHexU8 f).isSome) → bytes.length = 6 → i + fields.length ≤ 6 →
    scanMac i fields bytes =
      .parsed (bytes.take i ++ fields.filterMap parseHexU8 ++ bytes.drop (i + fields.length))
  | [], i, bytes, _, _, _ => by simp [scanMac]
  | s :: ss, i, bytes, h, hlen, hi => by
      obtain ⟨v, hv⟩ := Option.isSome_iff_exists.1 (h s (.head _))
      simp only [List.length_cons] at hi
      have hset : bytes.set i v = bytes.take i ++ v :: bytes.drop (i + 1) := by
        rw [List.set_eq_take_append_cons_drop, if_pos (by omega)]
      have hti : (bytes.take i).length = i := by simp; omega
      simp only [scanMac, hv, if_pos (show i < 6 by omega)]
      rw [scanMac_parsed ss (i + 1) _ (fun f hf => h f (.tail _ hf)) (by simp [hlen]) (by omega), hset]
      have hdrop : (bytes.take i).drop (i + (ss.length + 1)) = [] := List.drop_eq_nil_of_le (by omega)
      simp [List.filterMap_cons, hv, List.take_append_eq_append_take, List.drop_append_eq_append_drop,
        hti, List.drop_drop, List.take_take, hdrop, Nat.add_comm, Nat.add_left_comm]

/-- A field among the first `7 - i` that does not parse ends the loop with
the early `return`. -/
theorem scanMac_unparsed : ∀ (fields : List String) (i : Nat) (bytes : List UInt8),
    (∃ f ∈ fields.take (7 - i), parseHexU8 f = none) → i ≤ 6 → scanMac i fields bytes = .unparsed
  | [], _, _, ⟨_, hf, _⟩, _ => by simp at hf
  | s :: ss, i, bytes, ⟨f, hf, hnone⟩, hi => by
      rw [show 7 - i = (6 - i) + 1 by omega, List.take_succ_cons, List.mem_cons] at hf
      cases hv : parseHexU8 s with
      | none => simp only [scanMac, hv]
      | some v =>
          rcases hf with rfl | hf
          · simp [hv] at hnone
          have hi6 : i < 6 := by
            by_contra hc
            simp [show 6 - i = 0 by omega] at hf
          simp only [scanMac, hv, if_pos hi6]
          exact scanMac_unparsed ss (i + 1) _ ⟨f, by rwa [show 7 - (i + 1) = 6 - i by omega], hnone⟩ hi6

/-- When the first `7 - i` fields parse and there are more than `6 - i`, the
loop reaches `bytes[6]`. -/
theorem scanMac_outOfBounds : ∀ (fields : List String) (i : Nat) (bytes : List UInt8),
    (∀ f ∈ fields.take (7 - i), (parseHexU8 f).isSome) → 7 ≤ i + fields.length → i ≤ 6 →
      scanMac i fields bytes = .outOfBounds
  | [], i, _, _, h7, hi => by simp at h7; omega
  | s :: ss, i, bytes, h, h7, hi => by
      rw [show 7 - i = (6 - i) + 1 by omega, List.take_succ_cons] at h
      obtain ⟨v, hv⟩ := Option.isSome_iff_exists.1 (h s (.head _))
      by_cases hi6 : i < 6
      · simp only [scanMac, hv, if_pos hi6]
        refine scanMac_outOfBounds ss (i + 1) _ (fun f hf => h f (.tail _ ?_))
          (by simp only [List.length_cons] at h7; omega) hi6
        rwa [show 7 - (i + 1) = 6 - i by omega] at hf
      · simp only [scanMac, hv, if_neg hi6]

/-- What `build_device_config_space` does with every string, by the fields
`mac.split(':')` yields: a field among the first seven that does not parse
gives `0` and leaves the config; seven or more fields whose first seven parse
reach `bytes[6]` and panic; at most six fields that all parse give the `MAC`
bit and store their values, padded with zeros to six bytes. -/
theorem buildDeviceConfigSpace_fields (cfg : VirtioNetConfig) (mac : String) :
    ((∃ f ∈ (mac.split (· == ':')).take 7, parseHexU8 f = none) →
        buildDeviceConfigSpace cfg mac = some (0, cfg)) ∧
    ((∀ f ∈ (mac.split (· == ':')).take 7, (parseHexU8 f).isSome) →
        7 ≤ (mac.split (· == ':')).length → buildDeviceConfigSpace cfg mac = none) ∧
    ((∀ f ∈ mac.split (· == ':'), (parseHexU8 f).isSome) → (mac.split (· == ':')).length ≤ 6 →
        ∃ space, buildDeviceConfigSpace cfg mac = some (1 <<< virtioNetFMac, space) ∧
          space.mac = (mac.split (· == ':')).filterMap parseHexU8 ++
            List.replicate (6 - (mac.split (· == ':')).length) 0 ∧
          { space with mac := cfg.mac, mac_len := cfg.mac_len } = cfg) := by
  unfold buildDeviceConfigSpace
  generalize mac.split (· == ':') = fields
  refine ⟨fun h => ?_, fun h h7 => ?_, fun h h6 => ?_⟩
  · rw [scanMac_unparsed fields 0 _ h (by omega)]
  · rw [scanMac_outOfBounds fields 0 _ h (by omega) (by omega)]
  · have hlen : (fields.filterMap parseHexU8).length = fields.length := by
      rw [List.length_filterMap_eq_countP, List.countP_eq_length]; exact h
    rw [scanMac_parsed fields 0 _ h (by simp) (by omega)]
    simp only [List.take_zero, List.nil_append, Nat.zero_add, List.drop_replicate, hlen]
    rw [dif_pos (by simp [hlen]; omega)]
    exact ⟨_, rfl, rfl, rfl⟩

/-- Three fields are taken for a whole address, zero-padded, and seven fields
index past the buffer. -/
theorem partial_mac_accepted :
    (buildDeviceConfigSpace VirtioNetConfig.default "52:54:00").map (fun r => (r.1, r.2.mac)) =
      some (1 <<< virtioNetFMac, [0x52, 0x54, 0, 0, 0, 0]) ∧
    buildDeviceConfigSpace VirtioNetConfig.default "52:54:00:12:34:56:78" = none := by
  simp only [buildDeviceConfigSpace, String.split_of_valid]
  decide

/-! ## Taps -/

/-- `IFF_MULTI_QUEUE`. -/
def iffMultiQueue : UInt16 := 0x0100

/-- `size_of::<VirtioNetHdr>()`. -/
def virtioNetHdrSize : UInt32 := 12

/-- Reading `/sys/class/net/<dev>/tun_flags`. -/
inductive TunFlags where
  | missing
  | unreadable
  | unparsable
  | flags (v : UInt16)

/-- The host as `realize` meets it. -/
structure TapHost where
  iothreadExists : Option String → Bool
  tunFlags : String → TunFlags
  /-- `Tap::new(name, fd, queue_pairs)`, for the `index`-th tap of a `create_tap` -/
  tapNew : Option String → Option Int → UInt16 → Nat → Option Tap
  /-- `set_hdr_size` -/
  setHdrSize : Tap → UInt32 → Bool

/-- `check_mq`. -/
def checkMq (host : TapHost) (devName : String) (queuePair : UInt16) : Except String Unit :=
  match host.tunFlags devName with
  | .missing => .error "Tap path doesn't exist"
  | .unreadable => .error "Failed to read content from tun_flags file"
  | .unparsable => .error "Failed to parse tap ifr flag"
  | .flags flags =>
      let isMq := queuePair > 1
      if flags &&& iffMultiQueue != 0 && !isMq then
        .error ("Tap device supports mq, but command set queue pairs " ++ toString queuePair ++ ".")
      else if flags &&& iffMultiQueue == 0 && isMq then
        .error ("Tap device doesn't support mq, but command set queue pairs " ++
          toString queuePair ++ ".")
      else .ok ()

/-- `create_tap`; with both an fd list and a name, the fds are used. -/
def createTap (host : TapHost) (netFds : Option (List Int)) (hostDevName : Option String)
    (queuePairs : UInt16) : Except String (Option (List Tap)) :=
  if netFds.isNone && hostDevName.isNone then .ok none
  else do
    let taps ← (List.range queuePairs.toNat).mapM fun index => do
      let tap ← match netFds with
        | some fds => match fds.get? index with
          | some fd => match host.tapNew none (some fd) queuePairs index with
            | some tap => pure tap
            | none => throw ("Failed to create tap, index is " ++ toString index)
          | none => throw ("Failed to get fd from index " ++ toString index)
        | none => do
          let devName := hostDevName.getD ""
          checkMq host devName queuePairs
          match host.tapNew (some devName) none queuePairs index with
          | some tap => pure tap
          | none => throw ("Failed to create tap with name " ++ devName ++ ", index is " ++
              toString index)
      if host.setHdrSize tap virtioNetHdrSize then pure tap else throw "Failed to set tap hdr size"
    pure (some taps)

/-! ## `realize` -/

/-- The features and config space `realize` computes before it opens taps. -/
def realizeFeatures (cfg : NetworkInterfaceConfig) (space : VirtioNetConfig) :
    UInt64 × VirtioNetConfig :=
  let queuePairs := cfg.queues / 2
  if cfg.mq && queuePairs ≥ virtioNetCtrlMqVqPairsMin && queuePairs ≤ virtioNetCtrlMqVqPairsMax then
    (netBaseFeatures ||| 1 <<< virtioNetFMq ||| 1 <<< virtioNetFCtrlVq,
      { space with maxVirtqueuePairs := queuePairs })
  else (netBaseFeatures, space)

/-- The tap part of `realize`. -/
def realizeTaps (host : TapHost) (n : Net) : Except String Unit × Net :=
  let queuePairs := n.netCfg.queues / 2
  if n.netCfg.hostDevName ≠ "" then
    match createTap host none (some n.netCfg.hostDevName) queuePairs with
    | .ok taps => (.ok (), { n with taps := taps })
    | .error _ => (.error "Failed to open tap with file path", { n with taps := none })
  else match n.netCfg.tapFds with
    | some fds =>
        let createdFds := match n.taps with
          | some taps => (taps.enum.filter fun (i, tap) => fds.getD i (-1) == tap.fd).length
          | none => 0
        if createdFds ≠ fds.length then
          match createTap host (some fds) none queuePairs with
          | .ok taps => (.ok (), { n with taps := taps })
          | .error _ => (.error "Failed to open tap", n)
        else (.ok (), n)
    | none => (.ok (), { n with taps := none })

/-- `Net::realize`.  The iothread error formats `net_cfg.iothread` with
`{:?}`: `Some("name")` (escapes inside the name left out). -/
def Net.realize (host : TapHost) (n : Net) : Except String Unit × Net :=
  if n.netCfg.iothread.isSome && !host.iothreadExists n.netCfg.iothread then
    (.error ("IOThread Some(\"" ++ n.netCfg.iothread.getD "" ++ "\") of Net is not configured in params."), n)
  else
    let r := realizeFeatures n.netCfg n.state.configSpace
    let n := { n with state := { n.state with deviceFeatures := r.1, configSpace := r.2 } }
    match realizeTaps host n with
    | (.error e, n) => (.error e, n)
    | (.ok (), n) =>
        match n.netCfg.mac with
        | none => (.ok (), n)
        | some mac =>
            match buildDeviceConfigSpace n.state.configSpace mac with
            | some (f, space) =>
                (.ok (), { n with state := { n.state with
                  deviceFeatures := n.state.deviceFeatures ||| f, configSpace := space } })
            | none => (.error "index out of bounds: the len is 6 but the index is 6", n)

/-! ## What `realize` does to the features -/

/-- Opening the taps leaves the device state alone. -/
theorem realizeTaps_state (host : TapHost) (n : Net) : (realizeTaps host n).2.state = n.state := by
  unfold realizeTaps
  dsimp only
  split
  · split <;> rfl
  · split
    · split
      · split <;> rfl
      · rfl
    · rfl

theorem buildDeviceConfigSpace_features {cfg : VirtioNetConfig} {mac : String} {f : UInt64}
    {space : VirtioNetConfig} (h : buildDeviceConfigSpace cfg mac = some (f, space)) :
    f = 0 ∨ f = 1 <<< virtioNetFMac := by
  unfold buildDeviceConfigSpace at h
  split at h
  · cases h; exact .inl rfl
  · cases h
  · split at h
    · cases h; exact .inr rfl
    · cases h

/-- The device features `realize` computes, with or without the `MAC` bit of
`build_device_config_space`, hold every base feature and nothing beyond the
base and the configuration-dependent features. -/
theorem realizeFeatures_within (cfg : NetworkInterfaceConfig) (space : VirtioNetConfig) (f : UInt64)
    (hf : f = 0 ∨ f = 1 <<< virtioNetFMac) :
    let d := (realizeFeatures cfg space).1
    (netBaseFeatures &&& ~~~d = 0 ∧ d &&& ~~~(netBaseFeatures ||| netConfigFeatures) = 0) ∧
    (netBaseFeatures &&& ~~~(d ||| f) = 0 ∧
      (d ||| f) &&& ~~~(netBaseFeatures ||| netConfigFeatures) = 0) := by
  have hd : (realizeFeatures cfg space).1 = netBaseFeatures ∨
      (realizeFeatures cfg space).1 = netBaseFeatures ||| 1 <<< virtioNetFMq ||| 1 <<< virtioNetFCtrlVq := by
    unfold realizeFeatures; dsimp only; split <;> simp
  rcases hd with hd | hd <;> rcases hf with rfl | rfl <;> simp only [hd] <;> decide

/-- `realize` keeps `driver_features`, and either keeps `device_features` (the
iothread check failed) or recomputes it from the configuration alone. -/
theorem realize_features (host : TapHost) (n : Net) :
    (n.realize host).2.state.driverFeatures = n.state.driverFeatures ∧
    ((n.realize host).2.state.deviceFeatures = n.state.deviceFeatures ∨
      netBaseFeatures &&& ~~~(n.realize host).2.state.deviceFeatures = 0 ∧
      (n.realize host).2.state.deviceFeatures &&& ~~~(netBaseFeatures ||| netConfigFeatures) = 0) := by
  have hr := realizeFeatures_within n.netCfg n.state.configSpace
  unfold Net.realize
  split
  · exact ⟨rfl, .inl rfl⟩
  dsimp only
  split <;> rename_i hT <;> have hs := congrArg (·.2.state) hT <;>
    simp only [realizeTaps_state] at hs
  · simp only [← hs]; exact ⟨trivial, .inr (hr 0 (.inl rfl)).1⟩
  split
  · simp only [← hs]; exact ⟨trivial, .inr (hr 0 (.inl rfl)).1⟩
  split
  · rename_i hb
    simp only [← hs]; exact ⟨trivial, .inr (hr _ (buildDeviceConfigSpace_features hb)).2⟩
  · simp only [← hs]; exact ⟨trivial, .inr (hr 0 (.inl rfl)).1⟩

/-! ## `realize` on a device with no taps yet -/

/-- What a successful `mapM` in `Except` returns: for each input, in order,
what `f` gave it. -/
theorem mapM_ok_forall₂ {α β ε : Type} (f : α → Except ε β) :
    ∀ (l : List α) (r : List β), l.mapM f = .ok r → List.Forall₂ (fun a b => f a = .ok b) l r
  | [], r, h => by cases h; exact .nil
  | a :: l, r, h => by
      rw [List.mapM_cons] at h
      cases hf : f a with
      | error e => rw [hf] at h; cases h
      | ok b =>
          cases hl : l.mapM f with
          | error e => rw [hf, hl] at h; cases h
          | ok bs => rw [hf, hl] at h; cases h; exact .cons hf (mapM_ok_forall₂ f l bs hl)

/-- `mapM` in `Except` returns one result per element when it succeeds. -/
theorem mapM_ok_length {α β ε : Type} (f : α → Except ε β) :
    ∀ (l : List α) (r : List β), l.mapM f = .ok r → r.length = l.length :=
  fun l r h => (mapM_ok_forall₂ f l r h).length_eq.symm

/-- A successful `create_tap` opens no taps or one per queue pair. -/
theorem createTap_ok {host : TapHost} {netFds : Option (List Int)} {hostDevName : Option String}
    {queuePairs : UInt16} {r : Option (List Tap)} (h : createTap host netFds hostDevName queuePairs = .ok r) :
    r = none ∨ ∃ ts, r = some ts ∧ ts.length = queuePairs.toNat := by
  unfold createTap at h
  split at h
  · cases h; exact .inl rfl
  · simp only [bind, Except.bind] at h
    split at h
    · cases h
    · rename_i ts hm
      cases h
      exact .inr ⟨ts, rfl, by rw [mapM_ok_length _ _ _ hm, List.length_range]⟩

/-- Without earlier taps, the fd branch counts no created fds, so a successful
tap step leaves no taps or opens one per queue pair. -/
theorem realizeTaps_fresh {host : TapHost} {n n' : Net} (h : realizeTaps host n = (.ok (), n'))
    (hn : n.taps = none) :
    n'.netCfg = n.netCfg ∧ n'.state = n.state ∧
      (n'.taps = none ∨ ∃ ts, n'.taps = some ts ∧ ts.length = (n.netCfg.queues / 2).toNat) := by
  unfold realizeTaps at h
  dsimp only at h
  split at h
  · split at h
    · cases h; exact ⟨rfl, rfl, createTap_ok ‹_›⟩
    · cases h
  · split at h
    · simp only [hn] at h
      split at h
      · split at h
        · cases h; exact ⟨rfl, rfl, createTap_ok ‹_›⟩
        · cases h
      · cases h; exact ⟨rfl, rfl, .inl hn⟩
    · cases h; exact ⟨rfl, rfl, .inl rfl⟩

/-- A successful `realize` of a device with no taps keeps the configuration,
leaves no taps or one per queue pair, and offers `CTRL_VQ` only when the
configuration asks for multiqueue. -/
theorem realize_fresh {host : TapHost} {n n' : Net} (hn : n.taps = none)
    (h : n.realize host = (.ok (), n')) :
    n'.netCfg = n.netCfg ∧
    (n'.taps = none ∨ ∃ ts, n'.taps = some ts ∧ ts.length = (n.netCfg.queues / 2).toNat) ∧
    (n.netCfg.mq = false → n'.state.deviceFeatures &&& 1 <<< virtioNetFCtrlVq = 0) := by
  unfold Net.realize at h
  split at h
  · cases h
  dsimp only at h
  split at h
  · cases h
  rename_i m hT
  obtain ⟨hcfg, hs, htaps⟩ := realizeTaps_fresh hT hn
  have hbase : n.netCfg.mq = false → (realizeFeatures n.netCfg n.state.configSpace).1 = netBaseFeatures := by
    intro hmq; simp [realizeFeatures, hmq]
  split at h
  · cases h
    exact ⟨hcfg, htaps, fun hmq => by simp only [hs, hbase hmq]; decide⟩
  · split at h
    · cases h
      rename_i hb
      refine ⟨hcfg, htaps, fun hmq => ?_⟩
      simp only [hs, hbase hmq]
      rcases buildDeviceConfigSpace_features hb with rfl | rfl <;> decide
    · cases h

/-! ## Opening the taps by name -/

/-- `check_mq` passes exactly when `tun_flags` reads and parses and its
`IFF_MULTI_QUEUE` bit is set exactly when more than one pair is asked for. -/
theorem checkMq_ok (host : TapHost) (dev : String) (qp : UInt16) :
    checkMq host dev qp = .ok () ↔
      ∃ flags, host.tunFlags dev = .flags flags ∧ (flags &&& iffMultiQueue ≠ 0 ↔ 1 < qp) := by
  rcases hf : host.tunFlags dev with _ | _ | _ | flags <;> simp only [checkMq, hf] <;> try simp
  by_cases hm : flags &&& iffMultiQueue = 0 <;> by_cases hq : 1 < qp <;> simp [hm, hq]

/-- A successful `create_tap` by name opens one tap per pair, the `i`-th
`Tap::new` of the name with its header size set, each after `check_mq`
passed. -/
theorem createTap_byName {host : TapHost} {dev : String} {qp : UInt16} {r : Option (List Tap)}
    (h : createTap host none (some dev) qp = .ok r) :
    ∃ ts, r = some ts ∧ ts.length = qp.toNat ∧ (0 < qp.toNat → checkMq host dev qp = .ok ()) ∧
      ∀ i (hi : i < ts.length), host.tapNew (some dev) none qp i = some ts[i] ∧
        host.setHdrSize ts[i] virtioNetHdrSize = true := by
  unfold createTap at h
  simp only [Option.isNone_none, Option.isNone_some, Bool.and_false, Bool.false_eq_true, if_false, bind,
    Except.bind] at h
  split at h
  · cases h
  rename_i ts hm
  cases h
  have hall := mapM_ok_forall₂ _ _ _ hm
  have hlen : ts.length = qp.toNat := by rw [← hall.length_eq, List.length_range]
  have hround : ∀ i (hi : i < ts.length), checkMq host dev qp = .ok () ∧
      host.tapNew (some dev) none qp i = some ts[i] ∧ host.setHdrSize ts[i] virtioNetHdrSize = true := by
    intro i hi
    have := hall.get (by simpa [hlen] using hi) hi
    simp only [List.get_eq_getElem, List.getElem_range, Option.getD_some, bind, Except.bind] at this
    split at this
    · cases this
    rename_i u hc
    split at this
    · rename_i t ht
      simp only [pure, Except.pure, throw, throwThe, MonadExceptOf.throw] at this
      split at this
      · cases this
        exact ⟨by cases u; exact hc, ht, ‹_›⟩
      · cases this
    · cases this
  exact ⟨ts, rfl, hlen, fun _ => (hround 0 (by omega)).1, fun i hi => (hround i hi).2⟩

/-- By name, a successful tap step is `create_tap` of the name. -/
theorem realizeTaps_byName {host : TapHost} {n m : Net} (h : realizeTaps host n = (.ok (), m))
    (hname : n.netCfg.hostDevName ≠ "") :
    createTap host none (some n.netCfg.hostDevName) (n.netCfg.queues / 2) = .ok m.taps := by
  unfold realizeTaps at h
  simp only [if_pos hname] at h
  split at h
  · cases h; assumption
  · cases h

/-- **The taps `realize` opens by name.**  A successful `realize` of a device
configured with a host device name leaves one tap per queue pair, the `i`-th
being `Tap::new` of that name, and none for fewer than two queues.  With at
least one pair, `tun_flags` was read and parsed, and its `IFF_MULTI_QUEUE`
bit is set exactly when more than one pair is configured. -/
theorem realize_byName {host : TapHost} {n n' : Net} (h : n.realize host = (.ok (), n'))
    (hname : n.netCfg.hostDevName ≠ "") :
    ∃ ts, n'.taps = some ts ∧ ts.length = (n.netCfg.queues / 2).toNat ∧
      (0 < n.netCfg.queues / 2 → ∃ flags, host.tunFlags n.netCfg.hostDevName = .flags flags ∧
        (flags &&& iffMultiQueue ≠ 0 ↔ 1 < n.netCfg.queues / 2)) ∧
      ∀ i (hi : i < ts.length),
        host.tapNew (some n.netCfg.hostDevName) none (n.netCfg.queues / 2) i = some ts[i] := by
  have htaps : ∃ m, realizeTaps host { n with state := { n.state with
      deviceFeatures := (realizeFeatures n.netCfg n.state.configSpace).1,
      configSpace := (realizeFeatures n.netCfg n.state.configSpace).2 } } = (.ok (), m) ∧ n'.taps = m.taps := by
    unfold Net.realize at h
    split at h
    · cases h
    dsimp only at h
    split at h
    · cases h
    rename_i m hT
    refine ⟨m, hT, ?_⟩
    split at h
    · cases h; rfl
    · split at h
      · cases h; rfl
      · cases h
  obtain ⟨m, hT, hm⟩ := htaps
  obtain ⟨ts, hts, hlen, hcheck, hnew⟩ := createTap_byName (realizeTaps_byName hT hname)
  exact ⟨ts, hm.trans hts, hlen, fun hq => (checkMq_ok _ _ _).1 (hcheck hq), fun i hi => (hnew i hi).1⟩

/-- A host whose tap is multiqueue and opens every tap, fd `10 + i` for the
`i`-th. -/
def mqTapHost : TapHost := ⟨fun _ => true, fun _ => .flags 0x1100, fun _ _ _ i => some ⟨10 + i⟩, fun _ _ => true⟩

/-- A device on `tap0` with four queues and multiqueue. -/
def tap0Net : Net := Net.new { hostDevName := "tap0", queues := 4, mq := true } 20 21

theorem tap0_realized :
    tap0Net.realize mqTapHost = (.ok (), (tap0Net.realize mqTapHost).2) ∧ tap0Net.netCfg.hostDevName ≠ "" ∧
      ∃ ts, (tap0Net.realize mqTapHost).2.taps = some ts ∧ ts.length = (tap0Net.netCfg.queues / 2).toNat ∧
        (0 < tap0Net.netCfg.queues / 2 → ∃ flags, mqTapHost.tunFlags tap0Net.netCfg.hostDevName = .flags flags ∧
          (flags &&& iffMultiQueue ≠ 0 ↔ 1 < tap0Net.netCfg.queues / 2)) ∧
        ∀ i (hi : i < ts.length),
          mqTapHost.tapNew (some tap0Net.netCfg.hostDevName) none (tap0Net.netCfg.queues / 2) i = some ts[i] :=
  ⟨rfl, by decide, realize_byName rfl (by decide)⟩

end StratoVirt.Virtio
