/-
# `StratoVirt.Config.Balloon` — `parse_balloon` and the one-balloon rule

`machine_manager/src/config/balloon.rs`.  `parse_balloon` refuses a second
balloon by looking up the `"balloon"` key of `vm_config.dev_name`, and inserts
that key as the last thing it does before returning `Ok`.

The command-line parser it drives (`CmdParser`, `pci_args_check`,
`check_arg_too_long`) lives in `config/mod.rs`, which is not among the
sources; it enters as the parameter `P : CmdParser α`, so every result here
holds for any parser.  `VmConfig` is reduced to `dev_name`, the only field
`parse_balloon` touches, kept as the map it is (`String → Option UInt8`).

The main result, `parseBalloons_one_balloon`, is about a whole sequence of
calls: at most one returns `Ok`, a rejected call leaves `dev_name` as it was,
and the key is present afterwards exactly when it was before or some call
succeeded.  `parseBalloon_wellFormed` is about what one call returns: it
passed `check`, so with `auto_balloon` both values lie in their ranges.
-/
import Mathlib.Data.List.Count

namespace StratoVirt.Config

/-! ## Constants and records -/

def memBufferPercentMin : UInt32 := 20
def memBufferPercentMax : UInt32 := 80
def memBufferPercentDefault : UInt32 := 50
def monitorIntervalSecondMin : UInt32 := 5
def monitorIntervalSecondMax : UInt32 := 300
def monitorIntervalSecondDefault : UInt32 := 10

/-- `BalloonConfig`; `Default` gives the empty id and every flag off. -/
structure BalloonConfig where
  id : String := ""
  deflateOnOom : Bool := false
  freePageReporting : Bool := false
  autoBalloon : Bool := false
  membufPercent : UInt32 := 0
  monitorInterval : UInt32 := 0
deriving DecidableEq, Repr

/-- The errors `parse_balloon` raises itself: `ConfigError::IllegalValue`
(name, min, min inclusive, max, max inclusive) and `bail!` texts.  The
parser's own errors are values of the same type, chosen by `P`. -/
inductive ConfigError where
  | illegalValue (name : String) (min : UInt64) (minIncl : Bool) (max : UInt64) (maxIncl : Bool)
  | msg (text : String)
deriving DecidableEq, Repr

/-- `VmConfig`, reduced to `dev_name : HashMap<String, u8>`. -/
structure VmConfig where
  devName : String → Option UInt8

/-- `dev_name.insert(key, v)`. -/
def VmConfig.insertDevName (vm : VmConfig) (key : String) (v : UInt8) : VmConfig :=
  ⟨fun k => if k = key then some v else vm.devName k⟩

/-- `dev_name.get("balloon").is_some()`. -/
def VmConfig.hasBalloon (vm : VmConfig) : Bool := (vm.devName "balloon").isSome

@[simp] theorem hasBalloon_insertDevName_balloon (vm : VmConfig) (v : UInt8) :
    (vm.insertDevName "balloon" v).hasBalloon = true := by
  simp [VmConfig.hasBalloon, VmConfig.insertDevName]

/-- The parts of `config/mod.rs` that `parse_balloon` calls: `CmdParser::parse`
over the keys pushed, `pci_args_check`, `get_value` at the three value types
read, and `check_arg_too_long`. -/
structure CmdParser (α : Type) where
  parse : List String → String → Except ConfigError α
  pciArgsCheck : α → Except ConfigError Unit
  getExBool : α → String → Except ConfigError (Option Bool)
  getString : α → String → Except ConfigError (Option String)
  getU32 : α → String → Except ConfigError (Option UInt32)
  checkArgTooLong : String → String → Except ConfigError Unit

/-! ## The source functions -/

/-- `BalloonConfig::check`: the two ranges are checked only with `auto_balloon`. -/
def BalloonConfig.check {α : Type} (P : CmdParser α) (b : BalloonConfig) :
    Except ConfigError Unit := do
  P.checkArgTooLong b.id "balloon id"
  if !b.autoBalloon then return ()
  if b.membufPercent > memBufferPercentMax || b.membufPercent < memBufferPercentMin then
    throw (.illegalValue "balloon membuf-percent" memBufferPercentMin.toUInt64 false
      memBufferPercentMax.toUInt64 false)
  if b.monitorInterval > monitorIntervalSecondMax ||
      b.monitorInterval < monitorIntervalSecondMin then
    throw (.illegalValue "balloon monitor-interval" monitorIntervalSecondMin.toUInt64 false
      monitorIntervalSecondMax.toUInt64 false)
  return ()

/-- The keys `parse_balloon` pushes onto its `CmdParser`. -/
def balloonKeys : List String :=
  ["", "bus", "addr", "multifunction", "id", "deflate-on-oom", "free-page-reporting",
    "auto-balloon", "membuf-percent", "monitor-interval"]

/-- The body of `parse_balloon` between the uniqueness check and the insertion
of the key: parse, fill the record over its defaults, check.  It does not read
`vm_config`. -/
def buildBalloon {α : Type} (P : CmdParser α) (s : String) :
    Except ConfigError BalloonConfig := do
  let args ← P.parse balloonKeys s
  P.pciArgsCheck args
  let b : BalloonConfig :=
    { membufPercent := memBufferPercentDefault, monitorInterval := monitorIntervalSecondDefault }
  let b := match ← P.getExBool args "deflate-on-oom" with
    | some v => { b with deflateOnOom := v } | none => b
  let b := match ← P.getExBool args "free-page-reporting" with
    | some v => { b with freePageReporting := v } | none => b
  let b := match ← P.getString args "id" with
    | some v => { b with id := v } | none => b
  let b := match ← P.getExBool args "auto-balloon" with
    | some v => { b with autoBalloon := v } | none => b
  let b := match ← P.getU32 args "membuf-percent" with
    | some v => { b with membufPercent := v } | none => b
  let b := match ← P.getU32 args "monitor-interval" with
    | some v => { b with monitorInterval := v } | none => b
  b.check P
  return b

/-- `parse_balloon`, with `vm_config` passed in and handed back: the state is
returned on both paths, as the `&mut` reference leaves it. -/
def parseBalloon {α : Type} (P : CmdParser α) (vm : VmConfig) (s : String) :
    Except ConfigError BalloonConfig × VmConfig :=
  if vm.hasBalloon then
    (.error (.msg "Only one balloon device is supported for each vm."), vm)
  else
    match buildBalloon P s with
    | .error e => (.error e, vm)
    | .ok b => (.ok b, vm.insertDevName "balloon" 1)

/-- A sequence of `parse_balloon` calls on one `VmConfig`: every call's result,
and the `VmConfig` after the last. -/
def parseBalloons {α : Type} (P : CmdParser α) : VmConfig → List String →
    List (Except ConfigError BalloonConfig) × VmConfig
  | vm, [] => ([], vm)
  | vm, s :: ss =>
      let r := parseBalloon P vm s
      let rest := parseBalloons P r.2 ss
      (r.1 :: rest.1, rest.2)

/-! ## One call -/

@[simp] theorem isOk_ok {ε β : Type} (b : β) : (Except.ok b : Except ε β).isOk = true := rfl
@[simp] theorem isOk_error {ε β : Type} (e : ε) : (Except.error e : Except ε β).isOk = false := rfl

section
variable {α : Type} (P : CmdParser α) (vm : VmConfig) (s : String)

/-- What one call can do: fail and leave `vm_config` alone, or find no balloon,
succeed and insert the key. -/
theorem parseBalloon_cases :
    (∃ e, parseBalloon P vm s = (.error e, vm)) ∨
      (vm.hasBalloon = false ∧ ∃ b, parseBalloon P vm s = (.ok b, vm.insertDevName "balloon" 1)) := by
  unfold parseBalloon
  split
  · exact .inl ⟨_, rfl⟩
  · split
    · exact .inl ⟨_, rfl⟩
    · exact .inr ⟨Bool.eq_false_iff.mpr ‹_›, _, rfl⟩

/-- Every error path of `parse_balloon` returns before the key is inserted. -/
theorem parseBalloon_error_state (h : (parseBalloon P vm s).1.isOk = false) :
    (parseBalloon P vm s).2 = vm := by
  obtain ⟨e, he⟩ | ⟨-, b, hb⟩ := parseBalloon_cases P vm s <;> simp_all

/-- A successful call found no balloon and leaves one. -/
theorem parseBalloon_ok_state (h : (parseBalloon P vm s).1.isOk = true) :
    vm.hasBalloon = false ∧ (parseBalloon P vm s).2.hasBalloon = true := by
  obtain ⟨e, he⟩ | ⟨hn, b, hb⟩ := parseBalloon_cases P vm s
  · simp [he] at h
  · simp [hn, hb]

theorem parseBalloon_hasBalloon :
    (parseBalloon P vm s).2.hasBalloon = (vm.hasBalloon || (parseBalloon P vm s).1.isOk) := by
  obtain ⟨e, he⟩ | ⟨hn, b, hb⟩ := parseBalloon_cases P vm s <;> simp [*]

theorem parseBalloon_not_ok (h : vm.hasBalloon = true) : (parseBalloon P vm s).1.isOk = false := by
  obtain ⟨e, he⟩ | ⟨hn, b, hb⟩ := parseBalloon_cases P vm s <;> simp_all

end

/-! ## A sequence of calls -/

section
variable {α : Type} (P : CmdParser α)

/-- Once the key is present every later call is refused and the key stays. -/
theorem parseBalloons_of_hasBalloon :
    ∀ (vm : VmConfig) (ss : List String), vm.hasBalloon = true →
      (∀ r ∈ (parseBalloons P vm ss).1, r.isOk = false) ∧ (parseBalloons P vm ss).2 = vm
  | _, [], _ => by simp [parseBalloons]
  | vm, s :: ss, h => by
      have hs := parseBalloon_not_ok P vm s h
      have hvm := parseBalloon_error_state P vm s hs
      obtain ⟨ih₁, ih₂⟩ := parseBalloons_of_hasBalloon (parseBalloon P vm s).2 ss (by rwa [hvm])
      simp only [parseBalloons, List.mem_cons, forall_eq_or_imp]
      exact ⟨⟨hs, ih₁⟩, ih₂.trans hvm⟩

theorem parseBalloons_count_ok :
    ∀ (vm : VmConfig) (ss : List String),
      (parseBalloons P vm ss).1.countP (·.isOk) ≤ 1
  | _, [] => by simp [parseBalloons]
  | vm, s :: ss => by
      have ih := parseBalloons_count_ok (parseBalloon P vm s).2 ss
      simp only [parseBalloons, List.countP_cons]
      cases hr : (parseBalloon P vm s).1.isOk
      · simpa using ih
      · have hnone := (parseBalloons_of_hasBalloon P _ ss (parseBalloon_ok_state P vm s hr).2).1
        simpa [List.countP_eq_zero] using hnone

theorem parseBalloons_hasBalloon :
    ∀ (vm : VmConfig) (ss : List String),
      (parseBalloons P vm ss).2.hasBalloon = true ↔
        vm.hasBalloon = true ∨ ∃ r ∈ (parseBalloons P vm ss).1, r.isOk = true
  | vm, [] => by simp [parseBalloons]
  | vm, s :: ss => by
      simp only [parseBalloons, List.mem_cons, exists_eq_or_imp,
        parseBalloons_hasBalloon (parseBalloon P vm s).2 ss, parseBalloon_hasBalloon,
        Bool.or_eq_true]
      tauto

end

/-- **At most one balloon.**  Along any sequence of `parse_balloon` calls on one
`VmConfig`: at most one call returns `Ok`; a call that returns `Err` leaves
`dev_name` as it was; and afterwards `"balloon"` is a key exactly when it was
one before or some call returned `Ok`. -/
theorem parseBalloons_one_balloon {α : Type} (P : CmdParser α) (vm : VmConfig)
    (ss : List String) :
    (parseBalloons P vm ss).1.countP (·.isOk) ≤ 1 ∧
    (∀ (vm' : VmConfig) (s : String), (parseBalloon P vm' s).1.isOk = false →
      (parseBalloon P vm' s).2.devName = vm'.devName) ∧
    ((parseBalloons P vm ss).2.hasBalloon = true ↔
      vm.hasBalloon = true ∨ ∃ r ∈ (parseBalloons P vm ss).1, r.isOk = true) :=
  ⟨parseBalloons_count_ok P vm ss,
    fun vm' s h => by rw [parseBalloon_error_state P vm' s h],
    parseBalloons_hasBalloon P vm ss⟩

/-! ## What `parse_balloon` accepts -/

section
variable {α : Type} (P : CmdParser α)

/-- `check` passes exactly when the id passes `check_arg_too_long` and, with
`auto_balloon`, both values lie in their ranges. -/
theorem BalloonConfig.check_ok (b : BalloonConfig) :
    b.check P = .ok () ↔ P.checkArgTooLong b.id "balloon id" = .ok () ∧
      (b.autoBalloon = true → memBufferPercentMin ≤ b.membufPercent ∧ b.membufPercent ≤ memBufferPercentMax ∧
        monitorIntervalSecondMin ≤ b.monitorInterval ∧ b.monitorInterval ≤ monitorIntervalSecondMax) := by
  unfold BalloonConfig.check
  cases hc : P.checkArgTooLong b.id "balloon id" with
  | error e => exact ⟨nofun, fun h => nomatch h.1⟩
  | ok u =>
    cases ha : b.autoBalloon
    · exact ⟨fun _ => ⟨rfl, nofun⟩, fun _ => rfl⟩
    · simp only [bind, Except.bind, pure, Except.pure, throw, throwThe, MonadExceptOf.throw, Bool.not_true,
        Bool.false_eq_true, if_false, Bool.or_eq_true, decide_eq_true_eq, ← UInt32.not_le, true_implies, true_and]
      split_ifs with hm hi <;> simp only [reduceCtorEq, false_iff, true_iff]
      · exact fun g => hm.elim (· g.2.1) (· g.1)
      · exact fun g => hi.elim (· g.2.2.2) (· g.2.2.1)
      · simp only [not_or, not_not] at hm hi
        exact ⟨hm.2, hm.1, hi.2, hi.1⟩

/-- Every error of `check` is that of `check_arg_too_long`, or names the
field out of range with its bounds. -/
theorem BalloonConfig.check_error (b : BalloonConfig) {e : ConfigError} (h : b.check P = .error e) :
    P.checkArgTooLong b.id "balloon id" = .error e ∨
      e = .illegalValue "balloon membuf-percent" memBufferPercentMin.toUInt64 false
        memBufferPercentMax.toUInt64 false ∨
      e = .illegalValue "balloon monitor-interval" monitorIntervalSecondMin.toUInt64 false
        monitorIntervalSecondMax.toUInt64 false := by
  unfold BalloonConfig.check at h
  cases hc : P.checkArgTooLong b.id "balloon id" with
  | error e' => rw [hc] at h; cases h; exact .inl rfl
  | ok u =>
    cases ha : b.autoBalloon <;>
      simp only [hc, ha, bind, Except.bind, pure, Except.pure, throw, throwThe, MonadExceptOf.throw, Bool.not_false,
        Bool.not_true, if_true, if_false, Bool.false_eq_true] at h
    · cases h
    · split_ifs at h <;> cases h
      · exact .inr (.inl rfl)
      · exact .inr (.inr rfl)

/-- The record `parse_balloon` starts from passes `check` whenever its empty
id does, with `auto_balloon` on or off. -/
theorem BalloonConfig.check_defaults (hid : P.checkArgTooLong "" "balloon id" = .ok ()) (auto : Bool) :
    ({ autoBalloon := auto, membufPercent := memBufferPercentDefault,
        monitorInterval := monitorIntervalSecondDefault } : BalloonConfig).check P = .ok () :=
  (BalloonConfig.check_ok P _).2 ⟨hid, fun _ => (by decide : memBufferPercentMin ≤ memBufferPercentDefault ∧
    memBufferPercentDefault ≤ memBufferPercentMax ∧ monitorIntervalSecondMin ≤ monitorIntervalSecondDefault ∧
    monitorIntervalSecondDefault ≤ monitorIntervalSecondMax)⟩

/-- A config `parse_balloon` builds has passed `check`. -/
theorem buildBalloon_check {s : String} {b : BalloonConfig} (h : buildBalloon P s = .ok b) :
    b.check P = .ok () := by
  unfold buildBalloon at h
  simp only [bind, Except.bind, pure, Except.pure] at h
  iterate 8 (split at h; · cases h)
  split at h
  · cases h
  · rename_i u hc
    cases h
    exact hc

/-- **What `parse_balloon` accepts is well formed.**  For any parser, a
config a call returns had its id pass `check_arg_too_long`, and with
`auto_balloon` its `membuf_percent` lies in [20, 80] and its
`monitor_interval` in [5, 300]. -/
theorem parseBalloon_wellFormed {vm : VmConfig} {s : String} {b : BalloonConfig}
    (h : (parseBalloon P vm s).1 = .ok b) :
    P.checkArgTooLong b.id "balloon id" = .ok () ∧
      (b.autoBalloon = true → memBufferPercentMin ≤ b.membufPercent ∧ b.membufPercent ≤ memBufferPercentMax ∧
        monitorIntervalSecondMin ≤ b.monitorInterval ∧ b.monitorInterval ≤ monitorIntervalSecondMax) := by
  unfold parseBalloon at h
  split at h
  · cases h
  split at h
  · cases h
  · cases h
    exact (BalloonConfig.check_ok P b).1 (buildBalloon_check P ‹_›)

end

/-- A parser that accepts anything and reads only `auto-balloon=on`. -/
def autoOnParser : CmdParser Unit :=
  ⟨fun _ _ => .ok (), fun _ => .ok (), fun _ k => .ok (if k = "auto-balloon" then some true else none),
    fun _ _ => .ok none, fun _ _ => .ok none, fun _ _ => .ok ()⟩

/-- The balloon it yields: `auto_balloon` with both defaults. -/
def autoOnBalloon : BalloonConfig :=
  { autoBalloon := true, membufPercent := memBufferPercentDefault, monitorInterval := monitorIntervalSecondDefault }

theorem auto_on_wellFormed :
    (parseBalloon autoOnParser ⟨fun _ => none⟩ "auto-balloon=on").1 = .ok autoOnBalloon ∧
      autoOnParser.checkArgTooLong autoOnBalloon.id "balloon id" = .ok () ∧
      (autoOnBalloon.autoBalloon = true → memBufferPercentMin ≤ autoOnBalloon.membufPercent ∧
        autoOnBalloon.membufPercent ≤ memBufferPercentMax ∧
        monitorIntervalSecondMin ≤ autoOnBalloon.monitorInterval ∧
        autoOnBalloon.monitorInterval ≤ monitorIntervalSecondMax) :=
  have h : (parseBalloon autoOnParser ⟨fun _ => none⟩ "auto-balloon=on").1 = .ok autoOnBalloon := rfl
  ⟨h, parseBalloon_wellFormed autoOnParser h⟩

end StratoVirt.Config
