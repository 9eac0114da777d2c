/-
# `StratoVirt.EventLoop` — the notifier registry the handlers feed

Modelled from the spec (§3 "Event notifier", §4.1): `util/src/loop_context.rs`
is not among the sources.  The registry maps each fd to its status and the
list of handlers registered on it.  Of the operations, the net handlers use
four, and the spec says what each does:

* `AddShared` appends the notifier's handlers, registering the fd alive if it
  was not registered;
* `Delete` removes the fd;
* `Park` takes the fd out of the interest set and keeps its handlers;
* `Resume` re-arms it.

What an operation needs of the fd it names — registered for `Delete`, alive
for `Park`, parked for `Resume` — is `Registry.targets`, and `batchOk` says
whether every notifier of a batch finds its fd so.

When an alive fd is ready, every handler on it runs, in registration order,
and the batches they return are applied in order before the next wait
(`fire`).  Handlers are named by a type `H`: a closure of the source is
known by what it does.
-/
import Mathlib.Logic.Basic

namespace StratoVirt.EventLoop

inductive NotifierOperation where
  | addShared
  | park
  | resume
  | delete
deriving DecidableEq, Repr

inductive EventStatus where
  | alive
  | parked
deriving DecidableEq, Repr

/-- `EPOLLIN`. -/
def eventSetIn : UInt32 := 0x1
/-- `EPOLLET`. -/
def eventSetEdgeTriggered : UInt32 := 0x80000000

/-- `EventNotifier`; `parked_fd` is `None` in every notifier `net.rs` builds. -/
structure EventNotifier (H : Type) where
  op : NotifierOperation
  rawFd : Int
  event : UInt32
  handlers : List H
deriving DecidableEq, Repr

/-- Each registered fd's status and handlers. -/
def Registry (H : Type) := Int → Option (EventStatus × List H)

namespace Registry

variable {H : Type}

def empty : Registry H := fun _ => none

def apply (reg : Registry H) (n : EventNotifier H) : Registry H := fun fd =>
  if fd = n.rawFd then
    match n.op with
    | .addShared =>
        some (match reg fd with
          | some (st, hs) => (st, hs ++ n.handlers)
          | none => (.alive, n.handlers))
    | .delete => none
    | .park => (reg fd).map fun e => (.parked, e.2)
    | .resume => (reg fd).map fun e => (.alive, e.2)
  else reg fd

/-- Whether the fd a notifier names is in the state its operation needs. -/
def targets (reg : Registry H) (n : EventNotifier H) : Bool :=
  match n.op with
  | .addShared => true
  | .delete => (reg n.rawFd).isSome
  | .park => (reg n.rawFd).map (·.1) == some .alive
  | .resume => (reg n.rawFd).map (·.1) == some .parked

def applyBatch (reg : Registry H) (ns : List (EventNotifier H)) : Registry H :=
  ns.foldl apply reg

/-- Every notifier of a batch, applied in order, finds its fd as it needs. -/
def batchOk : Registry H → List (EventNotifier H) → Bool
  | _, [] => true
  | reg, n :: ns => reg.targets n && batchOk (reg.apply n) ns

@[simp] theorem apply_self (reg : Registry H) (n : EventNotifier H) :
    reg.apply n n.rawFd = match n.op with
      | .addShared => some (match reg n.rawFd with
          | some (st, hs) => (st, hs ++ n.handlers)
          | none => (.alive, n.handlers))
      | .delete => none
      | .park => (reg n.rawFd).map fun e => (.parked, e.2)
      | .resume => (reg n.rawFd).map fun e => (.alive, e.2) := by
  simp [apply]

@[simp] theorem apply_ne (reg : Registry H) (n : EventNotifier H) {fd : Int} (h : fd ≠ n.rawFd) :
    reg.apply n fd = reg fd := by
  simp [apply, h]

@[simp] theorem applyBatch_nil (reg : Registry H) : reg.applyBatch [] = reg := rfl
@[simp] theorem applyBatch_cons (reg : Registry H) (n : EventNotifier H) (ns : List (EventNotifier H)) :
    reg.applyBatch (n :: ns) = (reg.apply n).applyBatch ns := rfl

theorem applyBatch_append (reg : Registry H) (ns ms : List (EventNotifier H)) :
    reg.applyBatch (ns ++ ms) = (reg.applyBatch ns).applyBatch ms := by
  simp [applyBatch, List.foldl_append]

/-- A batch that does not name `fd` leaves it alone. -/
theorem applyBatch_of_not_mem (reg : Registry H) (fd : Int) :
    ∀ ns : List (EventNotifier H), (∀ n ∈ ns, n.rawFd ≠ fd) → reg.applyBatch ns fd = reg fd
  | [], _ => rfl
  | n :: ns, h => by
      rw [applyBatch_cons, applyBatch_of_not_mem _ fd ns (fun m hm => h m (.tail _ hm)),
        apply_ne _ _ (h n (.head _)).symm]

/-- A batch of deletes removes the fds it names and leaves the others. -/
theorem applyBatch_deletes (reg : Registry H) (fd : Int) :
    ∀ ns : List (EventNotifier H), (∀ n ∈ ns, n.op = .delete) →
      reg.applyBatch ns fd = if fd ∈ ns.map (·.rawFd) then none else reg fd
  | [], _ => rfl
  | n :: ns, h => by
      rw [applyBatch_cons, applyBatch_deletes _ fd ns fun m hm => h m (.tail _ hm)]
      by_cases hn : fd = n.rawFd
      · simp [hn, apply, h n (.head _)]
      · simp [hn, apply_ne _ _ hn]

end Registry

/-- One turn of the loop for a ready `fd`: if it is registered alive, each
handler on it runs on the state `s` in turn, and the batches they return are
applied in order.  The registry, the state and the batch applied. -/
def fire {H σ : Type} (run : σ → H → σ × List (EventNotifier H)) (reg : Registry H) (s : σ)
    (fd : Int) : Registry H × σ × List (EventNotifier H) :=
  match reg fd with
  | some (.alive, hs) =>
      let r := hs.foldl (fun acc hk => let r := run acc.1 hk; (r.1, acc.2 ++ r.2)) (s, [])
      (reg.applyBatch r.2, r.1, r.2)
  | _ => (reg, s, [])

/-- An alive fd with one handler runs it once and applies its batch. -/
theorem fire_single {H σ : Type} (run : σ → H → σ × List (EventNotifier H)) (reg : Registry H) (s : σ)
    {fd : Int} {hk : H} (h : reg fd = some (.alive, [hk])) :
    fire run reg s fd = (reg.applyBatch (run s hk).2, (run s hk).1, (run s hk).2) := by
  simp [fire, h]

end StratoVirt.EventLoop
