/-
# `StratoVirt.Aio.Raw` — the retry loops around the raw file calls

`util/src/aio/raw.rs`.  `raw_read`, `raw_readv`, `raw_write` and
`raw_writev` repeat their call (`pread`, `preadv`, `pwrite`, `pwritev`)
while it fails with `EINTR` or `EAGAIN`, and return what the last call
returned.  `raw_datasync` calls `fdatasync` once.  `do_fallocate` repeats
`fallocate` on `EINTR` only, returns 0 on success, and otherwise `-ENOTSUP`
for the four errnos that mean "not supported here" and `-errno` for the
rest; `raw_discard` and `raw_write_zeroes` return what it returns and log
every failure but `-ENOTSUP`.

The host is what each call returns and the `errno` it leaves, call after
call: `host c` lists the results of the calls of kind `c`, in order.  A loop
still retrying when that list runs out has not returned: `none`.  What a
function returns is a `SysResult`: its value, and the `errno` its caller
reads after it.  Of the `error!` lines only whether `raw_discard` and
`raw_write_zeroes` log one is kept: it is what they add to `do_fallocate`.
errno numbers are Linux's.

**Proved here.**

    the read and write loops return exactly when some call neither
    fails with EINTR nor with EAGAIN, and return the first such call
    after calling again on every earlier one                           (`retryIo_returns`)
    do_fallocate returns exactly when some call succeeds or fails with
    another errno than EINTR, and maps the first such call: 0,
    -ENOTSUP for ENODEV, ENOSYS, EOPNOTSUPP and ENOTTY, -errno for the
    rest; an EAGAIN failure, which the read and write loops call
    again on, ends it                                                  (`doFallocate_returns`)
-/
import Mathlib.Data.List.Basic

namespace StratoVirt.Aio

/-! ## Calls and results -/

def eintr : Int := 4
def eagain : Int := 11
def enodev : Int := 19
def enotty : Int := 25
def enosys : Int := 38
def eopnotsupp : Int := 95
/-- `ENOTSUP`, the same number as `EOPNOTSUPP` on Linux. -/
def enotsup : Int := 95

def fallocFlKeepSize : Nat := 0x01
def fallocFlPunchHole : Nat := 0x02
def fallocFlZeroRange : Nat := 0x10

/-- What one call returned, and the `errno` it left. -/
structure SysResult where
  ret : Int
  errno : Int
deriving DecidableEq, Repr

/-- The calls `raw.rs` makes; `fallocate` with its mode. -/
inductive Syscall where
  | pread
  | preadv
  | pwrite
  | pwritev
  | fdatasync
  | fallocate (mode : Nat)
deriving DecidableEq, Repr

/-! ## `raw_read`, `raw_readv`, `raw_write`, `raw_writev`, `raw_datasync` -/

/-- The condition on which the read and write loops call again. -/
def SysResult.interrupted (r : SysResult) : Bool :=
  r.ret < 0 && (r.errno == eintr || r.errno == eagain)

/-- The loop the four read and write functions share, over the results of
their call. -/
def retryIo : List SysResult → Option SysResult
  | [] => none
  | r :: rs => if r.interrupted then retryIo rs else some r

def rawRead (host : Syscall → List SysResult) : Option SysResult := retryIo (host .pread)
def rawReadv (host : Syscall → List SysResult) : Option SysResult := retryIo (host .preadv)
def rawWrite (host : Syscall → List SysResult) : Option SysResult := retryIo (host .pwrite)
def rawWritev (host : Syscall → List SysResult) : Option SysResult := retryIo (host .pwritev)

/-- `raw_datasync`: one call, whatever it returns. -/
def rawDatasync (host : Syscall → List SysResult) : Option SysResult := (host .fdatasync).head?

/-! ## `do_fallocate`, `raw_discard`, `raw_write_zeroes` -/

/-- The loop of `do_fallocate`: the call that ends it. -/
def fallocateLoop : List SysResult → Option SysResult
  | [] => none
  | r :: rs => if r.ret = 0 then some r else if r.errno ≠ eintr then some r else fallocateLoop rs

/-- What `do_fallocate` returns for the call that ended its loop. -/
def fallocateRet (r : SysResult) : Int :=
  if r.ret = 0 then 0
  else if r.errno ∈ [enodev, enosys, eopnotsupp, enotty] then -enotsup
  else -r.errno

/-- `do_fallocate(fd, mode, offset, size)`. -/
def doFallocate (mode : Nat) (host : Syscall → List SysResult) : Option SysResult :=
  (fallocateLoop (host (.fallocate mode))).map fun r => ⟨fallocateRet r, r.errno⟩

/-- Whether `raw_discard` and `raw_write_zeroes` log an error for what
`do_fallocate` returned. -/
def fallocateLogs (ret : Int) : Bool := ret < 0 && ret != -enotsup

/-- `raw_discard`: what it returns, and whether it logs an error. -/
def rawDiscard (host : Syscall → List SysResult) : Option (SysResult × Bool) :=
  (doFallocate (fallocFlPunchHole ||| fallocFlKeepSize) host).map fun r => (r, fallocateLogs r.ret)

/-- `raw_write_zeroes`: what it returns, and whether it logs an error. -/
def rawWriteZeroes (host : Syscall → List SysResult) : Option (SysResult × Bool) :=
  (doFallocate fallocFlZeroRange host).map fun r => (r, fallocateLogs r.ret)

/-! ## Both loops stop at the first call they do not retry -/

theorem retryIo_eq_find (rs : List SysResult) : retryIo rs = rs.find? (!·.interrupted) := by
  induction rs with
  | nil => rfl
  | cons r rs ih => cases h : r.interrupted <;> simp [retryIo, List.find?_cons, h, ih]

theorem fallocateLoop_eq_find (rs : List SysResult) :
    fallocateLoop rs = rs.find? (fun r => r.ret = 0 ∨ r.errno ≠ eintr) := by
  induction rs with
  | nil => rfl
  | cons r rs ih =>
      by_cases h0 : r.ret = 0
      · simp [fallocateLoop, List.find?_cons, h0]
      · by_cases he : r.errno = eintr <;> simp [fallocateLoop, List.find?_cons, h0, he, ih]

/-- **The read and write loops.**  `raw_read`, `raw_readv`, `raw_write`
and `raw_writev` return exactly when some call neither fails with `EINTR`
nor with `EAGAIN`; they return the first such call, having called again on
every earlier one.  What they return is never an `EINTR` or `EAGAIN`
failure, and when every call is one they do not return. -/
theorem retryIo_returns (rs : List SysResult) (r : SysResult) :
    retryIo rs = some r ↔
      ∃ pre post, rs = pre ++ r :: post ∧ r.interrupted = false ∧ ∀ x ∈ pre, x.interrupted = true := by
  rw [retryIo_eq_find, List.find?_eq_some]
  simp only [Bool.not_eq_true', Bool.not_not]
  exact ⟨fun ⟨hr, pre, post, h, hpre⟩ => ⟨pre, post, h, hr, hpre⟩,
    fun ⟨pre, post, h, hr, hpre⟩ => ⟨hr, pre, post, h, hpre⟩⟩

/-- **`do_fallocate`.**  It returns exactly when some `fallocate` succeeds
or fails with another errno than `EINTR`, and maps the first such call
through `fallocateRet`: 0 on success, `-ENOTSUP` for `ENODEV`, `ENOSYS`,
`EOPNOTSUPP` and `ENOTTY`, `-errno` for the rest, the errno left as that
call left it.  An `EAGAIN` failure, on which the read and write loops call
again, ends this loop. -/
theorem doFallocate_returns (mode : Nat) (host : Syscall → List SysResult) (r : SysResult) :
    doFallocate mode host = some r ↔
      ∃ pre x post, host (.fallocate mode) = pre ++ x :: post ∧ (x.ret = 0 ∨ x.errno ≠ eintr) ∧
        (∀ y ∈ pre, y.ret ≠ 0 ∧ y.errno = eintr) ∧ r = ⟨fallocateRet x, x.errno⟩ := by
  simp only [doFallocate, fallocateLoop_eq_find, Option.map_eq_some', List.find?_eq_some]
  constructor
  · rintro ⟨x, ⟨hx, pre, post, h, hpre⟩, rfl⟩
    exact ⟨pre, x, post, h, by simpa using hx, fun y hy => by simpa using hpre y hy, rfl⟩
  · rintro ⟨pre, x, post, h, hx, hpre, rfl⟩
    exact ⟨x, ⟨by simpa using hx, pre, post, h, fun y hy => by simpa using hpre y hy⟩, rfl⟩

end StratoVirt.Aio
