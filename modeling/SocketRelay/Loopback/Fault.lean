import SocketRelay.System.Call

/-!
# Planned faults

A plan makes chosen system calls fail. Each fault names a kind of call, lets some uses pass and then
fails some. Of several faults for one kind only the first counts until it is used up.
-/
namespace SocketRelay.Loopback

/-- The kinds of call that can be made to fail. -/
inductive FaultPoint where
  | socket | setsockopt | bind | connect | getsockopt | send | sendto | recv
  | epollCreate | epollAdd | epollModify | epollRemove | epollWait
  deriving DecidableEq, Repr

/-- The kind of a point by its name. -/
def FaultPoint.ofName? (s : String) : Option FaultPoint :=
  [("socket", socket), ("setsockopt", setsockopt), ("bind", bind), ("connect", connect),
    ("getsockopt", getsockopt), ("send", send), ("sendto", sendto), ("recv", recv),
    ("epoll_create1", epollCreate), ("epoll_add", epollAdd), ("epoll_mod", epollModify),
    ("epoll_del", epollRemove), ("epoll_wait", epollWait)].lookup s

/-- A fault: after `skip` uses, the next `times` uses fail. -/
structure Fault where
  point : FaultPoint
  errno : Errno
  skip : Nat := 0
  times : Nat := 1
  deriving DecidableEq, Repr

abbrev FaultPlan := List Fault

/-- One use of a kind of call: the error it meets, if any, and the plan afterwards. -/
def FaultPlan.use (point : FaultPoint) : FaultPlan → Option Errno × FaultPlan
  | [] => (none, [])
  | f :: rest =>
    if f.point = point ∧ 0 < f.times then
      if 0 < f.skip then (none, { f with skip := f.skip - 1 } :: rest)
      else (some f.errno, { f with times := f.times - 1 } :: rest)
    else
      let (met, rest) := use point rest
      (met, f :: rest)

/-- The uses of a kind of call that faults can still concern. -/
def FaultPlan.remaining (plan : FaultPlan) (point : FaultPoint) : Nat :=
  plan.foldl (fun n f => if f.point = point then n + f.skip + f.times else n) 0

end SocketRelay.Loopback
