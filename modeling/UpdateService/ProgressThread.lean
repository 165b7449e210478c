import UpdateService.Lib.Lts

/-!
# The worker of a download (`ProgressThread`)

A section under `mutex_` is one step, which needs the mutex to be free. `QuitDownloadThread` is the one function that
keeps it, while it joins the worker. The wait of the worker may also end on its own.
-/

namespace UpdateService

/-- Where the worker is in `ExecuteThreadFunc`. -/
inductive WorkerPc
  /-- Before the lock, or woken and about to take it again. -/
  | lock
  | wait
  | processThreadExecute
  | processThreadExit
  | finished
deriving DecidableEq, Repr

structure ProgressThread where
  pDealThread : Option WorkerPc := none
  isWake : Bool := false
  isExitThread : Bool := false
  /-- `QuitDownloadThread` holds the mutex and joins the worker. -/
  joining : Bool := false
deriving DecidableEq, Repr

namespace ProgressThread

def notifyOne (s : ProgressThread) : ProgressThread :=
  { s with pDealThread := if s.pDealThread = some .wait then some .lock else s.pDealThread }

/-- `created` is false if `new` gives no thread. -/
def startProgress (created : Bool) (s : ProgressThread) : ProgressThread :=
  if s.pDealThread = none ∧ created = false then s
  else
    let s := { s with pDealThread := some (s.pDealThread.getD .lock) }
    notifyOne { s with isWake := true }

def stopProgress (s : ProgressThread) : ProgressThread := notifyOne { s with isWake := true, isExitThread := false }

/-- Up to the join. -/
def quitDownloadThread (s : ProgressThread) : ProgressThread :=
  let s := notifyOne { s with isWake := true, isExitThread := true }
  { s with joining := s.pDealThread.isSome }

/-- The section under the lock of `ExecuteThreadFunc`. -/
def executeThreadFunc (s : ProgressThread) : ProgressThread :=
  if s.isWake = false then { s with pDealThread := some .wait }
  else if s.isExitThread then { s with pDealThread := some .processThreadExit }
  else { s with pDealThread := some .processThreadExecute, isWake := false }

inductive Step
  | startProgress (created : Bool)
  | stopProgress
  | quitDownloadThread
  | joined
  | worker
  | wake
  | executed (result : Bool)
  | exited
deriving DecidableEq, Repr

def step (s : ProgressThread) : Step → Option ProgressThread
  | .startProgress created => if s.joining then none else some (s.startProgress created)
  | .stopProgress => if s.joining then none else some s.stopProgress
  | .quitDownloadThread => if s.joining then none else some s.quitDownloadThread
  | .joined =>
    if s.joining ∧ s.pDealThread = some .finished then some { s with pDealThread := none, joining := false } else none
  | .worker => if s.pDealThread = some .lock ∧ ¬ s.joining then some s.executeThreadFunc else none
  | .wake => if s.pDealThread = some .wait then some { s with pDealThread := some .lock } else none
  | .executed result =>
    if s.pDealThread = some .processThreadExecute then
      some { s with pDealThread := some (if result then .lock else .finished) }
    else none
  | .exited => if s.pDealThread = some .processThreadExit then some { s with pDealThread := some .finished } else none

def lts : Lts ProgressThread Step := .ofPartial step

end ProgressThread

end UpdateService
