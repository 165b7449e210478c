import Mathlib.Logic.Function.Basic
import UpdateService.Lib.Lts

/-!
# `UpdateUserUnlockObserver`

The labelled system of one observer, with the accounts and the event manager around it. Every thread in it (a `Start`,
a `Stop`, a handler of the event, a deferred unsubscription) is at a `UnlockPc` and makes one step at a time: what the
source does under `subscriberLock_` is one step, and so is the exchange of `initialized_`. Whether a call to the outside
succeeds is in the labels.
-/

namespace UpdateService

/-- What a thread does next. -/
inductive UnlockPc
  | getActiveUserId
  /-- `IsActiveUserUnlocked` before the registration. -/
  | firstCheck (userId : Int)
  | register (userId : Int)
  /-- `IsActiveUserUnlocked` after it. -/
  | secondCheck (userId : Int)
  | tryNotify
  | onUnlocked
  /-- `ffrt::submit` of the unsubscription. -/
  | submit
  | unregister
deriving DecidableEq, Repr

structure UpdateUserUnlockObserver where
  initialized : Bool := false
  /-- The name of the subscriber object, `none` for a null pointer. -/
  userUnlockSubscriber : Option Nat := none
  threads : List UnlockPc := []
  /-- How often `onUnlocked_` has been called. -/
  unlockedCalls : Nat := 0
  /-- The subscribers that the event manager has. -/
  subscribers : List Nat := []
  nextSubscriber : Nat := 0
  /-- The subscribers to which a `USER_UNLOCKED` event is on its way. -/
  events : List Nat := []
  unlocked : Int → Bool
  activeUser : Int
  hasStarted : Bool := false
  hasStopped : Bool := false
  /-- The active user has been unlocked at some point after a `Start`. -/
  wasUnlocked : Bool := false

inductive UnlockOp
  | start
  | stop
  /-- The next step of a thread; `isOk` says whether the call in it succeeds. -/
  | run (thread : Nat) (isOk : Bool)
  | unlock (userId : Int)
  | lock (userId : Int)
  | switchUser (userId : Int)
  /-- `OnReceiveEvent` of a subscriber, which submits the handler. -/
  | deliver (subscriber : Nat)
  /-- The event manager may forget an event for whom it no longer has. -/
  | drop (subscriber : Nat)
deriving DecidableEq, Repr

namespace UserAccountHelper

/-- `GetActiveUserId`, after its last retry. -/
def getActiveUserId (isOk : Bool) (activeUser : Int) : Int := if isOk then activeUser else -1

def isActiveUserUnlocked (userId : Int) (isOk : Bool) (unlocked : Int → Bool) : Bool :=
  if userId < 0 then false
  else if !isOk then false
  else unlocked userId

end UserAccountHelper

namespace UpdateUserUnlockObserver
open UserAccountHelper

def registerUserUnlockListener (isOk : Bool) (s : UpdateUserUnlockObserver) : UpdateUserUnlockObserver :=
  match s.userUnlockSubscriber with
  | some _ => s
  | none =>
    if !isOk then s
    else
      { s with
        userUnlockSubscriber := some s.nextSubscriber
        subscribers := s.subscribers ++ [s.nextSubscriber]
        nextSubscriber := s.nextSubscriber + 1 }

def unregisterUserUnlockListener (isOk : Bool) (s : UpdateUserUnlockObserver) : UpdateUserUnlockObserver :=
  match s.userUnlockSubscriber with
  | none => s
  | some subscriber =>
    { s with
      userUnlockSubscriber := none
      subscribers := if isOk then s.subscribers.erase subscriber else s.subscribers }

/-- One step of a thread: the state after it, and what the thread and those it submits do next. -/
def advance (isOk : Bool) (pc : UnlockPc) (s : UpdateUserUnlockObserver) : UpdateUserUnlockObserver × List UnlockPc :=
  match pc with
  | .getActiveUserId => (s, [.firstCheck (getActiveUserId isOk s.activeUser)])
  | .firstCheck userId =>
    if isActiveUserUnlocked userId isOk s.unlocked then (s, [.tryNotify]) else (s, [.register userId])
  | .register userId => (s.registerUserUnlockListener isOk, [.secondCheck userId])
  | .secondCheck userId => if isActiveUserUnlocked userId isOk s.unlocked then (s, [.tryNotify]) else (s, [])
  | .tryNotify => if s.initialized then (s, [.unregister]) else ({ s with initialized := true }, [.onUnlocked])
  | .onUnlocked => ({ s with unlockedCalls := s.unlockedCalls + 1 }, [.submit])
  | .submit => (s, [.unregister])
  | .unregister => (s.unregisterUserUnlockListener isOk, [])

/-- Remembers whether the active user is unlocked after a `Start`. -/
def note (s : UpdateUserUnlockObserver) : UpdateUserUnlockObserver :=
  { s with wasUnlocked := s.wasUnlocked || (s.hasStarted && s.unlocked s.activeUser) }

def step (s : UpdateUserUnlockObserver) : UnlockOp → Option UpdateUserUnlockObserver
  | .start => some (note { s with threads := s.threads ++ [.getActiveUserId], hasStarted := true })
  | .stop => some { s with threads := s.threads ++ [.unregister], hasStopped := true }
  | .run thread isOk =>
    match s.threads[thread]? with
    | none => none
    | some pc =>
      let (s', pcs) := s.advance isOk pc
      some { s' with threads := s.threads.eraseIdx thread ++ pcs }
  | .unlock userId =>
    some (note { s with unlocked := Function.update s.unlocked userId true, events := s.events ++ s.subscribers })
  | .lock userId => some { s with unlocked := Function.update s.unlocked userId false }
  | .switchUser userId => some (note { s with activeUser := userId })
  | .deliver subscriber =>
    if subscriber ∈ s.events then
      some { s with events := s.events.erase subscriber, threads := s.threads ++ [.tryNotify] }
    else none
  | .drop subscriber =>
    if subscriber ∈ s.events ∧ subscriber ∉ s.subscribers then some { s with events := s.events.erase subscriber } else none

def lts : Lts UpdateUserUnlockObserver UnlockOp := .ofPartial step

/-- Nothing is left to do. -/
def Quiescent (s : UpdateUserUnlockObserver) : Prop := s.threads = [] ∧ s.events = []

end UpdateUserUnlockObserver

end UpdateService
