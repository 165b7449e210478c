import Mathlib.Data.UInt
import UpdateService.Lib.KeyedList
import UpdateService.Lib.Lts

/-!
# The night upgrade alarm (`NightUpgradeAlarmManager`)

A public function, or the handler of the alarm, is one step: each holds `nightUpgradeAlarmLock_` throughout. The
handler writes the fields before it calls the tasks, so what these ask of the manager are steps after it. `C` are the
callbacks; times are in seconds; `zone` is the offset of the local time, if there is a local time at all. `timers` are
the started timers of the time service with their trigger times in milliseconds, and `clock` is the last time seen.
-/

namespace UpdateService

namespace Constant

def milleseconds : Int := 1000
def oneMinuteSeconds : Int := 60
def oneHourMinutes : Int := 60
def oneDaySecond : Int := 24 * oneHourMinutes * oneMinuteSeconds
def defaultUpgradeTime : Int := -1

end Constant

inductive NightUpgradePriority
  | firmware | param | largeModel | merge | default
deriving DecidableEq, Repr

/-- `CAST_INT` of a priority. -/
def NightUpgradePriority.castInt : NightUpgradePriority → Int
  | firmware => 0
  | param => 1
  | largeModel => 2
  | merge => 3
  | default => 4

structure NightUpgradeInfo where
  priority : NightUpgradePriority := .default
  isNeedReboot : Bool := true
deriving DecidableEq, Repr

namespace NightUpgradeInfo

/-- `CompareClass`. -/
def compareClass (t1 t2 : NightUpgradeInfo) : Bool :=
  if t1.isNeedReboot = t2.isNeedReboot then t1.priority.castInt < t2.priority.castInt else !t1.isNeedReboot

def rank (t : NightUpgradeInfo) : Int := (if t.isNeedReboot then 5 else 0) + t.priority.castInt

theorem compareClass_iff (t1 t2 : NightUpgradeInfo) : t1.compareClass t2 = true ↔ t1.rank < t2.rank := by
  have hbound : ∀ p : NightUpgradePriority, 0 ≤ p.castInt ∧ p.castInt < 5 := by intro p; cases p <;> decide
  obtain ⟨p1, r1⟩ := t1
  obtain ⟨p2, r2⟩ := t2
  have h1 := hbound p1
  have h2 := hbound p2
  cases r1 <;> cases r2 <;> simp [compareClass, rank] <;> omega

theorem rank_inj {t1 t2 : NightUpgradeInfo} (h : t1.rank = t2.rank) : t1 = t2 := by
  rcases t1 with ⟨_ | _ | _ | _ | _, _ | _⟩ <;> rcases t2 with ⟨_ | _ | _ | _ | _, _ | _⟩ <;>
    first | rfl | exact absurd h (by decide)

/-- The order of the map. -/
instance : LinearOrder NightUpgradeInfo where
  lt t1 t2 := t1.compareClass t2 = true
  le t1 t2 := t2.compareClass t1 = false
  le_refl t := by simp [← Bool.not_eq_true, compareClass_iff]
  le_trans t1 t2 t3 := by simp only [← Bool.not_eq_true, compareClass_iff]; omega
  lt_iff_le_not_ge t1 t2 := by simp only [← Bool.not_eq_true, compareClass_iff]; omega
  le_antisymm t1 t2 h h' := by
    simp only [← Bool.not_eq_true, compareClass_iff] at h h'
    exact rank_inj (by omega)
  le_total t1 t2 := by simp only [← Bool.not_eq_true, compareClass_iff]; omega
  toDecidableLE t1 t2 := inferInstanceAs (Decidable (t2.compareClass t1 = false))

end NightUpgradeInfo

/-- An entry of the map. -/
structure NightUpgradeTask (C : Type) where
  nightUpgradeInfo : NightUpgradeInfo
  callback : C
deriving DecidableEq

/-- A broken-down local time. `gmtoff` is the offset it was made with, which `tm_isdst` keeps for `mktime`. -/
structure Tm where
  day : Int
  tmHour : Int
  tmMin : Int
  tmSec : Int
  gmtoff : Int

def localtime (zone : Int → Option Int) (time : Int) : Option Tm :=
  (zone time).map fun gmtoff =>
    let seconds := time + gmtoff
    { day := seconds / Constant.oneDaySecond
      tmHour := seconds % Constant.oneDaySecond / 3600
      tmMin := seconds % 3600 / 60
      tmSec := seconds % 60
      gmtoff := gmtoff }

/-- Fields out of their range are carried over. -/
def mktime (tm : Tm) : Int :=
  tm.day * Constant.oneDaySecond + tm.tmHour * 3600 + tm.tmMin * 60 + tm.tmSec - tm.gmtoff

/-- What a registering is answered: the draw of `GetRandTime` in the caller's unit, then the timestamp that
`RegisterAlarm` reads, and the results of `CreateTimer` and `StartTimer`. -/
structure AlarmAnswer where
  randTime : Nat
  currentTime : Int
  timerId : Nat
  started : Bool
deriving DecidableEq

namespace AlarmTimerUtils

/-- The id of the timer, and the timers with it. -/
def registerTimer (answer : AlarmAnswer) (time : Int) (timers : List (Nat × Int)) : Nat × List (Nat × Int) :=
  if answer.timerId = 0 then (0, timers)
  else if answer.started = false then (0, timers)
  else (answer.timerId, timers ++ [(answer.timerId, time)])

def registerAlarm (answer : AlarmAnswer) (time : Int) (timers : List (Nat × Int)) : Nat × List (Nat × Int) :=
  if answer.currentTime ≥ time then (0, timers) else registerTimer answer (time * Constant.milleseconds) timers

def unregisterAlarm (timerId : Nat) (timers : List (Nat × Int)) : List (Nat × Int) :=
  timers.filter fun timer => timer.1 ≠ timerId

end AlarmTimerUtils

structure NightUpgradeAlarmManager (C : Type) where
  nightUpgradeAlarmMap : KeyedList (@NightUpgradeTask.nightUpgradeInfo C) := ∅
  nightUpgradeTime : Int := Constant.defaultUpgradeTime
  nightTimerId : Nat := 0
  timers : List (Nat × Int) := []
  clock : Int := 0

namespace NightUpgradeAlarmManager
variable {C : Type}

def hourTwo : Int := 2
def hourThree : Int := 3

def isIllegalNightUpgradeTime (currentTime : Int) (s : NightUpgradeAlarmManager C) : Bool :=
  s.nightUpgradeTime = Constant.defaultUpgradeTime || s.nightUpgradeTime < currentTime ||
    s.nightUpgradeTime - currentTime > Constant.oneDaySecond

def calculateUpgradeTime (zone : Int → Option Int) (currentTime : Int) (randTime : Nat) : Int :=
  match localtime zone currentTime with
  | none => 0
  | some currentTm =>
    if currentTm.tmHour < hourTwo then mktime { currentTm with tmHour := hourTwo, tmMin := randTime }
    else if currentTm.tmHour < hourThree then mktime { currentTm with tmHour := hourThree, tmMin := randTime }
    else
      let zeroTime := mktime { currentTm with tmHour := 0, tmMin := 0 }
      zeroTime + Constant.oneDaySecond + hourTwo * Constant.oneHourMinutes * Constant.oneMinuteSeconds +
        randTime * Constant.oneMinuteSeconds

def innerUnregisterNightUpgradeEvent (s : NightUpgradeAlarmManager C) : NightUpgradeAlarmManager C :=
  { s with
    timers := if s.nightTimerId > 0 then AlarmTimerUtils.unregisterAlarm s.nightTimerId s.timers else s.timers
    nightTimerId := 0
    nightUpgradeTime := Constant.defaultUpgradeTime }

def innerRegisterNightUpgradeEvent (zone : Int → Option Int) (currentTime : Int) (answer : AlarmAnswer)
    (s : NightUpgradeAlarmManager C) : NightUpgradeAlarmManager C :=
  if s.isIllegalNightUpgradeTime currentTime = false then s
  else
    let s := s.innerUnregisterNightUpgradeEvent
    let nightUpgradeTime := calculateUpgradeTime zone currentTime answer.randTime
    let alarm := AlarmTimerUtils.registerAlarm answer nightUpgradeTime s.timers
    { s with nightUpgradeTime := nightUpgradeTime, nightTimerId := alarm.1, timers := alarm.2 }

def isRegisteredNightUpgradeTask (nightUpgradeInfo : NightUpgradeInfo) (s : NightUpgradeAlarmManager C) : Bool :=
  (s.nightUpgradeAlarmMap.find? nightUpgradeInfo).isSome && s.nightTimerId > 0

def registerNightUpgradeTask (zone : Int → Option Int) (currentTime : Int) (nightUpgradeInfo : NightUpgradeInfo)
    (callback : C) (answer : AlarmAnswer) (s : NightUpgradeAlarmManager C) : NightUpgradeAlarmManager C :=
  let s := if s.isRegisteredNightUpgradeTask nightUpgradeInfo then s
    else { s with nightUpgradeAlarmMap := s.nightUpgradeAlarmMap.insert ⟨nightUpgradeInfo, callback⟩ }
  s.innerRegisterNightUpgradeEvent zone currentTime answer

def unregisterNightUpgradeTask (nightUpgradePriority : NightUpgradePriority) (s : NightUpgradeAlarmManager C) :
    NightUpgradeAlarmManager C :=
  let s := match s.nightUpgradeAlarmMap.entries.find? fun task => task.nightUpgradeInfo.priority = nightUpgradePriority with
    | none => s
    | some task => { s with nightUpgradeAlarmMap := s.nightUpgradeAlarmMap.erase task.nightUpgradeInfo }
  if s.nightUpgradeAlarmMap.entries.isEmpty then s.innerUnregisterNightUpgradeEvent else s

/-- The callbacks that are called, in their order. -/
def handleNightUpgrade : List (NightUpgradeTask C) → List C
  | [] => []
  | task :: tasks => task.callback :: if task.nightUpgradeInfo.isNeedReboot then [] else handleNightUpgrade tasks

def handleNightUpgradeAlarm (s : NightUpgradeAlarmManager C) : NightUpgradeAlarmManager C × List C :=
  let s := { s with nightUpgradeTime := Constant.defaultUpgradeTime, nightTimerId := 0 }
  if s.nightUpgradeAlarmMap.entries.isEmpty then (s, []) else (s, handleNightUpgrade s.nightUpgradeAlarmMap.entries)

/-- `expire` is about the started timer with an id; it fires once. -/
inductive Step (C : Type)
  | register (currentTime : Int) (nightUpgradeInfo : NightUpgradeInfo) (callback : C) (answer : AlarmAnswer)
  | unregister (currentTime : Int) (nightUpgradePriority : NightUpgradePriority)
  | expire (currentTime : Int) (timerId : Nat)

/-- No time is before the last one seen, and `GetRandTime` gives less than an hour. -/
def step (zone : Int → Option Int) (s : NightUpgradeAlarmManager C) : Step C → Option (NightUpgradeAlarmManager C)
  | .register currentTime nightUpgradeInfo callback answer =>
    if s.clock ≤ currentTime ∧ currentTime ≤ answer.currentTime ∧ answer.randTime < Constant.oneHourMinutes then
      some { s.registerNightUpgradeTask zone currentTime nightUpgradeInfo callback answer with clock := answer.currentTime }
    else none
  | .unregister currentTime nightUpgradePriority =>
    if s.clock ≤ currentTime then
      some { s.unregisterNightUpgradeTask nightUpgradePriority with clock := currentTime }
    else none
  | .expire currentTime timerId =>
    if s.clock ≤ currentTime ∧ ∃ timer ∈ s.timers, timer.1 = timerId ∧ timer.2 ≤ currentTime * Constant.milleseconds then
      let s := { s with timers := s.timers.filter fun timer => timer.1 ≠ timerId }
      some { s.handleNightUpgradeAlarm.1 with clock := currentTime }
    else none

def lts (C : Type) (zone : Int → Option Int) : Lts (NightUpgradeAlarmManager C) (Step C) := .ofPartial (step zone)

end NightUpgradeAlarmManager

end UpdateService
