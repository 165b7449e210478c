import UpdateService.NightUpgradeAlarmManager

/-!
# The polling alarm (`FirmwareAutoUpgradeAlarmManager`)

`autoUpgradeTime` and `isNeedRetryCheck` are in the preferences, `autoTimerId` is in the process. Times are in seconds.
`timers` and `clock` are as in the night alarm. The timer's handler writes no field: what it asks of the manager is a
step after it.
-/

namespace UpdateService

namespace Constant

def fiveMinutesSeconds : Int := 5 * oneMinuteSeconds
def oneHourSeconds : Int := 1 * oneHourMinutes * oneMinuteSeconds
def defaultAutoUpgradeHour : Int := oneHourSeconds * 24

end Constant

namespace TimeUtils

/-- `dis` is what the distribution over `0 .. maxTime - minTime - 1` gives. -/
def getRandTime (minTime maxTime : Int) (dis : Nat) : Int :=
  if maxTime < minTime then minTime else dis

/-- The bounds the distribution is built for; `none` where `maxTime - minTime` overflows an `int32_t`. -/
def disBounds (minTime maxTime : Int) : Option (Int × Int) :=
  if maxTime - minTime < 2 ^ 31 then some (0, maxTime - minTime - 1) else none

end TimeUtils

inductive AutoUpgradeTimeRefreshType
  | verify | duration | event | rand | delayTime
deriving DecidableEq, Repr

structure FirmwareAutoUpgradeAlarmManager where
  autoUpgradeTime : Int := -1
  isNeedRetryCheck : Bool := false
  autoTimerId : Nat := 0
  timers : List (Nat × Int) := []
  clock : Int := 0
deriving DecidableEq, Repr

namespace FirmwareAutoUpgradeAlarmManager

def timerAvailableInterval : Int := 10

def getEffectiveAutoUpgradeDuration : Int := Constant.defaultAutoUpgradeHour

/-- The time and the retry flag. -/
def handleNetChange (currentTime autoUpgradeTime duration : Int) (isNeedRetry : Bool) (dis : Nat) : Int × Bool :=
  let lastRegisterTime := if autoUpgradeTime ≠ Constant.defaultUpgradeTime then autoUpgradeTime - duration else 0
  if currentTime ≥ autoUpgradeTime ∨ currentTime < lastRegisterTime then (currentTime + timerAvailableInterval, false)
  else if isNeedRetry then
    (currentTime + TimeUtils.getRandTime Constant.fiveMinutesSeconds Constant.oneHourSeconds dis, false)
  else (autoUpgradeTime, isNeedRetry)

/-- The time and the retry flag. -/
def calculateAutoUpgradeTime (refreshType : AutoUpgradeTimeRefreshType) (currentTime autoUpgradeTime duration : Int)
    (isNeedRetry : Bool) (dis : Nat) : Int × Bool :=
  let randomOffPeakTime := Constant.oneHourSeconds / 2
  match refreshType with
  | .duration =>
    (currentTime + duration - randomOffPeakTime + TimeUtils.getRandTime 0 Constant.oneHourSeconds dis, isNeedRetry)
  | .event => handleNetChange currentTime autoUpgradeTime duration isNeedRetry dis
  | .rand =>
    (currentTime + TimeUtils.getRandTime Constant.fiveMinutesSeconds Constant.oneHourSeconds dis, isNeedRetry)
  | .verify | .delayTime => (autoUpgradeTime, isNeedRetry)

def unregisterAlarmTimer (s : FirmwareAutoUpgradeAlarmManager) : FirmwareAutoUpgradeAlarmManager :=
  { s with
    timers := if s.autoTimerId > 0 then AlarmTimerUtils.unregisterAlarm s.autoTimerId s.timers else s.timers
    autoTimerId := 0 }

def registerAutoUpgradeTime (refreshType : AutoUpgradeTimeRefreshType) (currentTime : Int) (answer : AlarmAnswer)
    (s : FirmwareAutoUpgradeAlarmManager) : FirmwareAutoUpgradeAlarmManager :=
  let duration := getEffectiveAutoUpgradeDuration
  let result := calculateAutoUpgradeTime refreshType currentTime s.autoUpgradeTime duration s.isNeedRetryCheck answer.randTime
  let unchanged := decide (s.autoUpgradeTime = result.1)
  let s := { s with isNeedRetryCheck := result.2 }
  if unchanged && s.autoTimerId > 0 then s
  else
    let s := { s with autoUpgradeTime := result.1 }.unregisterAlarmTimer
    let alarm := AlarmTimerUtils.registerAlarm answer result.1 s.timers
    { s with autoTimerId := alarm.1, timers := alarm.2 }

/-- `saveNeedRetryCheckFlag` is the automatic mode's, `expire` is about the started timer with an id, and `restart` is
the end of the process, whose destructor cancels the alarm, with the start of the next. -/
inductive Step
  | register (refreshType : AutoUpgradeTimeRefreshType) (currentTime : Int) (answer : AlarmAnswer)
  | saveNeedRetryCheckFlag (needRetry : Bool)
  | expire (currentTime : Int) (timerId : Nat)
  | restart

/-- How many values the distribution has. -/
def randRange : AutoUpgradeTimeRefreshType → Int
  | .duration => Constant.oneHourSeconds
  | .event | .rand | .verify | .delayTime => Constant.oneHourSeconds - Constant.fiveMinutesSeconds

/-- No time is before the last one seen. -/
def step (s : FirmwareAutoUpgradeAlarmManager) : Step → Option FirmwareAutoUpgradeAlarmManager
  | .register refreshType currentTime answer =>
    if s.clock ≤ currentTime ∧ currentTime ≤ answer.currentTime ∧ answer.randTime < randRange refreshType then
      some { s.registerAutoUpgradeTime refreshType currentTime answer with clock := answer.currentTime }
    else none
  | .saveNeedRetryCheckFlag needRetry => some { s with isNeedRetryCheck := needRetry }
  | .expire currentTime timerId =>
    if s.clock ≤ currentTime ∧ ∃ timer ∈ s.timers, timer.1 = timerId ∧ timer.2 ≤ currentTime * Constant.milleseconds then
      some { s with timers := s.timers.filter fun timer => timer.1 ≠ timerId, clock := currentTime }
    else none
  | .restart => some { s.unregisterAlarmTimer with autoTimerId := 0 }

def lts : Lts FirmwareAutoUpgradeAlarmManager Step := .ofPartial step

end FirmwareAutoUpgradeAlarmManager

end UpdateService
