import UpdateService.FirmwareAutoUpgradeAlarmManager

/-!
# The times the two alarms are set to

The time of the night alarm lies in the next night, whatever the draw. The draw for the polling alarm is to lie between
two limits and is taken from an interval that begins at zero.
-/

namespace UpdateService

namespace AlarmTimerUtils
variable {answer : AlarmAnswer} {time : Int}

/-- A time that is ahead of the clock is given to the time service. -/
theorem registerAlarm_of_lt (h : answer.currentTime < time) (timers : List (Nat × Int)) :
    registerAlarm answer time timers = registerTimer answer (time * Constant.milleseconds) timers :=
  if_neg (not_le.2 h)

end AlarmTimerUtils

/-! ### The night -/

namespace NightUpgradeAlarmManager
variable {C : Type} {gmtoff currentTime : Int} {randTime : Nat}

/-- The time is ahead, by a day at most, and on the clock it is two or three. -/
structure NextNight (gmtoff currentTime time : Int) : Prop where
  later : currentTime < time
  withinDay : time ≤ currentTime + Constant.oneDaySecond
  atNight : ∃ tm, localtime (fun _ => some gmtoff) time = some tm ∧ hourTwo ≤ tm.tmHour ∧ tm.tmHour ≤ hourThree

theorem nextNight_calculateUpgradeTime (gmtoff currentTime : Int) (hrand : (randTime : Int) < Constant.oneHourMinutes) :
    NextNight gmtoff currentTime (calculateUpgradeTime (fun _ => some gmtoff) currentTime randTime) := by
  simp only [calculateUpgradeTime, localtime, Option.map_some]
  simp only [mktime, hourTwo, hourThree, Constant.oneDaySecond, Constant.oneHourMinutes, Constant.oneMinuteSeconds]
    at hrand ⊢
  refine ⟨?_, ?_, _, rfl, ?_, ?_⟩
  · split_ifs <;> omega
  · simp only [Constant.oneDaySecond, Constant.oneHourMinutes, Constant.oneMinuteSeconds]
    split_ifs <;> omega
  · simp only [hourTwo, Constant.oneDaySecond, Constant.oneHourMinutes, Constant.oneMinuteSeconds]
    split_ifs <;> omega
  · simp only [hourThree, Constant.oneDaySecond, Constant.oneHourMinutes, Constant.oneMinuteSeconds]
    split_ifs <;> omega

variable {s : NightUpgradeAlarmManager C} {answer : AlarmAnswer}

theorem isIllegalNightUpgradeTime_eq_false_iff : s.isIllegalNightUpgradeTime currentTime = false ↔
    s.nightUpgradeTime ≠ Constant.defaultUpgradeTime ∧ currentTime ≤ s.nightUpgradeTime ∧
      s.nightUpgradeTime - currentTime ≤ Constant.oneDaySecond := by
  simp only [isIllegalNightUpgradeTime, Bool.or_eq_false_iff, decide_eq_false_iff_not, not_lt, ne_eq, and_assoc]

/-- A registering leaves a legal time behind, but where the time it has calculated is the one that stands for none. -/
theorem legal_innerRegister (zone : Int → Option Int) (answer : AlarmAnswer) (s : NightUpgradeAlarmManager C)
    (hlater : currentTime ≤ calculateUpgradeTime zone currentTime answer.randTime)
    (hday : calculateUpgradeTime zone currentTime answer.randTime ≤ currentTime + Constant.oneDaySecond)
    (hset : calculateUpgradeTime zone currentTime answer.randTime ≠ Constant.defaultUpgradeTime) :
    (s.innerRegisterNightUpgradeEvent zone currentTime answer).isIllegalNightUpgradeTime currentTime = false := by
  unfold innerRegisterNightUpgradeEvent
  split
  · rename_i hlegal
    exact hlegal
  · refine isIllegalNightUpgradeTime_eq_false_iff.2 ⟨hset, hlater, ?_⟩
    show calculateUpgradeTime zone currentTime answer.randTime - currentTime ≤ _
    omega

/-- Whatever the draw, the time lies in the next night, `RegisterAlarm` takes it, and it is legal after the registering
unless it is the last second of 1969, which stands for no time. -/
theorem nextNight_registered (gmtoff currentTime : Int) (answer : AlarmAnswer) (s : NightUpgradeAlarmManager C)
    (hrand : (answer.randTime : Int) < Constant.oneHourMinutes) (hclock : answer.currentTime = currentTime) :
    NextNight gmtoff currentTime (calculateUpgradeTime (fun _ => some gmtoff) currentTime answer.randTime) ∧
      (∀ timers, AlarmTimerUtils.registerAlarm answer
          (calculateUpgradeTime (fun _ => some gmtoff) currentTime answer.randTime) timers =
        AlarmTimerUtils.registerTimer answer
          (calculateUpgradeTime (fun _ => some gmtoff) currentTime answer.randTime * Constant.milleseconds) timers) ∧
      ((s.innerRegisterNightUpgradeEvent (fun _ => some gmtoff) currentTime answer).isIllegalNightUpgradeTime
          currentTime = false ∨
        calculateUpgradeTime (fun _ => some gmtoff) currentTime answer.randTime = Constant.defaultUpgradeTime ∧
          currentTime < 0) := by
  have hnight := nextNight_calculateUpgradeTime gmtoff currentTime hrand
  refine ⟨hnight, AlarmTimerUtils.registerAlarm_of_lt (by rw [hclock]; exact hnight.later), ?_⟩
  by_cases hset : calculateUpgradeTime (fun _ => some gmtoff) currentTime answer.randTime = Constant.defaultUpgradeTime
  · have hlater := hnight.later
    rw [hset] at hlater
    exact .inr ⟨hset, hlater.trans (by decide)⟩
  · exact .inl (legal_innerRegister _ answer s hnight.later.le hnight.withinDay hset)

/-- At half past one the time is a minute before three. -/
theorem nextNight_registered_half_past_one :
    calculateUpgradeTime (fun _ => some 0) 5400 59 = 10740 ∧
      NextNight 0 5400 (calculateUpgradeTime (fun _ => some 0) 5400 59) :=
  ⟨by decide, (nextNight_registered (C := Nat) 0 5400 ⟨59, 5400, 1, true⟩ {} (by decide) rfl).1⟩

/-- Three hours east of Greenwich the night of 1970-01-01 has the second `-1`. -/
theorem illegal_last_second : ¬∀ (gmtoff currentTime : Int) (answer : AlarmAnswer) (s : NightUpgradeAlarmManager Nat),
    (answer.randTime : Int) < Constant.oneHourMinutes → answer.currentTime = currentTime →
      (s.innerRegisterNightUpgradeEvent (fun _ => some gmtoff) currentTime answer).isIllegalNightUpgradeTime
        currentTime = false := by
  intro h
  have := h 10800 (-10141) ⟨59, -10141, 1, true⟩ {} (by decide) rfl
  revert this
  decide

end NightUpgradeAlarmManager

/-! ### The draw between two limits -/

namespace TimeUtils
variable {minTime maxTime : Int} {dis : Nat}

/-- The distribution is built for an interval that is not empty, and each of its values makes a result between the
limits. -/
def RandWithin (minTime maxTime : Int) : Prop :=
  ∃ a b, disBounds minTime maxTime = some (a, b) ∧ a ≤ b ∧
    ∀ dis : Nat, a ≤ dis → dis ≤ b →
      minTime ≤ getRandTime minTime maxTime dis ∧ getRandTime minTime maxTime dis ≤ maxTime

theorem getRandTime_of_le (h : minTime ≤ maxTime) (dis : Nat) : getRandTime minTime maxTime dis = dis :=
  if_neg (not_lt.2 h)

/-- The limit that is not added may only be zero, or minus one. -/
theorem randWithin_iff_of_le (h : minTime ≤ maxTime) (hmax : maxTime < 2 ^ 31) : RandWithin minTime maxTime ↔
    minTime = 0 ∧ 0 < maxTime ∨ minTime = -1 ∧ 0 ≤ maxTime ∧ maxTime < 2 ^ 31 - 1 := by
  simp only [RandWithin, getRandTime_of_le h, disBounds]
  constructor
  · rintro ⟨a, b, hbounds, hab, hall⟩
    split at hbounds
    · rename_i hfits
      obtain ⟨rfl, rfl⟩ := Prod.mk.inj (Option.some.inj hbounds)
      have hfirst := hall 0 (by simp) (by simpa using hab)
      have hlast := hall (maxTime - minTime - 1).toNat (by omega) (by omega)
      omega
    · cases hbounds
  · intro hlimits
    have hfits : maxTime - minTime < 2 ^ 31 := by omega
    rw [if_pos hfits]
    exact ⟨0, maxTime - minTime - 1, rfl, by omega, fun dis _ hdis => by omega⟩

end TimeUtils

namespace FirmwareAutoUpgradeAlarmManager
variable {currentTime : Int} {dis : Nat}

/-- Five minutes to an hour ahead, and taken by `RegisterAlarm`. -/
structure MinutesAhead (currentTime time : Int) : Prop where
  fiveMinutes : currentTime + Constant.fiveMinutesSeconds ≤ time
  oneHour : time ≤ currentTime + Constant.oneHourSeconds
  accepted : ∀ (answer : AlarmAnswer) timers, answer.currentTime = currentTime →
    AlarmTimerUtils.registerAlarm answer time timers =
      AlarmTimerUtils.registerTimer answer (time * Constant.milleseconds) timers

/-- The retry branch is that of an event before the time that is set, with the clock not set back. -/
structure Retries (currentTime autoUpgradeTime duration : Int) : Prop where
  notDue : currentTime < autoUpgradeTime
  notBack : autoUpgradeTime ≠ Constant.defaultUpgradeTime → autoUpgradeTime - duration ≤ currentTime
  notNegative : autoUpgradeTime = Constant.defaultUpgradeTime → 0 ≤ currentTime

/-- Both branches that draw choose such a time. -/
structure RandBranchesAhead (currentTime : Int) (dis : Nat) : Prop where
  rand : ∀ autoUpgradeTime duration isNeedRetry,
    MinutesAhead currentTime (calculateAutoUpgradeTime .rand currentTime autoUpgradeTime duration isNeedRetry dis).1
  retry : ∀ autoUpgradeTime duration, Retries currentTime autoUpgradeTime duration →
    MinutesAhead currentTime (calculateAutoUpgradeTime .event currentTime autoUpgradeTime duration true dis).1

theorem calculateAutoUpgradeTime_retry {autoUpgradeTime duration : Int}
    (h : Retries currentTime autoUpgradeTime duration) :
    calculateAutoUpgradeTime .event currentTime autoUpgradeTime duration true dis = (currentTime + dis, false) := by
  have hfirst : ¬(currentTime ≥ autoUpgradeTime ∨ currentTime <
      if autoUpgradeTime ≠ Constant.defaultUpgradeTime then autoUpgradeTime - duration else 0) := by
    rw [not_or, not_le, not_lt]
    refine ⟨h.notDue, ?_⟩
    split
    · exact h.notBack ‹_›
    · exact h.notNegative (not_not.1 ‹_›)
  show handleNetChange currentTime autoUpgradeTime duration true dis = _
  simp only [handleNetChange, if_neg hfirst, if_true]
  rfl

theorem minutesAhead_add_iff (hdis : dis ≤ Constant.oneHourSeconds) :
    MinutesAhead currentTime (currentTime + dis) ↔ Constant.fiveMinutesSeconds ≤ dis := by
  constructor
  · intro h
    have := h.fiveMinutes
    omega
  · intro h
    have hpos : 0 < Constant.fiveMinutesSeconds := by decide
    exact ⟨by omega, by omega, fun answer timers hclock => AlarmTimerUtils.registerAlarm_of_lt (by omega) timers⟩

/-- The limits for which every draw gives a time between them, and the draws that make both branches choose one. -/
theorem randTime_iff (minTime maxTime : Int32) (hle : minTime ≤ maxTime) (currentTime : Int) (dis : Nat)
    (hdis : (dis : Int) < randRange .rand) :
    (TimeUtils.RandWithin minTime.toInt maxTime.toInt ↔
      minTime.toInt = 0 ∧ 0 < maxTime.toInt ∨
        minTime.toInt = -1 ∧ 0 ≤ maxTime.toInt ∧ maxTime.toInt < 2 ^ 31 - 1) ∧
    (RandBranchesAhead currentTime dis ↔ Constant.fiveMinutesSeconds ≤ dis) := by
  refine ⟨TimeUtils.randWithin_iff_of_le (Int32.le_iff_toInt_le.1 hle) maxTime.toInt_lt, ?_⟩
  have hiff : MinutesAhead currentTime (currentTime + dis) ↔ Constant.fiveMinutesSeconds ≤ dis :=
    minutesAhead_add_iff (hdis.le.trans (by decide))
  constructor
  · rintro ⟨hrand, -⟩
    exact hiff.1 (hrand 0 0 false)
  · intro h
    refine ⟨fun _ _ _ => hiff.2 h, fun autoUpgradeTime duration hretry => ?_⟩
    rw [calculateAutoUpgradeTime_retry hretry]
    exact hiff.2 h

theorem randTime_five_minutes :
    TimeUtils.RandWithin (0 : Int32).toInt (3600 : Int32).toInt ∧ RandBranchesAhead 1000000 300 := by
  obtain ⟨hrand, hbranches⟩ := randTime_iff 0 3600 (by decide) 1000000 300 (by decide)
  exact ⟨hrand.2 (.inl (by decide)), hbranches.2 (by decide)⟩

/-- The draw zero is one of the interval, and the time chosen with it is the current one. -/
theorem randTime_outdated :
    ¬TimeUtils.RandWithin Constant.fiveMinutesSeconds Constant.oneHourSeconds ∧ ¬RandBranchesAhead 1000000 0 ∧
      AlarmTimerUtils.registerAlarm ⟨0, 1000000, 1, true⟩
        (calculateAutoUpgradeTime .rand 1000000 (-1) Constant.defaultAutoUpgradeHour false 0).1 [] = (0, []) := by
  refine ⟨?_, ?_, by decide⟩
  · rintro ⟨a, b, hbounds, hab, hall⟩
    obtain ⟨rfl, rfl⟩ := Prod.mk.inj (Option.some.inj hbounds)
    exact absurd (hall 0 (by decide) (by decide)).1 (by decide)
  · rintro ⟨hrand, -⟩
    exact absurd (hrand 0 0 false).fiveMinutes (by decide)

end FirmwareAutoUpgradeAlarmManager

end UpdateService
