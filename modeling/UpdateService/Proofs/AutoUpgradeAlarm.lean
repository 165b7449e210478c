import UpdateService.FirmwareAutoUpgradeAlarmManager
import UpdateService.Proofs.NightAlarm

/-!
# The polling schedule

The stored time is never without its timer by mistake: the early return looks at the id of the timer as well, so every
run keeps `Inv`. What goes wrong is in the times alone. A draw may put the schedule more than `duration` ahead, and then
an event soon after looks like a clock that was set back; and `getRandTime` gives what it draws without its `minTime`.
-/

namespace UpdateService

namespace FirmwareAutoUpgradeAlarmManager
variable {s s' : FirmwareAutoUpgradeAlarmManager} {refreshType : AutoUpgradeTimeRefreshType} {currentTime : Int}
  {answer : AlarmAnswer} {a : Step} {as : List Step}

/-- The timer of the stored time. -/
def timer (s : FirmwareAutoUpgradeAlarmManager) : Nat × Int :=
  (s.autoTimerId, s.autoUpgradeTime * Constant.milleseconds)

/-- No other timer is started, and a timer that is not due has not fired. -/
structure Inv (s : FirmwareAutoUpgradeAlarmManager) : Prop where
  own : ∀ t ∈ s.timers, 0 < s.autoTimerId ∧ t = s.timer
  pending : 0 < s.autoTimerId → s.clock < s.autoUpgradeTime → s.timer ∈ s.timers

/-- What is to hold after a refresh: an event before the scheduled time leaves it, and the time is ahead and armed. -/
structure Refreshed (s : FirmwareAutoUpgradeAlarmManager) (refreshType : AutoUpgradeTimeRefreshType) (currentTime : Int)
    (answer : AlarmAnswer) (s' : FirmwareAutoUpgradeAlarmManager) : Prop where
  kept : refreshType = .event → s.autoUpgradeTime ≠ Constant.defaultUpgradeTime → currentTime < s.autoUpgradeTime →
    s.isNeedRetryCheck = false → s'.autoUpgradeTime = s.autoUpgradeTime
  future : s'.clock < s'.autoUpgradeTime
  armed : answer.Works → 0 < s'.autoTimerId ∧ s'.timer ∈ s'.timers

def Kept (s : FirmwareAutoUpgradeAlarmManager) (a : Step) (s' : FirmwareAutoUpgradeAlarmManager) : Prop :=
  ∀ refreshType currentTime answer, a = .register refreshType currentTime answer →
    Refreshed s refreshType currentTime answer s'

/-- The scheduled time is not more than `duration` ahead, unless none is stored. -/
def WithinDuration (s : FirmwareAutoUpgradeAlarmManager) (currentTime : Int) : Prop :=
  (if s.autoUpgradeTime ≠ Constant.defaultUpgradeTime then s.autoUpgradeTime - getEffectiveAutoUpgradeDuration else 0) ≤
    currentTime

instance : Decidable (WithinDuration s currentTime) := inferInstanceAs (Decidable (_ ≤ _))

/-- An event of no retry does not come more than `duration` before the scheduled time, and no call outlasts the time
it is to set. -/
def Orderly (s : FirmwareAutoUpgradeAlarmManager) : Step → Prop
  | .register .duration currentTime answer =>
    answer.currentTime < currentTime + 84600 + answer.randTime
  | .register .event currentTime answer =>
    if s.autoUpgradeTime ≤ currentTime then answer.currentTime < currentTime + timerAvailableInterval
    else if WithinDuration s currentTime then
      answer.currentTime < if s.isNeedRetryCheck then currentTime + answer.randTime else s.autoUpgradeTime
    else (s.isNeedRetryCheck = true ∨ s.autoUpgradeTime = Constant.defaultUpgradeTime) ∧
      answer.currentTime < currentTime + timerAvailableInterval
  | .register .rand currentTime answer => answer.currentTime < currentTime + answer.randTime
  | .register .verify _ answer | .register .delayTime _ answer => answer.currentTime < s.autoUpgradeTime
  | .saveNeedRetryCheckFlag _ | .expire _ _ | .restart => True

/-! ### The calculated time -/

/-- What `registerAutoUpgradeTime` calculates. -/
def calculated (s : FirmwareAutoUpgradeAlarmManager) (refreshType : AutoUpgradeTimeRefreshType) (currentTime : Int)
    (answer : AlarmAnswer) : Int × Bool :=
  calculateAutoUpgradeTime refreshType currentTime s.autoUpgradeTime getEffectiveAutoUpgradeDuration s.isNeedRetryCheck
    answer.randTime

theorem calculated_duration : (s.calculated .duration currentTime answer).1 = currentTime + 84600 + answer.randTime := by
  show currentTime + 86400 - 1800 + (answer.randTime : Int) = _
  omega

theorem calculated_rand : (s.calculated .rand currentTime answer).1 = currentTime + answer.randTime := rfl

theorem calculated_reset (h : s.autoUpgradeTime ≤ currentTime ∨ ¬ WithinDuration s currentTime) :
    (s.calculated .event currentTime answer).1 = currentTime + timerAvailableInterval := by
  show (handleNetChange _ _ _ _ _).1 = _
  rw [handleNetChange, if_pos (h.imp id Int.not_le.1)]

theorem calculated_keep (hdue : ¬ s.autoUpgradeTime ≤ currentTime) (hwithin : WithinDuration s currentTime) :
    (s.calculated .event currentTime answer).1 =
      if s.isNeedRetryCheck then currentTime + answer.randTime else s.autoUpgradeTime := by
  show (handleNetChange _ _ _ _ _).1 = _
  rw [handleNetChange, if_neg (not_or.2 ⟨hdue, Int.not_lt.2 hwithin⟩)]
  split <;> rfl

/-- A time that is more than `duration` ahead is not the time that an event sets. -/
theorem reset_ne (hset : s.autoUpgradeTime ≠ Constant.defaultUpgradeTime) (hwithin : ¬ WithinDuration s currentTime) :
    currentTime + timerAvailableInterval ≠ s.autoUpgradeTime := by
  rw [WithinDuration, if_pos hset] at hwithin
  change ¬ s.autoUpgradeTime - 86400 ≤ currentTime at hwithin
  show currentTime + 10 ≠ s.autoUpgradeTime
  omega

/-- The times are as they are to be exactly in an orderly refresh. -/
theorem calculated_iff : Orderly s (.register refreshType currentTime answer) ↔
    (refreshType = .event → s.autoUpgradeTime ≠ Constant.defaultUpgradeTime → currentTime < s.autoUpgradeTime →
      s.isNeedRetryCheck = false → (s.calculated refreshType currentTime answer).1 = s.autoUpgradeTime) ∧
    answer.currentTime < (s.calculated refreshType currentTime answer).1 := by
  cases refreshType with
  | verify => exact ⟨fun h => ⟨nofun, h⟩, And.right⟩
  | delayTime => exact ⟨fun h => ⟨nofun, h⟩, And.right⟩
  | duration =>
    rw [calculated_duration]
    exact ⟨fun h => ⟨nofun, h⟩, And.right⟩
  | rand =>
    rw [calculated_rand]
    exact ⟨fun h => ⟨nofun, h⟩, And.right⟩
  | event =>
    show (if s.autoUpgradeTime ≤ currentTime then _ else _) ↔ _
    by_cases hdue : s.autoUpgradeTime ≤ currentTime
    · rw [if_pos hdue, calculated_reset (.inl hdue)]
      constructor
      · intro h
        exact ⟨fun _ _ hlt => absurd hlt (Int.not_lt.2 hdue), h⟩
      · intro h
        exact h.2
    rw [if_neg hdue]
    by_cases hwithin : WithinDuration s currentTime
    · rw [if_pos hwithin, calculated_keep hdue hwithin]
      constructor
      · intro h
        refine ⟨fun _ _ _ hno => ?_, h⟩
        rw [hno]
        rfl
      · intro h
        exact h.2
    · rw [if_neg hwithin, calculated_reset (.inr hwithin)]
      constructor
      · rintro ⟨hretry, h⟩
        refine ⟨fun _ hset _ hno => ?_, h⟩
        rcases hretry with hretry | hretry
        · rw [hno] at hretry
          exact Bool.noConfusion hretry
        · exact absurd hretry hset
      · rintro ⟨hkept, h⟩
        refine ⟨?_, h⟩
        by_contra hnot
        obtain ⟨hno, hset⟩ := not_or.1 hnot
        exact reset_ne hset hwithin (hkept rfl hset (Int.not_le.1 hdue) (Bool.not_eq_true _ ▸ hno))

/-! ### The timer -/

theorem Inv.timers_unregister (h : s.Inv) : s.unregisterAlarmTimer.timers = [] := by
  show (if s.autoTimerId > 0 then AlarmTimerUtils.unregisterAlarm s.autoTimerId s.timers else s.timers) = []
  split
  · refine List.filter_eq_nil_iff.2 fun t ht => ?_
    rw [(h.own t ht).2, timer]
    simp
  · rename_i hid
    refine List.eq_nil_iff_forall_not_mem.2 fun t ht => hid (h.own t ht).1

theorem register_eq : s.registerAutoUpgradeTime refreshType currentTime answer =
    if s.autoUpgradeTime = (s.calculated refreshType currentTime answer).1 ∧ 0 < s.autoTimerId then
      { s with isNeedRetryCheck := (s.calculated refreshType currentTime answer).2 }
    else
      { s with
        isNeedRetryCheck := (s.calculated refreshType currentTime answer).2
        autoUpgradeTime := (s.calculated refreshType currentTime answer).1
        autoTimerId := (AlarmTimerUtils.registerAlarm answer (s.calculated refreshType currentTime answer).1
          s.unregisterAlarmTimer.timers).1
        timers := (AlarmTimerUtils.registerAlarm answer (s.calculated refreshType currentTime answer).1
          s.unregisterAlarmTimer.timers).2 } := by
  simp only [registerAutoUpgradeTime, Bool.and_eq_true, decide_eq_true_eq]
  rfl

theorem autoUpgradeTime_register : (s.registerAutoUpgradeTime refreshType currentTime answer).autoUpgradeTime =
    (s.calculated refreshType currentTime answer).1 := by
  rw [register_eq]
  split
  · rename_i h
    exact h.1
  · rfl

/-- What is registered is the one timer, or none. -/
theorem registerAlarm_cases (answer : AlarmAnswer) (time : Int) :
    AlarmTimerUtils.registerAlarm answer time [] = (0, []) ∨
      0 < answer.timerId ∧
        AlarmTimerUtils.registerAlarm answer time [] = (answer.timerId, [(answer.timerId, time * Constant.milleseconds)]) := by
  rw [AlarmTimerUtils.registerAlarm, AlarmTimerUtils.registerTimer]
  split
  · exact .inl rfl
  split
  · exact .inl rfl
  split
  · exact .inl rfl
  · exact .inr ⟨by omega, rfl⟩

theorem Inv.register (h : s.Inv) (hclock : s.clock ≤ answer.currentTime) :
    Inv { s.registerAutoUpgradeTime refreshType currentTime answer with clock := answer.currentTime } := by
  rw [register_eq]
  split
  · refine ⟨h.own, fun hid hlt => h.pending hid ?_⟩
    exact Int.lt_of_le_of_lt hclock hlt
  · rw [h.timers_unregister]
    rcases registerAlarm_cases answer (s.calculated refreshType currentTime answer).1 with heq | ⟨hid, heq⟩
    · refine ⟨?_, ?_⟩ <;> simp [heq]
    · refine ⟨?_, ?_⟩ <;> simp [heq, hid, timer]

theorem Inv.armed (h : s.Inv) (hworks : answer.Works) (hclock : s.clock ≤ answer.currentTime)
    (hfuture : answer.currentTime < (s.calculated refreshType currentTime answer).1) :
    0 < (s.registerAutoUpgradeTime refreshType currentTime answer).autoTimerId ∧
      (s.registerAutoUpgradeTime refreshType currentTime answer).timer ∈
        (s.registerAutoUpgradeTime refreshType currentTime answer).timers := by
  rw [register_eq]
  split
  · rename_i hsame
    refine ⟨hsame.2, h.pending hsame.2 ?_⟩
    rw [hsame.1]
    exact Int.lt_of_le_of_lt hclock hfuture
  · rw [h.timers_unregister, NightUpgradeAlarmManager.registerAlarm_of_works hfuture hworks]
    exact ⟨Nat.pos_of_ne_zero hworks.1, List.mem_singleton.2 rfl⟩

/-! ### Runs -/

theorem Inv.step (h : s.Inv) (hstep : s.step a = some s') : s'.Inv := by
  cases a with
  | register refreshType currentTime answer =>
    obtain ⟨⟨hclock, hmono, -⟩, ⟨⟩⟩ := Option.ite_none_right_eq_some.1 hstep
    exact h.register (Int.le_trans hclock hmono)
  | saveNeedRetryCheckFlag needRetry =>
    obtain rfl := Option.some.inj hstep
    exact ⟨h.own, h.pending⟩
  | expire currentTime timerId =>
    obtain ⟨⟨hclock, t, ht, rfl, hdue⟩, ⟨⟩⟩ := Option.ite_none_right_eq_some.1 hstep
    refine ⟨fun t' ht' => h.own t' (List.mem_filter.1 ht').1, fun _ hlt => ?_⟩
    -- the timer that fired was due
    rw [(h.own t ht).2] at hdue
    simp only [timer, Constant.milleseconds] at hdue hlt
    omega
  | restart =>
    obtain rfl := Option.some.inj hstep
    refine ⟨fun t ht => ?_, fun hid => absurd hid (Nat.lt_irrefl 0)⟩
    have htimers := h.timers_unregister
    rw [show s.unregisterAlarmTimer.timers = [] from htimers] at ht
    cases ht

/-- Along every run, what is to hold after a refresh holds exactly where the refresh is orderly. -/
theorem schedule_kept_iff {start : Int} (h : lts.Run { clock := start } as s) (hstep : lts.step s a s') :
    Kept s a s' ↔ Orderly s a := by
  have hinv : lts.Preserved Inv := fun _ _ _ hstep h => Inv.step h hstep
  have h₀ : Inv ({ clock := start } : FirmwareAutoUpgradeAlarmManager) :=
    ⟨nofun, fun hid => absurd hid (Nat.lt_irrefl 0)⟩
  have hs := h.invariant hinv h₀
  cases a with
  | register refreshType currentTime answer =>
    obtain ⟨⟨hclock, hmono, -⟩, ⟨⟩⟩ := Option.ite_none_right_eq_some.1 hstep
    rw [calculated_iff]
    constructor
    · intro hkept
      obtain ⟨hkept, hfuture, -⟩ := hkept _ _ _ rfl
      dsimp only at hkept hfuture
      rw [autoUpgradeTime_register] at hkept hfuture
      exact ⟨hkept, hfuture⟩
    · rintro ⟨hkept, hfuture⟩ _ _ _ ⟨⟩
      refine ⟨?_, ?_, ?_⟩
      · dsimp only
        rw [autoUpgradeTime_register]
        exact hkept
      · dsimp only
        rw [autoUpgradeTime_register]
        exact hfuture
      · intro hworks
        exact hs.armed hworks (Int.le_trans hclock hmono) hfuture
  | saveNeedRetryCheckFlag _ => exact ⟨fun _ => trivial, fun _ => nofun⟩
  | expire _ _ => exact ⟨fun _ => trivial, fun _ => nofun⟩
  | restart => exact ⟨fun _ => trivial, fun _ => nofun⟩

/-- The schedule is drawn half an hour late, the process starts again, and an event an hour later keeps the time. -/
theorem schedule_kept_restarted :
    Kept { autoUpgradeTime := 1088199, clock := 1000001 }
      (.register .event 1003600 { randTime := 0, currentTime := 1003600, timerId := 8, started := true })
      { autoUpgradeTime := 1088199, autoTimerId := 8, timers := [(8, 1088199000)], clock := 1003600 } := by
  have h : lts.Run { clock := 0 } [.register .event 10 { randTime := 0, currentTime := 10, timerId := 6, started := true },
      .register .duration 1000000 { randTime := 3599, currentTime := 1000001, timerId := 7, started := true }, .restart]
      { autoUpgradeTime := 1088199, clock := 1000001 } := Lts.run_ofPartial (by rfl)
  exact (schedule_kept_iff h (by rfl)).2 (calculated_iff.2 ⟨fun _ _ _ _ => by rfl, by decide⟩)

/-- The draw is 1801, and an event in the same second brings the search forward by a day; and the draw of a retry is 0,
and the search is set for a time that is over. -/
theorem not_schedule_kept :
    (∃ as s s', lts.Run { clock := 0 } as s ∧ s.autoUpgradeTime = 1086401 ∧ s.isNeedRetryCheck = false ∧
      lts.step s (.register .event 1000000 { randTime := 0, currentTime := 1000000, timerId := 8, started := true }) s' ∧
      s'.autoUpgradeTime = 1000010 ∧
      ¬ Kept s (.register .event 1000000 { randTime := 0, currentTime := 1000000, timerId := 8, started := true }) s') ∧
    ∃ as s s', lts.Run { clock := 0 } as s ∧
      lts.step s (.register .event 1000000 { randTime := 0, currentTime := 1000000, timerId := 8, started := true }) s' ∧
      s'.autoUpgradeTime = s'.clock ∧ s'.autoTimerId = 0 ∧ s'.timers = [] ∧
      ¬ Kept s (.register .event 1000000 { randTime := 0, currentTime := 1000000, timerId := 8, started := true }) s' := by
  constructor
  · refine ⟨[.register .duration 1000000 { randTime := 1801, currentTime := 1000000, timerId := 7, started := true }],
      { autoUpgradeTime := 1086401, autoTimerId := 7, timers := [(7, 1086401000)], clock := 1000000 },
      { autoUpgradeTime := 1000010, autoTimerId := 8, timers := [(8, 1000010000)], clock := 1000000 },
      Lts.run_ofPartial (by rfl), rfl, rfl, by rfl, rfl, ?_⟩
    intro hkept
    exact absurd ((hkept _ _ _ rfl).kept rfl (by decide) (by decide) rfl) (by decide)
  · refine ⟨[.register .duration 1000000 { randTime := 0, currentTime := 1000000, timerId := 7, started := true },
      .saveNeedRetryCheckFlag true],
      { autoUpgradeTime := 1084600, isNeedRetryCheck := true, autoTimerId := 7, timers := [(7, 1084600000)], clock := 1000000 },
      { autoUpgradeTime := 1000000, clock := 1000000 }, Lts.run_ofPartial (by rfl), by rfl, rfl, rfl, rfl, ?_⟩
    intro hkept
    exact absurd (hkept _ _ _ rfl).future (Int.lt_irrefl _)

end FirmwareAutoUpgradeAlarmManager

end UpdateService
