import UpdateService.NightUpgradeAlarmManager

/-!
# The armed night alarm

The manager is idle or armed, and only an arming that fails makes it neither: then the time is there and the timer is
not, and the early return looks at the time alone. The other thing that goes wrong is an unregistering that finds two
tasks of its priority, and erases the first.
-/

namespace UpdateService

/-- The timer service works. -/
def AlarmAnswer.Works (answer : AlarmAnswer) : Prop := answer.timerId ≠ 0 ∧ answer.started = true

namespace NightUpgradeAlarmManager
variable {C : Type} {s s' : NightUpgradeAlarmManager C} {zone : Int → Option Int} {currentTime t : Int} {randTime : Nat}
  {answer : AlarmAnswer} {info : NightUpgradeInfo} {callback : C} {priority : NightUpgradePriority} {a : Step C}

/-- One timer is started, and it is for the stored time. -/
structure Armed (s : NightUpgradeAlarmManager C) : Prop where
  timerId : 0 < s.nightTimerId
  timers : s.timers = [(s.nightTimerId, s.nightUpgradeTime * Constant.milleseconds)]

structure Idle (s : NightUpgradeAlarmManager C) : Prop where
  timerId : s.nightTimerId = 0
  nightUpgradeTime : s.nightUpgradeTime = Constant.defaultUpgradeTime
  timers : s.timers = []

/-- What the operations of an orderly run keep. -/
def Inv (s : NightUpgradeAlarmManager C) : Prop := s.Idle ∨ s.Armed

theorem Inv.frame (h : s.Inv) (map : KeyedList (@NightUpgradeTask.nightUpgradeInfo C)) (clock : Int) :
    Inv { s with nightUpgradeAlarmMap := map, clock := clock } :=
  h.imp (fun h => ⟨h.1, h.2, h.3⟩) fun h => ⟨h.1, h.2⟩

/-- What is to hold after the operation `a`. -/
structure Kept (a : Step C) (s' : NightUpgradeAlarmManager C) : Prop where
  legal : ∀ t, s'.clock ≤ t → s'.isIllegalNightUpgradeTime t = false → s'.Armed
  registered : ∀ currentTime info callback answer, a = .register currentTime info callback answer → answer.Works →
    info ∈ s'.nightUpgradeAlarmMap.keys ∧ s'.Armed
  unregistered : ∀ currentTime priority, a = .unregister currentTime priority →
    ∀ info ∈ s'.nightUpgradeAlarmMap.keys, info.priority ≠ priority
  empty : ∀ currentTime priority, a = .unregister currentTime priority →
    s'.nightUpgradeAlarmMap.entries = [] → s'.timers = []

/-- `RegisterAlarm` does not fail. -/
def CanArm (zone : Int → Option Int) (currentTime : Int) (answer : AlarmAnswer) : Prop :=
  answer.currentTime < calculateUpgradeTime zone currentTime answer.randTime ∧ answer.Works

/-- A registering that has to arm the alarm can do so, and an unregistering finds at most one task. -/
def Orderly (zone : Int → Option Int) (s : NightUpgradeAlarmManager C) : Step C → Prop
  | .register currentTime _ _ answer => s.isIllegalNightUpgradeTime currentTime = true → CanArm zone currentTime answer
  | .unregister _ priority => ∀ info ∈ s.nightUpgradeAlarmMap.keys, ∀ info' ∈ s.nightUpgradeAlarmMap.keys,
      info.priority = priority → info'.priority = priority → info = info'
  | .expire _ _ => True

/-- There is a local time, and a registering takes less than a minute. -/
def Prompt (zone : Int → Option Int) : Step C → Prop
  | .register currentTime _ _ answer => 0 ≤ currentTime ∧ answer.currentTime < currentTime + 60 ∧
    (zone currentTime).isSome
  | .unregister _ _ | .expire _ _ => True

/-! ### The time -/

/-- The calculated time is at least a minute and less than a day ahead. -/
theorem calculateUpgradeTime_bound (hzone : (zone currentTime).isSome)
    (hrand : (randTime : Int) < Constant.oneHourMinutes) :
    currentTime + 60 ≤ calculateUpgradeTime zone currentTime randTime ∧
      calculateUpgradeTime zone currentTime randTime ≤ currentTime + Constant.oneDaySecond := by
  obtain ⟨gmtoff, hgmtoff⟩ := Option.isSome_iff_exists.1 hzone
  rw [calculateUpgradeTime, localtime, hgmtoff, Option.map_some]
  simp only [mktime, hourTwo, hourThree, Constant.oneDaySecond, Constant.oneHourMinutes,
    Constant.oneMinuteSeconds] at hrand ⊢
  split_ifs <;> omega

theorem Idle.isIllegalNightUpgradeTime (h : s.Idle) : s.isIllegalNightUpgradeTime t = true := by
  rw [NightUpgradeAlarmManager.isIllegalNightUpgradeTime, h.nightUpgradeTime]
  rfl

/-- The legal time is that of a timer. -/
theorem Inv.legal (h : s.Inv) (hlegal : s.isIllegalNightUpgradeTime t = false) : s.Armed := by
  refine h.resolve_left fun hidle => ?_
  rw [hidle.isIllegalNightUpgradeTime] at hlegal
  cases hlegal

/-! ### Arming and disarming -/

theorem idle_innerUnregister (h : s.Inv) : s.innerUnregisterNightUpgradeEvent.Idle := by
  refine ⟨rfl, rfl, ?_⟩
  show (if s.nightTimerId > 0 then AlarmTimerUtils.unregisterAlarm s.nightTimerId s.timers else s.timers) = []
  rcases h with h | h
  · rw [if_neg (by rw [h.timerId]; exact Nat.lt_irrefl 0), h.timers]
  · rw [if_pos h.timerId, h.timers]
    simp [AlarmTimerUtils.unregisterAlarm]

/-- An alarm that can be armed is armed. -/
theorem registerAlarm_of_works {time : Int} {timers : List (Nat × Int)} (htime : answer.currentTime < time)
    (h : answer.Works) : AlarmTimerUtils.registerAlarm answer time timers =
      (answer.timerId, timers ++ [(answer.timerId, time * Constant.milleseconds)]) := by
  rw [AlarmTimerUtils.registerAlarm, if_neg (by omega), AlarmTimerUtils.registerTimer, if_neg h.1,
    if_neg (by rw [h.2]; exact Bool.noConfusion)]

theorem registerAlarm_of_not_works {time : Int} {timers : List (Nat × Int)} (h : ¬ answer.Works) :
    AlarmTimerUtils.registerAlarm answer time timers = (0, timers) := by
  rw [AlarmTimerUtils.registerAlarm]
  split
  · rfl
  · rw [AlarmTimerUtils.registerTimer]
    split
    · rfl
    · rename_i hid
      rw [if_pos]
      exact Bool.eq_false_iff.2 fun hstarted => h ⟨hid, hstarted⟩

theorem armed_innerRegister (h : s.Inv)
    (horderly : s.isIllegalNightUpgradeTime currentTime = true → CanArm zone currentTime answer) :
    (s.innerRegisterNightUpgradeEvent zone currentTime answer).Armed := by
  rw [innerRegisterNightUpgradeEvent]
  split
  · rename_i hlegal
    exact h.legal hlegal
  · rename_i hillegal
    obtain ⟨htime, hworks⟩ := horderly (by simpa using hillegal)
    have hidle := idle_innerUnregister h
    dsimp only
    rw [registerAlarm_of_works htime hworks, hidle.timers]
    exact ⟨Nat.pos_of_ne_zero hworks.1, rfl⟩

/-! ### The map -/

@[simp] theorem map_innerRegister :
    (s.innerRegisterNightUpgradeEvent zone currentTime answer).nightUpgradeAlarmMap = s.nightUpgradeAlarmMap := by
  rw [innerRegisterNightUpgradeEvent]
  split <;> rfl

theorem mem_keys_register :
    info ∈ (s.registerNightUpgradeTask zone currentTime info callback answer).nightUpgradeAlarmMap.keys := by
  show info ∈ (innerRegisterNightUpgradeEvent zone currentTime answer _).nightUpgradeAlarmMap.keys
  rw [map_innerRegister]
  split
  · rename_i hreg
    obtain ⟨task, htask⟩ := Option.isSome_iff_exists.1 (Bool.and_eq_true_iff.1 hreg).1
    rw [← KeyedList.key_of_find? htask]
    exact List.mem_map_of_mem (KeyedList.mem_of_find? htask)
  · show info ∈ List.map _ _
    exact List.mem_map_of_mem (f := NightUpgradeTask.nightUpgradeInfo) (KeyedList.mem_insert.2 (.inl rfl))

/-- The map without its first task of the priority. -/
def mapWithout (priority : NightUpgradePriority) (s : NightUpgradeAlarmManager C) :
    KeyedList (@NightUpgradeTask.nightUpgradeInfo C) :=
  match s.nightUpgradeAlarmMap.entries.find? fun task => task.nightUpgradeInfo.priority = priority with
  | none => s.nightUpgradeAlarmMap
  | some task => s.nightUpgradeAlarmMap.erase task.nightUpgradeInfo

theorem unregister_eq : s.unregisterNightUpgradeTask priority =
    if (s.mapWithout priority).entries.isEmpty then
      { s with nightUpgradeAlarmMap := s.mapWithout priority }.innerUnregisterNightUpgradeEvent
    else { s with nightUpgradeAlarmMap := s.mapWithout priority } := by
  rw [unregisterNightUpgradeTask, mapWithout]
  cases s.nightUpgradeAlarmMap.entries.find? fun task => task.nightUpgradeInfo.priority = priority <;> rfl

@[simp] theorem map_unregister : (s.unregisterNightUpgradeTask priority).nightUpgradeAlarmMap = s.mapWithout priority := by
  rw [unregister_eq]
  split <;> rfl

theorem mem_keys_mapWithout : info ∈ (s.mapWithout priority).keys ↔ info ∈ s.nightUpgradeAlarmMap.keys ∧
    ∀ task, s.nightUpgradeAlarmMap.entries.find? (fun task => task.nightUpgradeInfo.priority = priority) = some task →
      info ≠ task.nightUpgradeInfo := by
  rw [mapWithout]
  cases s.nightUpgradeAlarmMap.entries.find? fun task => task.nightUpgradeInfo.priority = priority with
  | none => simp
  | some task =>
    simp only [Option.some.injEq, forall_eq']
    constructor
    · intro h
      obtain ⟨task', htask', rfl⟩ := List.mem_map.1 h
      obtain ⟨hmem, hne⟩ := KeyedList.mem_erase.1 htask'
      exact ⟨List.mem_map_of_mem hmem, hne⟩
    · rintro ⟨h, hne⟩
      obtain ⟨task', htask', rfl⟩ := List.mem_map.1 h
      exact List.mem_map_of_mem (f := NightUpgradeTask.nightUpgradeInfo) (KeyedList.mem_erase.2 ⟨htask', hne⟩)

/-- No task of the priority is left exactly where there is at most one. -/
theorem mapWithout_iff : (∀ info ∈ (s.mapWithout priority).keys, info.priority ≠ priority) ↔
      ∀ info ∈ s.nightUpgradeAlarmMap.keys, ∀ info' ∈ s.nightUpgradeAlarmMap.keys,
        info.priority = priority → info'.priority = priority → info = info' := by
  cases hfind : s.nightUpgradeAlarmMap.entries.find? fun task => task.nightUpgradeInfo.priority = priority with
  | none =>
    have hnone : ∀ info ∈ s.nightUpgradeAlarmMap.keys, info.priority ≠ priority := by
      intro info hinfo
      obtain ⟨task, htask, rfl⟩ := List.mem_map.1 hinfo
      simpa using List.find?_eq_none.1 hfind task htask
    constructor
    · intro _ info hinfo _ _ hp
      exact absurd hp (hnone info hinfo)
    · intro _ info hinfo
      exact hnone info (mem_keys_mapWithout.1 hinfo).1
  | some task =>
    have hp : task.nightUpgradeInfo.priority = priority := by simpa using List.find?_some hfind
    have hmem : task.nightUpgradeInfo ∈ s.nightUpgradeAlarmMap.keys :=
      List.mem_map_of_mem (List.mem_of_find?_eq_some hfind)
    constructor
    · intro h
      -- every task of the priority is the one that is found, else it is left
      have hfound : ∀ info ∈ s.nightUpgradeAlarmMap.keys, info.priority = priority → info = task.nightUpgradeInfo := by
        intro info hinfo hprio
        by_contra hne
        refine h info (mem_keys_mapWithout.2 ⟨hinfo, fun task' htask' => ?_⟩) hprio
        rw [hfind] at htask'
        rwa [← Option.some.inj htask']
      intro info hinfo info' hinfo' hprio hprio'
      rw [hfound info hinfo hprio, hfound info' hinfo' hprio']
    · intro h info hinfo hprio
      obtain ⟨hinfo, hne⟩ := mem_keys_mapWithout.1 hinfo
      exact hne task hfind (h info hinfo _ hmem hprio hp)

/-! ### One step -/

theorem Inv.unregister (h : s.Inv) : (s.unregisterNightUpgradeTask priority).Inv := by
  rw [unregister_eq]
  split
  · exact .inl (idle_innerUnregister (h.frame _ _))
  · exact h.frame _ _

/-- An unregistering that leaves the map empty leaves no timer. -/
theorem Inv.timers_unregister (h : s.Inv) (hempty : (s.mapWithout priority).entries = []) :
    (s.unregisterNightUpgradeTask priority).timers = [] := by
  rw [unregister_eq, if_pos (List.isEmpty_iff.2 hempty)]
  exact (idle_innerUnregister (h.frame _ _)).timers

theorem Inv.register (h : s.Inv)
    (horderly : s.isIllegalNightUpgradeTime currentTime = true → CanArm zone currentTime answer) :
    (s.registerNightUpgradeTask zone currentTime info callback answer).Armed := by
  rw [registerNightUpgradeTask]
  split
  · exact armed_innerRegister h horderly
  · exact armed_innerRegister (h.frame _ _) horderly

theorem Inv.expire {timerId : Nat} (h : s.Inv) (hfires : ∃ timer ∈ s.timers, timer.1 = timerId) :
    (handleNightUpgradeAlarm { s with timers := s.timers.filter fun timer => timer.1 ≠ timerId }).1.Idle := by
  have htimers : (s.timers.filter fun timer => timer.1 ≠ timerId) = [] := by
    obtain ⟨timer, hmem, rfl⟩ := hfires
    rcases h with h | h
    · rw [h.timers] at hmem
      cases hmem
    · rw [h.timers] at hmem ⊢
      rw [List.mem_singleton.1 hmem]
      simp
  rw [handleNightUpgradeAlarm]
  split <;> exact ⟨rfl, rfl, htimers⟩

theorem Inv.step (h : s.Inv) (horderly : Orderly zone s a) (hstep : s.step zone a = some s') : s'.Inv := by
  cases a with
  | register currentTime info callback answer =>
    obtain ⟨-, ⟨⟩⟩ := Option.ite_none_right_eq_some.1 hstep
    exact Inv.frame (.inr (h.register horderly)) _ _
  | unregister currentTime priority =>
    obtain ⟨-, ⟨⟩⟩ := Option.ite_none_right_eq_some.1 hstep
    exact h.unregister.frame _ _
  | expire currentTime timerId =>
    obtain ⟨⟨-, timer, hmem, hid, -⟩, ⟨⟩⟩ := Option.ite_none_right_eq_some.1 hstep
    exact Inv.frame (.inl (h.expire ⟨timer, hmem, hid⟩)) _ _

theorem Inv.kept (h : s.Inv) (horderly : Orderly zone s a) (hstep : s.step zone a = some s') : Kept a s' := by
  have hlegal : ∀ t, s'.clock ≤ t → s'.isIllegalNightUpgradeTime t = false → s'.Armed :=
    fun t _ hlegal => (h.step horderly hstep).legal hlegal
  cases a with
  | register currentTime info callback answer =>
    obtain ⟨-, ⟨⟩⟩ := Option.ite_none_right_eq_some.1 hstep
    refine ⟨hlegal, ?_, nofun, nofun⟩
    rintro _ _ _ _ ⟨⟩ _
    have harmed : (s.registerNightUpgradeTask zone currentTime info callback answer).Armed := h.register horderly
    exact ⟨mem_keys_register, harmed.1, harmed.2⟩
  | unregister currentTime priority =>
    obtain ⟨-, ⟨⟩⟩ := Option.ite_none_right_eq_some.1 hstep
    refine ⟨hlegal, nofun, ?_, ?_⟩
    · rintro _ _ ⟨⟩
      rw [map_unregister]
      exact mapWithout_iff.2 horderly
    · rintro _ _ ⟨⟩ hempty
      rw [map_unregister] at hempty
      exact h.timers_unregister hempty
  | expire currentTime timerId => exact ⟨hlegal, nofun, nofun, nofun⟩

/-! ### Runs -/

/-- An arming that fails leaves the time without a timer. -/
theorem innerRegister_of_not_works (hillegal : s.isIllegalNightUpgradeTime currentTime = true) (h : ¬ answer.Works) :
    (s.innerRegisterNightUpgradeEvent zone currentTime answer).nightTimerId = 0 ∧
      (s.innerRegisterNightUpgradeEvent zone currentTime answer).nightUpgradeTime =
        calculateUpgradeTime zone currentTime answer.randTime := by
  rw [innerRegisterNightUpgradeEvent, if_neg (by rw [hillegal]; exact Bool.noConfusion)]
  dsimp only
  rw [registerAlarm_of_not_works h]
  exact ⟨rfl, rfl⟩

theorem register_of_not_works (hillegal : s.isIllegalNightUpgradeTime currentTime = true) (h : ¬ answer.Works) :
    (s.registerNightUpgradeTask zone currentTime info callback answer).nightTimerId = 0 ∧
      (s.registerNightUpgradeTask zone currentTime info callback answer).nightUpgradeTime =
        calculateUpgradeTime zone currentTime answer.randTime := by
  rw [registerNightUpgradeTask]
  split
  · exact innerRegister_of_not_works hillegal h
  · exact innerRegister_of_not_works hillegal h

theorem not_kept (hprompt : Prompt zone a) (horderly : ¬ Orderly zone s a) (hstep : s.step zone a = some s') :
    ¬ Kept a s' := by
  cases a with
  | register currentTime info callback answer =>
    obtain ⟨hpos, hminute, hzone⟩ := hprompt
    obtain ⟨hillegal, hnot⟩ := Classical.not_imp.1 horderly
    obtain ⟨⟨-, hmono, hrand⟩, ⟨⟩⟩ := Option.ite_none_right_eq_some.1 hstep
    obtain ⟨hlow, hhigh⟩ := calculateUpgradeTime_bound hzone hrand
    have hworks : ¬ answer.Works := fun hworks => hnot ⟨by omega, hworks⟩
    obtain ⟨hid, htime⟩ : (s.registerNightUpgradeTask zone currentTime info callback answer).nightTimerId = 0 ∧ _ :=
      register_of_not_works hillegal hworks
    -- the stored time is within the next day
    have hlegal : (s.registerNightUpgradeTask zone currentTime info callback answer).isIllegalNightUpgradeTime
        answer.currentTime = false := by
      simp only [isIllegalNightUpgradeTime, htime, Constant.defaultUpgradeTime, Bool.or_eq_false_iff,
        decide_eq_false_iff_not]
      omega
    intro hkept
    have harmed := (hkept.legal answer.currentTime (Int.le_refl _) hlegal).timerId
    exact absurd hid (Nat.pos_iff_ne_zero.1 harmed)
  | unregister currentTime priority =>
    obtain ⟨-, ⟨⟩⟩ := Option.ite_none_right_eq_some.1 hstep
    intro hkept
    have hleft := hkept.unregistered currentTime priority rfl
    dsimp only at hleft
    rw [map_unregister] at hleft
    exact horderly (mapWithout_iff.1 hleft)
  | expire _ _ => exact absurd trivial horderly

/-- As long as every arming succeeds and no unregistering finds two tasks, what is to hold holds after each operation,
and the first operation of the other kind breaks it. -/
theorem night_kept {start : Int} {as : List (Step C)}
    (h : ((lts C zone).guard (Orderly zone)).Run { clock := start } as s) (hstep : (lts C zone).step s a s') :
    (Orderly zone s a → Kept a s') ∧ (Prompt zone a → ¬ Orderly zone s a → ¬ Kept a s') := by
  have hinv : ((lts C zone).guard (Orderly zone)).Preserved Inv := by
    rintro s a s' ⟨horderly, hstep⟩ h
    exact Inv.step h horderly hstep
  have h₀ : Inv ({ clock := start } : NightUpgradeAlarmManager C) := .inl ⟨rfl, rfl, rfl⟩
  have hs := h.invariant hinv h₀
  constructor
  · intro horderly
    exact hs.kept horderly hstep
  · intro hprompt horderly
    exact not_kept hprompt horderly hstep

instance (answer : AlarmAnswer) : Decidable answer.Works := inferInstanceAs (Decidable (_ ∧ _))

instance (answer : AlarmAnswer) : Decidable (CanArm zone currentTime answer) := inferInstanceAs (Decidable (_ ∧ _))

instance (s : NightUpgradeAlarmManager C) (a : Step C) : Decidable (Orderly zone s a) :=
  match a with
  | .register currentTime _ _ answer =>
    inferInstanceAs (Decidable (s.isIllegalNightUpgradeTime currentTime = true → CanArm zone currentTime answer))
  | .unregister _ priority => inferInstanceAs (Decidable (∀ info ∈ s.nightUpgradeAlarmMap.keys,
      ∀ info' ∈ s.nightUpgradeAlarmMap.keys, info.priority = priority → info'.priority = priority → info = info'))
  | .expire _ _ => isTrue trivial

/-- Two tasks, the alarm at two o'clock, a new alarm, and both tasks taken out. -/
theorem night_kept_expired : ∃ s : NightUpgradeAlarmManager Nat, s.clock = 7203 ∧ s.timers = [] ∧
    Kept (.unregister 7203 .param) s := by
  have hrun : ∃ s : NightUpgradeAlarmManager Nat, ((lts Nat fun _ => some 0).guard (Orderly fun _ => some 0)).Run { clock := 0 }
      [.register 0 { priority := .firmware } 0 { randTime := 0, currentTime := 0, timerId := 7, started := true },
        .register 10 { priority := .param } 1 { randTime := 0, currentTime := 10, timerId := 0, started := false },
        .expire 7200 7,
        .register 7201 { priority := .firmware } 2 { randTime := 5, currentTime := 7201, timerId := 8, started := true },
        .unregister 7202 .firmware] s ∧
      Orderly (fun _ => some 0) s (.unregister 7203 .param) ∧
      s.step (fun _ => some 0) (.unregister 7203 .param) = some { clock := 7203 } := by
    rw [lts, Lts.guard_ofPartial]
    exact ⟨_, Lts.run_ofPartial_get (by rfl), by decide, by rfl⟩
  obtain ⟨s, h, horderly, hstep⟩ := hrun
  exact ⟨_, rfl, rfl, (night_kept h hstep).1 horderly⟩

/-- No timer can be created: the time is stored all the same, and the next task, for which the timer service works
again, gets no alarm. And of two firmware tasks, one that needs a reboot and one that does not, one is left. -/
theorem not_night_kept :
    (∃ as s a, ∃ s' : NightUpgradeAlarmManager Nat, (lts Nat fun _ => some 0).Run { clock := 0 } as s ∧
      s.isIllegalNightUpgradeTime s.clock = false ∧ s.nightTimerId = 0 ∧
      (lts Nat fun _ => some 0).step s a s' ∧ s'.timers = [] ∧ ¬ Kept a s') ∧
    ∃ as s a, ∃ s' : NightUpgradeAlarmManager Nat, (lts Nat fun _ => some 0).Run { clock := 0 } as s ∧
      (lts Nat fun _ => some 0).step s a s' ∧ s'.nightUpgradeAlarmMap.keys = [{ priority := .firmware }] ∧ ¬ Kept a s' := by
  constructor
  · refine ⟨[.register 0 { priority := .firmware } 0 { randTime := 0, currentTime := 0, timerId := 0, started := false }], _,
      .register 10 { priority := .param } 1 { randTime := 0, currentTime := 10, timerId := 7, started := true }, _,
      Lts.run_ofPartial_get (by rfl), by rfl, by rfl, rfl, by rfl, ?_⟩
    intro hkept
    have harmed := (hkept.registered _ _ _ _ rfl (by decide)).2.timerId
    exact absurd harmed (by decide)
  · refine ⟨[.register 0 { priority := .firmware } 0 { randTime := 0, currentTime := 0, timerId := 7, started := true },
      .register 10 { priority := .firmware, isNeedReboot := false } 1
        { randTime := 0, currentTime := 10, timerId := 0, started := false }], _,
      .unregister 20 .firmware, _, Lts.run_ofPartial_get (by rfl), rfl, by rfl, ?_⟩
    intro hkept
    exact hkept.unregistered _ _ rfl { priority := .firmware } List.mem_cons_self rfl

end NightUpgradeAlarmManager

end UpdateService
