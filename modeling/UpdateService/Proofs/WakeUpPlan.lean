import UpdateService.ScheduleManager
import Mathlib.Order.Bounds.Basic

/-!
# Idle checks against the plan, and plans against the operator

`TaskManage` is described by the tasks that are due by time and those that wait for a network: what it writes into the
plan and what it answers. `IdleCheck` throws the answer away, and the operator refuses the entry of the network.
-/

namespace UpdateService

namespace NetType

theorem mask_or (a b : NetType) : (a.or b).mask = a.mask ||| b.mask := by
  cases a <;> cases b <;> rfl

theorem mask_inj {a b : NetType} (h : a.mask = b.mask) : a = b := by
  cases a <;> cases b <;> first | rfl | cases h

theorem or_noNet (a : NetType) : a.or .noNet = a := mask_inj (by rw [mask_or]; exact Nat.or_zero _)

theorem or_right_comm (a b c : NetType) : (a.or b).or c = (a.or c).or b :=
  mask_inj (by simp only [mask_or, Nat.or_assoc, Nat.or_comm b.mask])

theorem eq_noNet_iff (a : NetType) : a = .noNet ↔ ∀ i, a.mask.testBit i = false := by
  constructor
  · rintro rfl i
    exact Nat.zero_testBit i
  · intro h
    exact mask_inj (Nat.eq_of_testBit_eq fun i => (h i).trans (Nat.zero_testBit i).symm)

end NetType

namespace ScheduleTask
variable {a b : ScheduleTask} {tasks rest : List ScheduleTask} {front : ScheduleTask}

theorem not_lt_iff : (!b.lt a) = true ↔ a.minDelayTime.toNat < b.minDelayTime.toNat ∨
    a.minDelayTime.toNat = b.minDelayTime.toNat ∧ a.maxDelayTime.toNat ≤ b.maxDelayTime.toNat := by
  rw [lt, Bool.not_eq_true']
  split
  · rename_i hne
    rw [ne_eq, ← UInt64.toNat_inj] at hne
    rw [decide_eq_false_iff_not, UInt64.lt_iff_toNat_lt]
    omega
  · rename_i heq
    have heq : b.minDelayTime = a.minDelayTime := Classical.not_not.1 heq
    rw [decide_eq_false_iff_not, UInt64.lt_iff_toNat_lt, heq]
    omega

/-- The first of the sorted tasks has the least delay. -/
theorem front_isLeast (h : sort tasks = front :: rest) :
    IsLeast {d | ∃ t ∈ tasks, t.minDelayTime = d} front.minDelayTime := by
  have hmem : ∀ t, t ∈ front :: rest ↔ t ∈ tasks := by
    intro t
    rw [← h]
    exact List.mem_mergeSort
  have hsorted : (front :: rest).Pairwise fun a b => (!b.lt a) = true := by
    rw [← h]
    refine List.pairwise_mergeSort ?_ ?_ tasks
    · intro a b c hab hbc
      rw [not_lt_iff] at hab hbc ⊢
      omega
    · intro a b
      rw [Bool.or_eq_true, not_lt_iff, not_lt_iff]
      omega
  refine ⟨⟨front, (hmem front).1 List.mem_cons_self, rfl⟩, ?_⟩
  rintro _ ⟨t, ht, rfl⟩
  rcases List.mem_cons.1 ((hmem t).2 ht) with rfl | ht
  · exact UInt64.le_refl _
  · have hle := not_lt_iff.1 ((List.pairwise_cons.1 hsorted).1 t ht)
    rw [UInt64.le_iff_toNat_le]
    omega

theorem sort_eq_nil_iff : sort tasks = [] ↔ tasks = [] := by
  rw [sort, ← List.length_eq_zero_iff, List.length_mergeSort, List.length_eq_zero_iff]

end ScheduleTask

/-- The tasks that wait for no network. -/
def timedTasks (tasks : List ScheduleTask) : List ScheduleTask := tasks.filter fun t => t.netType = NetType.noNet

/-- All the network types that are waited for. -/
def netUnion (tasks : List ScheduleTask) : NetType := tasks.foldl (fun n t => n.or t.netType) .noNet

theorem netUnion_perm {tasks tasks' : List ScheduleTask} (h : tasks.Perm tasks') : netUnion tasks = netUnion tasks' :=
  h.foldl_eq' (fun a _ b _ n => NetType.or_right_comm n a.netType b.netType) NetType.noNet

/-- The union has the bits of the types. -/
theorem testBit_netUnion (tasks : List ScheduleTask) (i : Nat) :
    (netUnion tasks).mask.testBit i = true ↔ ∃ t ∈ tasks, t.netType.mask.testBit i = true := by
  have hfold : ∀ n : NetType, (tasks.foldl (fun n t => n.or t.netType) n).mask.testBit i = true ↔
      n.mask.testBit i = true ∨ ∃ t ∈ tasks, t.netType.mask.testBit i = true := by
    induction tasks with
    | nil => simp
    | cons task tasks ih =>
      intro n
      rw [List.foldl_cons, ih, NetType.mask_or, Nat.testBit_or, Bool.or_eq_true, or_assoc, List.exists_mem_cons_iff]
  rw [netUnion, hfold]
  simp [NetType.mask]

theorem netUnion_eq_noNet_iff {tasks : List ScheduleTask} :
    netUnion tasks = NetType.noNet ↔ ∀ t ∈ tasks, t.netType = NetType.noNet := by
  simp only [NetType.eq_noNet_iff, ← Bool.not_eq_true, testBit_netUnion]
  constructor
  · intro h t ht i hi
    exact h i ⟨t, ht, hi⟩
  · rintro h i ⟨t, ht, hi⟩
    exact h t ht i hi

/-- The delay of the timed entry: the least one of the timed tasks, the default interval without any. -/
def IsEarliest (tasks : List ScheduleTask) (d : UInt64) : Prop :=
  if timedTasks tasks = [] then d = Constant.defaultPullupInterval
  else IsLeast {d | ∃ t ∈ timedTasks tasks, t.minDelayTime = d} d

theorem IsEarliest.unique {tasks tasks' : List ScheduleTask} {d d' : UInt64} (hperm : tasks.Perm tasks')
    (h : IsEarliest tasks d) (h' : IsEarliest tasks' d') : d = d' := by
  have htimed : (timedTasks tasks).Perm (timedTasks tasks') := hperm.filter _
  have hnil : timedTasks tasks' = [] ↔ timedTasks tasks = [] := by
    rw [← List.length_eq_zero_iff, ← htimed.length_eq, List.length_eq_zero_iff]
  rw [IsEarliest] at h h'
  by_cases hempty : timedTasks tasks = []
  · rw [if_pos hempty] at h
    rw [if_pos (hnil.2 hempty)] at h'
    rw [h, h']
  · rw [if_neg hempty] at h
    rw [if_neg (mt hnil.1 hempty)] at h'
    simp only [← htimed.mem_iff] at h'
    exact UInt64.le_antisymm (h.2 h'.1) (h'.2 h.1)

/-- Every timed task comes later than `n` seconds, if the default does. -/
theorem IsEarliest.lt_iff {tasks : List ScheduleTask} {d n : UInt64} (h : IsEarliest tasks d)
    (hn : n < Constant.defaultPullupInterval) : n < d ↔ ∀ t ∈ timedTasks tasks, n < t.minDelayTime := by
  rw [IsEarliest] at h
  split at h
  · rename_i hnil
    rw [h, hnil]
    simpa using hn
  · obtain ⟨⟨t, ht, rfl⟩, hle⟩ := h
    constructor
    · intro hlt t' ht'
      exact UInt64.lt_of_lt_of_le hlt (hle ⟨t', ht', rfl⟩)
    · intro hall
      exact hall t ht

namespace ScheduleManager
variable {tasks : List ScheduleTask}

theorem takeNetTasks_eq (netTask : ScheduleTask) (tasks : List ScheduleTask) :
    takeNetTasks netTask tasks =
      ({ netTask with netType := tasks.foldl (fun n t => n.or t.netType) netTask.netType }, timedTasks tasks) := by
  induction tasks generalizing netTask with
  | nil => rfl
  | cons task tasks ih =>
    rw [takeNetTasks]
    split
    · rename_i hnet
      rw [ih, timedTasks, timedTasks, List.filter_cons_of_neg (by simpa using hnet)]
      rfl
    · rename_i hnet
      have hnet : task.netType = NetType.noNet := Classical.not_not.1 hnet
      have hor : netTask.netType.or task.netType = netTask.netType := by rw [hnet, NetType.or_noNet]
      rw [ih, timedTasks, timedTasks, List.filter_cons_of_pos (by simpa using hnet), List.foldl_cons, hor]

/-- The entry for the network. -/
def netEntry (tasks : List ScheduleTask) : List ScheduleTask :=
  if netUnion tasks = NetType.noNet then [] else [{ netType := netUnion tasks }]

theorem taskManage_eq (m : AccessManager) : ∃ d, IsEarliest m.getScheduleTasks d ∧
    taskManage (some m) = (netEntry m.getScheduleTasks ++ [{ minDelayTime := d }], decide (Constant.keepAliveThreshold < d)) := by
  have hnet : (if ({ netType := netUnion m.getScheduleTasks } : ScheduleTask).isValidNetTask then
      [({ netType := netUnion m.getScheduleTasks } : ScheduleTask)] else []) = netEntry m.getScheduleTasks := by
    rw [netEntry, ScheduleTask.isValidNetTask]
    by_cases h : netUnion m.getScheduleTasks = NetType.noNet <;> simp [h]
  rw [taskManage]
  dsimp only
  rw [takeNetTasks_eq]
  dsimp only
  rw [show m.getScheduleTasks.foldl (fun n t => n.or t.netType)
    NetType.noNet = netUnion m.getScheduleTasks from rfl, hnet]
  cases hsort : ScheduleTask.sort (timedTasks m.getScheduleTasks) with
  | nil => exact ⟨_, by rw [IsEarliest, if_pos (ScheduleTask.sort_eq_nil_iff.1 hsort)], rfl⟩
  | cons front rest =>
    have hne : timedTasks m.getScheduleTasks ≠ [] := by
      intro hnil
      rw [hnil, ScheduleTask.sort_eq_nil_iff.2 rfl] at hsort
      cases hsort
    exact ⟨_, by rw [IsEarliest, if_neg hne]; exact ScheduleTask.front_isLeast hsort, rfl⟩

/-- What `TaskManage` answers: no timed task comes within the threshold. -/
theorem taskManage_allows_iff (m : AccessManager) :
    (taskManage (some m)).2 = true ↔ ∀ t ∈ timedTasks m.getScheduleTasks, Constant.keepAliveThreshold < t.minDelayTime := by
  obtain ⟨d, hd, hplan⟩ := taskManage_eq m
  rw [hplan, decide_eq_true_iff]
  exact hd.lt_iff (by decide)

/-! ### The idle check -/

/-- The process may exit: everything is idle and no timed task comes within the threshold. -/
def ExitAllowed (s : ScheduleManager) : Prop :=
  ∀ m, s.accessManager = some m → m.isIdle = true ∧ (taskManage (some m)).2 = true ∧
    ∀ t ∈ timedTasks m.getScheduleTasks, Constant.keepAliveThreshold < t.minDelayTime

theorem idleCheck_iff (s : ScheduleManager) : s.idleCheck.2 = true ↔ ∀ m, s.accessManager = some m →
    m.isIdle = true := by
  rw [idleCheck]
  cases s.accessManager with
  | none => simp
  | some m => cases h : m.isIdle <;> simp [h]

theorem idleCheck_of_idleLoop {s : ScheduleManager} {p : StartupManager}
    {samgr : Option (List SystemAbilityOnDemandEvent → Int32)} {idleCheckInterval now now' : Int}
    (hs : p.scheduleManager = some s) (h : (p.idleLoop samgr idleCheckInterval now now').2 = true) :
    s.idleCheck.2 = true := by
  have hidle : (p.idleCheck idleCheckInterval now now').2 = true := (Bool.and_eq_true_iff.1 h).1
  rw [StartupManager.idleCheck, hs] at hidle
  dsimp only at hidle
  split at hidle
  · cases hidle
  · exact hidle

/-- The check and the looper that relies on it let the process go only if it may exit. -/
structure KeepsAlive (s : ScheduleManager) : Prop where
  idleCheck : s.idleCheck.2 = true → s.ExitAllowed
  idleLoop : ∀ (p : StartupManager) samgr idleCheckInterval now now', p.scheduleManager = some s →
    (p.idleLoop samgr idleCheckInterval now now').2 = true → s.ExitAllowed

/-- Whether a task is due has no part in the check, and so it has to be that no timed task comes within the threshold
while everything is idle. -/
theorem keepsAlive_iff (s : ScheduleManager) : s.KeepsAlive ↔ ∀ m, s.accessManager = some m → m.isIdle = true →
    ∀ t ∈ timedTasks m.getScheduleTasks, Constant.keepAliveThreshold < t.minDelayTime := by
  constructor
  · intro h m hm hidle
    have hcheck : s.idleCheck.2 = true := by
      rw [idleCheck_iff]
      intro m' hm'
      obtain rfl := Option.some.inj (hm.symm.trans hm')
      exact hidle
    exact (h.idleCheck hcheck m hm).2.2
  · intro h
    have hallowed : s.idleCheck.2 = true → s.ExitAllowed := by
      intro hcheck m hm
      have hidle := (idleCheck_iff s).1 hcheck m hm
      exact ⟨hidle, (taskManage_allows_iff m).2 (h m hm hidle), h m hm hidle⟩
    exact ⟨hallowed, fun p samgr idleCheckInterval now now' hp hexit => hallowed (idleCheck_of_idleLoop hp hexit)⟩

/-- A task is due in half an hour, `TaskManage` does not allow the exit, and the process exits. -/
theorem not_keepsAlive : ∃ s : ScheduleManager, ¬ s.KeepsAlive ∧ s.idleCheck.2 = true ∧
    (taskManage s.accessManager).2 = false ∧
    (StartupManager.idleLoop (some fun _ => 0) 300 1000 1000 { scheduleManager := some s }).2 = true := by
  let m : AccessManager := { accessMap := [(.firmware, some { scheduleTasks := [{ minDelayTime := 1800 }] })] }
  have hanswer : (taskManage (some m)).2 = false := by decide +kernel
  refine ⟨{ accessManager := some m }, ?_, by decide, hanswer, by decide +kernel⟩
  intro h
  have hallowed := h.idleCheck (by decide) m rfl
  rw [hallowed.2.1] at hanswer
  cases hanswer

/-! ### The plan -/

/-- The plan, as it is meant: an entry for the earliest timed task, and one for all the awaited networks. -/
structure Planned (m : AccessManager) : Prop where
  order : ∀ m' : AccessManager, m'.getScheduleTasks.Perm m.getScheduleTasks →
    (taskManage (some m')).1 = (taskManage (some m)).1
  timed : ∃ d, IsEarliest m.getScheduleTasks d ∧
    (taskManage (some m)).1.filter (fun t => t.netType = NetType.noNet) = [{ minDelayTime := d }]
  net : (∃ t ∈ m.getScheduleTasks, t.netType ≠ NetType.noNet) →
    ∃ n : NetType, (taskManage (some m)).1.filter (fun t => t.netType ≠ NetType.noNet) = [{ netType := n }] ∧
      ∀ i, n.mask.testBit i = true ↔ ∃ t ∈ m.getScheduleTasks, t.netType.mask.testBit i = true
  noNet : (∀ t ∈ m.getScheduleTasks, t.netType = NetType.noNet) →
    (taskManage (some m)).1.filter (fun t => t.netType ≠ NetType.noNet) = []

theorem planned (m : AccessManager) : Planned m := by
  obtain ⟨d, hd, hplan⟩ := taskManage_eq m
  have hnet : (taskManage (some m)).1.filter (fun t => t.netType ≠ NetType.noNet) = netEntry m.getScheduleTasks := by
    rw [hplan, netEntry]
    split <;> rename_i hnet <;> simp [hnet]
  refine ⟨fun m' hperm => ?_, ⟨d, hd, ?_⟩, fun hsome => ?_, fun hnone => ?_⟩
  · obtain ⟨d', hd', hplan'⟩ := taskManage_eq m'
    rw [hplan, hplan', netEntry, netEntry, netUnion_perm hperm, hd'.unique hperm hd]
  · rw [hplan, netEntry]
    split <;> rename_i hnet <;> simp [hnet]
  · have hne : netUnion m.getScheduleTasks ≠ NetType.noNet := by
      rw [ne_eq, netUnion_eq_noNet_iff]
      rintro hall
      obtain ⟨t, ht, hnet⟩ := hsome
      exact hnet (hall t ht)
    rw [hnet, netEntry, if_neg hne]
    exact ⟨_, rfl, testBit_netUnion _⟩
  · rw [hnet, netEntry, if_pos (netUnion_eq_noNet_iff.2 hnone)]

end ScheduleManager

namespace SystemAbilityOperator
variable {samgr : Option (List SystemAbilityOnDemandEvent → Int32)}

/-- The system ability manager is there and takes every list of events. -/
def Accepts (samgr : Option (List SystemAbilityOnDemandEvent → Int32)) : Prop :=
  ∃ updateOnDemandPolicy, samgr = some updateOnDemandPolicy ∧ ∀ events, updateOnDemandPolicy events = 0

theorem updateStartupPolicy_iff (h : Accepts samgr) (scheduleTasks : List ScheduleTask) (timeEventName : String) :
    updateStartupPolicy samgr scheduleTasks timeEventName = true ↔
    ∀ t ∈ scheduleTasks, validMinInterval ≤ t.minDelayTime := by
  obtain ⟨f, rfl, hf⟩ := h
  have hloop : ∀ events, updateStartupPolicyLoop (some f) timeEventName events scheduleTasks = true ↔
      ∀ t ∈ scheduleTasks, validMinInterval ≤ t.minDelayTime := by
    induction scheduleTasks with
    | nil => simp [updateStartupPolicyLoop, updateStartupOnDemandPolicy, hf]
    | cons task scheduleTasks ih =>
      intro events
      rw [updateStartupPolicyLoop, List.forall_mem_cons]
      split
      · rename_i hmin
        rw [ih, and_iff_right hmin]
      · rename_i hmin
        simp [hmin]
  exact hloop []

theorem onDemandSchedule_iff (h : Accepts samgr) (tasks : List ScheduleTask) :
    StartupSchedule.onDemandSchedule samgr tasks = true ↔ tasks ≠ [] ∧
    ∀ t ∈ tasks, validMinInterval ≤ t.minDelayTime := by
  rw [StartupSchedule.onDemandSchedule]
  split
  · rename_i hnil
    simp [hnil]
  · rename_i hne
    rw [and_iff_right hne, ← updateStartupPolicy_iff h tasks "awakeloopevent"]
    split
    · rename_i hfirst
      simp [hfirst]
    · rename_i hfirst
      rw [updateStartupPolicy_iff h, ← updateStartupPolicy_iff h tasks "awakeloopevent"]

end SystemAbilityOperator

namespace ScheduleManager
open SystemAbilityOperator

/-- The plan is as it is meant, and it can be submitted. -/
structure Submittable (m : AccessManager) : Prop extends Planned m where
  submit : ∀ samgr, Accepts samgr → StartupSchedule.onDemandSchedule samgr (taskManage (some m)).1 = true

/-- The entry for the network has no delay, and so the operator takes the plan only if there is none. -/
theorem submittable_iff (m : AccessManager) (hmin : ∀ t ∈ timedTasks m.getScheduleTasks, validMinInterval ≤ t.minDelayTime) :
    Submittable m ↔ ∀ t ∈ m.getScheduleTasks, t.netType = NetType.noNet := by
  obtain ⟨d, hd, hplan⟩ := taskManage_eq m
  rw [← netUnion_eq_noNet_iff]
  constructor
  · intro h
    have hsubmit := (onDemandSchedule_iff ⟨fun _ => 0, rfl,
      fun _ => rfl⟩ _).1 (h.submit (some fun _ => 0) ⟨_, rfl, fun _ => rfl⟩)
    by_contra hne
    rw [hplan, netEntry, if_neg hne] at hsubmit
    have hdelay : validMinInterval ≤ (0 : UInt64) := hsubmit.2 _ List.mem_cons_self
    exact absurd hdelay (by decide)
  · intro hnone
    refine ⟨planned m, fun samgr hsamgr => ?_⟩
    have hdelay : validMinInterval ≤ d := by
      rw [IsEarliest] at hd
      split at hd
      · rw [hd]
        decide
      · obtain ⟨⟨t, ht, rfl⟩, -⟩ := hd
        exact hmin t ht
    rw [onDemandSchedule_iff hsamgr, hplan, netEntry, if_pos hnone]
    refine ⟨List.cons_ne_nil _ _, ?_⟩
    intro t ht
    rw [List.mem_singleton.1 ht]
    exact hdelay

/-- Two tasks that are due in an hour and in a day. -/
theorem submittable_timed : Submittable { accessMap := [(.firmware, some { scheduleTasks :=
    [{ minDelayTime := 86400 }, { minDelayTime := 3600 }] })] } :=
  (submittable_iff _ (by decide)).2 (by decide)

/-- One task waits for a network: the plan is refused with both names, and the process cannot exit. -/
theorem not_submittable : ∃ m : AccessManager, (∀ t ∈ timedTasks m.getScheduleTasks, validMinInterval ≤ t.minDelayTime) ∧
    ¬ Submittable m ∧
    (ScheduleManager.idleCheck { accessManager := some m }).2 = true ∧
    (ScheduleManager.idleCheck { accessManager := some m }).1.exit (some fun _ => 0) = false := by
  let m : AccessManager := { accessMap := [(.firmware, some { scheduleTasks :=
    [{ minDelayTime := 14400, netType := NetType.wifi }] })] }
  have hexit : (ScheduleManager.idleCheck { accessManager := some m }).1.exit (some fun _ => 0) = false :=
    by decide +kernel
  refine ⟨m, by decide, ?_, by decide, hexit⟩
  intro h
  have hsubmit := h.submit (some fun _ => 0) ⟨_, rfl, fun _ => rfl⟩
  exact absurd (show (ScheduleManager.idleCheck { accessManager := some m }).1.exit (some fun _ => 0) = true from hsubmit)
    (by rw [hexit]; exact Bool.false_ne_true)

end ScheduleManager

end UpdateService
