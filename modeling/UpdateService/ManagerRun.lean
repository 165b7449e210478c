import UpdateService.DownloadTaskManager
import UpdateService.TaskRun
import Mathlib.Data.List.Dedup

/-!
# Runs of a `DownloadTaskManager`

`Quiet`: what every step but `Start` and a new process does. No task is made, no row is inserted and
the statements are about the downloads of live tasks. From it, `ManagerOk` holds of every state that
the manager reaches.
-/

namespace UpdateService

namespace DownloadTaskManager
variable {m m' m'' : DownloadTaskManager} {i j : Nat} {t : DownloadTask} {taskId : String} {f : TaskState → TaskState}

theorem lt_of_task? (h : m.task? i = some t) : i < m.tasks.length := by
  by_contra hlt
  rw [task?, List.getElem?_eq_none (Nat.le_of_not_lt hlt)] at h
  cases h

theorem task?_set {o : Option DownloadTask} (hi : i < m.tasks.length) :
    task? j { m with tasks := m.tasks.set i o } = if i = j then o else m.task? j := by
  unfold task?
  rw [List.getElem?_set]
  split
  · simp
  · rfl

theorem task?_destroyTask : (m.destroyTask i).task? j = if i = j then none else m.task? j := by
  by_cases hi : i < m.tasks.length
  · exact task?_set hi
  unfold destroyTask task?
  dsimp only
  rw [List.set_eq_of_length_le (Nat.le_of_not_lt hi)]
  split
  · rename_i hij
    rw [← hij, List.getElem?_eq_none (Nat.le_of_not_lt hi)]
    rfl
  · rfl

theorem task?_append {o : Option DownloadTask} :
    task? j { m with tasks := m.tasks ++ [o] } = if j = m.tasks.length then o else m.task? j := by
  unfold task?
  rw [List.getElem?_append]
  split
  · rename_i h
    rw [if_neg (Nat.ne_of_lt h)]
  · rename_i h
    split
    · rename_i he
      simp [he]
    · rw [List.getElem?_eq_none (by simp; omega), List.getElem?_eq_none (by omega)]

theorem find?_eq_some : m.find? taskId = some i ↔ (taskId, i) ∈ m.downloadTaskMap.entries := by
  unfold find?
  rw [Option.map_eq_some_iff]
  constructor
  · rintro ⟨⟨id, j⟩, he, rfl⟩
    obtain ⟨hm, rfl⟩ := KeyedList.find?_eq_some.1 he
    exact hm
  · exact fun h => ⟨(taskId, i), KeyedList.find?_of_mem h, rfl⟩

/-- Passing on what a task has handed on leaves everything but the map, the calls and the queue. -/
theorem foldl_output (os : List TaskOutput) (i : Nat) (taskId : String) (m : DownloadTaskManager) :
    (os.foldl (output i taskId) m).tasks = m.tasks ∧ (os.foldl (output i taskId) m).outside = m.outside ∧
      ∀ e ∈ (os.foldl (output i taskId) m).downloadTaskMap.entries, e ∈ m.downloadTaskMap.entries := by
  refine List.foldlRecOn (motive := fun m' : DownloadTaskManager => m'.tasks = m.tasks ∧ m'.outside = m.outside ∧
      ∀ e ∈ m'.downloadTaskMap.entries, e ∈ m.downloadTaskMap.entries) os _ ⟨rfl, rfl, fun _ h => h⟩ fun m' ⟨h₁, h₂, h₃⟩ o _ => ?_
  cases o with
  | submit p => exact ⟨h₁, h₂, h₃⟩
  | call p b =>
    refine ⟨h₁, h₂, fun e he => h₃ e ?_⟩
    unfold output TaskRegistry.dealCallBack at he
    dsimp only at he
    split at he
    · exact he
    · dsimp only at he
      split at he
      exacts [(KeyedList.mem_erase.1 he).1, he]

theorem withTask_eq (f : TaskState → TaskState) (h : m.task? i = some t) :
    (m.withTask i f).tasks = m.tasks.set i (some (f ⟨t, m.outside, []⟩).task) ∧
      (m.withTask i f).outside = (f ⟨t, m.outside, []⟩).outside ∧
        ∀ e ∈ (m.withTask i f).downloadTaskMap.entries, e ∈ m.downloadTaskMap.entries := by
  unfold withTask
  simp only [h]
  exact foldl_output _ i t.taskId _

theorem withTask_of_none (h : m.task? i = none) : m.withTask i f = m := by simp only [withTask, h]

theorem task?_withTask (f : TaskState → TaskState) (h : m.task? i = some t) :
    (m.withTask i f).task? j = if i = j then some (f ⟨t, m.outside, []⟩).task else m.task? j := by
  rw [← task?_set (lt_of_task? h)]
  unfold task?
  rw [(withTask_eq f h).1]

theorem find?_ensureInsert (taskId : String) (i : Nat) (id : String) :
    (m.ensureInsert taskId i).find? id = if id = taskId then some i else m.find? id := by
  unfold ensureInsert find?
  rw [KeyedList.find?_insert]
  split <;> rfl

/-- The tasks that are left are the tasks there were, and so is the map. -/
structure Keeps (m m' : DownloadTaskManager) : Prop where
  tasks : ∀ i t', m'.task? i = some t' → ∃ t, m.task? i = some t ∧ SameTask t t'
  map : ∀ e ∈ m'.downloadTaskMap.entries, e ∈ m.downloadTaskMap.entries
  live : ∀ e ∈ m'.downloadTaskMap.entries, m.task? e.2 ≠ none → m'.task? e.2 ≠ none

namespace Keeps

theorem refl (m : DownloadTaskManager) : Keeps m m := ⟨fun _ t h => ⟨t, h, .refl t⟩, fun _ h => h, fun _ _ h => h⟩

theorem trans (h : Keeps m m') (h' : Keeps m' m'') : Keeps m m'' := by
  refine ⟨fun i t hi => ?_, fun e he => h.map e (h'.map e he), fun e he ht => h'.live e he (h.live e (h'.map e he) ht)⟩
  obtain ⟨t', ht', hs'⟩ := h'.tasks i t hi
  obtain ⟨t₀, ht₀, hs₀⟩ := h.tasks i t' ht'
  exact ⟨t₀, ht₀, hs₀.trans hs'⟩

theorem of_tasks (htasks : m'.tasks = m.tasks) (hmap : ∀ e ∈ m'.downloadTaskMap.entries, e ∈ m.downloadTaskMap.entries) :
    Keeps m m' := by
  have ht : ∀ i, m'.task? i = m.task? i := fun i => by unfold task?; rw [htasks]
  exact ⟨fun i t h => ⟨t, ht i ▸ h, .refl t⟩, hmap, fun e _ h => (ht e.2).symm ▸ h⟩

theorem eraseTask (taskId : String) : Keeps m (m.eraseTask taskId) := .of_tasks rfl fun _ he => (KeyedList.mem_erase.1 he).1

theorem destroyTask (h : ∀ e ∈ m.downloadTaskMap.entries, e.2 ≠ i) : Keeps m (m.destroyTask i) := by
  refine ⟨fun j t hj => ?_, fun _ he => he, fun e he hne => ?_⟩
  · rw [task?_destroyTask] at hj
    split at hj
    · cases hj
    · exact ⟨t, hj, .refl t⟩
  · rwa [task?_destroyTask, if_neg (h e he).symm]

theorem withTask (h : ∀ t, m.task? i = some t → SameTask t (f ⟨t, m.outside, []⟩).task) : Keeps m (m.withTask i f) := by
  cases ht : m.task? i with
  | none => rw [withTask_of_none ht]; exact refl m
  | some t =>
    refine ⟨fun j t' hj => ?_, (withTask_eq f ht).2.2, fun e _ hne => ?_⟩
    · rw [task?_withTask f ht] at hj
      split at hj
      · rename_i hij
        exact ⟨t, hij ▸ ht, Option.some.inj hj ▸ h t ht⟩
      · exact ⟨t', hj, .refl t'⟩
    · rw [task?_withTask f ht]
      split
      exacts [Option.some_ne_none _, hne]

end Keeps

/-- An update made for a record of a live task, or the removal of the rows of a task. -/
def IsOwn (m : DownloadTaskManager) : DbOp → Prop
  | .insert _ => False
  | .update _ d => ∃ i t d₀, m.task? i = some t ∧ t.service.infoMap.find? d.downloadId = some d₀ ∧ d.taskId = d₀.taskId
  | .deleteByTaskId _ => True

theorem IsOwn.ne_insert {op : DbOp} (h : m.IsOwn op) {d : DownloadInfo} : op ≠ .insert d := by
  rintro rfl
  exact h

theorem Keeps.isOwn (h : Keeps m m') {op : DbOp} (hop : m'.IsOwn op) : m.IsOwn op := by
  cases op with
  | insert d => exact hop
  | update u d =>
    obtain ⟨i, t', d', ht', hd', hid'⟩ := hop
    obtain ⟨t, ht, hs⟩ := h.tasks i t' ht'
    obtain ⟨d₀, hd₀, hp⟩ := hs.package _ d' hd'
    exact ⟨i, t, d₀, ht, hd₀, hid'.trans hp.taskId⟩
  | deleteByTaskId taskId => trivial

/-- No task is made, and no row is inserted. -/
structure Quiet (m m' : DownloadTaskManager) : Prop extends Keeps m m' where
  statements : ∃ ops, m'.outside.table = ops.foldl DbOp.apply m.outside.table ∧
    dbOps m'.outside.trace = dbOps m.outside.trace ++ ops ∧ ∀ op ∈ ops, m.IsOwn op

namespace Quiet

theorem of_keeps (h : Keeps m m') (htable : m'.outside.table = m.outside.table)
    (htrace : dbOps m'.outside.trace = dbOps m.outside.trace) : Quiet m m' :=
  ⟨h, [], htable, by rw [htrace, List.append_nil], by simp⟩

theorem refl (m : DownloadTaskManager) : Quiet m m := .of_keeps (.refl m) rfl rfl

theorem trans (h : Quiet m m') (h' : Quiet m' m'') : Quiet m m'' := by
  obtain ⟨ops, htable, htrace, hown⟩ := h.statements
  obtain ⟨ops', htable', htrace', hown'⟩ := h'.statements
  refine ⟨h.toKeeps.trans h'.toKeeps, ops ++ ops', by rw [htable', htable, List.foldl_append],
    by rw [htrace', htrace, List.append_assoc], fun op hop => ?_⟩
  rcases List.mem_append.1 hop with hop | hop
  exacts [hown op hop, h.isOwn (hown' op hop)]

theorem withTask (h : ∀ t, m.task? i = some t → TaskState.Acts ⟨t, m.outside, []⟩ (f ⟨t, m.outside, []⟩)) :
    Quiet m (m.withTask i f) := by
  cases ht : m.task? i with
  | none => rw [withTask_of_none ht]; exact refl m
  | some t =>
    obtain ⟨ops, htable, htrace, hown⟩ := (h t ht).statements
    have ho := (withTask_eq f ht).2.1
    refine ⟨.withTask fun t' ht' => (h t' ht').sameTask, ops, by rw [ho, htable], by rw [ho, htrace], fun op hop => ?_⟩
    have hop := hown op hop
    cases op with
    | insert d => exact hop
    | update u d =>
      obtain ⟨d₀, hd₀, hid⟩ := hop
      exact ⟨i, t, d₀, ht, hd₀, hid⟩
    | deleteByTaskId taskId => trivial

theorem exec_deleteByTaskId (taskId : String) : Quiet m (m.exec (.deleteByTaskId taskId)) :=
  ⟨.of_tasks rfl fun _ h => h, [.deleteByTaskId taskId], rfl, by simp [DownloadTaskManager.exec], by simp [IsOwn]⟩

theorem onTask {g : TaskState → DownloadError × TaskState} (h : ∀ s, TaskState.Acts s (g s).2) :
    Quiet m (m.onTask taskId g).2 := by
  unfold DownloadTaskManager.onTask
  split
  · exact refl m
  split
  · exact refl m
  · exact withTask (f := fun s => (g s).2) fun t _ => h _

theorem taskProgress (i : Nat) : Quiet m (m.taskProgress i).1 := by
  unfold DownloadTaskManager.taskProgress
  split
  · exact refl m
  · rename_i t ht
    refine of_keeps ⟨fun j t' hj => ?_, fun _ h => h, fun e _ hne => ?_⟩ rfl rfl
    · rw [task?_set (lt_of_task? ht)] at hj
      split at hj
      · rename_i hij
        exact ⟨t, hij ▸ ht, Option.some.inj hj ▸ .getTaskProgress _⟩
      · exact ⟨t', hj, .refl t'⟩
    · rw [task?_set (lt_of_task? ht)]
      split
      exacts [Option.some_ne_none _, hne]

theorem isDownloadComplete (i : Nat) : Quiet m (m.isDownloadComplete i).1 := taskProgress i

theorem onNetChange : Quiet m m.onNetChange := by
  refine List.foldlRecOn (motive := Quiet m) m.downloadTaskMap.entries _ (refl m) fun m' h e _ => ?_
  have hc := h.trans (isDownloadComplete e.2)
  split <;> rename_i he <;> rw [he] at hc
  · exact hc
  · exact hc.trans (withTask fun _ _ => .onNetChange)

theorem deliver (i : Nat) : Quiet m (m.deliver i) := by
  unfold DownloadTaskManager.deliver
  split
  · exact refl m
  · rename_i report _
    have h : Quiet m { m with queue := m.queue.eraseP fun report => report.1 = i } :=
      .of_keeps (.of_tasks rfl fun _ h => h) rfl rfl
    exact h.trans (withTask fun _ _ => .deliver _)

end Quiet

/-- What holds of every state of the manager: the parts of a task agree, the map leads to live tasks
under their ids, and a row is about the version of its download. -/
structure ManagerOk (m : DownloadTaskManager) : Prop where
  tasks : ∀ i t, m.task? i = some t → TaskOk t
  map : ∀ e ∈ m.downloadTaskMap.entries, ∃ t, m.task? e.2 = some t ∧ t.taskId = e.1
  rows : ∀ row ∈ m.outside.table, row.versionId = row.downloadId

namespace ManagerOk

theorem of_keeps (h : ManagerOk m) (hk : Keeps m m')
    (hrows : ∀ row ∈ m'.outside.table, row.versionId = row.downloadId) :
    ManagerOk m' := by
  refine ⟨fun i t' ht' => ?_, fun e he => ?_, hrows⟩
  · obtain ⟨t, ht, hs⟩ := hk.tasks i t' ht'
    exact (h.tasks i t ht).of_same hs
  · obtain ⟨t, ht, hid⟩ := h.map e (hk.map e he)
    obtain ⟨t', ht'⟩ := Option.ne_none_iff_exists'.1 (hk.live e he (by simp [ht]))
    obtain ⟨t₀, ht₀, hs⟩ := hk.tasks _ t' ht'
    obtain rfl := Option.some.inj (ht.symm.trans ht₀)
    exact ⟨t', ht', hs.taskId.trans hid⟩

theorem quiet (h : ManagerOk m) (hq : Quiet m m') : ManagerOk m' := by
  refine h.of_keeps hq.toKeeps fun row hrow => ?_
  obtain ⟨ops, htable, -, hown⟩ := hq.statements
  rw [htable] at hrow
  obtain ⟨row₀, hrow₀, hs⟩ := sameRow_of_mem_foldl (fun op hop _ => (hown op hop).ne_insert) hrow
  rw [hs.versionId, hs.downloadId]
  exact h.rows row₀ hrow₀

theorem ne_of_mem_erase (h : ManagerOk m) (hi : m.find? taskId = some i) :
    ∀ e ∈ (m.downloadTaskMap.erase taskId).entries, e.2 ≠ i := by
  rintro e he rfl
  obtain ⟨he, hne⟩ := KeyedList.mem_erase.1 he
  obtain ⟨t, ht, hid⟩ := h.map e he
  obtain ⟨t', ht', hid'⟩ := h.map _ (find?_eq_some.1 hi)
  obtain rfl := Option.some.inj (ht.symm.trans ht')
  exact hne (hid.symm.trans hid')

theorem task_of_find? (h : ManagerOk m) (hi : m.find? taskId = some i) : ∃ t, m.task? i = some t ∧ t.taskId = taskId :=
  h.map _ (find?_eq_some.1 hi)

theorem removeDirtyTask (h : ManagerOk m) (taskId : String) (ended : Nat → Bool) :
    Quiet m (m.removeDirtyTask taskId ended) := by
  unfold DownloadTaskManager.removeDirtyTask
  cases hi : m.find? taskId with
  | none => exact .refl m
  | some i =>
    have h₁ : Quiet m (m.eraseTask taskId) := .of_keeps (.eraseTask taskId) rfl rfl
    have h₂ : Quiet (m.eraseTask taskId) ((m.eraseTask taskId).withTask i fun s => (s.cancel ended true).2) :=
      .withTask fun t _ => .cancel ended true
    refine (h₁.trans h₂).trans (.of_keeps (.destroyTask fun e he => ?_) rfl rfl)
    exact h.ne_of_mem_erase hi e (h₂.map e he)

theorem removeTask (h : ManagerOk m) (taskId : String) : Quiet m (m.removeTask taskId).2 := by
  unfold DownloadTaskManager.removeTask
  have h₁ : Quiet m (m.exec (.deleteByTaskId taskId)) := .exec_deleteByTaskId taskId
  generalize m.exec (.deleteByTaskId taskId) = m₁ at h₁
  dsimp only
  split
  · exact h₁
  rename_i i hi
  have h₂ := h₁.trans (.taskProgress i)
  have hmap : (m₁.taskProgress i).1.downloadTaskMap = m₁.downloadTaskMap := by
    unfold DownloadTaskManager.taskProgress
    split <;> rfl
  generalize m₁.taskProgress i = r at h₂ hmap
  split
  · exact h₂
  · have h₃ : Quiet r.1 (r.1.eraseTask taskId) := .of_keeps (.eraseTask taskId) rfl rfl
    refine (h₂.trans h₃).trans (.of_keeps (.destroyTask fun e he => ?_) rfl rfl)
    change e ∈ (r.1.downloadTaskMap.erase taskId).entries at he
    exact (h.quiet h₁).ne_of_mem_erase hi e (hmap ▸ he)

end ManagerOk

theorem task?_newTask (m : DownloadTaskManager) (taskId : String) (downloadInfos : List DownloadInfo) :
    (m.newTask taskId downloadInfos).task? j =
      if j = m.tasks.length then some (.ofInfos taskId downloadInfos m.outside.fileSize) else m.task? j := task?_append

/-- What is left of `Start` when the task is made: the table, the records and the new entry. -/
theorem startTask_outside (taskId : String) {business isMemoryEnough : Bool} {error : DownloadError}
    (ht : m.task? i = some t) :
    (m.startTask taskId business isMemoryEnough error i).2.outside =
      (TaskState.start business isMemoryEnough error ⟨t, m.outside, []⟩).2.outside := by
  rw [← (withTask_eq (fun s => (s.start business isMemoryEnough error).2) ht).2.1]
  unfold startTask
  dsimp only
  split <;> rfl

theorem task_of_startTask {business isMemoryEnough : Bool} {error : DownloadError} {t' : DownloadTask}
    (hj : (m.startTask taskId business isMemoryEnough error i).2.task? j = some t') :
    ∃ t₀, m.task? j = some t₀ ∧ SameTask t₀ t' := by
  have hk : Keeps m (m.withTask i fun s => (s.start business isMemoryEnough error).2) := .withTask fun t' _ =>
    (TaskState.inserts_start (s := ⟨t', m.outside, []⟩) business isMemoryEnough error).sameTask
  refine hk.tasks j t' ?_
  unfold startTask at hj
  dsimp only at hj
  split at hj
  · rw [task?_destroyTask] at hj
    split at hj
    · cases hj
    · exact hj
  · exact hj

namespace ManagerOk

theorem newTask (h : ManagerOk m) (taskId : String) {downloadInfos : List DownloadInfo} (hne : downloadInfos ≠ [])
    (hnodup : (downloadInfos.map (·.versionId)).Nodup) : ManagerOk (m.newTask taskId downloadInfos) := by
  refine ⟨fun j t hj => ?_, fun e he => ?_, h.rows⟩
  · rw [task?_newTask] at hj
    split at hj
    exacts [Option.some.inj hj ▸ .ofInfos taskId _ hne hnodup, h.tasks j t hj]
  · obtain ⟨t, ht, hid⟩ := h.map e he
    rw [task?_newTask, if_neg (Nat.ne_of_lt (lt_of_task? ht))]
    exact ⟨t, ht, hid⟩

theorem ensureInsert (h : ManagerOk m) (ht : m.task? i = some t) : ManagerOk (m.ensureInsert t.taskId i) := by
  refine ⟨h.tasks, fun e he => ?_, h.rows⟩
  rcases KeyedList.mem_insert.1 he with rfl | ⟨he, -⟩
  exacts [⟨t, ht, rfl⟩, h.map e he]

theorem ne_length (h : ManagerOk m) : ∀ e ∈ m.downloadTaskMap.entries, e.2 ≠ m.tasks.length := fun e he =>
  have ⟨_, ht, _⟩ := h.map e he
  Nat.ne_of_lt (lt_of_task? ht)

theorem startTask (h : ManagerOk m) (business isMemoryEnough : Bool) (error : DownloadError) (ht : m.task? i = some t)
    (hi : ∀ e ∈ m.downloadTaskMap.entries, e.2 ≠ i) :
    ManagerOk (m.startTask t.taskId business isMemoryEnough error i).2 := by
  have hins := TaskState.inserts_start (s := ⟨t, m.outside, []⟩) business isMemoryEnough error
  have hk : Keeps m (m.withTask i fun s => (s.start business isMemoryEnough error).2) := .withTask fun t' ht' => by
    obtain rfl := Option.some.inj (ht.symm.trans ht')
    exact hins.sameTask
  have hok : ManagerOk (m.withTask i fun s => (s.start business isMemoryEnough error).2) := by
    refine h.of_keeps hk fun row hrow => ?_
    obtain ⟨l, -, hl, htable, -⟩ := hins.statements
    rw [(withTask_eq _ ht).2.1, htable, foldl_apply_insert] at hrow
    rcases List.mem_append.1 hrow with hrow | hrow
    · exact h.rows row hrow
    · obtain ⟨d, hd, rfl⟩ := List.mem_map.1 hrow
      exact ((h.tasks i t ht).records _ d (hl d hd)).2
  unfold DownloadTaskManager.startTask
  dsimp only
  split
  · exact hok.of_keeps (.destroyTask fun e he => hi e (hk.map e he)) hok.rows
  · have ht' := (task?_withTask (j := i) (fun s => (s.start business isMemoryEnough error).2) ht).trans (if_pos rfl)
    exact hins.sameTask.taskId ▸ hok.ensureInsert ht'

end ManagerOk

theorem step_cases {calculateHashCode : String → String} {op : ManagerOp} (h : ManagerOk m)
    (hs : step calculateHashCode m op = some m') : Quiet m m' ∨
      (∃ downloadInfos business isMemoryEnough ended, op = .start downloadInfos business isMemoryEnough ended ∧
        m' = (m.start calculateHashCode downloadInfos business isMemoryEnough ended).2) ∨
      op = .restart ∧ m' = m.restart := by
  cases op with
  | start downloadInfos business isMemoryEnough ended =>
    exact .inr (.inl ⟨downloadInfos, business, isMemoryEnough, ended, rfl, (Option.some.inj hs).symm⟩)
  | pause taskId ended =>
    obtain rfl := Option.some.inj hs
    exact .inl (.onTask fun _ => .pause ended)
  | resume taskId netType business =>
    obtain rfl := Option.some.inj hs
    exact .inl (.onTask fun _ => .resume netType business)
  | cancel taskId ended isDeleteFiles =>
    obtain rfl := Option.some.inj hs
    exact .inl (.onTask fun _ => .cancel ended isDeleteFiles)
  | removeTask taskId =>
    obtain rfl := Option.some.inj hs
    exact .inl (h.removeTask taskId)
  | netChange =>
    obtain rfl := Option.some.inj hs
    exact .inl .onNetChange
  | report i j r =>
    unfold step at hs
    dsimp only at hs
    split at hs
    · cases hs
    split at hs
    · obtain rfl := Option.some.inj hs
      exact .inl (.withTask fun _ _ => .report r.info)
    · cases hs
  | thread i j th =>
    unfold step at hs
    dsimp only at hs
    split at hs
    · cases hs
    split at hs
    · obtain rfl := Option.some.inj hs
      have hsame : ∀ t : DownloadTask, SameTask t (setThread j th ⟨t, m.outside, []⟩).task := fun t =>
        ⟨rfl, rfl, rfl, rfl, rfl, fun _ d hd => ⟨d, hd, rfl, rfl, rfl⟩⟩
      exact .inl (.withTask fun t _ => .of_outside (hsame t) rfl)
    · cases hs
  | deliver i =>
    obtain rfl := Option.some.inj hs
    exact .inl (.deliver i)
  | expire i =>
    unfold step at hs
    dsimp only at hs
    split at hs
    · cases hs
    rename_i hi
    obtain rfl := Option.some.inj hs
    exact .inl (.of_keeps (.destroyTask fun e he hei => hi (hei ▸ List.mem_map_of_mem he)) rfl rfl)
  | restart => exact .inr (.inr ⟨rfl, (Option.some.inj hs).symm⟩)
  | outside fileSize now netType =>
    obtain rfl := Option.some.inj hs
    exact .inl (.of_keeps (.of_tasks rfl fun _ h => h) rfl rfl)

/-- `Start` with a list that is not empty: a task left over is removed, one is made and started. -/
theorem start_eq (calculateHashCode : String → String) {downloadInfos : List DownloadInfo}
    (business isMemoryEnough : Bool)
    (ended : Nat → Bool) (hne : downloadInfos ≠ []) (m : DownloadTaskManager) :
    ∃ error, let infos := removeDuplicateVersionId downloadInfos
      let taskId := getTaskId calculateHashCode infos
      let m₁ := m.removeDirtyTask taskId ended
      m.start calculateHashCode downloadInfos business isMemoryEnough ended =
        (m₁.newTask taskId infos).startTask taskId business isMemoryEnough error m₁.tasks.length := by
  have hlen : ∀ (m₁ : DownloadTaskManager) (taskId : String) (infos : List DownloadInfo),
      (m₁.newTask taskId infos).tasks.length - 1 = m₁.tasks.length := by
    simp [DownloadTaskManager.newTask]
  unfold start
  rw [if_neg hne]
  dsimp only
  rw [hlen]
  exact ⟨_, rfl⟩

theorem ManagerOk.start (h : ManagerOk m) (calculateHashCode : String → String) (downloadInfos : List DownloadInfo)
    (business isMemoryEnough : Bool) (ended : Nat → Bool) :
    ManagerOk (m.start calculateHashCode downloadInfos business isMemoryEnough ended).2 := by
  by_cases hne : downloadInfos = []
  · rw [DownloadTaskManager.start, if_pos hne]
    exact h
  obtain ⟨error, he⟩ := start_eq calculateHashCode business isMemoryEnough ended hne m
  rw [he]
  have h₁ := h.quiet (h.removeDirtyTask (getTaskId calculateHashCode (removeDuplicateVersionId downloadInfos)) ended)
  have h₂ := h₁.newTask (getTaskId calculateHashCode (removeDuplicateVersionId downloadInfos))
    (removeDuplicateVersionId_ne_nil hne) (nodup_removeDuplicateVersionId downloadInfos)
  exact h₂.startTask business isMemoryEnough error ((task?_newTask _ _ _).trans (if_pos rfl)) h₁.ne_length

/-! ### Restoring -/

/-- The records go into the map one by one, and one whose key is there stays out. -/
theorem filterDuplicates_eq (downloadInfos : List DownloadInfo) :
    filterDuplicates downloadInfos = downloadInfos.foldl KeyedList.emplace ∅ := rfl

theorem mem_of_mem_filterDuplicates {downloadInfos : List DownloadInfo} {d : DownloadInfo}
    (h : d ∈ (filterDuplicates downloadInfos).entries) : d ∈ downloadInfos := by
  rw [filterDuplicates_eq] at h
  exact KeyedList.mem_of_mem_foldl_emplace h

theorem mem_groups {infos : List DownloadInfo} {group : String × List DownloadInfo} (h : group ∈ groups infos) :
    group.2 = infos.filter (·.taskId = group.1) ∧ group.2 ≠ [] := by
  unfold groups at h
  obtain ⟨taskId, hid, rfl⟩ := List.mem_map.1 h
  rw [List.mem_insertionSort, List.mem_dedup] at hid
  obtain ⟨d, hd, rfl⟩ := List.mem_map.1 hid
  exact ⟨rfl, List.ne_nil_of_mem (List.mem_filter.2 ⟨hd, by simp⟩)⟩

theorem nodup_of_mem_groups {downloadInfos : List DownloadInfo} {group : String × List DownloadInfo}
    (hid : ∀ d ∈ downloadInfos, d.versionId = d.downloadId)
    (h : group ∈ groups (filterDuplicates downloadInfos).entries) : (group.2.map (·.versionId)).Nodup := by
  obtain ⟨he, -⟩ := mem_groups h
  have hnodup := (filterDuplicates downloadInfos).nodup
  rw [he]
  refine List.Nodup.map_on (fun d hd d' hd' hv => ?_) (hnodup.of_map.filter _)
  obtain ⟨hd, ht⟩ := List.mem_filter.1 hd
  obtain ⟨hd', ht'⟩ := List.mem_filter.1 hd'
  refine List.inj_on_of_nodup_map hnodup hd hd' ?_
  have hdown : d.downloadId = d'.downloadId := by
    rw [← hid d (mem_of_mem_filterDuplicates hd), ← hid d' (mem_of_mem_filterDuplicates hd')]
    exact hv
  unfold restoreKey
  rw [of_decide_eq_true ht, of_decide_eq_true ht', hdown]

namespace ManagerOk

theorem of_noTask (htasks : m.tasks = []) (hmap : m.downloadTaskMap = ∅)
    (hrows : ∀ row ∈ m.outside.table, row.versionId = row.downloadId) : ManagerOk m := by
  refine ⟨fun i t hi => ?_, fun e he => ?_, hrows⟩
  · simp [task?, htasks] at hi
  · rw [hmap] at he
    cases he

theorem restoreGroup (h : ManagerOk m) (taskId : String) {infos : List DownloadInfo} (hne : infos ≠ [])
    (hnodup : (infos.map (·.versionId)).Nodup) : ManagerOk (m.restoreGroup taskId infos) := by
  have h₁ := (h.newTask taskId hne hnodup).ensureInsert ((task?_newTask _ _ _).trans (if_pos rfl))
  have h₂ := h₁.quiet (.isDownloadComplete m.tasks.length)
  unfold DownloadTaskManager.restoreGroup
  dsimp only
  split <;> rename_i he <;> have h₂ := congrArg Prod.fst he ▸ h₂
  · exact h₂
  · exact h₂.quiet (.withTask fun _ _ => .recover)

theorem versionId_queryAll (h : ManagerOk m) : ∀ d ∈ DownloadInfoOperator.queryAll m.outside.table, d.versionId = d.downloadId := by
  intro d hd
  obtain ⟨row, hrow, rfl⟩ := List.mem_map.1 hd
  exact h.rows row hrow

theorem restart (h : ManagerOk m) : ManagerOk m.restart := by
  have h₀ : ManagerOk { calls := m.calls, outside := m.outside } := .of_noTask rfl rfl h.rows
  unfold DownloadTaskManager.restart restoreDownloadTask
  split
  · exact h₀
  · rename_i hq
    refine List.foldlRecOn (motive := ManagerOk) _ _ (.of_noTask rfl rfl h.rows) fun m' h' group hg => ?_
    exact h'.restoreGroup group.1 (mem_groups hg).2 (nodup_of_mem_groups h.versionId_queryAll hg)

theorem step {calculateHashCode : String → String} {op : ManagerOp} (h : ManagerOk m)
    (hs : m.step calculateHashCode op = some m') : ManagerOk m' := by
  obtain hq | ⟨downloadInfos, business, isMemoryEnough, ended, -, rfl⟩ | ⟨-, rfl⟩ := step_cases h hs
  exacts [h.quiet hq, h.start calculateHashCode downloadInfos business isMemoryEnough ended, h.restart]

/-- Every state that a new manager with an empty table reaches. -/
theorem run {calculateHashCode : String → String} {ops : List ManagerOp}
    (h : (lts calculateHashCode).Run {} ops m) : ManagerOk m :=
  h.invariant (fun _ _ _ hs hok => hok.step hs) (.of_noTask rfl rfl (by simp))

end ManagerOk

end DownloadTaskManager

end UpdateService
