import UpdateService.ManagerRun

/-!
# Requests that fail

`Start` and `RemoveTask` change the stores before their checks have run. A failing `Start` leaves map,
table and files alone exactly when it has found no task under its id, a failing `RemoveTask` leaves
map and table alone exactly when the task has no rows.
-/

namespace UpdateService

/-- What a failed request should leave as it was. -/
structure SameStores (m m' : DownloadTaskManager) : Prop where
  map : m'.downloadTaskMap = m.downloadTaskMap
  table : m'.outside.table = m.outside.table
  files : m'.outside.fileSize = m.outside.fileSize

namespace TaskState
variable {s : TaskState}

theorem onService_of_eq {f : ServiceState → ServiceState} (h : f s.serviceState = s.serviceState) :
    (s.onService f).outside = s.outside ∧ (s.onService f).outputs = s.outputs := by
  unfold onService
  rw [h]
  exact ⟨by simp [serviceState], rfl⟩

/-- A `Start` that fails has changed neither the outside nor handed anything on. -/
theorem start_of_error {business isMemoryEnough : Bool}
    (h : (s.start business isMemoryEnough {}).1.errorNum ≠ .success) :
    (s.start business isMemoryEnough {}).2.outside = s.outside ∧
      (s.start business isMemoryEnough {}).2.outputs = s.outputs := by
  unfold start at h ⊢
  split
  · exact ⟨rfl, rfl⟩
  rename_i hne
  rw [if_neg hne] at h
  dsimp only at h ⊢
  split
  · exact ⟨rfl, rfl⟩
  rename_i hmem
  rw [if_neg hmem] at h
  have hsame : ((s.setCallback (some business)).serviceState.start {}).2 = (s.setCallback (some business)).serviceState := by
    unfold ServiceState.start at h ⊢
    split
    · rfl
    rename_i hne'
    rw [if_neg hne'] at h
    split
    · rfl
    rename_i hnet
    rw [if_neg hnet] at h
    exact absurd rfl h
  obtain ⟨ho, hout⟩ := onService_of_eq (f := fun v => (v.start {}).2) hsame
  exact ⟨ho, hout⟩

end TaskState

namespace DownloadTaskManager
variable {m : DownloadTaskManager} {i : Nat} {taskId : String} {f : TaskState → TaskState}
  {calculateHashCode : String → String} {downloadInfos : List DownloadInfo} {business isMemoryEnough : Bool}
  {ended : Nat → Bool}

/-! ### `Start` -/

theorem mem_of_mem_withTask {e : String × Nat} (h : e ∈ (m.withTask i f).downloadTaskMap.entries) :
    e ∈ m.downloadTaskMap.entries := by
  cases ht : m.task? i with
  | none => rwa [withTask_of_none ht] at h
  | some t => exact (withTask_eq f ht).2.2 e h

theorem find?_removeDirtyTask (taskId : String) (ended : Nat → Bool) (m : DownloadTaskManager) :
    (m.removeDirtyTask taskId ended).find? taskId = none := by
  unfold removeDirtyTask
  cases hi : m.find? taskId with
  | none => exact hi
  | some i =>
    rw [Option.eq_none_iff_forall_ne_some]
    intro j hj
    have hmem := find?_eq_some.1 hj
    dsimp only [destroyTask] at hmem
    exact (KeyedList.mem_erase.1 (mem_of_mem_withTask hmem)).2 rfl

theorem mem_of_mem_startTask {error : DownloadError} {e : String × Nat}
    (h : (m.startTask taskId business isMemoryEnough error i).1.errorNum ≠ .success)
    (he : e ∈ (m.startTask taskId business isMemoryEnough error i).2.downloadTaskMap.entries) :
    e ∈ m.downloadTaskMap.entries := by
  unfold startTask at h he
  dsimp only at h he
  rw [if_pos h] at he
  exact mem_of_mem_withTask he

theorem sameStores_startTask {t : DownloadTask} (ht : m.task? i = some t)
    (h : (m.startTask taskId business isMemoryEnough {} i).1.errorNum ≠ .success) :
    SameStores m (m.startTask taskId business isMemoryEnough {} i).2 := by
  unfold startTask at h ⊢
  dsimp only at h ⊢
  rw [if_pos h]
  have herr : (TaskState.start business isMemoryEnough {} ⟨t, m.outside, []⟩).1.errorNum ≠ .success := by
    simpa only [startError, ht] using h
  obtain ⟨ho, hout⟩ := TaskState.start_of_error herr
  have hw : m.withTask i (fun s => (s.start business isMemoryEnough {}).2) =
      { m with tasks := m.tasks.set i (some (TaskState.start business isMemoryEnough {} ⟨t, m.outside, []⟩).2.task) } := by
    unfold withTask
    simp only [ht, hout, ho, List.foldl_nil]
  rw [hw]
  exact ⟨rfl, rfl, rfl⟩

/-- A `Start` that fails leaves map, table and files as they were exactly when it was given nothing or
there was no task under its id. -/
theorem start_atomic_iff (h : (m.start calculateHashCode downloadInfos business isMemoryEnough ended).1.errorNum ≠ .success) :
    SameStores m (m.start calculateHashCode downloadInfos business isMemoryEnough ended).2 ↔
      downloadInfos = [] ∨ m.find? (getTaskId calculateHashCode (removeDuplicateVersionId downloadInfos)) = none := by
  by_cases hne : downloadInfos = []
  · rw [start, if_pos hne]
    exact iff_of_true ⟨rfl, rfl, rfl⟩ (.inl hne)
  unfold start at h ⊢
  rw [if_neg hne] at h ⊢
  dsimp only at h ⊢
  generalize getTaskId calculateHashCode (removeDuplicateVersionId downloadInfos) = taskId at h ⊢
  cases hi : m.find? taskId with
  | none =>
    rw [hi] at h
    have hm : m.removeDirtyTask taskId ended = m := by simp only [removeDirtyTask, hi]
    rw [hm] at h ⊢
    have hlen : (m.newTask taskId (removeDuplicateVersionId downloadInfos)).tasks.length - 1 = m.tasks.length := by
      simp [newTask]
    rw [hlen] at h ⊢
    obtain ⟨hmap, htable, hfiles⟩ := sameStores_startTask ((task?_newTask m taskId _).trans (if_pos rfl)) h
    exact iff_of_true ⟨hmap, htable, hfiles⟩ (.inr rfl)
  | some i =>
    refine iff_of_false (fun hs => ?_) (by simp [hne])
    rw [hi] at h
    have hnone : ((m.removeDirtyTask taskId ended).newTask taskId (removeDuplicateVersionId downloadInfos)).find? taskId =
        none := find?_removeDirtyTask taskId ended m
    have hmem := find?_eq_some.1 hi
    rw [← hs.map] at hmem
    have hmem' := mem_of_mem_startTask h hmem
    exact absurd (find?_eq_some.2 hmem') (by simp [hnone])

/-! ### `RemoveTask` -/

/-- A `RemoveTask` that fails leaves map and table as they were exactly when the table has no row of the
task. -/
theorem removeTask_atomic_iff (h : (m.removeTask taskId).1.errorNum ≠ .success) :
    ((m.removeTask taskId).2.downloadTaskMap = m.downloadTaskMap ∧
        (m.removeTask taskId).2.outside.table = m.outside.table) ↔
      ∀ row ∈ m.outside.table, row.taskId ≠ taskId := by
  have hstores : (m.removeTask taskId).2.downloadTaskMap = m.downloadTaskMap ∧
      (m.removeTask taskId).2.outside.table = DownloadInfoOperator.deleteByTaskId taskId m.outside.table := by
    unfold removeTask taskProgress at h ⊢
    dsimp only at h ⊢
    split
    · exact ⟨rfl, rfl⟩
    rename_i i hi
    simp only [hi] at h
    cases ht : (m.exec (.deleteByTaskId taskId)).task? i with
    | none =>
      simp only [ht] at h ⊢
      split
      · exact ⟨rfl, rfl⟩
      · rename_i hc
        rw [if_neg hc] at h
        exact absurd rfl h
    | some t =>
      simp only [ht] at h ⊢
      split
      · exact ⟨rfl, rfl⟩
      · rename_i hc
        rw [if_neg hc] at h
        exact absurd rfl h
  rw [hstores.1, hstores.2, DownloadInfoOperator.deleteByTaskId, List.deleteWhere, List.filter_eq_self]
  simp

/-! ### A running task -/

/-- `CalculateHashCode` of the version ids `v1` and `v2`. -/
def hashOfPackages (_ : String) : String := "70c67caecd7f4976756e7f51786238ee9191447a24a0da82d35f26230ab68cd5"

def packages : List DownloadInfo := [ServiceState.samplePackage "v1", ServiceState.samplePackage "v2"]

/-- A task has half of its packages when the network goes. -/
def halfDownloaded : List ManagerOp :=
  [.outside (fun _ => 0) 0 .wifi, .start packages true true fun _ => true, .outside (fun _ => 50) 1 .noNet]

/-- Starting it again fails for want of a network, and entry, rows and files are gone. -/
theorem start_loses_task : ∃ m, (lts hashOfPackages).Run {} halfDownloaded m ∧
    (m.start hashOfPackages packages true true fun _ => true).1 = ⟨.netNotAvailiable, .fail⟩ ∧
    ¬ SameStores m (m.start hashOfPackages packages true true fun _ => true).2 ∧
    (m.start hashOfPackages packages true true fun _ => true).2.find? (hashOfPackages "v1v2") = none ∧
    (m.start hashOfPackages packages true true fun _ => true).2.outside.table = [] ∧
    (m.start hashOfPackages packages true true fun _ => true).2.outside.fileSize "/data/update/v1" = 0 := by
  refine ⟨_, Lts.run_ofPartial_get (f := step hashOfPackages) (by rfl), by rfl, fun h => ?_, by rfl, by rfl, by rfl⟩
  exact absurd (congrFun h.files "/data/update/v1") (by decide)

/-- Without a network a new task is not started, and nothing has changed. -/
theorem start_atomic_noNet : SameStores {} (start hashOfPackages packages true true (fun _ => true) {}).2 :=
  (start_atomic_iff (by decide)).2 (.inr rfl)

/-- Removing it while it runs fails, its rows are gone, and a new process does not restore it. -/
theorem removeTask_loses_rows : ∃ m, (lts hashOfPackages).Run {} halfDownloaded m ∧
    (m.removeTask (hashOfPackages "v1v2")).1 = ⟨.systemBusy, .fail⟩ ∧
    (m.removeTask (hashOfPackages "v1v2")).2.outside.table ≠ m.outside.table ∧
    (m.removeTask (hashOfPackages "v1v2")).2.restart.find? (hashOfPackages "v1v2") = none ∧
    m.restart.find? (hashOfPackages "v1v2") = some 0 := by
  refine ⟨_, Lts.run_ofPartial_get (f := step hashOfPackages) (by rfl), by rfl, fun h => ?_, by rfl, by rfl⟩
  exact absurd (congrArg List.length h) (by decide)

/-- An unknown task has no rows. -/
theorem removeTask_atomic_unknown :
    (removeTask (hashOfPackages "v1v2") {}).2.downloadTaskMap = ∅ ∧
    (removeTask (hashOfPackages "v1v2") {}).2.outside.table = [] :=
  (removeTask_atomic_iff (by decide)).2 (by simp)

end DownloadTaskManager
end UpdateService
