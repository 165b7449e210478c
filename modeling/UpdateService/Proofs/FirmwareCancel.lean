import UpdateService.FirmwareManager

/-!
# When a user cancel is atomic and honoured

Two ways lead away from it. For a stream task in `INSTALLING` the check of `Cancel` and the guard of
`DoCancel` disagree, and a cancel that fails for a task in `DOWNLOADING` is followed by the reset all
the same.
-/

namespace UpdateService

/-- Task and components are back at the found version. -/
structure IsReset (s : Firmware) : Prop where
  status : (FirmwareTaskOperator.queryTask s.taskTable).status = .checkVersionSuccess
  progress : (FirmwareTaskOperator.queryTask s.taskTable).progress = 0
  components : ∀ c ∈ s.componentTable, c.status = .checkVersionSuccess ∧ c.progress = 0

/-- `r` is the answer to a cancel in `s`: a success resets (a stream install only has to accept it), a
failure changes nothing, and what the first check admits the second one does not refuse. -/
structure CancelAtomic (s : Firmware) (r : BusinessError × Firmware) : Prop where
  success : r.1.errorNum = .success → IsReset r.2 ∨ FirmwareUpdateHelper.isStreamUpgrade s.componentTable = true ∧
    (FirmwareTaskOperator.queryTask s.taskTable).status = .installing
  fail : r.1.errorNum ≠ .success → r.2 = s
  honoured : UpdateServiceImplFirmware.isCancelable (FirmwareUpdateHelper.isStreamUpgrade s.componentTable)
      (FirmwareTaskOperator.queryTask s.taskTable).status = true →
    FirmwareManager.isCancelable (FirmwareTaskOperator.queryTask s.taskTable).status = true

namespace DownloadTaskManager
variable {m : DownloadTaskManager} {taskId : String}

def getValidTask (taskId : String) (m : DownloadTaskManager) : Option DownloadTask := (m.find? taskId).bind m.task?

theorem cancel_success_iff (ended : Nat → Bool) (b : Bool) :
    (m.cancel taskId ended b).1.errorNum = .success ↔ m.getValidTask taskId ≠ none := by
  unfold cancel onTask getValidTask
  cases hi : m.find? taskId with
  | none => simp [taskInvalid]
  | some i => cases ht : m.task? i <;> simp [taskInvalid, TaskState.cancel, ht]

end DownloadTaskManager

namespace FirmwareManager
variable {s : Firmware} {task : FirmwareTask} {ended : Nat → Bool} {e : BusinessError}

theorem forall_mem_resetComponents (components : List FirmwareComponent) :
    ∀ c ∈ resetComponents components, c.status = .checkVersionSuccess ∧ c.progress = 0 := by
  have hfold : ∀ l table : List FirmwareComponent,
      (∀ c ∈ table, c.versionId ∈ l.map (·.versionId) ∨ c.status = .checkVersionSuccess ∧ c.progress = 0) →
      ∀ c ∈ l.foldl (fun table c =>
        FirmwareComponentOperator.updateProgressByVersionId c.versionId .checkVersionSuccess 0 table) table,
        c.status = .checkVersionSuccess ∧ c.progress = 0 := by
    intro l
    induction l with
    | nil => exact fun table h c hc => (h c hc).resolve_left (by simp)
    | cons a l ih =>
      intro table h
      refine ih _ fun c hc => ?_
      obtain ⟨c₀, hc₀, rfl⟩ := List.mem_updateWhere.1 hc
      by_cases hv : c₀.versionId = a.versionId
      · rw [if_pos (decide_eq_true hv)]
        exact .inr ⟨rfl, rfl⟩
      · rw [if_neg (by simpa using hv)]
        exact (h c₀ hc₀).imp_left fun hm => (List.mem_cons.1 hm).resolve_left hv
  exact hfold components components fun c hc => .inl (List.mem_map_of_mem hc)

theorem isReset_resetTask (hne : s.taskTable ≠ [])
    (ht : task.taskId = (FirmwareTaskOperator.queryTask s.taskTable).taskId) :
    IsReset (resetTask task s) := by
  have htask : FirmwareTaskOperator.queryTask (resetTask task s).taskTable =
      { FirmwareTaskOperator.queryTask s.taskTable with status := .checkVersionSuccess, progress := 0 } := by
    obtain ⟨t, ts, hts⟩ := List.exists_cons_of_ne_nil hne
    rw [hts] at ht
    unfold resetTask
    rw [hts, ht]
    simp [FirmwareTaskOperator.updateProgressByTaskId, FirmwareTaskOperator.updateByTaskId, List.updateWhere,
      FirmwareTaskOperator.queryTask]
  exact ⟨by rw [htask], by rw [htask], forall_mem_resetComponents s.componentTable⟩

theorem isExistTask_iff : (FirmwareTaskOperator.queryTask s.taskTable).isExistTask = true ↔ s.taskTable ≠ [] := by
  cases h : s.taskTable <;> simp [FirmwareTaskOperator.queryTask]

theorem exists_of_status (h : (FirmwareTaskOperator.queryTask s.taskTable).status ≠ .init) : s.taskTable ≠ [] := by
  rintro he
  rw [he] at h
  exact h rfl

variable (ended) in
theorem doCancel_of_paused (h : (FirmwareTaskOperator.queryTask s.taskTable).status = .downloadPause) :
    doCancel ended e s = (e, resetTask (FirmwareTaskOperator.queryTask s.taskTable) s) := by
  have hex := isExistTask_iff.2 (exists_of_status (s := s) (by rw [h]; decide))
  unfold doCancel
  simp [hex, h, isCancelable]

variable (ended) in
/-- A downloading task is reset as well, whether its download has been cancelled or not. -/
theorem doCancel_of_downloading (h : (FirmwareTaskOperator.queryTask s.taskTable).status = .downloading)
    (he : e.errorNum = .success) :
    ((doCancel ended e s).1.errorNum = .success ↔
      s.downloads.getValidTask (FirmwareTaskOperator.queryTask s.taskTable).downloadTaskId ≠ none) ∧
    ∃ downloads, (doCancel ended e s).2 = resetTask (FirmwareTaskOperator.queryTask s.taskTable) { s with downloads } := by
  have hex := isExistTask_iff.2 (exists_of_status (s := s) (by rw [h]; decide))
  rw [← DownloadTaskManager.cancel_success_iff ended true]
  unfold doCancel
  simp only [hex, h, isCancelable]
  rcases s.downloads.cancel (FirmwareTaskOperator.queryTask s.taskTable).downloadTaskId ended true with ⟨err, downloads⟩
  refine ⟨?_, downloads, rfl⟩
  by_cases herr : err.errorNum = .success
  · simp [herr, he]
  · simp [herr, BusinessError.build, BusinessError.addErrorMessage]

end FirmwareManager

namespace UpdateServiceImplFirmware
variable {s : Firmware} {ended : Nat → Bool}

theorem cancelAtomic_refused {e : BusinessError} (he : e.errorNum = .fail)
    (hno : isCancelable (FirmwareUpdateHelper.isStreamUpgrade s.componentTable)
      (FirmwareTaskOperator.queryTask s.taskTable).status = false) :
    CancelAtomic s (e, s) where
  success h := absurd (he.symm.trans h) (by decide)
  fail _ := rfl
  honoured h := absurd (hno.symm.trans h) (by decide)

theorem cancelAtomic_reset {e : BusinessError} (downloads : DownloadTaskManager) (he : e.errorNum = .success)
    (hyes : FirmwareManager.isCancelable (FirmwareTaskOperator.queryTask s.taskTable).status = true)
    (hne : s.taskTable ≠ []) :
    CancelAtomic s (e, FirmwareManager.resetTask (FirmwareTaskOperator.queryTask s.taskTable) { s with downloads }) where
  success _ := .inl (FirmwareManager.isReset_resetTask hne rfl)
  fail h := absurd he h
  honoured _ := hyes

/-- Cancel is atomic and honoured except while a stream install runs, and for a download that the manager
does not know. -/
theorem cancel_atomic_iff (ended : Nat → Bool) (s : Firmware) :
    CancelAtomic s (cancel ended s) ↔
      if FirmwareUpdateHelper.isStreamUpgrade s.componentTable then
        (FirmwareTaskOperator.queryTask s.taskTable).status ≠ .installing
      else (FirmwareTaskOperator.queryTask s.taskTable).status = .downloading →
        s.downloads.getValidTask (FirmwareTaskOperator.queryTask s.taskTable).downloadTaskId ≠ none := by
  unfold cancel
  cases hstream : FirmwareUpdateHelper.isStreamUpgrade s.componentTable with
  | true =>
    by_cases hst : (FirmwareTaskOperator.queryTask s.taskTable).status = .installing
    · simp only [isCancelable, hst, if_true, ne_eq, not_true_eq_false, iff_false]
      intro h
      have := h.honoured (by simp [isCancelable, hstream, hst])
      simp [FirmwareManager.isCancelable, hst] at this
    · have hno : isCancelable true (FirmwareTaskOperator.queryTask s.taskTable).status = false := by
        simp [isCancelable, hst]
      simp only [hno, if_true, Bool.not_false, ne_eq, hst, not_false_eq_true, iff_true]
      exact cancelAtomic_refused rfl (by rw [hstream, hno])
  | false =>
    simp only [Bool.false_eq_true, if_false]
    by_cases hd : (FirmwareTaskOperator.queryTask s.taskTable).status = .downloading
    · have hne := FirmwareManager.exists_of_status (s := s) (by rw [hd]; decide)
      obtain ⟨hiff, downloads, hreset⟩ := FirmwareManager.doCancel_of_downloading ended (e := {}) hd rfl
      simp only [isCancelable, hd, forall_const]
      rw [← hiff]
      constructor
      · intro h
        by_contra hfail
        have hstatus := (FirmwareManager.isReset_resetTask (s := { s with downloads }) hne rfl).status
        have hsame : (FirmwareManager.doCancel ended {} s).2 = s := h.fail hfail
        rw [hreset] at hsame
        exact absurd (hstatus.symm.trans ((congrArg (fun s : Firmware =>
          (FirmwareTaskOperator.queryTask s.taskTable).status) hsame).trans hd)) (by decide)
      · intro hok
        have := cancelAtomic_reset downloads hok (by simp [FirmwareManager.isCancelable, hd]) hne
        rwa [← hreset] at this
    · simp only [hd, false_imp_iff, iff_true]
      by_cases hp : (FirmwareTaskOperator.queryTask s.taskTable).status = .downloadPause
      · simp only [isCancelable, hp]
        have := FirmwareManager.doCancel_of_paused ended (e := {}) hp
        simp only [Bool.false_eq_true, if_false, reduceCtorEq, decide_false, decide_true, Bool.or_true,
          Bool.not_true, this]
        exact cancelAtomic_reset s.downloads rfl (by simp [FirmwareManager.isCancelable, hp])
          (FirmwareManager.exists_of_status (by rw [hp]; decide))
      · have hno : isCancelable false (FirmwareTaskOperator.queryTask s.taskTable).status = false := by
          simp [isCancelable, hd, hp]
        simp only [hno, Bool.not_false, if_true]
        exact cancelAtomic_refused rfl (by rw [hstream, hno])

def streamInstalling : Firmware where
  taskTable := [{ taskId := "t", status := .installing, progress := 40 }]
  componentTable := [{ versionId := "v", otaType := abStreamOta, status := .installing, progress := 40 }]

/-- The download task is known to the table only. -/
def orphanDownload : Firmware where
  taskTable := [{ taskId := "t", status := .downloading, progress := 40, downloadTaskId := "d" }]
  componentTable := [{ versionId := "v", status := .downloading, progress := 40 }]

theorem cancel_not_atomic :
    ¬ CancelAtomic streamInstalling (cancel (fun _ => true) streamInstalling) ∧
      ¬ CancelAtomic orphanDownload (cancel (fun _ => true) orphanDownload) := by
  refine ⟨fun h => ?_, fun h => ?_⟩
  · exact absurd (h.honoured rfl) (by decide)
  · have hsame := h.fail (by decide)
    exact absurd (congrArg (fun s : Firmware => (FirmwareTaskOperator.queryTask s.taskTable).status) hsame) (by decide)

end UpdateServiceImplFirmware

end UpdateService
