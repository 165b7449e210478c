import UpdateService.DownloadInfoTable

/-!
# Updates of the download table and the rows of other tasks

An update selects its rows by their download id alone. It leaves the other tasks alone exactly when
each row of theirs that has this download id holds the written values already.
-/

namespace UpdateService
namespace DownloadInfoOperator
variable {u : ByIdUpdate} {d : DownloadInfo} {table : List DownloadRow} {taskId : String}

theorem filter_updateById_eq_iff :
    (updateById u d table).filter (·.taskId = taskId) = table.filter (·.taskId = taskId) ↔
      ∀ row ∈ table, row.taskId = taskId → row.downloadId = d.downloadId → u.set d row = row := by
  unfold updateById
  rw [List.filter_updateWhere_eq_iff (by simp)]
  simp only [decide_eq_true_eq]

theorem updateById_isolated_iff (u : ByIdUpdate) (d : DownloadInfo) (table : List DownloadRow) :
    (∀ taskId, taskId ≠ d.taskId →
      (updateById u d table).filter (·.taskId = taskId) = table.filter (·.taskId = taskId)) ↔
    ∀ row ∈ table, row.taskId ≠ d.taskId → row.downloadId = d.downloadId → u.set d row = row := by
  constructor
  · intro h row hrow hne hid
    exact filter_updateById_eq_iff.1 (h row.taskId hne) row hrow rfl hid
  · intro h taskId hne
    refine filter_updateById_eq_iff.2 fun row hrow ht hid => h row hrow ?_ hid
    rwa [ht]

/-! ### Two tasks that share a version -/

/-- The download of a version in the task whose id is given, as `InitDownloadInfo` sets it up. -/
def sharedInfo (taskId versionId : String) : DownloadInfo where
  downloadId := versionId
  versionId := versionId
  taskId := taskId
  packageSize := 100

def firstTaskId : String := "70c67caecd7f4976756e7f51786238ee9191447a24a0da82d35f26230ab68cd5"

def secondTaskId : String := "283e91a28a4f97c1d51da5a68b2662c2fd0f7bfe137e8f21f437fe601e12b73c"

def sharedTable : List DownloadRow :=
  [sharedInfo firstTaskId "v1", sharedInfo firstTaskId "v2", sharedInfo secondTaskId "v2",
    sharedInfo secondTaskId "v3"].foldl (fun table d => insert d table) []

/-- The first task finishes `v2`, and the row of `v2` in the second task says so. -/
theorem sharedTable_not_isolated :
    let done := { sharedInfo firstTaskId "v2" with status := .success, downloadedSize := 100 }
    secondTaskId ≠ done.taskId ∧
      (updateProgressById done sharedTable).filter (·.taskId = secondTaskId) ≠
        sharedTable.filter (·.taskId = secondTaskId) := by
  decide

end DownloadInfoOperator
end UpdateService
