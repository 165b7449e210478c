import UpdateService.FirmwareRequests

/-!
# The order of a download over its resumes

`ResumeDownload` runs with the order of the row and writes back the order of the upgrade. `orderKept_iff`: a run keeps
the order that was asked for exactly if every resume finds the two equal. Nothing writes the order of the upgrade
(`upgradeOrder_run`), so that is the order the row was inserted with.
-/

namespace UpdateService

/-- The requests that write the options of a download. -/
def FirmwareRequest.isDownload : FirmwareRequest → Bool
  | .download _ _ | .resumeDownload _ => true
  | _ => false

namespace FirmwareTaskRow
open UpdateServiceImplFirmware

variable {table table' : List FirmwareTaskRow} {f : FirmwareTaskRow → FirmwareTaskRow} {taskId : String}
  {request : FirmwareRequest} {requests : List FirmwareRequest}

/-! ### Rows after a write -/

/-- The row of the task after a write to it. -/
theorem queryTask_updateByTaskId (h : table ≠ [])
    (hf : ∀ row : FirmwareTaskRow, f { row with isExistTask := true } = { f row with isExistTask := true }) :
    queryTask (updateByTaskId (queryTask table).taskId f table) = f (queryTask table) := by
  cases table with
  | nil => exact absurd rfl h
  | cons row table =>
    rw [queryTask, updateByTaskId, List.updateWhere, List.map_cons, if_pos (by simp), queryTask, hf]

/-- What a write leaves alone in every row. -/
theorem queryTask_updateByTaskId_frame {β : Type*} {g : FirmwareTaskRow → β}
    (hg : ∀ row : FirmwareTaskRow, g { row with isExistTask := true } = g row) (hf : ∀ row, g (f row) = g row) :
    g (queryTask (updateByTaskId taskId f table)) = g (queryTask table) := by
  cases table with
  | nil => rfl
  | cons row table =>
    rw [updateByTaskId, List.updateWhere, List.map_cons, queryTask, queryTask, hg, hg]
    split
    · exact hf row
    · rfl

theorem table_ne_nil_of_status (h : (queryTask table).status ≠ .init) : table ≠ [] := by
  rintro rfl
  exact h rfl

/-! ### What a request does to the task -/

/-- The statuses that `ResumeDownload` lets pass. -/
def CanResume (table : List FirmwareTaskRow) : Prop :=
  (queryTask table).status = .checkVersionSuccess ∨ (queryTask table).status = .downloadPause

theorem CanResume.table_ne_nil (h : CanResume table) : table ≠ [] := by
  refine table_ne_nil_of_status ?_
  rcases h with h | h <;> rw [h] <;> decide

theorem resumeDownload_of_canResume (h : CanResume table) (allowNetwork : NetType) :
    (resumeDownload allowNetwork table).1 = .ok { order := (queryTask table).downloadOrder, allowNetwork } ∧
      queryTask (resumeDownload allowNetwork table).2 = { queryTask table with
        downloadMode := .manual
        downloadAllowNetwork := allowNetwork
        downloadOrder := (queryTask table).upgradeOrder } := by
  unfold resumeDownload
  rw [if_neg (by rintro ⟨h₁, h₂⟩; exact h.elim h₁ h₂)]
  exact ⟨rfl, queryTask_updateByTaskId h.table_ne_nil fun _ => rfl⟩

theorem resumeDownload_of_not_canResume (h : ¬ CanResume table) (allowNetwork : NetType) :
    resumeDownload allowNetwork table = (.error (BusinessError.build .fail "download error" {}), table) :=
  if_pos (not_or.1 h)

theorem download_cases (isDownloadTriggered : Bool) (downloadOptions : DownloadOptions) (table : List FirmwareTaskRow) :
    (∃ e, download isDownloadTriggered downloadOptions table = (.error e, table)) ∨
      (download isDownloadTriggered downloadOptions table).1 = .ok downloadOptions ∧
        queryTask (download isDownloadTriggered downloadOptions table).2 = { queryTask table with
          downloadMode := .manual
          downloadAllowNetwork := downloadOptions.allowNetwork
          downloadOrder := downloadOptions.order } := by
  unfold download
  split
  · exact .inl ⟨_, rfl⟩
  dsimp only
  split
  · exact .inl ⟨_, rfl⟩
  · rename_i hstatus
    have hne : table ≠ [] := table_ne_nil_of_status (by rw [not_not.1 hstatus]; decide)
    exact .inr ⟨rfl, queryTask_updateByTaskId hne fun _ => rfl⟩

/-- The other steps change the columns of `FirmwareTask` and the mode of the upgrade. -/
theorem step_frame {β : Type*} {g : FirmwareTaskRow → β}
    (htask : ∀ (row : FirmwareTaskRow) t, g { row with toFirmwareTask := t } = g row)
    (hmode : ∀ (row : FirmwareTaskRow) mode, g { row with upgradeMode := mode } = g row)
    (hrequest : request.isDownload = false) :
    g (queryTask (step table request)) = g (queryTask table) := by
  cases request with
  | download | resumeDownload => cases hrequest
  | upgrade isUpgradeTriggered upgradeOptions =>
    unfold step UpdateServiceImplFirmware.upgrade
    dsimp only
    split
    · rfl
    · exact queryTask_updateByTaskId_frame (fun row => htask row _) fun row => hmode row _
  | nightUpgrade nightUpgradeSwitch =>
    unfold step handleNightUpgrade
    dsimp only
    split
    · rfl
    split
    · rfl
    split
    · rfl
    · exact queryTask_updateByTaskId_frame (fun row => htask row _) fun row => hmode row _
  | write taskId f => exact queryTask_updateByTaskId_frame (fun row => htask row _) fun row => htask row _

theorem downloadOrder_step (hrequest : request.isDownload = false) :
    (queryTask (step table request)).downloadOrder = (queryTask table).downloadOrder :=
  step_frame (g := FirmwareTaskRow.downloadOrder) (fun _ _ => rfl) (fun _ _ => rfl) hrequest

theorem upgradeOrder_step (table : List FirmwareTaskRow) (request : FirmwareRequest) :
    (queryTask (step table request)).upgradeOrder = (queryTask table).upgradeOrder := by
  cases request with
  | download isDownloadTriggered downloadOptions =>
    obtain ⟨e, he⟩ | ⟨-, h⟩ := download_cases isDownloadTriggered downloadOptions table
    · rw [step, he]
    · rw [step, h]
  | resumeDownload allowNetwork =>
    by_cases h : CanResume table
    · rw [step, (resumeDownload_of_canResume h allowNetwork).2]
    · rw [step, resumeDownload_of_not_canResume h]
  | upgrade | nightUpgrade | write =>
    exact step_frame (g := FirmwareTaskRow.upgradeOrder) (fun _ _ => rfl) (fun _ _ => rfl) rfl

theorem upgradeOrder_run (h : lts.Run table requests table') :
    (queryTask table').upgradeOrder = (queryTask table).upgradeOrder := by
  refine h.invariant (I := fun t => (queryTask t).upgradeOrder = (queryTask table).upgradeOrder) ?_ rfl
  rintro t request _ rfl ht
  exact (upgradeOrder_step t request).trans ht

/-! ### The order over a run -/

/-- The order of the last `Download` that was accepted. -/
def lastOrder (last : Option Order) (table : List FirmwareTaskRow) (request : FirmwareRequest)
    (_ : List FirmwareTaskRow) : Option Order :=
  match request with
  | .download isDownloadTriggered downloadOptions =>
    match (download isDownloadTriggered downloadOptions table).1 with
    | .ok options => some options.order
    | .error _ => last
  | _ => last

/-- The row without the download mode and the allowed network. -/
def otherSettings (row : FirmwareTaskRow) : FirmwareTaskRow :=
  { row with downloadMode := .manual, downloadAllowNetwork := .noNet }

/-- The next request, if it is a resume, is run with the order of the last `Download` that was accepted and changes no
other setting than the download mode and the allowed network. -/
structure OrderKept (x : List FirmwareTaskRow × Option Order) (request : FirmwareRequest) : Prop where
  order (allowNetwork : NetType) (options : DownloadOptions) (order : Order) :
    request = .resumeDownload allowNetwork → (resumeDownload allowNetwork x.1).1 = .ok options → x.2 = some order →
      options.order = order
  frame (allowNetwork : NetType) : request = .resumeDownload allowNetwork →
    otherSettings (queryTask (resumeDownload allowNetwork x.1).2) = otherSettings (queryTask x.1)

/-- The next request, if it is an accepted resume, finds a row with one order for the download and the upgrade. -/
def OrdersEqual (x : List FirmwareTaskRow × Option Order) (request : FirmwareRequest) : Prop :=
  ∀ allowNetwork, request = .resumeDownload allowNetwork → CanResume x.1 →
    (queryTask x.1).downloadOrder = (queryTask x.1).upgradeOrder

/-- The row has the order of the last `Download` that was accepted. -/
def HasLastOrder (x : List FirmwareTaskRow × Option Order) : Prop :=
  ∀ order, x.2 = some order → (queryTask x.1).downloadOrder = order

theorem OrderKept.ordersEqual {x : List FirmwareTaskRow × Option Order} (h : OrderKept x request) :
    OrdersEqual x request := by
  intro allowNetwork hrequest hresume
  have hframe := congrArg FirmwareTaskRow.downloadOrder (h.frame allowNetwork hrequest)
  rw [(resumeDownload_of_canResume hresume allowNetwork).2] at hframe
  exact hframe.symm

theorem HasLastOrder.orderKept {x : List FirmwareTaskRow × Option Order} (hlast : HasLastOrder x)
    (h : OrdersEqual x request) : OrderKept x request := by
  constructor
  · intro allowNetwork options order hrequest hok horder
    by_cases hresume : CanResume x.1
    · rw [(resumeDownload_of_canResume hresume allowNetwork).1] at hok
      cases hok
      exact hlast order horder
    · rw [resumeDownload_of_not_canResume hresume] at hok
      cases hok
  · intro allowNetwork hrequest
    by_cases hresume : CanResume x.1
    · rw [(resumeDownload_of_canResume hresume allowNetwork).2, ← h allowNetwork hrequest hresume]
      rfl
    · rw [resumeDownload_of_not_canResume hresume]

theorem hasLastOrder_preserved : ((lts.observe lastOrder).guard OrdersEqual).Preserved HasLastOrder := by
  rintro ⟨table, last⟩ request ⟨table', last'⟩ ⟨hequal, hstep, hobserve⟩ hlast order horder
  obtain rfl : table' = step table request := hstep
  obtain rfl : last' = lastOrder last table request (step table request) := hobserve
  cases request with
  | download isDownloadTriggered downloadOptions =>
    obtain ⟨e, he⟩ | ⟨hok, hrow⟩ := download_cases isDownloadTriggered downloadOptions table
    · simp only [lastOrder, he] at horder
      simp only [step, he]
      exact hlast order horder
    · simp only [lastOrder, hok] at horder
      simp only [step, hrow]
      exact Option.some.inj horder
  | resumeDownload allowNetwork =>
    by_cases hresume : CanResume table
    · simp only [step, (resumeDownload_of_canResume hresume allowNetwork).2]
      exact (hequal allowNetwork rfl hresume).symm.trans (hlast order horder)
    · simp only [step, resumeDownload_of_not_canResume hresume]
      exact hlast order horder
  | upgrade | nightUpgrade | write =>
    dsimp only
    rw [downloadOrder_step rfl]
    exact hlast order horder

/-- Over all runs of requests from any row, before any `Download`. -/
theorem orderKept_iff (table : List FirmwareTaskRow) (requests : List FirmwareRequest)
    (x : List FirmwareTaskRow × Option Order) :
    ((lts.observe lastOrder).guard OrderKept).Run (table, none) requests x ↔
      ((lts.observe lastOrder).guard OrdersEqual).Run (table, none) requests x := by
  constructor
  · exact fun h => h.guard_mono (I := fun _ => True) (fun _ _ _ _ _ => trivial)
      (fun _ _ _ hkept => hkept.ordersEqual) trivial
  · exact fun h => h.guard_mono hasLastOrder_preserved (fun _ _ hlast hequal => hlast.orderKept hequal)
      fun _ h => nomatch h

/-- A download that is only to download, paused, resumed, paused and resumed once more. -/
def resumedTwice : List FirmwareRequest :=
  [.download false {}, .write "task" ({ · with status := .downloadPause }), .resumeDownload .wifi,
    .write "task" ({ · with status := .downloadPause }), .resumeDownload .wifi]

/-- The row that `HandleNewVersion` inserts. -/
def insertedTask : FirmwareTaskRow := { taskId := "task", status := .checkVersionSuccess }

/-- The orders with which the run resumes: the second time it is the one of the upgrade. -/
theorem not_orderKept :
    (resumeDownload .wifi ((resumedTwice.take 2).foldl step [insertedTask])).1 = .ok ⟨.wifi, .download⟩ ∧
      (resumeDownload .wifi ((resumedTwice.take 4).foldl step [insertedTask])).1 = .ok ⟨.wifi, .install⟩ ∧
      ∃ x, (lts.observe lastOrder).Run ([insertedTask], none) resumedTwice x ∧
        ¬ ((lts.observe lastOrder).guard OrderKept).Run ([insertedTask], none) resumedTwice x := by
  obtain ⟨last, hrun⟩ := (Lts.run_ofFun step [insertedTask] resumedTwice).exists_observe lastOrder none
  refine ⟨by decide, by decide, _, hrun, fun h => ?_⟩
  cases h with
  | @cons _ s₁ _ _ _ h₁ h =>
    cases h with
    | @cons _ s₂ _ _ _ h₂ h =>
      cases h with
      | cons h₃ _ =>
        -- the first resume already writes the order of the upgrade over the one of the download
        have ht₁ : s₁.1 = step [insertedTask] _ := h₁.2.1
        have ht₂ : s₂.1 = step s₁.1 _ := h₂.2.1
        rw [ht₁] at ht₂
        have hequal := h₃.1.ordersEqual .wifi rfl
        rw [ht₂] at hequal
        exact absurd (hequal (.inr rfl)) (by decide)

end FirmwareTaskRow

end UpdateService
