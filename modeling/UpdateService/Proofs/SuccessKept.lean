import UpdateService.ServiceRun

/-!
# Finished downloads stay finished

`KeepsSuccess s s'`: every download that has succeeded in `s` has succeeded in `s'`, and no thread
has been started for it in between. Every operation of the service keeps this except those that
report another status for a succeeded download: `Pause`, whose fan-out does not skip it, and a
callback of a thread that is still about (`SparesSuccess`).
-/

namespace UpdateService
namespace ServiceState
variable {s s' s₀ s₁ s₂ : ServiceState} {d : DownloadInfo} {info : DownloadCallbackInfo} {id : String}

def Succeeded (s : ServiceState) (id : String) : Prop :=
  ∃ d, s.infoMap.find? id = some d ∧ d.status = .success

structure KeepsSuccess (s s' : ServiceState) : Prop where
  status : ∀ id, s.Succeeded id → s'.Succeeded id
  starts : ∀ id, s.Succeeded id → s'.starts id = s.starts id

namespace KeepsSuccess

theorem refl (s : ServiceState) : KeepsSuccess s s := ⟨fun _ h => h, fun _ _ => rfl⟩

theorem trans (h₁ : KeepsSuccess s₀ s₁) (h₂ : KeepsSuccess s₁ s₂) : KeepsSuccess s₀ s₂ :=
  ⟨fun id h => h₂.status id (h₁.status id h), fun id h => (h₂.starts id (h₁.status id h)).trans (h₁.starts id h)⟩

theorem of_eq (hi : s'.infoMap = s.infoMap) (ht : s'.threads = s.threads) : KeepsSuccess s s' :=
  ⟨fun id h => by unfold Succeeded; rw [hi]; exact h, fun id _ => by unfold ServiceState.starts; rw [ht]⟩

theorem of_none (h : ∀ id, ¬ s.Succeeded id) : KeepsSuccess s s' :=
  ⟨fun id hid => absurd hid (h id), fun id hid => absurd hid (h id)⟩

theorem modifyInfo (id : String) (f : DownloadInfo → DownloadInfo) (hf : ∀ d, (f d).downloadId = d.downloadId)
    (h : s.Succeeded id → ∀ d, d.status = .success → (f d).status = .success) :
    KeepsSuccess s (s.modifyInfo id f hf) := by
  refine ⟨fun id' ⟨d, hd, hs⟩ => ⟨_, by rw [find?_modifyInfo, hd]; rfl, ?_⟩, fun _ _ => rfl⟩
  split
  · rename_i he
    subst he
    exact h ⟨d, hd, hs⟩ d hs
  · exact hs

theorem startDownloadThread (h : KeepsSuccess s s') (hd : ¬ s.Succeeded d.downloadId) :
    KeepsSuccess s (s'.startDownloadThread d) := by
  refine ⟨fun id hid => h.status id hid, fun id hid => ?_⟩
  have hne : d.downloadId ≠ id := fun he => hd (he ▸ hid)
  rw [← h.starts id hid]
  simp [ServiceState.starts, ServiceState.startDownloadThread, List.countP_append, hne]

theorem forEachInfo {f : DownloadInfo → ServiceState → ServiceState}
    (hf : ∀ s d, s.infoMap.find? d.downloadId = some d → KeepsSuccess s (f d s)) :
    KeepsSuccess s (s.forEachInfo f) :=
  forEachInfo_induction (P := KeepsSuccess s) (refl s) fun s' d h hd => h.trans (hf s' d hd)

end KeepsSuccess

theorem not_succeeded (h : s.infoMap.find? id = some d) (hd : d.status ≠ .success) : ¬ s.Succeeded id := by
  rintro ⟨d', hd', hs⟩
  rw [h] at hd'
  exact hd (Option.some.inj hd' ▸ hs)

/-! ### Reports -/

theorem KeepsSuccess.finishReport (h : s.Succeeded info.downloadId → info.status = .success) :
    KeepsSuccess s (s.finishReport info) := by
  unfold ServiceState.finishReport
  have hcb : KeepsSuccess (s.updateDownloadInfo info)
      ((s.updateDownloadInfo info).callbackDownloadProgress info) :=
    .of_eq (by simp) (by simp)
  refine .trans ?_ hcb
  rcases updateDownloadInfo_cases info s with ⟨-, he⟩ | ⟨d, -, -, he, -⟩
  · rw [he]; exact .refl s
  · have hm := KeepsSuccess.modifyInfo info.downloadId (·.updateDownloadInfo info)
      (DownloadInfo.updateDownloadInfo_downloadId info) fun hs _ _ => h hs
    exact .trans hm (.of_eq (congrArg DownloadService.infoMap he) (congrArg DownloadService.threads he))

theorem KeepsSuccess.handleRetry {endReason : DownloadEndReason} (hd : s.infoMap.find? id = some d)
    (h : ¬ s.Succeeded id) : KeepsSuccess s (s.handleRetry id endReason).2 := by
  obtain ⟨s₁, he, hs₁, -⟩ := handleRetry_eq endReason hd
  rw [he]
  have hm := KeepsSuccess.modifyInfo id (fun d => d.countRetry.switchUrl endReason)
    (fun d => DownloadInfo.switchUrl_downloadId endReason d.countRetry) fun hs => absurd hs h
  refine startDownloadThread (.trans hm ?_) ?_
  · exact .of_eq (congrArg DownloadService.infoMap hs₁) (congrArg DownloadService.threads hs₁)
  · rwa [DownloadInfo.switchUrl_downloadId, ← downloadId_of_find? hd] at *

theorem KeepsSuccess.report (h : s.Succeeded info.downloadId → info.status = .success) :
    KeepsSuccess s (s.updateDownloadProgress info) := by
  obtain ⟨s₀, hsame, hcases⟩ := updateDownloadProgress_cases info s
  have h₀ : KeepsSuccess s s₀ := .of_eq hsame.infoMap hsame.threads
  have hsucc : s₀.Succeeded info.downloadId ↔ s.Succeeded info.downloadId := by
    unfold Succeeded; rw [hsame.infoMap]
  rcases hcases with ⟨-, he⟩ | ⟨-, -, he⟩ | ⟨d, hd, hr, he⟩ <;> rw [he]
  · exact h₀.trans (.finishReport fun hs => h (hsucc.1 hs))
  · exact h₀
  · refine h₀.trans (.handleRetry (hsame.infoMap ▸ hd) fun hs => ?_)
    exact absurd (h (hsucc.1 hs)) (by rw [status_of_retries hr]; decide)

theorem KeepsSuccess.callback (h : s.isStopCallback = false → s.Succeeded info.downloadId → info.status = .success) :
    KeepsSuccess s (s.callbackUpdateDownloadProgress info) := by
  unfold callbackUpdateDownloadProgress
  split
  · exact .refl s
  · rename_i hflag
    exact .report (h (by simpa using hflag))

/-! ### Operations -/

theorem keepsSuccess_start (error : DownloadError) : KeepsSuccess s (s.start error).2 := by
  unfold start
  split
  · exact .refl s
  split
  · exact .refl s
  have h₁ : KeepsSuccess s { s with onDownloadCallback := true, isStopCallback := false } := .of_eq rfl rfl
  refine h₁.trans (.forEachInfo fun s d hd => ?_)
  unfold startInfo
  split
  · exact .refl s
  split
  · exact .refl s
  · rename_i hcomp
    refine .startDownloadThread (.of_eq rfl rfl) (not_succeeded hd fun hs => hcomp ?_)
    exact DownloadInfo.isCompleted_of_success hs

theorem keepsSuccess_resume (netType : NetType) : KeepsSuccess s (s.resume netType).2 := by
  have hnet : ∀ s : ServiceState, KeepsSuccess s (s.updateDownloadNetType netType) := by
    refine fun s => .forEachInfo fun s d _ => ?_
    split
    · exact .refl s
    · exact .trans (.modifyInfo d.downloadId (·.withNetType netType) (DownloadInfo.withNetType_downloadId netType)
        fun _ _ hs => hs) (.of_eq rfl rfl)
  unfold resume
  split
  · exact .refl s
  have h₀ : KeepsSuccess s { s with isStopCallback := false } := .of_eq rfl rfl
  have h₁ := h₀.trans (hnet _)
  dsimp only
  split
  · exact h₁
  refine h₁.trans (.forEachInfo fun s d hd => ?_)
  unfold resumeInfo
  split
  · exact .refl s
  split
  · exact .refl s
  · rename_i hcomp
    have hns := not_succeeded hd fun hs => hcomp (DownloadInfo.isCompleted_of_success hs)
    exact .startDownloadThread (.modifyInfo d.downloadId _ _ fun hs => absurd hs hns) hns

theorem keepsSuccess_netChangeToStart : KeepsSuccess s s.netChangeToStart := by
  refine .forEachInfo fun s d hd => ?_
  split
  · exact .refl s
  split
  · exact .refl s
  · rename_i h _
    refine .startDownloadThread (.refl s) (not_succeeded hd fun hs => h (.inl ?_))
    rw [hs]; decide

theorem keepsSuccess_recover : KeepsSuccess s s.recover := by
  unfold recover
  split
  · exact .refl s
  have h₁ : KeepsSuccess s { s with onDownloadCallback := true } := .of_eq rfl rfl
  refine h₁.trans (.forEachInfo fun s d hd => ?_)
  split
  · exact .refl s
  split
  · exact .refl s
  · rename_i hcomp _
    exact .report fun hs => absurd hs (not_succeeded hd fun h => hcomp (DownloadInfo.isCompleted_of_success h))

theorem KeepsSuccess.setThread {i : Nat} {th th' : DownloadThread} (h : s.threads[i]? = some th)
    (hid : th'.downloadId = th.downloadId) : KeepsSuccess s { s with threads := s.threads.set i th' } := by
  refine ⟨fun _ h => h, fun id _ => ?_⟩
  have hcount : ∀ l : List DownloadThread, l.countP (fun th => th.downloadId = id) =
      (l.map DownloadThread.downloadId).countP fun k => k = id := fun l => by
    rw [List.countP_map]; rfl
  simp only [ServiceState.starts, hcount, map_downloadId_set h hid]

def PausesNoSuccess (s : ServiceState) : Prop :=
  ∀ i ∈ s.registered, ∀ th, s.threads[i]? = some th → th.status = .init → ¬ s.Succeeded th.downloadId

theorem keepsSuccess_netChangeToPause (hs : s.isStopCallback = false → s.PausesNoSuccess) :
    KeepsSuccess s s.netChangeToPause := by
  refine netChangeToPause_induction (P := KeepsSuccess s) (.refl s) fun s' i hi hp h => ?_
  obtain he | ⟨th, th', hth, hid, -, -, -, he | ⟨info, hinit, hinfo, -, -, he⟩⟩ := pauseThread_cases i s' <;> rw [he]
  · exact h
  · exact h.trans (.setThread hth hid)
  refine (h.trans (.setThread hth hid)).trans (.callback fun hflag hsucc => ?_)
  obtain ⟨th₀, hth₀, hid₀, -, hst₀, -⟩ := hp.thread i th hth
  obtain ⟨d, hd, hsd⟩ := hsucc
  obtain ⟨d₀, hd₀, hsd₀ | hsd₀, -⟩ := hp.info _ d hd
  · have hns := hs (hp.isStopCallback ▸ hflag) i hi th₀ hth₀ (hst₀ ▸ hinit)
    exact absurd ⟨d₀, hid₀ ▸ hinfo ▸ hd₀, hsd₀.symm.trans hsd⟩ hns
  · exact absurd (hsd₀.symm.trans hsd) (by decide)

/-! ### Runs -/

def SparesSuccess (s : ServiceState) : ServiceOp → Prop
  | .pause _ => ∀ id, ¬ s.Succeeded id
  | .netChangeToPause => s.isStopCallback = false → s.PausesNoSuccess
  | .report _ r => s.isStopCallback = false → s.Succeeded r.info.downloadId → r.info.status = .success
  | _ => True

theorem keepsSuccess_step {op : ServiceOp} (hg : s.SparesSuccess op) (h : s.step op s') : KeepsSuccess s s' := by
  cases op with
  | start => obtain rfl := h; exact keepsSuccess_start _
  | pause ended => exact .of_none hg
  | resume netType => obtain rfl := h; exact keepsSuccess_resume netType
  | netChangeToPause => obtain rfl := h; exact keepsSuccess_netChangeToPause hg
  | netChangeToStart => obtain rfl := h; exact keepsSuccess_netChangeToStart
  | recover => obtain rfl := h; exact keepsSuccess_recover
  | report i r => obtain ⟨th, -, -, rfl⟩ := h; exact .callback hg
  | thread i th =>
    obtain ⟨th₀, hth, hinfo, rfl⟩ := h
    exact .setThread hth (congrArg DownloadInfo.downloadId hinfo)
  | outside fileSize now netType => obtain rfl := h; exact .of_eq rfl rfl

/-- Along every run in which no `Pause` meets a succeeded download and no report takes one back,
succeeded downloads stay so and no thread is started for them. -/
theorem run_keepsSuccess {ops : List ServiceOp} (h : (lts.guard SparesSuccess).Run s ops s') :
    KeepsSuccess s s' :=
  h.relates (I := fun _ => True) (fun _ _ _ _ _ => trivial) KeepsSuccess.refl (fun _ _ _ => .trans)
    (fun _ _ _ _ (hstep : _ ∧ _) => keepsSuccess_step hstep.1 hstep.2) trivial

/-! ### A pause that takes a finished package back -/

def halfDone : ServiceState := (twoPackages.start {}).2.callbackUpdateDownloadProgress (successReport "v1").info

def pausedAndResumed : ServiceState := ((halfDone.pause fun _ => true).2.resume .wifi).2

/-- `Pause` and `Resume` start the download of the finished package again. -/
theorem pause_takes_success_back :
    lts.Run twoPackages [.start, .report 0 (successReport "v1")] halfDone ∧
    lts.Run halfDone [.pause fun _ => true, .resume .wifi] pausedAndResumed ∧
    ¬ KeepsSuccess halfDone pausedAndResumed := by
  refine ⟨.cons rfl (.single ⟨_, rfl, rfl, rfl⟩), .cons rfl (.single rfl), fun h => ?_⟩
  have hs : halfDone.Succeeded "v1" := ⟨_, rfl, by decide⟩
  exact absurd (h.starts "v1" hs) (by decide)

/-- Resuming without a pause, after the other package is done as well. -/
theorem run_keepsSuccess_resume :
    KeepsSuccess halfDone ((halfDone.callbackUpdateDownloadProgress (successReport "v2").info).resume .wifi).2 :=
  have hrun : (lts.guard SparesSuccess).Run halfDone [.report 1 (successReport "v2"), .resume .wifi] _ :=
    .cons ⟨fun _ _ => rfl, _, rfl, rfl, rfl⟩ (.single ⟨trivial, rfl⟩)
  run_keepsSuccess hrun

end ServiceState
end UpdateService
