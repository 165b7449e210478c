import UpdateService.StartSystem
import UpdateService.TaskRun
import UpdateService.Proofs.TerminalStatus

/-!
# Terminal reports during a `Start`

`Founded`: a status that the records of the task bear out. As long as no completed record is written
again, a terminal status stays founded, so that a task has one terminal status only; every place where
a status is kept holds a founded one. A terminal status that has been computed is in a callback, in
the queue or in `calls` (`unlost`), and the queue passes it on when the task is in the map. It is lost
when its turn comes before `Start` has inserted the task (`ReportsAfterInsert`).
-/

namespace UpdateService
namespace ServiceState
variable {v v' v'' : ServiceState} {ids : List String} {st : DownloadStatus} {info : DownloadCallbackInfo} {id : String}

/-- The records keep their statuses, except that one which is not completed may get the status of a
report. -/
structure StatusStep (v v' : ServiceState) : Prop where
  keys : v'.infoMap.keys = v.infoMap.keys
  record : ∀ id d', v'.infoMap.find? id = some d' → ∃ d, v.infoMap.find? id = some d ∧
    d'.isIgnoredFail = d.isIgnoredFail ∧
      (d'.status = d.status ∨ d.isCompleted = false ∧ d'.status ≠ .pause ∧ d'.status ≠ .cancel)

theorem StatusStep.of_infoMap (h : v'.infoMap = v.infoMap) : StatusStep v v' :=
  ⟨by rw [h], fun id d' hd' => ⟨d', h ▸ hd', rfl, .inl rfl⟩⟩

theorem StatusStep.modifyInfo {f : DownloadInfo → DownloadInfo} (hf : ∀ d, (f d).downloadId = d.downloadId)
    (h : ∀ d, v.infoMap.find? id = some d → (f d).isIgnoredFail = d.isIgnoredFail ∧
      ((f d).status = d.status ∨ d.isCompleted = false ∧ (f d).status ≠ .pause ∧ (f d).status ≠ .cancel))
    (hv : v'.infoMap = (v.modifyInfo id f hf).infoMap) : StatusStep v v' := by
  refine ⟨by simp [hv, ServiceState.modifyInfo], fun id' d' hd' => ?_⟩
  rw [hv, find?_modifyInfo] at hd'
  obtain ⟨d, hd, rfl⟩ := Option.map_eq_some_iff.1 hd'
  refine ⟨d, hd, ?_⟩
  split
  · rename_i hid
    exact h d (hid ▸ hd)
  · exact ⟨rfl, .inl rfl⟩

theorem StatusStep.handleRetry (id : String) (endReason : DownloadEndReason) :
    StatusStep v (v.handleRetry id endReason).2 := by
  cases hd : v.infoMap.find? id with
  | none => simp only [ServiceState.handleRetry, hd]; exact .of_infoMap rfl
  | some d =>
    obtain ⟨v₁, hr, hv₁, -⟩ := handleRetry_eq endReason hd
    rw [hr]
    refine .modifyInfo _ (fun d _ => ?_) (congrArg DownloadService.infoMap hv₁ :)
    unfold DownloadInfo.switchUrl
    split <;> exact ⟨rfl, .inl rfl⟩

theorem StatusStep.updateDownloadInfo (h : ∀ d, v.infoMap.find? info.downloadId = some d → d.isCompleted = false)
    (hp : info.status ≠ .pause) (hc : info.status ≠ .cancel) : StatusStep v (v.updateDownloadInfo info) := by
  obtain ⟨-, he⟩ | ⟨d, hd, -, he, -⟩ := updateDownloadInfo_cases info v
  · rw [he]; exact .of_infoMap rfl
  · exact .modifyInfo (f := fun d => d.updateDownloadInfo info) (DownloadInfo.updateDownloadInfo_downloadId info)
      (fun d hd => ⟨rfl, .inr ⟨h d hd, hp, hc⟩⟩) (congrArg DownloadService.infoMap he :)

theorem statusStep_advance {f : Flight} (h : f.pc ≠ .update) :
    StatusStep v (f.advance v).2 ∧ ∀ f', (f.advance v).1 = some f' → f'.info = f.info := by
  unfold Flight.advance
  split
  · refine ⟨?_, fun f' hf' => by rw [← Option.some.inj hf']⟩
    dsimp only
    split <;> exact .of_infoMap rfl
  · split
    · exact ⟨.of_infoMap rfl, fun f' hf' => by cases hf'⟩
    split
    · exact ⟨.of_infoMap rfl, fun f' hf' => by rw [← Option.some.inj hf']⟩
    split <;> exact ⟨.of_infoMap rfl, fun f' hf' => by rw [← Option.some.inj hf']⟩
  · have hr := StatusStep.handleRetry (v := v) f.info.downloadId f.info.endReason
    split <;> rename_i he <;> rw [he] at hr
    · exact ⟨hr, fun f' hf' => by cases hf'⟩
    · exact ⟨hr, fun f' hf' => by rw [← Option.some.inj hf']⟩
  · contradiction

structure Founded (ids : List String) (v : ServiceState) (st : DownloadStatus) : Prop where
  fail : st = .fail → ∃ id ∈ ids, ∃ d, v.infoMap.find? id = some d ∧ d.getTaskStatus = .fail
  success : st = .success → ∀ id ∈ ids, ∀ d, v.infoMap.find? id = some d → d.getTaskStatus = .success
  ne_pause : st ≠ .pause
  ne_cancel : st ≠ .cancel

theorem getTaskStatus_congr {d d' : DownloadInfo} (hi : d'.isIgnoredFail = d.isIgnoredFail)
    (hs : d'.status = d.status) :
    d'.getTaskStatus = d.getTaskStatus := by
  unfold DownloadInfo.getTaskStatus
  rw [hi, hs]

theorem find?_of_keys (h : v'.infoMap.keys = v.infoMap.keys) {d : DownloadInfo} (hd : v.infoMap.find? id = some d) :
    ∃ d', v'.infoMap.find? id = some d' := by
  cases hd' : v'.infoMap.find? id with
  | some d' => exact ⟨d', rfl⟩
  | none =>
    rw [KeyedList.find?_eq_none, h, ← KeyedList.find?_eq_none, hd] at hd'
    cases hd'

theorem Founded.step (hs : StatusStep v v') (h : Founded ids v st) : Founded ids v' st := by
  refine ⟨fun hst => ?_, fun hst id hid d' hd' => ?_, h.ne_pause, h.ne_cancel⟩
  · obtain ⟨id, hid, d, hd, hfail⟩ := h.fail hst
    obtain ⟨d', hd'⟩ := find?_of_keys hs.keys hd
    obtain ⟨d₀, hd₀, hi, hcases⟩ := hs.record id d' hd'
    obtain rfl := Option.some.inj (hd.symm.trans hd₀)
    refine ⟨id, hid, d', hd', ?_⟩
    rcases hcases with hsame | ⟨hc, -⟩
    · rw [getTaskStatus_congr hi hsame, hfail]
    · rw [DownloadInfo.isCompleted_iff.2 (.inr hfail)] at hc; cases hc
  · obtain ⟨d, hd, hi, hcases⟩ := hs.record id d' hd'
    have hsucc := h.success hst id hid d hd
    rcases hcases with hsame | ⟨hc, -⟩
    · rw [getTaskStatus_congr hi hsame, hsucc]
    · rw [DownloadInfo.isCompleted_iff.2 (.inl hsucc)] at hc; cases hc

theorem Founded.unique {st' : DownloadStatus} (h : Founded ids v st) (h' : Founded ids v st')
    (ht : st.isTerminal = true)
    (ht' : st'.isTerminal = true) : st = st' := by
  have hcases : ∀ {st : DownloadStatus}, st.isTerminal = true → st ≠ .cancel → st = .fail ∨ st = .success := by
    intro st
    cases st <;> simp [DownloadStatus.isTerminal]
  have hne : ∀ {st st' : DownloadStatus}, Founded ids v st → Founded ids v st' → st = .fail → st' ≠ .success := by
    intro st st' h h' hf hs
    obtain ⟨id, hid, d, hd, hfail⟩ := h.fail hf
    rw [h'.success hs id hid d hd] at hfail; cases hfail
  rcases hcases ht h.ne_cancel with hf | hs <;> rcases hcases ht' h'.ne_cancel with hf' | hs'
  exacts [hf.trans hf'.symm, absurd hs' (hne h h' hf), absurd hs (hne h' h hf'), hs.trans hs'.symm]

end ServiceState

namespace StartSystem
open ServiceState
variable {s s' : StartSystem} {op : StartOp} {v : ServiceState} {cs : List Callback} {c : Callback} {k : Nat}

/-- What can be said of a callback by where it is: its report is one of a thread, and a status it has
computed is founded. -/
def PcOk (ids : List String) (v : ServiceState) : CallbackPc → Prop
  | .service f => f.info.status ≠ .pause ∧ f.info.status ≠ .cancel
  | .compute => True
  | .report p => Founded ids v p.taskStatus
  | .call _ _ => False

def Passed (s : StartSystem) (st : DownloadStatus) : Prop :=
  (∃ p ∈ s.queue, p.taskStatus = st) ∨ ∃ call ∈ s.calls, call.2.taskStatus = st

def Absent (s : StartSystem) : Prop := s.downloadTaskMap.find? s.task.taskId = none

def terminalCalls (s : StartSystem) : List (String × ProgressInfo) := s.calls.filter fun call => call.2.taskStatus.isTerminal

structure StartInv (s : StartSystem) : Prop where
  launching : s.phase = .launch → s.service.threads = [] ∧ s.callbacks = [] ∧ s.queue = []
  callback : s.phase ≠ .launch → s.task.callback = some true
  enabled : s.task.isStopDownloadingCallback = false
  nonempty : s.task.downloadIds ≠ []
  found : ∀ id ∈ s.task.downloadIds, ∃ d, s.service.infoMap.find? id = some d
  size : s.task.taskProgressProcessor.totalInfoSize = s.task.downloadIds.length
  records : ∀ id d, s.service.infoMap.find? id = some d → d.status ≠ .pause ∧ d.status ≠ .cancel
  callbacks : ∀ c ∈ s.callbacks, PcOk s.task.downloadIds s.service c.pc
  processor : Founded s.task.downloadIds s.service s.task.taskProgressProcessor.status
  passed : ∀ st, s.Passed st → Founded s.task.downloadIds s.service st
  recorded : s.task.status.isTerminal = true → s.Passed s.task.status
  unlost : ∀ st ∈ s.computed, (∃ c ∈ s.callbacks, ∃ p, c.pc = .report p ∧ p.taskStatus = st) ∨ s.Passed st
  terminal : ∀ st ∈ s.computed, st.isTerminal = true
  early : s.phase ≠ .done → s.Absent ∧ s.terminalCalls = []
  late : s.phase = .done → (s.terminalCalls = [] ∧ ¬ s.Absent) ∨ s.Absent ∧ s.terminalCalls.length = 1

theorem PcOk.step {ids : List String} {v' : ServiceState} {pc : CallbackPc} (hv : StatusStep v v') (h : PcOk ids v pc) :
    PcOk ids v' pc := by
  cases pc with
  | service f => exact h
  | compute => trivial
  | report p => exact Founded.step hv h
  | call p business => exact h

theorem mem_set_of_ne {α : Type} {l : List α} {a b c : α} {k : Nat} (hc : l[k]? = some c) (ha : a ∈ l) :
    a ∈ l.set k b ∨ a = c := by
  obtain ⟨i, hi⟩ := List.mem_iff_getElem?.1 ha
  by_cases hk : k = i
  · subst hk
    exact .inr (Option.some.inj (hi.symm.trans hc))
  · exact .inl (List.mem_of_getElem? ((List.getElem?_set_ne hk).trans hi))

theorem mem_eraseIdx_of_ne {α : Type} {l : List α} {a c : α} {k : Nat} (hc : l[k]? = some c) (ha : a ∈ l) :
    a ∈ l.eraseIdx k ∨ a = c := by
  obtain ⟨i, hi⟩ := List.mem_iff_getElem?.1 ha
  by_cases hk : i = k
  · subst hk
    exact .inr (Option.some.inj (hi.symm.trans hc))
  · exact .inl (List.mem_eraseIdx_iff_getElem?.2 ⟨i, hk, hi⟩)

namespace StartInv

theorem onSection (cs : List Callback) (h : StartInv s) (hv : StatusStep s.service v)
    (hlaunch : s.phase = .launch → v.threads = [] ∧ cs = [])
    (hcs : ∀ c ∈ cs, c ∈ s.callbacks ∨ PcOk s.task.downloadIds v c.pc)
    (hkeep : ∀ c ∈ s.callbacks, c ∈ cs ∨ ∀ p, c.pc ≠ .report p) : StartInv { s.setService v with callbacks := cs } where
  launching := fun hl => ⟨(hlaunch hl).1, (hlaunch hl).2, (h.launching hl).2.2⟩
  callback := h.callback
  enabled := h.enabled
  nonempty := h.nonempty
  found := fun id hid => by
    obtain ⟨d, hd⟩ := h.found id hid
    exact find?_of_keys hv.keys hd
  size := h.size
  records := fun id d' hd' => by
    obtain ⟨d, hd, -, hs | ⟨-, hs⟩⟩ := hv.record id d' hd'
    · rw [hs]; exact h.records id d hd
    · exact hs
  callbacks := fun c hc => (hcs c hc).elim (fun hc => (h.callbacks c hc).step hv) fun hc => hc
  processor := h.processor.step hv
  passed := fun st hst => (h.passed st hst).step hv
  recorded := h.recorded
  unlost := fun st hst => by
    refine (h.unlost st hst).imp_left fun ⟨c, hc, p, hpc, hp⟩ => ⟨c, ?_, p, hpc, hp⟩
    exact (hkeep c hc).resolve_right fun hne => hne p hpc
  terminal := h.terminal
  early := h.early
  late := h.late

theorem founded_update (h : StartInv s) :
    Founded s.task.downloadIds s.service (s.task.taskProgressProcessor.update s.infos).status := by
  have hnone : ∀ st, st = .pause ∨ st = .cancel → ¬ ∃ d ∈ s.infos, d.getTaskStatus = st := by
    rintro st hst ⟨d, hd, rfl⟩
    obtain ⟨id, -, hd⟩ := DownloadTask.mem_infos.1 hd
    have := h.records id d hd
    unfold DownloadInfo.getTaskStatus at hst
    split at hst
    · rcases hst with hst | hst <;> cases hst
    · exact hst.elim this.1 this.2
  have hplain : ∀ st, st ≠ .fail → st ≠ .success → st ≠ .pause → st ≠ .cancel →
    Founded s.task.downloadIds s.service st :=
    fun st h₁ h₂ h₃ h₄ => ⟨fun hf => absurd hf h₁, fun hs => absurd hs h₂, h₃, h₄⟩
  have hlength : s.infos.length = s.task.downloadIds.length := DownloadTask.length_infos h.found
  rw [DownloadTaskProgressProcessor.status_update (h.size.trans hlength.symm)]
  split
  · exact h.processor
  split
  · rename_i hs
    refine ⟨fun hf => (by cases hf), fun _ id hid d hd => hs d (DownloadTask.mem_infos.2 ⟨id, hid, hd⟩),
      by decide, by decide⟩
  split
  · exact hplain _ (by decide) (by decide) (by decide) (by decide)
  split
  · rename_i hp
    exact absurd hp (hnone _ (.inl rfl))
  split
  · exact hplain _ (by decide) (by decide) (by decide) (by decide)
  split
  · rename_i hc
    exact absurd hc (hnone _ (.inr rfl))
  split
  · rename_i hf
    obtain ⟨d, hd, hf⟩ := hf
    obtain ⟨id, hid, hd⟩ := DownloadTask.mem_infos.1 hd
    exact ⟨fun _ => ⟨id, hid, d, hd, hf⟩, fun hs => (by cases hs), by decide, by decide⟩
  · exact hplain _ (by decide) (by decide) (by decide) (by decide)

theorem onProgress (h : StartInv s) : StartInv { s with task := (s.task.getTaskProgress s.infos).1 } :=
  { h with
    size := DownloadTaskProgressProcessor.totalInfoSize_update.trans h.size
    processor := h.founded_update }

theorem compute (h : StartInv s) (hlaunch : s.phase ≠ .launch) (hc : s.callbacks[k]? = some c) (hpc : c.pc = .compute) :
    StartInv (s.advance k c) := by
  have hp := h.onProgress
  unfold StartSystem.advance runCallback
  rw [hpc]
  refine { hp with launching := fun hl => absurd hl hlaunch, callbacks := fun c' hc' => ?_,
                   unlost := fun st hst => ?_, terminal := fun st hst => ?_ }
  · rcases List.mem_or_eq_of_mem_set hc' with hc' | rfl
    exacts [h.callbacks c' hc', h.founded_update]
  · have hnew : ⟨c.thread, .report (s.task.getTaskProgress s.infos).2⟩ ∈
        s.callbacks.set k ⟨c.thread, .report (s.task.getTaskProgress s.infos).2⟩ :=
      List.mem_set (List.getElem?_eq_some_iff.1 hc).1 _
    have hold : st ∈ s.computed → (∃ c' ∈ s.callbacks.set k ⟨c.thread, .report (s.task.getTaskProgress s.infos).2⟩,
        ∃ p, c'.pc = .report p ∧ p.taskStatus = st) ∨ s.Passed st := fun hst => by
      refine (h.unlost st hst).imp_left fun ⟨c', hc', p, hp', hps⟩ => ⟨c', ?_, p, hp', hps⟩
      refine (mem_set_of_ne hc hc').resolve_right fun he => ?_
      rw [he, hpc] at hp'
      cases hp'
    dsimp only at hst
    split at hst
    · rcases List.mem_append.1 hst with hst | hst
      · exact hold hst
      · exact .inl ⟨_, hnew, _, rfl, (List.mem_singleton.1 hst).symm⟩
    · exact hold hst
  · dsimp only at hst
    split at hst
    · rename_i ht
      rcases List.mem_append.1 hst with hst | hst
      · exact h.terminal st hst
      · rw [List.mem_singleton.1 hst]; exact ht
    · exact h.terminal st hst

theorem report {p : ProgressInfo} (h : StartInv s) (hlaunch : s.phase ≠ .launch) (hc : s.callbacks[k]? = some c)
    (hpc : c.pc = .report p) : StartInv (s.advance k c) := by
  have hfound : Founded s.task.downloadIds s.service p.taskStatus := by
    have := h.callbacks c (List.mem_of_getElem? hc)
    rwa [hpc] at this
  have hsync : p.isSyncCallback = false := by
    simp [ProgressInfo.isSyncCallback, hfound.ne_pause, hfound.ne_cancel]
  have hkeep : ∀ c' ∈ s.callbacks, ∀ p', c'.pc = .report p' → c' ∈ s.callbacks.eraseIdx k ∨ p' = p := by
    intro c' hc' p' hp'
    refine (mem_eraseIdx_of_ne hc hc').imp_right fun he => ?_
    rw [he, hpc] at hp'
    cases hp'; rfl
  unfold StartSystem.advance runCallback
  rw [hpc]
  obtain ⟨he, hs⟩ | ⟨he, -⟩ := s.task.reportProgress_cases p
  · -- the status of the progress is recorded, and so it has been passed on before
    have hlost : ∀ st ∈ s.computed, (∃ c' ∈ s.callbacks.eraseIdx k, ∃ p,
      c'.pc = .report p ∧ p.taskStatus = st) ∨ s.Passed st := by
      intro st hst
      rcases h.unlost st hst with ⟨c', hc', p', hp', hps⟩ | hpassed
      · rcases hkeep c' hc' p' hp' with hc' | rfl
        · exact .inl ⟨c', hc', p', hp', hps⟩
        · have ht := h.terminal st hst
          rw [← hps, hs] at ht ⊢
          exact .inr (h.recorded ht)
      · exact .inr hpassed
    rcases he with he | he <;> simp only [he]
    · exact { h with
              launching := fun hl => absurd hl hlaunch
              callbacks := fun c' hc' => h.callbacks c' (List.mem_of_mem_eraseIdx hc')
              unlost := hlost }
    · exact { h with
              launching := fun hl => absurd hl hlaunch
              callbacks := fun c' hc' => h.callbacks c' (List.mem_of_mem_eraseIdx hc')
              recorded := fun ht => by
                change p.taskStatus.isTerminal = true at ht
                change s.Passed p.taskStatus
                rw [hs] at ht ⊢
                exact h.recorded ht
              unlost := hlost }
  · have hpassed : ∀ st, Passed { s with queue := s.queue ++ [p] } st ↔ s.Passed st ∨ p.taskStatus = st := by
      intro st
      simp only [Passed, List.mem_append, List.mem_singleton, or_and_right, exists_or, exists_eq_left]
      exact or_right_comm
    simp only [he, hsync]
    refine { h with
             launching := fun hl => absurd hl hlaunch
             callbacks := fun c' hc' => h.callbacks c' (List.mem_of_mem_eraseIdx hc')
             passed := fun st hst => ?_
             recorded := fun ht => (hpassed _).2 (.inr rfl)
             unlost := fun st hst => ?_ }
    · rcases (hpassed st).1 hst with hst | rfl
      exacts [h.passed st hst, hfound]
    · rcases h.unlost st hst with ⟨c', hc', p', hp', hps⟩ | hst
      · rcases hkeep c' hc' p' hp' with hc' | rfl
        exacts [.inl ⟨c', hc', p', hp', hps⟩, .inr ((hpassed st).2 (.inr hps))]
      · exact .inr ((hpassed st).2 (.inl hst))

/-- A turn of the queue, with a terminal report only after the insertion. -/
theorem deliver {p : ProgressInfo} {queue : List ProgressInfo} (h : StartInv s) (hq : s.queue = p :: queue)
    (hg : p.taskStatus.isTerminal = true → s.phase = .done) : StartInv (s.deliver p queue) := by
  have hlaunch : s.phase ≠ .launch := fun hl => by
    rw [(h.launching hl).2.2] at hq; cases hq
  have hp := h.onProgress
  have hcur : (s.task.getTaskProgress s.infos).2.isSyncCallback = false := by
    have hf := h.founded_update
    simp only [ProgressInfo.isSyncCallback, Bool.or_eq_false_iff, decide_eq_false_iff_not]
    exact ⟨hf.ne_cancel, hf.ne_pause⟩
  have hcall : (s.task.getTaskProgress s.infos).1.callbackProgress p = some (.call p true) := by
    unfold DownloadTask.callbackProgress DownloadTask.getTaskProgress
    simp [h.callback hlaunch, h.enabled]
  have he : s.deliver p queue = StartSystem.dealCallBack p true { s with task := (s.task.getTaskProgress s.infos).1, queue } := by
    have hcb : s.task.callbackTask p = ((s.task.getTaskProgress s.infos).1, some (.call p true)) := by
      unfold DownloadTask.callbackTask
      rw [show s.task.infos s.task.service.infoMap = s.infos from rfl]
      simp [hcur, hcall]
    simp only [StartSystem.deliver, hcb]
  have hpassed : ∀ st, s.Passed st ↔ (p.taskStatus = st ∨ ∃ p' ∈ queue, p'.taskStatus = st) ∨
      ∃ call ∈ s.calls, call.2.taskStatus = st := fun st => by
    unfold Passed
    rw [hq]
    simp [or_assoc]
  rw [he]
  unfold StartSystem.dealCallBack TaskRegistry.dealCallBack
  cases hm : s.downloadTaskMap.find? s.task.taskId with
  | none =>
    -- the report is dropped, and a terminal status has been passed on before
    have hdrop : ∀ st, st.isTerminal = true → s.Passed st →
        (∃ p' ∈ queue, p'.taskStatus = st) ∨ ∃ call ∈ s.calls, call.2.taskStatus = st := by
      intro st ht hst
      rcases (hpassed st).1 hst with (rfl | hst) | hst
      · obtain ⟨-, habs⟩ | ⟨-, hlen⟩ := h.late (hg ht)
        · exact absurd hm habs
        · obtain ⟨call, hcall⟩ := List.length_eq_one_iff.1 hlen
          have hmem : call ∈ s.terminalCalls := by rw [hcall]; simp
          obtain ⟨hmem, htc⟩ := List.mem_filter.1 hmem
          refine .inr ⟨call, hmem, ?_⟩
          exact (h.passed _ (.inr ⟨call, hmem, rfl⟩)).unique (h.passed _ hst) htc ht
      · exact .inl hst
      · exact .inr hst
    rw [show (s.task.getTaskProgress s.infos).1.taskId = s.task.taskId from rfl, hm]
    exact { hp with
            launching := fun hl => absurd hl hlaunch
            passed := fun st hst => h.passed st ((hpassed st).2 (hst.imp_left .inr))
            recorded := fun ht => hdrop _ ht (h.recorded ht)
            unlost := fun st hst => (h.unlost st hst).imp_right (hdrop st (h.terminal st hst)) }
  | some e =>
    have hdone : s.phase = .done := by
      by_contra hne
      rw [(h.early hne).1] at hm; cases hm
    have hlate := (h.late hdone).resolve_right fun hl => by rw [hl.1] at hm; cases hm
    have hmove : ∀ st, (∃ p' ∈ queue, p'.taskStatus = st) ∨
        (∃ call ∈ s.calls ++ [(s.task.taskId, p)], call.2.taskStatus = st) ↔ s.Passed st := fun st => by
      rw [hpassed]
      simp only [List.mem_append, List.mem_singleton, or_and_right, exists_or, exists_eq_left]
      exact or_assoc.symm.trans (or_comm.trans or_assoc.symm)
    rw [show (s.task.getTaskProgress s.infos).1.taskId = s.task.taskId from rfl, hm]
    refine { hp with
             launching := fun hl => absurd hl hlaunch
             passed := fun st hst => h.passed st ((hmove st).1 hst)
             recorded := fun ht => (hmove _).2 (h.recorded ht)
             unlost := fun st hst => (h.unlost st hst).imp_right (hmove st).2
             early := fun hne => absurd hdone hne
             late := fun _ => ?_ }
    have hfilter : (s.calls ++ [(s.task.taskId, p)]).filter (fun call => call.2.taskStatus.isTerminal) =
        if p.taskStatus.isTerminal then [(s.task.taskId, p)] else [] := by
      have hnil : s.calls.filter (fun call => call.2.taskStatus.isTerminal) = [] := hlate.1
      rw [List.filter_append, hnil, List.nil_append, List.filter_singleton]
      cases p.taskStatus.isTerminal <;> rfl
    cases ht : p.taskStatus.isTerminal with
    | true =>
      refine .inr ⟨?_, ?_⟩
      · simp [Absent, KeyedList.find?_erase, DownloadTask.getTaskProgress]
      · simp [terminalCalls, hfilter, ht]
    | false =>
      refine .inl ⟨?_, ?_⟩
      · simp [terminalCalls, hfilter, ht]
      · exact hlate.2

theorem service {f : Flight} (h : StartInv s) (hlaunch : s.phase ≠ .launch) (hc : s.callbacks[k]? = some c)
    (hpc : c.pc = .service f) (hg : f.pc = .update → ∀ d, s.service.infoMap.find? f.info.downloadId = some d →
    d.isCompleted = false) :
    StartInv (s.advance k c) := by
  have hok : f.info.status ≠ .pause ∧ f.info.status ≠ .cancel := by
    have := h.callbacks c (List.mem_of_getElem? hc)
    rwa [hpc] at this
  -- what becomes of the callback
  have hnext : ∀ (v : ServiceState) (next : Option CallbackPc), StatusStep s.service v →
      (∀ pc, next = some pc → PcOk s.task.downloadIds v pc) → s.runCallback c.pc = (next, s.setService v) →
      StartInv (s.advance k c) := by
    intro v next hv hpcok he
    have hne : ∀ c' ∈ s.callbacks, ∀ cs : List Callback, (c' ∈ cs ∨ c' = c) → c' ∈ cs ∨ ∀ p, c'.pc ≠ .report p := by
      rintro c' - cs hc'
      refine hc'.imp_right ?_
      rintro rfl p hp
      rw [hpc] at hp; cases hp
    unfold StartSystem.advance
    rw [he]
    cases next with
    | none =>
      exact h.onSection _ hv (fun hl => absurd hl hlaunch) (fun c' hc' => .inl (List.mem_of_mem_eraseIdx hc'))
        fun c' hc' => hne c' hc' _ (mem_eraseIdx_of_ne hc hc')
    | some pc =>
      refine h.onSection _ hv (fun hl => absurd hl hlaunch) (fun c' hc' => ?_)
        fun c' hc' => hne c' hc' _ (mem_set_of_ne hc hc')
      rcases List.mem_or_eq_of_mem_set hc' with hc' | rfl
      exacts [.inl hc', .inr (hpcok pc rfl)]
  by_cases hu : f.pc = .update
  · refine hnext _ (if (s.service.updateDownloadInfo f.info).onDownloadCallback then some .compute else none)
      (.updateDownloadInfo (hg hu) hok.1 hok.2) ?_ (by rw [hpc]; simp only [runCallback, if_pos hu])
    intro pc hpc'
    split at hpc'
    · rw [← Option.some.inj hpc']; trivial
    · cases hpc'
  · obtain ⟨hv, hinfo⟩ := statusStep_advance hu (v := s.service)
    refine hnext _ ((f.advance s.service).1.map .service) hv ?_ (by rw [hpc]; simp only [runCallback, if_neg hu])
    intro pc hpc'
    obtain ⟨f', hf', rfl⟩ := Option.map_eq_some_iff.1 hpc'
    change f'.info.status ≠ .pause ∧ f'.info.status ≠ .cancel
    rw [hinfo f' hf']
    exact hok

theorem not_launch (h : StartInv s) (hc : s.callbacks[k]? = some c) : s.phase ≠ .launch := fun hl => by
  rw [(h.launching hl).2.1] at hc; cases hc

theorem setThread {i : Nat} (h : StartInv s) {th : DownloadThread} (hth : s.service.threads[i]? = some th)
    (th' : DownloadThread) :
    StartInv (s.setThread i th') := by
  refine h.onSection s.callbacks (.of_infoMap rfl) (fun hl => ?_) (fun c hc => .inl hc) fun c hc => .inl hc
  rw [(h.launching hl).1] at hth; cases hth

theorem launch (h : StartInv s) (hph : s.phase = .launch) : StartInv s.launch := by
  have hinfo : (s.service.start {}).2.infoMap = s.service.infoMap := (ServiceState.inserts_start {}).infoMap
  have hv : StatusStep s.service (s.service.start {}).2 := .of_infoMap hinfo
  obtain ⟨-, hcs, hq⟩ := h.launching hph
  have h₁ : Absent s ∧ s.terminalCalls = [] := h.early (by rw [hph]; decide)
  exact {
    launching := fun hl => by cases hl
    callback := fun _ => rfl
    enabled := h.enabled
    nonempty := h.nonempty
    found := fun id hid => by
      obtain ⟨d, hd⟩ := h.found id hid
      exact find?_of_keys hv.keys hd
    size := h.size
    records := fun id d hd => h.records id d (hinfo ▸ hd)
    callbacks := fun c hc => (h.callbacks c hc).step hv
    processor := h.processor.step hv
    passed := fun st hst => (h.passed st hst).step hv
    recorded := h.recorded
    unlost := h.unlost
    terminal := h.terminal
    early := fun _ => h₁
    late := fun hl => by cases hl }

end StartInv

/-- The steps that keep terminal reports: none comes to its turn in the queue before `Start` has put the
task in the map, and no callback writes the record of a download that is completed. -/
def ReportsAfterInsert (s : StartSystem) : StartOp → Prop
  | .advance k => ∀ c f, s.callbacks[k]? = some c → c.pc = .service f → f.pc = .update →
      ∀ d, s.service.infoMap.find? f.info.downloadId = some d → d.isCompleted = false
  | .deliver => ∀ p queue, s.queue = p :: queue → p.taskStatus.isTerminal = true → s.phase = .done
  | _ => True

theorem StartInv.step (hg : s.ReportsAfterInsert op) (h : Stepped s op s') (hi : StartInv s) : StartInv s' := by
  cases h with
  | launch hph => exact hi.launch hph
  | enable error hph =>
    have hne : s.phase ≠ .launch ∧ s.phase ≠ .done := by rw [hph]; exact ⟨by simp, by simp⟩
    exact { hi with
            launching := fun hl => by cases hl
            callback := fun _ => hi.callback hne.1
            enabled := rfl
            early := fun _ => hi.early hne.2
            late := fun hl => by cases hl }
  | fail error hph he =>
    have hne : s.phase ≠ .launch ∧ s.phase ≠ .done := by rw [hph]; exact ⟨by simp, by simp⟩
    exact { hi with
            launching := fun hl => by cases hl
            callback := fun _ => hi.callback hne.1
            early := fun _ => hi.early hne.2
            late := fun hl => by cases hl }
  | insert error hph he =>
    have hne : s.phase ≠ .launch ∧ s.phase ≠ .done := by rw [hph]; exact ⟨by simp, by simp⟩
    exact { hi with
            launching := fun hl => by cases hl
            callback := fun _ => hi.callback hne.1
            early := fun hl => absurd rfl hl
            late := fun _ => .inl ⟨(hi.early hne.2).2, by simp [Absent, KeyedList.find?_insert]⟩ }
  | threadBegin i th hth => exact hi.setThread hth _
  | threadEnd i th hth => exact hi.setThread (Option.filter_eq_some_iff.1 hth).1 _
  | report i th r hth =>
    have hth := (Option.filter_eq_some_iff.1 hth).1
    have hrep : r.info.status ≠ .pause ∧ r.info.status ≠ .cancel := by
      have := r.isThreadReport
      constructor <;> intro he <;> rw [he] at this <;> cases this
    have h₁ : StartInv (if r.isLast then s.setThread i { th with phase := .finished } else s) := by
      split
      exacts [hi.setThread hth _, hi]
    have hlaunch : (if r.isLast then s.setThread i { th with phase := .finished } else s).phase ≠ .launch := by
      intro hl
      have hl' : s.phase = .launch := by
        split at hl <;> exact hl
      rw [(hi.launching hl').1] at hth; cases hth
    unfold StartSystem.report
    dsimp only
    generalize (if r.isLast then s.setThread i { th with phase := .finished } else s) = s₁ at h₁ hlaunch
    split
    · exact h₁
    · refine h₁.onSection _ (v := s₁.service) (.of_infoMap rfl) (fun hl => absurd hl hlaunch) (fun c hc => ?_)
        fun c hc => .inl (List.mem_append_left _ hc)
      rcases List.mem_append.1 hc with hc | hc
      · exact .inl hc
      · obtain rfl := List.mem_singleton.1 hc
        exact .inr hrep
  | advance k c hc =>
    have hlaunch := hi.not_launch hc
    cases hpc : c.pc with
    | service f => exact hi.service hlaunch hc hpc (hg c f hc hpc)
    | compute => exact hi.compute hlaunch hc hpc
    | report p => exact hi.report hlaunch hc hpc
    | call p business =>
      have := hi.callbacks c (List.mem_of_getElem? hc)
      rw [hpc] at this
      exact this.elim
  | deliver p queue hq => exact hi.deliver hq (hg p queue hq)
  | outside fileSize now netType =>
    exact hi.onSection (v := { s.service with fileSize, now, netType }) s.callbacks (.of_infoMap rfl)
      (fun hl => ⟨(hi.launching hl).1, (hi.launching hl).2.1⟩) (fun c hc => .inl hc) fun c hc => .inl hc

theorem startInv_ofStart {calculateHashCode : String → String} {downloadInfos : List DownloadInfo}
    {downloadTaskMap : KeyedList (Prod.fst : String × Nat → String)} {outside : Outside} (hne : downloadInfos ≠ [])
    (hinit : ∀ d ∈ downloadInfos, d.status = .init) :
    StartInv (ofStart calculateHashCode downloadInfos downloadTaskMap outside) := by
  let newInfos := DownloadTaskManager.removeDuplicateVersionId downloadInfos
  let infos := newInfos.map (DownloadTask.initInfo (DownloadTaskManager.getTaskId calculateHashCode newInfos) outside.fileSize)
  have hnodup : (infos.map (·.downloadId)).Nodup := by
    rw [List.map_map]
    exact DownloadTaskManager.nodup_removeDuplicateVersionId downloadInfos
  have hallInit : ∀ d ∈ infos, d.status = .init := by
    intro d hd
    obtain ⟨d₀, hd₀, rfl⟩ := List.mem_map.1 hd
    exact hinit d₀ (DownloadTaskManager.mem_of_mem_removeDuplicateVersionId hd₀)
  have hstatus : ((DownloadTaskProgressProcessor.ofInfos infos).update infos).status = .init :=
    DownloadTaskProgressProcessor.status_update_of_allInit rfl hallInit
  have hfind : ∀ id d, (KeyedList.ofList infos : DownloadInfoMap).find? id = some d ↔ d ∈ infos ∧
    d.downloadId = id := fun id d => by
    rw [KeyedList.find?_eq_some, KeyedList.mem_ofList hnodup]
  exact {
    launching := fun _ => ⟨rfl, rfl, rfl⟩
    callback := fun hl => absurd rfl hl
    enabled := rfl
    nonempty := by
      have := DownloadTaskManager.removeDuplicateVersionId_ne_nil hne
      simpa [ofStart, DownloadTask.ofInfos] using this
    found := fun id hid => by
      obtain ⟨d, hd, rfl⟩ := List.mem_map.1 hid
      exact ⟨d, (hfind _ d).2 ⟨hd, rfl⟩⟩
    size := by
      change ((DownloadTaskProgressProcessor.ofInfos infos).update infos).totalInfoSize = (infos.map (·.downloadId)).length
      rw [DownloadTaskProgressProcessor.totalInfoSize_update, List.length_map]
      rfl
    records := fun id d hd => by
      rw [hallInit d ((hfind id d).1 hd).1]
      decide
    callbacks := fun c hc => by cases hc
    processor := by
      change Founded _ _ ((DownloadTaskProgressProcessor.ofInfos infos).update infos).status
      rw [hstatus]
      exact ⟨fun h => (by cases h), fun h => (by cases h), by decide, by decide⟩
    passed := by
      rintro st (⟨p, hp, -⟩ | ⟨call, hcall, -⟩)
      · cases hp
      · cases hcall
    recorded := fun ht => by
      change (DownloadTaskProgressProcessor.update infos (.ofInfos infos)).status.isTerminal = true at ht
      rw [hstatus] at ht; cases ht
    unlost := fun st hst => by cases hst
    terminal := fun st hst => by cases hst
    early := fun _ => ⟨by simp [Absent, ofStart, KeyedList.find?_erase, DownloadTask.ofInfos], rfl⟩
    late := fun hl => by cases hl }

/-! ### Runs -/

theorem calls_step (h : Stepped s op s') : s.calls <+: s'.calls := by
  have hdeal : ∀ (p : ProgressInfo) (b : Bool) (s : StartSystem), s.calls <+: (s.dealCallBack p b).calls := by
    intro p b s
    unfold StartSystem.dealCallBack TaskRegistry.dealCallBack
    split
    · exact List.prefix_rfl
    · dsimp only
      split
      exacts [List.prefix_append _ _, List.prefix_rfl]
  cases h with
  | report i th r hth =>
    unfold StartSystem.report
    dsimp only
    split <;> split <;> exact List.prefix_rfl
  | advance k c hc =>
    have hrun : s.calls <+: (s.runCallback c.pc).2.calls := by
      unfold runCallback
      split
      · split <;> exact List.prefix_rfl
      · exact List.prefix_rfl
      · split <;> exact List.prefix_rfl
      · exact hdeal _ _ s
    unfold StartSystem.advance
    split <;> rename_i he <;> rw [he] at hrun <;> exact hrun
  | deliver p queue hq =>
    unfold StartSystem.deliver
    split
    · exact hdeal _ _ { s with task := _, queue }
    · exact List.prefix_rfl
  | _ => exact List.prefix_rfl

/-- No terminal report is lost: when all callbacks are over and the queue is empty, each terminal status
that has been computed has been passed on once, and once one has been passed on the task is not in the
map any more. -/
structure NoLostReport (s : StartSystem) : Prop where
  reported : s.callbacks = [] → s.queue = [] → ∀ st ∈ s.computed, s.calls.countP (fun call => call.2.taskStatus = st) = 1
  once : s.terminalCalls.length ≤ 1
  gone : s.terminalCalls ≠ [] → ∀ ops s', (lts.guard ReportsAfterInsert).Run s ops s' → s'.Absent

theorem StartInv.length_terminalCalls (h : StartInv s) : s.terminalCalls.length ≤ 1 := by
  by_cases hd : s.phase = .done
  · rcases h.late hd with ⟨hnil, -⟩ | ⟨-, hlen⟩
    · simp [hnil]
    · omega
  · simp [(h.early hd).2]

theorem StartInv.reported (h : StartInv s) (hcs : s.callbacks = []) (hq : s.queue = []) {st : DownloadStatus}
    (hst : st ∈ s.computed) : s.calls.countP (fun call => call.2.taskStatus = st) = 1 := by
  have hpassed : s.Passed st := (h.unlost st hst).resolve_left fun ⟨c, hc, _⟩ => by rw [hcs] at hc; cases hc
  obtain ⟨call, hcall, hs⟩ := hpassed.resolve_left fun ⟨p, hp, _⟩ => by rw [hq] at hp; cases hp
  have hpos : 0 < s.calls.countP (fun call => call.2.taskStatus = st) :=
    List.countP_pos_iff.2 ⟨call, hcall, by simpa using hs⟩
  have hle : s.calls.countP (fun call => call.2.taskStatus = st) ≤ s.terminalCalls.length := by
    rw [terminalCalls, ← List.countP_eq_length_filter]
    refine List.countP_mono_left fun call _ hs => ?_
    rw [decide_eq_true_eq] at hs
    rw [hs]
    exact h.terminal st hst
  have := h.length_terminalCalls
  omega

/-- Along every run of a `Start`, of downloads that are `INIT`, in which terminal reports come to their
turn after the insertion and completed records are left alone, none of them is lost. -/
theorem run_noLostReport (calculateHashCode : String → String) (downloadInfos : List DownloadInfo)
    (downloadTaskMap : KeyedList (Prod.fst : String × Nat → String)) (outside : Outside) {ops : List StartOp}
    (hne : downloadInfos ≠ []) (hinit : ∀ d ∈ downloadInfos, d.status = .init)
    (h : (lts.guard ReportsAfterInsert).Run (ofStart calculateHashCode downloadInfos downloadTaskMap outside) ops s') :
    s'.NoLostReport := by
  have hpres : (lts.guard ReportsAfterInsert).Preserved StartInv :=
    fun _ _ _ (hstep : _ ∧ _) hi => hi.step hstep.1 (stepped hstep.2)
  have hi := h.invariant hpres (startInv_ofStart hne hinit)
  refine ⟨fun hcs hq st hst => hi.reported hcs hq hst, hi.length_terminalCalls, fun hne ops' s'' h' => ?_⟩
  have hi'' := h'.invariant hpres hi
  have hcalls : s'.calls <+: s''.calls :=
    h'.relates (R := fun s s' => s.calls <+: s'.calls) (I := fun _ => True) (fun _ _ _ _ _ => trivial)
      (fun _ => List.prefix_rfl) (fun _ _ _ => List.IsPrefix.trans)
      (fun _ _ _ _ (hstep : _ ∧ _) => calls_step (stepped hstep.2)) trivial
  have hne'' : s''.terminalCalls ≠ [] := fun hnil => hne (List.prefix_nil.1 (hnil ▸ hcalls.filter _))
  by_cases hd : s''.phase = .done
  · exact ((hi''.late hd).resolve_left fun hl => hne'' hl.1).1
  · exact absurd (hi''.early hd).2 hne''

/-! ### A report before the insertion -/

/-- `Start` of the package `v1`; the task id is the hash code of `"v1"`. -/
def startOne : StartSystem :=
  ofStart (fun _ => "3bfc269594ef649228e9a74bab00f042efc91d5acc6fbee31a382e80d42388fe") [samplePackage "v1"] ∅
    { netType := .wifi }

def successRun : List StartOp :=
  [.threadBegin 0, .report 0 (successReport "v1"), .advance 0, .advance 0, .advance 0, .advance 0, .deliver]

/-- Before the insertion the report is dropped, and the finished task is put in the map. -/
theorem report_before_insert : ∃ s', lts.Run startOne ([.launch] ++ successRun ++ [.enable, .insert]) s' ∧
    s'.computed = [.success] ∧ s'.calls = [] ∧ ¬ s'.Absent ∧ ¬ s'.NoLostReport := by
  refine ⟨_, Lts.run_ofPartial_get (f := step) (by rfl), by decide, by decide, ?_, fun h => ?_⟩
  · unfold Absent
    decide
  · exact absurd (h.reported rfl rfl .success (by decide)) (by decide)

/-- After the insertion it is passed on. -/
theorem run_noLostReport_success : ∃ s', lts.Run startOne ([.launch, .enable, .insert] ++ successRun) s' ∧
    s'.computed = [.success] ∧ s'.NoLostReport := by
  have hrun : ∃ s', (lts.guard ReportsAfterInsert).Run startOne ([.launch, .enable, .insert] ++ successRun) s' ∧
      s'.computed = [.success] := by
    refine ⟨_, .cons ⟨trivial, rfl⟩ (.cons ⟨trivial, rfl⟩ (.cons ⟨trivial, rfl⟩ (.cons ⟨trivial, rfl⟩ (.cons ⟨trivial, rfl⟩
      (.cons ⟨?_, rfl⟩ (.cons ⟨?_, rfl⟩ (.cons ⟨?_, rfl⟩ (.cons ⟨?_, rfl⟩ (.single ⟨?_, rfl⟩))))))))), by decide⟩
    · rintro c f hc hf hu
      obtain rfl := Option.some.inj hc
      cases hf; cases hu
    · rintro c f hc hf - d hd
      obtain rfl := Option.some.inj hc
      cases hf
      obtain rfl := Option.some.inj hd
      rfl
    · rintro c f hc hf
      obtain rfl := Option.some.inj hc
      cases hf
    · rintro c f hc hf
      obtain rfl := Option.some.inj hc
      cases hf
    · exact fun _ _ _ _ => rfl
  obtain ⟨s', hrun, hcomputed⟩ := hrun
  refine ⟨s', hrun.of_guard, hcomputed, ?_⟩
  exact run_noLostReport _ [samplePackage "v1"] ∅ { netType := .wifi } (by simp) (by simp [samplePackage]) hrun

end StartSystem
end UpdateService
