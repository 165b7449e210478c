import UpdateService.ServiceSystem

/-!
# What a pause leaves behind

`PausedBut p v`: callbacks are off, no thread is registered and every download outside `p` is
`PAUSE`. `Pause` makes `p` smaller one download at a time, and a state that is `PausedBut` nothing
stays so under everything but `Start`, `Resume` and the two kinds of callback that `LetsPauseBe`
excludes: those that come to their retry or to the write of their status too late.
-/

namespace UpdateService
namespace ServiceState
variable {v v' : ServiceState} {p q : String → Prop} {info : DownloadCallbackInfo} {id : String}

structure PausedBut (p : String → Prop) (v : ServiceState) : Prop where
  isStopCallback : v.isStopCallback = true
  threadMap : v.threadMap = ∅
  status : ∀ id d, v.infoMap.find? id = some d → p id ∨ d.status = .pause

/-- Every download is `PAUSE`, and no thread is left to change that. -/
abbrev Paused (v : ServiceState) : Prop := PausedBut (fun _ => False) v

namespace PausedBut

theorem mono (h : PausedBut p v) (hpq : ∀ id, p id → q id) : PausedBut q v :=
  ⟨h.isStopCallback, h.threadMap, fun id d hd => (h.status id d hd).imp (hpq id) fun hs => hs⟩

theorem of_eq (h : PausedBut p v) (hs : v'.isStopCallback = v.isStopCallback) (ht : v'.threadMap = v.threadMap)
    (hi : v'.infoMap = v.infoMap) : PausedBut p v' :=
  ⟨hs.trans h.isStopCallback, ht.trans h.threadMap, hi ▸ h.status⟩

theorem removeThread (h : PausedBut p v) : PausedBut p (v.removeThread id) := by
  refine ⟨h.isStopCallback, ?_, h.status⟩
  rw [ServiceState.removeThread, h.threadMap]
  rfl

theorem stopThreads (h : PausedBut p v) (ended : Nat → Bool) : PausedBut p (v.stopThreads ended) :=
  ⟨h.isStopCallback, rfl, h.status⟩

/-- Writing a report settles its download when the report says `PAUSE`; one of a download outside `p`
must be a progress report, which the stop flag drops. -/
theorem finishReport (h : PausedBut p v) (hp : ∀ id, p id → q id ∨ id = info.downloadId ∧ info.status = .pause)
    (hinfo : ∀ d, v.infoMap.find? info.downloadId = some d →
      q info.downloadId ∨ info.status = .pause ∨ info.status = .downloading ∧ ¬ p info.downloadId) :
    PausedBut q (v.finishReport info) := by
  refine ⟨finishReport_service.2.2.trans h.isStopCallback,
    finishReport_service.2.1.trans h.threadMap, fun id d hd => ?_⟩
  rw [ServiceState.finishReport, callbackDownloadProgress_toDownloadService] at hd
  have hold : ∀ d, v.infoMap.find? id = some d → (id = info.downloadId → ¬ p id) → q id ∨ d.status = .pause := by
    intro d hd hid
    rcases h.status id d hd with hpid | hs
    · rcases hp id hpid with hq | ⟨rfl, -⟩
      exacts [.inl hq, absurd hpid (hid rfl)]
    · exact .inr hs
  obtain ⟨hdrop, he⟩ | ⟨d₀, hd₀, hkeep, he, -⟩ := updateDownloadInfo_cases info v <;> rw [he] at hd
  · by_cases hid : id = info.downloadId
    · subst hid
      obtain hq | hs | ⟨-, hnp⟩ := hinfo d hd
      · exact .inl hq
      · rcases hdrop with hnone | ⟨hdl, -⟩
        · rw [hnone] at hd; cases hd
        · rw [hs] at hdl; cases hdl
      · exact hold d hd fun _ => hnp
    · exact hold d hd fun h => absurd h hid
  · by_cases hid : id = info.downloadId
    · subst hid
      rw [find?_modifyInfo_self _ hd₀] at hd
      obtain rfl := Option.some.inj hd
      obtain hq | hs | ⟨hdl, -⟩ := hinfo d₀ hd₀
      · exact .inl hq
      · exact .inr hs
      · exact absurd ⟨hdl, h.isStopCallback⟩ hkeep
    · rw [find?_modifyInfo_ne _ hid] at hd
      exact hold d hd fun h => absurd h hid

theorem keepReport (h : PausedBut p v) (hinfo : ∀ d, v.infoMap.find? info.downloadId = some d →
    p info.downloadId ∨ info.status = .downloading) : PausedBut p (v.finishReport info) := by
  refine h.finishReport (fun _ => .inl) fun d hd => ?_
  by_cases hp : p info.downloadId
  · exact .inl hp
  · exact .inr (.inr ⟨(hinfo d hd).resolve_left hp, hp⟩)

/-- A section of a callback that comes neither to a retry nor to the write of another status. -/
theorem advance {f : Flight} (h : PausedBut p v) (hf : ∀ d, v.infoMap.find? f.info.downloadId = some d →
      f.pc ≠ .retry ∧ (f.pc = .update → f.info.status ≠ .downloading → p f.info.downloadId)) :
    PausedBut p (f.advance v).2 ∧ (f.advance v).2.threads = v.threads := by
  unfold Flight.advance
  split
  · dsimp only
    split
    · exact ⟨h.removeThread, rfl⟩
    · exact ⟨h, rfl⟩
  · split
    · exact ⟨h, rfl⟩
    split
    · exact ⟨h.of_eq rfl rfl rfl, rfl⟩
    split <;> exact ⟨h, rfl⟩
  · rename_i hpc
    cases hd : v.infoMap.find? f.info.downloadId with
    | none => simp only [handleRetry, hd]; exact ⟨h, trivial⟩
    | some d => exact absurd hpc (hf d hd).1
  · rename_i hpc
    refine ⟨h.keepReport fun d hd => ?_, finishReport_service.1⟩
    by_cases hs : f.info.status = .downloading
    · exact .inr hs
    · exact .inl ((hf d hd).2 hpc hs)

end PausedBut

namespace Paused

theorem netChangeToPause (h : Paused v) : v.netChangeToPause = v := by
  rw [ServiceState.netChangeToPause, registered, h.threadMap]; rfl

theorem netChangeToStart (h : Paused v) : v.netChangeToStart = v := by
  refine forEachInfo_induction (P := fun w => w = v) rfl fun w d hw hd => ?_
  subst hw
  have hs := (h.status _ d hd).resolve_left fun hf => hf
  exact if_pos (.inl (by rw [hs]; decide))

end Paused

end ServiceState

namespace ServiceSystem
open ServiceState Lts
variable {s s' : ServiceSystem} {op : SystemOp}

/-- The downloads a running `Pause` has still to write. -/
def toVisit (todo : List String) (current : Option DownloadCallbackInfo) (id : String) : Prop :=
  id ∈ todo ∨ ∃ info, current = some info ∧ id = info.downloadId

/-- `Pause` has written the download, or has returned. -/
def Visited (s : ServiceSystem) (id : String) : Prop :=
  s.paused = true ∨ ∃ todo current, s.op = .notifying todo current ∧ ¬ toVisit todo current id

/-- `Pause` has stopped the threads, or has returned. -/
def Stopped (s : ServiceSystem) : Prop := s.paused = true ∨ ∃ todo current, s.op = .notifying todo current

/-- The steps that leave a pause alone: no callback tries again after the threads have been stopped,
and none writes another status over the one that `Pause` has written. -/
def LetsPauseBe (s : ServiceSystem) : SystemOp → Prop
  | .advance k => ∀ f d, s.flights[k]? = some f → s.service.infoMap.find? f.info.downloadId = some d →
      (f.pc = .retry → ¬ s.Stopped) ∧ (f.pc = .update → f.info.status ≠ .downloading → ¬ s.Visited f.info.downloadId)
  | _ => True

structure PauseInv (s : ServiceSystem) : Prop where
  unpaused : s.op = .starting ∨ (∃ netType, s.op = .resuming netType) → s.paused = false
  stopping : s.op = .stopping → s.service.isStopCallback = true
  notifying : ∀ todo current, s.op = .notifying todo current →
    s.service.PausedBut (toVisit todo current) ∧ ∀ info, current = some info → info.status = .pause
  paused : s.paused = true → s.service.Paused

theorem isStopCallback_advance (f : Flight) (v : ServiceState) : (f.advance v).2.isStopCallback = v.isStopCallback := by
  unfold Flight.advance
  split
  · dsimp only
    split <;> rfl
  · split
    · rfl
    split
    · rfl
    split <;> rfl
  · cases hd : v.infoMap.find? f.info.downloadId with
    | none => simp only [handleRetry, hd]
    | some d =>
      obtain ⟨v₁, hr, hv₁, -⟩ := handleRetry_eq f.info.endReason hd
      rw [hr]
      exact (congrArg DownloadService.isStopCallback hv₁ :)
  · exact finishReport_service.2.2

theorem report_keeps {i : Nat} {th : DownloadThread} {r : ThreadReport} :
    (s.report i th r).op = s.op ∧ (s.report i th r).paused = s.paused ∧
      (s.report i th r).service.isStopCallback = s.service.isStopCallback ∧
      (s.report i th r).service.threadMap = s.service.threadMap ∧
      (s.report i th r).service.infoMap = s.service.infoMap ∧
      (s.report i th r).service.threads.length = s.service.threads.length := by
  unfold ServiceSystem.report
  dsimp only
  split <;> split
  · exact ⟨rfl, rfl, rfl, rfl, rfl, List.length_set⟩
  · exact ⟨rfl, rfl, rfl, rfl, rfl, List.length_set⟩
  · exact ⟨rfl, rfl, rfl, rfl, rfl, rfl⟩
  · exact ⟨rfl, rfl, rfl, rfl, rfl, rfl⟩

theorem service_advance {k : Nat} {f : Flight} : (s.advance k f).service = (f.advance s.service).2 ∧
    (s.advance k f).op = s.op ∧ (s.advance k f).paused = s.paused := by
  unfold ServiceSystem.advance
  split <;> rename_i he <;> rw [he] <;> exact ⟨rfl, rfl, rfl⟩

namespace PauseInv

theorem keep (h : PauseInv s) (hop : s'.op = s.op) (hpaused : s'.paused = s.paused)
    (hflag : s'.service.isStopCallback = s.service.isStopCallback)
    (hkeep : ∀ p : String → Prop, s.Stopped → (∀ id, ¬ p id → s.Visited id) → s.service.PausedBut p →
      s'.service.PausedBut p) : PauseInv s' := by
  refine ⟨hop ▸ hpaused ▸ h.unpaused, fun hs => hflag.trans (h.stopping (hop ▸ hs)), fun todo current hn => ?_,
    fun hp => ?_⟩
  · rw [hop] at hn
    obtain ⟨hbut, hcur⟩ := h.notifying todo current hn
    exact ⟨hkeep _ (.inr ⟨_, _, hn⟩) (fun id hid => .inr ⟨_, _, hn, hid⟩) hbut, hcur⟩
  · rw [hpaused] at hp
    exact hkeep _ (.inl hp) (fun _ _ => .inl hp) (h.paused hp)

theorem of_eq (h : PauseInv s) (hop : s'.op = s.op) (hpaused : s'.paused = s.paused)
    (hflag : s'.service.isStopCallback = s.service.isStopCallback) (hmap : s'.service.threadMap = s.service.threadMap)
    (hinfo : s'.service.infoMap = s.service.infoMap) : PauseInv s' :=
  h.keep hop hpaused hflag fun _ _ _ hbut => hbut.of_eq hflag hmap hinfo

theorem idle {v : ServiceState} (h : PauseInv s) (hop : s.op = .idle) (hv : s.service.Paused → v = s.service) :
    PauseInv { s with service := v } :=
  ⟨by simp [hop], by simp [hop], by simp [hop], fun hp => (hv (h.paused hp)).symm ▸ h.paused hp⟩

theorem of_unpaused (hp : s'.paused = false) (hs : s'.op ≠ .stopping)
    (hn : ∀ todo current, s'.op ≠ .notifying todo current) :
    PauseInv s' :=
  ⟨fun _ => hp, fun h => absurd h hs, fun _ _ h => absurd h (hn _ _), fun h => by rw [hp] at h; cases h⟩

theorem notifyRemove {id : String} {todo : List String} (h : PauseInv s) (hop : s.op = .notifying (id :: todo) none) :
    PauseInv (s.notifyRemove id todo) := by
  obtain ⟨hbut, -⟩ := h.notifying _ _ hop
  unfold ServiceSystem.notifyRemove
  cases hd : s.service.infoMap.find? id with
  | none =>
    refine ⟨fun hn => by simp at hn, fun hn => by simp at hn, fun todo' current hn => ?_, h.paused⟩
    obtain ⟨rfl, rfl⟩ : todo = todo' ∧ none = current := by simpa using hn
    refine ⟨⟨hbut.isStopCallback, hbut.threadMap, fun id' d hd' => ?_⟩, by simp⟩
    refine (hbut.status id' d hd').imp (fun hv => ?_) fun hs => hs
    rcases hv with hv | ⟨_, hv, -⟩
    · rcases List.mem_cons.1 hv with rfl | hv
      · rw [hd] at hd'; cases hd'
      · exact .inl hv
    · cases hv
  | some d =>
    refine ⟨fun hn => by simp at hn, fun hn => by simp at hn, fun todo' current hn => ?_,
      fun hp => (h.paused hp).removeThread⟩
    obtain ⟨rfl, rfl⟩ : todo = todo' ∧ some d.pauseReport = current := by simpa using hn
    refine ⟨(hbut.mono fun id' hv => ?_).removeThread, fun info hinfo => Option.some.inj hinfo ▸ rfl⟩
    rcases hv with hv | ⟨_, hv, -⟩
    · rcases List.mem_cons.1 hv with rfl | hv
      · exact .inr ⟨_, rfl, (downloadId_of_find? hd).symm⟩
      · exact .inl hv
    · cases hv

theorem notifyUpdate {todo : List String} {info : DownloadCallbackInfo} (h : PauseInv s)
    (hop : s.op = .notifying todo (some info)) :
    PauseInv { s with service := s.service.finishReport info, op := .notifying todo none } := by
  obtain ⟨hbut, hcur⟩ := h.notifying _ _ hop
  have hpause := hcur info rfl
  refine ⟨fun hn => by simp at hn, fun hn => by simp at hn, fun todo' current hn => ?_, fun hp => ?_⟩
  · obtain ⟨rfl, rfl⟩ : todo = todo' ∧ none = current := by simpa using hn
    refine ⟨hbut.finishReport (fun id hv => ?_) fun _ _ => .inr (.inl hpause), by simp⟩
    rcases hv with hv | ⟨info', hinfo, rfl⟩
    · exact .inl (.inl hv)
    · obtain rfl := Option.some.inj hinfo
      exact .inr ⟨rfl, hpause⟩
  · exact (h.paused hp).finishReport (fun _ hf => hf.elim) fun _ _ => .inr (.inl hpause)

theorem step (hg : s.LetsPauseBe op) (h : Stepped s op s') (hi : PauseInv s) : PauseInv s' := by
  cases h with
  | startBegin hop => unfold startBegin; split <;> exact .of_unpaused rfl (by simp [hop]) (by simp [hop])
  | startSection hop => exact .of_unpaused (hi.unpaused (.inl hop)) (by simp) (by simp)
  | resumeBegin netType hop => unfold resumeBegin; split <;> exact .of_unpaused rfl (by simp [hop]) (by simp [hop])
  | resumeSection netType hop => exact .of_unpaused (hi.unpaused (.inr ⟨_, hop⟩)) (by simp) (by simp)
  | pauseBegin hop =>
    refine ⟨by simp, fun _ => rfl, by simp, fun hp => (hi.paused hp).of_eq ?_ rfl rfl⟩
    exact (hi.paused hp).isStopCallback.symm
  | stopAll ended hop =>
    refine ⟨by simp, by simp, fun todo current hn => ?_, fun hp => (hi.paused hp).stopThreads ended⟩
    obtain ⟨rfl, rfl⟩ : s.service.infoMap.keys = todo ∧ none = current := by simpa using hn
    refine ⟨⟨hi.stopping hop, rfl, fun id d hd => .inl (.inl ?_)⟩, by simp⟩
    exact List.mem_map.2 ⟨d, KeyedList.mem_of_find? hd, downloadId_of_find? hd⟩
  | notifyRemove id todo hop => exact hi.notifyRemove hop
  | notifyUpdate todo info hop => exact hi.notifyUpdate hop
  | pauseReturn hop =>
    refine ⟨by simp, by simp, by simp, fun _ => (hi.notifying _ _ hop).1.mono fun id hv => ?_⟩
    simp [toVisit] at hv
  | netChangeToPause hop => exact hi.idle hop Paused.netChangeToPause
  | netChangeToStart hop => exact hi.idle hop Paused.netChangeToStart
  | threadBegin i th hth hph => exact hi.of_eq rfl rfl rfl rfl rfl
  | threadStep i th₀ th hth hinfo => exact hi.of_eq rfl rfl rfl rfl rfl
  | threadEnd i th hth => exact hi.of_eq rfl rfl rfl rfl rfl
  | report i th r hth hid =>
    obtain ⟨hop, hp, hflag, hmap, hinfo, -⟩ := report_keeps (s := s) (i := i) (r := r)
    exact hi.of_eq hop hp hflag hmap hinfo
  | advance k f hf =>
    obtain ⟨hs, hop, hp⟩ := service_advance (s := s) (k := k) (f := f)
    refine hi.keep hop hp (hs ▸ isStopCallback_advance f s.service) fun p hstop hvis hbut => hs ▸ ?_
    refine (hbut.advance fun d hd => ⟨fun hpc => (hg f d hf hd).1 hpc hstop, fun hpc hst => ?_⟩).1
    by_contra hp
    exact (hg f d hf hd).2 hpc hst (hvis _ hp)
  | outside fileSize now netType => exact hi.of_eq rfl rfl rfl rfl rfl

end PauseInv

/-- `Start` and `Resume` end a pause. -/
def EndsPause : SystemOp → Bool
  | .startBegin | .resumeBegin _ => true
  | _ => false

theorem paused_step (hg : s.LetsPauseBe op) (hend : EndsPause op = false) (h : Stepped s op s') (hi : PauseInv s)
    (hp : s.paused = true) : s'.paused = true ∧ s'.service.threads.length = s.service.threads.length := by
  have hpause := hi.paused hp
  cases h with
  | startBegin hop => cases hend
  | startSection hop => rw [hi.unpaused (.inl hop)] at hp; cases hp
  | resumeBegin netType hop => cases hend
  | resumeSection netType hop => rw [hi.unpaused (.inr ⟨_, hop⟩)] at hp; cases hp
  | pauseBegin hop => exact ⟨hp, rfl⟩
  | stopAll ended hop => exact ⟨hp, List.length_mapIdx⟩
  | notifyRemove id todo hop => unfold ServiceSystem.notifyRemove; split <;> exact ⟨hp, rfl⟩
  | notifyUpdate todo info hop => exact ⟨hp, congrArg List.length finishReport_service.1⟩
  | pauseReturn hop => exact ⟨rfl, rfl⟩
  | netChangeToPause hop => exact ⟨hp, by rw [hpause.netChangeToPause]⟩
  | netChangeToStart hop => exact ⟨hp, by rw [hpause.netChangeToStart]⟩
  | threadBegin i th hth hph => exact ⟨hp, List.length_set⟩
  | threadStep i th₀ th hth hinfo => exact ⟨hp, List.length_set⟩
  | threadEnd i th hth => exact ⟨hp, List.length_set⟩
  | report i th r hth hid =>
    obtain ⟨-, hp', -, -, -, hlen⟩ := report_keeps (s := s) (i := i) (r := r)
    exact ⟨hp'.trans hp, hlen⟩
  | advance k f hf =>
    obtain ⟨hs, -, hp'⟩ := service_advance (s := s) (k := k) (f := f)
    refine ⟨hp'.trans hp, hs ▸ congrArg List.length (hpause.advance fun d hd => ⟨fun hpc => ?_, fun hpc hst => ?_⟩).2⟩
    · exact (hg f d hf hd).1 hpc (.inl hp)
    · exact (hg f d hf hd).2 hpc hst (.inl hp)
  | outside fileSize now netType => exact ⟨hp, rfl⟩

/-- Once a pause has returned no thread is registered and every download is `PAUSE`. Until `Start` or
`Resume` that remains so, and no thread is started. -/
def PauseStable (s : ServiceSystem) : Prop :=
  s.paused = true → s.service.Paused ∧
    ∀ ops s', (lts.guard fun s op => s.LetsPauseBe op ∧ EndsPause op = false).Run s ops s' →
      s'.service.Paused ∧ s'.service.threads.length = s.service.threads.length

/-- Along every run in which callbacks let pauses be, every pause is stable. -/
theorem run_pauseStable {ops : List SystemOp} (hop : s.op = .idle) (hpaused : s.paused = false)
    (h : (lts.guard LetsPauseBe).Run s ops s') : s'.PauseStable := by
  have hpres : (lts.guard LetsPauseBe).Preserved PauseInv :=
    fun _ _ _ (hstep : _ ∧ _) hi => hi.step hstep.1 (stepped hstep.2)
  have hi := h.invariant hpres (.of_unpaused hpaused (by simp [hop]) (by simp [hop]))
  refine fun hp => ⟨hi.paused hp, fun ops' s'' h' => ?_⟩
  let I := fun s : ServiceSystem => PauseInv s ∧ s.paused = true
  have hpres' : (lts.guard fun s op => s.LetsPauseBe op ∧ EndsPause op = false).Preserved I :=
    fun _ _ _ (hstep : (_ ∧ _) ∧ _) hi => ⟨hi.1.step hstep.1.1 (stepped hstep.2),
      (paused_step hstep.1.1 hstep.1.2 (stepped hstep.2) hi.1 hi.2).1⟩
  have hi' := h'.invariant hpres' ⟨hi, hp⟩
  refine ⟨hi'.1.paused hi'.2, ?_⟩
  have hlen := h'.relates (R := fun s s' => s.service.threads.length = s'.service.threads.length) hpres'
    (fun _ => rfl) (fun _ _ _ => Eq.trans)
    (fun _ _ _ hi (hstep : (_ ∧ _) ∧ _) => (paused_step hstep.1.1 hstep.1.2 (stepped hstep.2) hi.1 hi.2).2.symm) ⟨hi, hp⟩
  exact hlen.symm

/-! ### A retry after the pause -/

def pauseRun : List SystemOp :=
  [.pauseBegin, .stopAll fun _ => true, .notifyRemove, .notifyUpdate, .notifyRemove, .notifyUpdate, .pauseReturn]

/-- The thread of `v1` reports, and `Pause` runs before the callback goes on. -/
def reportThenPause (r : ThreadReport) : List SystemOp :=
  [.startBegin, .startSection, .threadBegin 0, .report 0 r] ++ pauseRun

/-- After a failure the callback starts a thread although `Pause` has returned. -/
theorem retry_after_pause : ∃ s',
    lts.Run newSystem (reportThenPause (failReport "v1" .serverTimeout) ++ [.advance 0, .advance 0, .advance 0]) s' ∧
      ¬ s'.PauseStable := by
  refine ⟨_, run_ofPartial_get (f := step) (by rfl), fun h => ?_⟩
  exact absurd (h rfl).1.threadMap (by decide)

/-- A progress report comes too late to change anything. -/
theorem run_pauseStable_progress : ∃ s',
    lts.Run newSystem (reportThenPause ⟨{ downloadId := "v1", downloadedSize := 10 }, rfl⟩ ++ [.advance 0, .advance 0]) s' ∧
      s'.paused = true ∧ s'.PauseStable := by
  have hrun : ∃ s', (lts.guard LetsPauseBe).Run newSystem
      (reportThenPause ⟨{ downloadId := "v1", downloadedSize := 10 }, rfl⟩ ++ [.advance 0, .advance 0]) s' ∧
      s'.paused = true := by
    refine ⟨_, .cons ⟨trivial, rfl⟩ (.cons ⟨trivial, rfl⟩ (.cons ⟨trivial, rfl⟩ (.cons ⟨trivial, rfl⟩
      (.cons ⟨trivial, rfl⟩ (.cons ⟨trivial, rfl⟩ (.cons ⟨trivial, rfl⟩ (.cons ⟨trivial, rfl⟩ (.cons ⟨trivial, rfl⟩
      (.cons ⟨trivial, rfl⟩ (.cons ⟨trivial, rfl⟩ (.cons ⟨?_, rfl⟩ (.single ⟨?_, rfl⟩)))))))))))), rfl⟩
    · intro f d hf _
      obtain rfl := Option.some.inj hf
      exact ⟨fun h => (by cases h), fun h => (by cases h)⟩
    · intro f d hf _
      obtain rfl := Option.some.inj hf
      exact ⟨fun h => (by cases h), fun _ h => absurd rfl h⟩
  obtain ⟨s', hrun, hp⟩ := hrun
  exact ⟨s', hrun.of_guard, hp, run_pauseStable rfl rfl hrun⟩

end ServiceSystem
end UpdateService
