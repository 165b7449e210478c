import UpdateService.ServiceSystem

/-!
# One thread writes a package file at a time

`Registered`: every thread that is submitted or running is in `threadMap` under its download id. New
threads are started only for downloads without an entry (or over the entry of a thread that has
ended), so no two threads of one download are live. The invariant breaks where a thread leaves the
map before it has ended, which is what `DropsEnded` excludes.
-/

namespace UpdateService
namespace ServiceState
variable {v v' : ServiceState} {d : DownloadInfo} {info : DownloadCallbackInfo} {id : String} {i : Nat}
  {th th' : DownloadThread}

/-- At most one thread of each download is past its start and not over. -/
def SingleWriter (v : ServiceState) : Prop :=
  ∀ (i j : Nat) (thi thj : DownloadThread), v.threads[i]? = some thi → v.threads[j]? = some thj →
    thi.phase = .running → thj.phase = .running → thi.downloadId = thj.downloadId → i = j

structure Registered (v : ServiceState) : Prop where
  keyed : ∀ e ∈ v.threadMap.entries, ∃ th : DownloadThread, v.threads[e.2]? = some th ∧ th.downloadId = e.1
  live : ∀ (i : Nat) (th : DownloadThread), v.threads[i]? = some th → th.phase ≠ .finished →
    v.threadMap.find? th.downloadId = some (th.downloadId, i)

def Ended (v : ServiceState) (id : String) : Prop :=
  ∀ e, v.threadMap.find? id = some e → ∀ th : DownloadThread, v.threads[e.2]? = some th → th.phase = .finished

def NoLive (v : ServiceState) (id : String) : Prop :=
  ∀ (i : Nat) (th : DownloadThread), v.threads[i]? = some th → th.phase ≠ .finished → th.downloadId ≠ id

namespace Registered

theorem singleWriter (h : Registered v) : SingleWriter v := by
  intro i j thi thj hi hj hri hrj hid
  have h₁ := h.live i thi hi (by rw [hri]; decide)
  have h₂ := h.live j thj hj (by rw [hrj]; decide)
  rw [hid, h₂] at h₁
  exact (Prod.mk.inj (Option.some.inj h₁)).2.symm

theorem noLive_of_ended (h : Registered v) (he : v.Ended id) : v.NoLive id := by
  rintro i th hi hlive rfl
  exact hlive (he _ (h.live i th hi hlive) th hi)

theorem noLive_of_not_hasThread (h : Registered v) (he : v.hasThread id = false) : v.NoLive id := by
  rintro i th hi hlive rfl
  rw [hasThread, h.live i th hi hlive] at he
  simp at he

theorem of_eq (h : Registered v) (ht : v'.threads = v.threads) (hm : v'.threadMap = v.threadMap) : Registered v' := by
  refine ⟨?_, ?_⟩ <;> rw [ht, hm]
  exacts [h.keyed, h.live]

theorem finishReport (h : Registered v) (info : DownloadCallbackInfo) : Registered (v.finishReport info) :=
  h.of_eq finishReport_service.1 finishReport_service.2.1

theorem startDownloadThread (h : Registered v) (hd : v.NoLive d.downloadId) : Registered (v.startDownloadThread d) := by
  refine ⟨fun e he => ?_, fun i th hi hlive => ?_⟩
  · obtain rfl | ⟨he, -⟩ := KeyedList.mem_insert.1 he
    · exact ⟨_, getElem?_startDownloadThread.2 (.inr ⟨rfl, rfl⟩), rfl⟩
    · obtain ⟨th, hth, hid⟩ := h.keyed e he
      exact ⟨th, getElem?_startDownloadThread.2 (.inl hth), hid⟩
  · rw [ServiceState.startDownloadThread, KeyedList.find?_insert]
    obtain hi | ⟨rfl, rfl⟩ := getElem?_startDownloadThread.1 hi
    · rw [if_neg (hd i th hi hlive)]; exact h.live i th hi hlive
    · exact if_pos rfl

theorem removeThread (h : Registered v) (he : v.Ended id) : Registered (v.removeThread id) := by
  refine ⟨fun e he' => h.keyed e (KeyedList.mem_erase.1 he').1, fun i th hi hlive => ?_⟩
  rw [ServiceState.removeThread, KeyedList.find?_erase, if_neg (h.noLive_of_ended he i th hi hlive)]
  exact h.live i th hi hlive

theorem setThread (h : Registered v) (hth : v.threads[i]? = some th) (hid : th'.downloadId = th.downloadId)
    (hph : th'.phase ≠ .finished → th.phase ≠ .finished) : Registered { v with threads := v.threads.set i th' } := by
  have hlt := (List.getElem?_eq_some_iff.1 hth).1
  refine ⟨fun e he => ?_, fun j thj hj hlive => ?_⟩
  · obtain ⟨the, hthe, hide⟩ := h.keyed e he
    by_cases hi : i = e.2
    · subst hi
      obtain rfl := Option.some.inj (hth.symm.trans hthe)
      exact ⟨th', List.getElem?_set_self hlt, hid.trans hide⟩
    · exact ⟨the, (List.getElem?_set_ne hi).trans hthe, hide⟩
  · by_cases hi : i = j
    · subst hi
      obtain rfl := Option.some.inj ((List.getElem?_set_self hlt).symm.trans hj)
      rw [hid]; exact h.live i th hth (hph hlive)
    · exact h.live j thj ((List.getElem?_set_ne hi).symm.trans hj) hlive

theorem stopThreads (h : Registered v) {ended : Nat → Bool}
    (he : ∀ e ∈ v.threadMap.entries, ∀ th, v.threads[e.2]? = some th → (th.stop (ended e.2)).phase = .finished) :
    Registered (v.stopThreads ended) := by
  refine ⟨fun e he => by simp [ServiceState.stopThreads] at he, fun i th hi hlive => absurd ?_ hlive⟩
  simp only [ServiceState.stopThreads, List.getElem?_mapIdx, Option.map_eq_some_iff] at hi
  obtain ⟨th₀, hth₀, rfl⟩ := hi
  split
  · rename_i hreg
    obtain ⟨e, hmem, rfl⟩ := List.mem_map.1 hreg
    exact he e hmem th₀ hth₀
  · rename_i hreg
    by_contra hph
    exact hreg (List.mem_map_of_mem (KeyedList.mem_of_find? (h.live i th₀ hth₀ hph)))

/-! ### Operations -/

theorem startIfNone (h : Registered v) (hn : v.hasThread d.downloadId = false) (ht : v'.threads = v.threads)
    (hm : v'.threadMap = v.threadMap) : Registered (v'.startDownloadThread d) := by
  refine (h.of_eq ht hm).startDownloadThread ?_
  have := h.noLive_of_not_hasThread hn
  unfold NoLive at *
  rw [ht]; exact this

theorem startInfo (h : Registered v) : Registered (v.startInfo d) := by
  unfold ServiceState.startInfo
  split
  · exact h
  split
  · exact h
  rename_i hn _
  exact h.startIfNone (by simpa using hn) rfl rfl

theorem resumeInfo (h : Registered v) : Registered (v.resumeInfo d) := by
  unfold ServiceState.resumeInfo
  split
  · exact h
  split
  · exact h
  rename_i hn _
  refine h.startIfNone ?_ rfl rfl
  rw [DownloadInfo.resumed_downloadId]; simpa using hn

theorem netChangeToStart (h : Registered v) : Registered v.netChangeToStart := by
  refine forEachInfo_induction h fun v d h _ => ?_
  split
  · exact h
  split
  · exact h
  rename_i _ hn
  exact h.startIfNone (by simpa using hn) rfl rfl

theorem updateDownloadNetType (h : Registered v) (netType : NetType) :
    Registered (v.updateDownloadNetType netType) := by
  refine forEachInfo_induction h fun v d h _ => ?_
  split
  exacts [h, h.of_eq rfl rfl]

theorem handleRetry (endReason : DownloadEndReason) (h : Registered v) (he : v.Ended id) :
    Registered (v.handleRetry id endReason).2 := by
  cases hd : v.infoMap.find? id with
  | none => simp only [ServiceState.handleRetry, hd]; exact h
  | some d =>
    obtain ⟨v₁, hr, hv₁, -⟩ := handleRetry_eq endReason hd
    rw [hr]
    have hid : (d.countRetry.switchUrl endReason).downloadId = id := by
      rw [DownloadInfo.switchUrl_downloadId, DownloadInfo.countRetry_downloadId, downloadId_of_find? hd]
    have ht : v₁.threads = v.threads := (congrArg DownloadService.threads hv₁ :)
    refine (h.of_eq ht (congrArg DownloadService.threadMap hv₁ :)).startDownloadThread ?_
    have := h.noLive_of_ended he
    unfold NoLive at *
    rw [hid, ht]; exact this

end Registered

def PausesEnded (v : ServiceState) : Prop :=
  ∀ i ∈ v.registered, ∀ th, v.threads[i]? = some th → th.status = .init → th.phase = .finished

/-- What the rounds of `NetChangeToPause` keep: no thread enters the map. -/
structure PauseRounds (v v' : ServiceState) : Prop where
  registered : Registered v'
  shrinks : ∀ id e, v'.threadMap.find? id = some e → v.threadMap.find? id = some e

theorem Registered.netChangeToPause (h : Registered v) (hp : v.isStopCallback = false → v.PausesEnded) :
    Registered v.netChangeToPause := by
  have hr : PauseRounds v v.netChangeToPause := by
    refine netChangeToPause_induction (P := PauseRounds v) ⟨h, fun _ _ he => he⟩ fun v' i hi hpause hr => ?_
    obtain he | ⟨th, th', hth, hid, hph, -, -, hcases⟩ := pauseThread_cases i v'
    · rw [he]; exact hr
    have h₁ := hr.registered.setThread hth hid (fun hl => hph ▸ hl)
    obtain he | ⟨info, hinit, hinfo, hauto, -, he⟩ := hcases <;> rw [he]
    · exact ⟨h₁, hr.shrinks⟩
    unfold callbackUpdateDownloadProgress
    split
    · exact ⟨h₁, hr.shrinks⟩
    rename_i hflag
    have hended : Ended { v' with threads := v'.threads.set i th' } info.downloadId := by
      -- the entry for the download is the one of the reporting thread
      obtain ⟨th₀, hth₀, hid₀, hph₀, hst₀, -⟩ := hpause.thread i th hth
      obtain ⟨e, hmem, rfl⟩ := List.mem_map.1 hi
      obtain ⟨th₁, hth₁, hid₁⟩ := h.keyed e hmem
      obtain rfl := Option.some.inj (hth₀.symm.trans hth₁)
      have hfin := hp (hpause.isStopCallback ▸ (by simpa using hflag)) e.2 hi th₀ hth₀ (hst₀ ▸ hinit)
      intro e' he' the hthe
      have he₁ := hr.shrinks _ _ he'
      rw [hinfo, hid₀, hid₁, KeyedList.find?_of_mem hmem] at he₁
      obtain rfl := Option.some.inj he₁
      obtain rfl := Option.some.inj ((List.getElem?_set_self (List.getElem?_eq_some_iff.1 hth).1).symm.trans hthe)
      rw [hph, hph₀, hfin]
    have hreport : ∀ w : ServiceState, w.updateDownloadProgress info = (w.removeThread info.downloadId).finishReport info := by
      intro w
      unfold updateDownloadProgress
      rw [if_pos (by rw [hauto]; decide), if_pos (by rw [hauto]; decide)]
    rw [hreport]
    refine ⟨(h₁.removeThread hended).finishReport info, fun id e he => ?_⟩
    rw [finishReport_service.2.1, ServiceState.removeThread, KeyedList.find?_erase] at he
    split at he
    · simp at he
    · exact hr.shrinks id e he
  exact hr.registered

end ServiceState

namespace ServiceSystem
open ServiceState Lts
variable {s s' : ServiceSystem} {th : DownloadThread}

def DropsEnded (s : ServiceSystem) : SystemOp → Prop
  | .stopAll ended => ∀ e ∈ s.service.threadMap.entries, ∀ th, s.service.threads[e.2]? = some th →
      (th.stop (ended e.2)).phase = .finished
  | .notifyRemove => ∀ id todo, s.op = .notifying (id :: todo) none → s.service.Ended id
  | .netChangeToPause => s.service.isStopCallback = false → s.service.PausesEnded
  | .advance k => ∀ f, s.flights[k]? = some f →
      (f.pc = .begin → f.info.status.isOngoing = false → s.service.Ended f.info.downloadId) ∧
      (f.pc = .retry → s.service.Ended f.info.downloadId)
  | _ => True

theorem registered_advance {f : Flight} (h : Registered s.service)
    (hb : f.pc = .begin → f.info.status.isOngoing = false → s.service.Ended f.info.downloadId)
    (hr : f.pc = .retry → s.service.Ended f.info.downloadId) : Registered (f.advance s.service).2 := by
  unfold Flight.advance
  split
  · rename_i hpc
    dsimp only
    split
    · rename_i hst
      refine h.removeThread (hb hpc ?_)
      revert hst
      cases f.info.status <;> simp [DownloadStatus.isOngoing]
    · exact h
  · split
    · exact h
    split
    · exact h.of_eq rfl rfl
    split <;> exact h
  · rename_i hpc
    have := h.handleRetry f.info.endReason (hr hpc)
    split <;> rename_i he <;> rw [he] at this <;> exact this
  · exact h.finishReport f.info

theorem registered_report {i : Nat} {r : ThreadReport} (h : Registered s.service) (hth : s.running? i = some th) :
    Registered (s.report i th r).service := by
  rw [service_report]
  split
  · exact h.setThread (running?_eq_some hth).1 rfl fun hl => absurd rfl hl
  · exact h

theorem registered_step {op : SystemOp} (hg : s.DropsEnded op) (h : Stepped s op s') (hr : Registered s.service) :
    Registered s'.service := by
  cases h with
  | startBegin => unfold startBegin; split <;> exact hr.of_eq rfl rfl
  | startSection => exact forEachInfo_induction hr fun _ _ hr _ => hr.startInfo
  | resumeBegin netType => unfold resumeBegin; split <;> exact hr.of_eq rfl rfl
  | resumeSection netType =>
    have h₁ := hr.updateDownloadNetType netType
    dsimp only [ServiceSystem.resumeSection]
    split
    · exact forEachInfo_induction h₁ fun _ _ hr _ => hr.resumeInfo
    · exact h₁
  | pauseBegin => exact hr.of_eq rfl rfl
  | stopAll ended => exact hr.stopThreads hg
  | notifyRemove id todo hop =>
    unfold ServiceSystem.notifyRemove
    split
    · exact hr
    · rename_i d hd
      have hid : d.pauseReport.downloadId = id := downloadId_of_find? hd
      exact hr.removeThread (hid ▸ hg id todo hop)
  | notifyUpdate todo info => exact hr.finishReport info
  | pauseReturn => exact hr
  | netChangeToPause => exact hr.netChangeToPause hg
  | netChangeToStart => exact hr.netChangeToStart
  | threadBegin i th hth hph => exact hr.setThread hth rfl fun _ => by rw [hph]; decide
  | threadStep i th₀ th hth hinfo =>
    obtain ⟨hth, hph⟩ := running?_eq_some hth
    exact hr.setThread hth (congrArg DownloadInfo.downloadId hinfo.1) fun _ => by rw [hph]; decide
  | threadEnd i th hth => exact hr.setThread (running?_eq_some hth).1 rfl fun hl => absurd rfl hl
  | report i th r hth => exact registered_report hr hth
  | advance k f hf =>
    have h₁ := registered_advance hr (hg f hf).1 (hg f hf).2
    unfold ServiceSystem.advance
    split <;> rename_i he <;> rw [he] at h₁ <;> exact h₁
  | outside => exact hr.of_eq rfl rfl

/-- Along every run in which only threads that have ended are taken out of the map, each download
has at most one writer. -/
theorem run_singleWriter {ops : List SystemOp} (hthreads : s.service.threads = []) (hmap : s.service.threadMap = ∅)
    (h : (lts.guard DropsEnded).Run s ops s') : s'.service.SingleWriter := by
  have h₀ : Registered s.service := ⟨by simp [hmap], by simp [hthreads]⟩
  have hpres : (lts.guard DropsEnded).Preserved fun s => Registered s.service :=
    fun _ _ _ (hstep : _ ∧ _) hr => registered_step hstep.1 (stepped hstep.2) hr
  exact (h.invariant hpres h₀).singleWriter

/-! ### Two writers -/

def retryRun (endReason : DownloadEndReason) : List SystemOp :=
  [.startBegin, .startSection, .threadBegin 0, .report 0 (failReport "v1" endReason), .advance 0, .advance 0, .advance 0,
    .threadBegin 2]

/-- After a size error, which a progress call finds, the first transfer still goes on. -/
theorem retry_two_writers : ∃ s', lts.Run newSystem (retryRun .sizeError) s' ∧ ¬ s'.service.SingleWriter := by
  refine ⟨_, run_ofPartial_get (f := step) (by rfl), fun h => ?_⟩
  exact absurd (h 0 2 _ _ rfl rfl (by decide) (by decide) (by decide)) (by decide)

/-- After a timeout of the server it has ended. -/
theorem run_singleWriter_retry : ∃ s', lts.Run newSystem (retryRun .serverTimeout) s' ∧ s'.service.SingleWriter := by
  -- the thread of `v1` has ended when its report takes it out of the map
  have hended : ∀ (v : ServiceState) (th : DownloadThread), v.threadMap.find? "v1" = some ("v1", 0) →
      v.threads[0]? = some th → th.phase = .finished → v.Ended "v1" := by
    intro v th hm hth hfin e he th' hth'
    obtain rfl := Option.some.inj (hm.symm.trans he)
    rwa [← Option.some.inj (hth.symm.trans hth')]
  have hrun : ∃ s', (lts.guard DropsEnded).Run newSystem (retryRun .serverTimeout) s' := by
    refine ⟨_, .cons ⟨trivial, rfl⟩ (.cons ⟨trivial, rfl⟩ (.cons ⟨trivial, rfl⟩ (.cons ⟨trivial, rfl⟩ (.cons ⟨?_, rfl⟩
      (.cons ⟨?_, rfl⟩ (.cons ⟨?_, rfl⟩ (.single ⟨trivial, rfl⟩)))))))⟩
    · intro f hf
      obtain rfl := Option.some.inj hf
      exact ⟨fun _ _ => hended _ _ rfl rfl rfl, fun h => by cases h⟩
    · intro f hf
      obtain rfl := Option.some.inj hf
      exact ⟨fun h => (by cases h), fun h => (by cases h)⟩
    · intro f hf
      obtain rfl := Option.some.inj hf
      exact ⟨fun h => (by cases h), fun _ e he => (by cases he)⟩
  obtain ⟨s', hrun⟩ := hrun
  exact ⟨s', hrun.of_guard, run_singleWriter rfl rfl hrun⟩

end ServiceSystem
end UpdateService
