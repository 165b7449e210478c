import UpdateService.ServiceRun

/-!
# A `DownloadService` with its threads and their callbacks interleaved

A callback runs its sections as separate steps (`Flight.advance`), `Pause` runs as the raising of the
stop flag, the stopping of the threads and two sections for each download, and `Start` and `Resume`
lower the flag before they take the lock. The manager's mutex lets one operation run at a time; the
threads and their callbacks go on in between. `run_report` and `run_pause` say that uninterrupted
these steps are the functions of `DownloadService`.
-/

namespace UpdateService

/-- The section a callback comes to next. -/
inductive FlightPc
  | begin | decide | retry | update
deriving DecidableEq, Repr

/-- A callback that has passed the test of `isStopCallback_`. -/
structure Flight where
  thread : Nat
  info : DownloadCallbackInfo
  pc : FlightPc := .begin
deriving DecidableEq

/-- Whether a report is the last thing its thread does: all but those of a transfer or a
verification that goes on, and the size error found by a progress call. -/
def ThreadReport.isLast (r : ThreadReport) : Bool :=
  !r.info.status.isOngoing && !(r.info.status = .fail && r.info.endReason = .sizeError)

def Flight.advance (f : Flight) (s : ServiceState) : Option Flight × ServiceState :=
  match f.pc with
  | .begin =>
    let s := if f.info.status ≠ .downloading ∧ f.info.status ≠ .verifying then s.removeThread f.info.downloadId else s
    (some { f with pc := if f.info.status ≠ .fail then .update else .decide }, s)
  | .decide =>
    match s.infoMap.find? f.info.downloadId with
    | none => (none, s)
    | some d =>
      if f.info.endReason = .ioException ∨ f.info.endReason = .verifyFail then
        (some { f with pc := .update }, s.clearPackage d.path)
      else if !d.isRetryAble then (some { f with pc := .update }, s)
      else (some { f with pc := .retry }, s)
  | .retry =>
    match s.handleRetry f.info.downloadId f.info.endReason with
    | (.success, s) => (none, s)
    | (.fail, s) => (some { f with pc := .update }, s)
  | .update => (none, s.finishReport f.info)

inductive OpPhase
  | idle
  | starting
  | resuming (netType : NetType)
  | stopping
  /-- The downloads that `NotifyPauseCompleted` has still to visit, and the report it is making. -/
  | notifying (todo : List String) (current : Option DownloadCallbackInfo)

structure ServiceSystem where
  service : ServiceState
  flights : List Flight := []
  op : OpPhase := .idle
  /-- A `Pause` has returned, and neither `Start` nor `Resume` has been called since. -/
  paused : Bool := false

inductive SystemOp
  | startBegin
  | startSection
  | resumeBegin (netType : NetType)
  | resumeSection
  | pauseBegin
  | stopAll (ended : Nat → Bool)
  | notifyRemove
  | notifyUpdate
  | pauseReturn
  | netChangeToPause
  | netChangeToStart
  | threadBegin (i : Nat)
  | threadStep (i : Nat) (th : DownloadThread)
  | threadEnd (i : Nat)
  | report (i : Nat) (r : ThreadReport)
  /-- The next section of the callback at a position. -/
  | advance (k : Nat)
  | outside (fileSize : String → Int) (now : Int) (netType : NetType)

namespace ServiceSystem

def setThread (i : Nat) (th : DownloadThread) (s : ServiceSystem) : ServiceSystem :=
  { s with service := { s.service with threads := s.service.threads.set i th } }

def reports (i : Nat) (s : ServiceSystem) : Bool := s.flights.any fun f => f.thread = i

def running? (i : Nat) (s : ServiceSystem) : Option DownloadThread :=
  s.service.threads[i]?.filter fun th => th.phase = .running && !s.reports i

def startBegin (s : ServiceSystem) : ServiceSystem :=
  if s.service.infoMap.entries = [] ∨ s.service.isNetSatisfied = false then { s with paused := false }
  else
    { s with
      service := { s.service with onDownloadCallback := true, isStopCallback := false }
      op := .starting
      paused := false }

def resumeBegin (netType : NetType) (s : ServiceSystem) : ServiceSystem :=
  if s.service.infoMap.entries = [] then { s with paused := false }
  else { s with service := { s.service with isStopCallback := false }, op := .resuming netType, paused := false }

def resumeSection (netType : NetType) (s : ServiceState) : ServiceState :=
  let s := s.updateDownloadNetType netType
  if s.isNetSatisfied then s.forEachInfo ServiceState.resumeInfo else s

/-- The next round of `NotifyPauseCompleted`, up to the removal of the thread. -/
def notifyRemove (id : String) (todo : List String) (s : ServiceSystem) : ServiceSystem :=
  match s.service.infoMap.find? id with
  | none => { s with op := .notifying todo none }
  | some d =>
    { s with
      service := s.service.removeThread d.pauseReport.downloadId
      op := .notifying todo (some d.pauseReport) }

def report (i : Nat) (th : DownloadThread) (r : ThreadReport) (s : ServiceSystem) : ServiceSystem :=
  let s := if r.isLast then s.setThread i { th with phase := .finished } else s
  if s.service.isStopCallback then s else { s with flights := s.flights ++ [⟨i, r.info, .begin⟩] }

def advance (k : Nat) (f : Flight) (s : ServiceSystem) : ServiceSystem :=
  match f.advance s.service with
  | (none, service) => { s with service, flights := s.flights.eraseIdx k }
  | (some f, service) => { s with service, flights := s.flights.set k f }

def step (s : ServiceSystem) : SystemOp → Option ServiceSystem
  | .startBegin => match s.op with
    | .idle => some s.startBegin
    | _ => none
  | .startSection => match s.op with
    | .starting => some { s with service := s.service.forEachInfo ServiceState.startInfo, op := .idle }
    | _ => none
  | .resumeBegin netType => match s.op with
    | .idle => some (s.resumeBegin netType)
    | _ => none
  | .resumeSection => match s.op with
    | .resuming netType => some { s with service := resumeSection netType s.service, op := .idle }
    | _ => none
  | .pauseBegin => match s.op with
    | .idle => some { s with service := { s.service with isStopCallback := true }, op := .stopping }
    | _ => none
  | .stopAll ended => match s.op with
    | .stopping =>
      some { s with service := s.service.stopThreads ended, op := .notifying s.service.infoMap.keys none }
    | _ => none
  | .notifyRemove => match s.op with
    | .notifying (id :: todo) none => some (s.notifyRemove id todo)
    | _ => none
  | .notifyUpdate => match s.op with
    | .notifying todo (some info) =>
      some { s with service := s.service.finishReport info, op := .notifying todo none }
    | _ => none
  | .pauseReturn => match s.op with
    | .notifying [] none => some { s with op := .idle, paused := true }
    | _ => none
  | .netChangeToPause => match s.op with
    | .idle => some { s with service := s.service.netChangeToPause }
    | _ => none
  | .netChangeToStart => match s.op with
    | .idle => some { s with service := s.service.netChangeToStart }
    | _ => none
  | .threadBegin i => match s.service.threads[i]? with
    | some th => if th.phase = .submitted then some (s.setThread i { th with phase := .running }) else none
    | none => none
  | .threadStep i th => match s.running? i with
    | some th₀ =>
      if th.downloadInfo = th₀.downloadInfo ∧ th.phase = .running then some (s.setThread i th) else none
    | none => none
  | .threadEnd i => match s.running? i with
    | some th => some (s.setThread i { th with phase := .finished })
    | none => none
  | .report i r => match s.running? i with
    | some th => if r.info.downloadId = th.downloadId then some (s.report i th r) else none
    | none => none
  | .advance k => match s.flights[k]? with
    | some f => some (s.advance k f)
    | none => none
  | .outside fileSize now netType => some { s with service := { s.service with fileSize, now, netType } }

def lts : Lts ServiceSystem SystemOp := .ofPartial step

/-- What each step needs and does. -/
inductive Stepped (s : ServiceSystem) : SystemOp → ServiceSystem → Prop
  | startBegin (hop : s.op = .idle) : Stepped s .startBegin s.startBegin
  | startSection (hop : s.op = .starting) :
      Stepped s .startSection { s with service := s.service.forEachInfo ServiceState.startInfo, op := .idle }
  | resumeBegin (netType : NetType) (hop : s.op = .idle) : Stepped s (.resumeBegin netType) (s.resumeBegin netType)
  | resumeSection (netType : NetType) (hop : s.op = .resuming netType) :
      Stepped s .resumeSection { s with service := ServiceSystem.resumeSection netType s.service, op := .idle }
  | pauseBegin (hop : s.op = .idle) :
      Stepped s .pauseBegin { s with service := { s.service with isStopCallback := true }, op := .stopping }
  | stopAll (ended : Nat → Bool) (hop : s.op = .stopping) :
      Stepped s (.stopAll ended)
        { s with service := s.service.stopThreads ended, op := .notifying s.service.infoMap.keys none }
  | notifyRemove (id : String) (todo : List String) (hop : s.op = .notifying (id :: todo) none) :
      Stepped s .notifyRemove (s.notifyRemove id todo)
  | notifyUpdate (todo : List String) (info : DownloadCallbackInfo) (hop : s.op = .notifying todo (some info)) :
      Stepped s .notifyUpdate { s with service := s.service.finishReport info, op := .notifying todo none }
  | pauseReturn (hop : s.op = .notifying [] none) : Stepped s .pauseReturn { s with op := .idle, paused := true }
  | netChangeToPause (hop : s.op = .idle) :
      Stepped s .netChangeToPause { s with service := s.service.netChangeToPause }
  | netChangeToStart (hop : s.op = .idle) :
      Stepped s .netChangeToStart { s with service := s.service.netChangeToStart }
  | threadBegin (i : Nat) (th : DownloadThread) (hth : s.service.threads[i]? = some th) (hph : th.phase = .submitted) :
      Stepped s (.threadBegin i) (s.setThread i { th with phase := .running })
  | threadStep (i : Nat) (th₀ th : DownloadThread) (hth : s.running? i = some th₀)
      (hinfo : th.downloadInfo = th₀.downloadInfo ∧ th.phase = .running) : Stepped s (.threadStep i th) (s.setThread i th)
  | threadEnd (i : Nat) (th : DownloadThread) (hth : s.running? i = some th) :
      Stepped s (.threadEnd i) (s.setThread i { th with phase := .finished })
  | report (i : Nat) (th : DownloadThread) (r : ThreadReport) (hth : s.running? i = some th)
      (hid : r.info.downloadId = th.downloadId) : Stepped s (.report i r) (s.report i th r)
  | advance (k : Nat) (f : Flight) (hf : s.flights[k]? = some f) : Stepped s (.advance k) (s.advance k f)
  | outside (fileSize : String → Int) (now : Int) (netType : NetType) :
      Stepped s (.outside fileSize now netType) { s with service := { s.service with fileSize, now, netType } }

theorem stepped {s s' : ServiceSystem} {op : SystemOp} (h : s.step op = some s') : Stepped s op s' := by
  cases op <;> simp only [step] at h <;> (try split at h) <;> (try split at h) <;> cases h <;>
    constructor <;> assumption

theorem service_report {s : ServiceSystem} {i : Nat} {th : DownloadThread} {r : ThreadReport} :
    (s.report i th r).service = (if r.isLast then s.setThread i { th with phase := .finished } else s).service := by
  unfold report
  dsimp only
  split <;> split <;> rfl

theorem running?_eq_some {s : ServiceSystem} {i : Nat} {th : DownloadThread} (h : s.running? i = some th) :
    s.service.threads[i]? = some th ∧ th.phase = .running := by
  obtain ⟨hth, hph⟩ := Option.filter_eq_some_iff.1 h
  simp only [Bool.and_eq_true, decide_eq_true_eq] at hph
  exact ⟨hth, hph.1⟩

/-! ### A system to try things on -/

def newSystem : ServiceSystem where
  service := ServiceState.twoPackages

def failReport (downloadId : String) (endReason : DownloadEndReason) : ThreadReport :=
  ⟨{ downloadId, status := .fail, endReason }, DownloadStatus.isThreadReport_fail⟩

/-! ### Uninterrupted callbacks and pauses -/

section Uninterrupted
variable {s : ServiceSystem} {v v' : ServiceState} {f f' : Flight} {fs : List Flight} {i : Nat} {r : ThreadReport}
  {th : DownloadThread}

theorem run_step {s' : ServiceSystem} (op : SystemOp) (h : s.step op = some s') : lts.Run s [op] s' := .single h

theorem run_advance_some (h : f.advance v = (some f', v')) :
    lts.Run { s with service := v, flights := f :: fs } [.advance 0] { s with service := v', flights := f' :: fs } :=
  run_step _ (by simp [step, advance, h])

theorem run_advance_none (h : f.advance v = (none, v')) :
    lts.Run { s with service := v, flights := f :: fs } [.advance 0] { s with service := v', flights := fs } :=
  run_step _ (by simp [step, advance, h])

theorem run_flight (fs : List Flight) (i : Nat) (info : DownloadCallbackInfo) :
    ∃ n, lts.Run { s with service := v, flights := ⟨i, info, .begin⟩ :: fs } (List.replicate n (.advance 0))
      { s with service := v.updateDownloadProgress info, flights := fs } := by
  unfold ServiceState.updateDownloadProgress
  generalize hv : (if info.status ≠ .downloading ∧ info.status ≠ .verifying then v.removeThread info.downloadId else v) = v₁
  by_cases hfail : info.status = .fail
  · have h₁ : Flight.advance ⟨i, info, .begin⟩ v = (some ⟨i, info, .decide⟩, v₁) := by
      simp [Flight.advance, hfail, ← hv]
    rw [if_neg (not_not.2 hfail)]
    cases hd : v₁.infoMap.find? info.downloadId with
    | none =>
      have h₂ : Flight.advance ⟨i, info, .decide⟩ v₁ = (none, v₁) := by simp [Flight.advance, hd]
      exact ⟨2, (run_advance_some h₁).append (run_advance_none h₂)⟩
    | some d =>
      by_cases hio : info.endReason = .ioException ∨ info.endReason = .verifyFail
      · have h₂ : Flight.advance ⟨i, info, .decide⟩ v₁ = (some ⟨i, info, .update⟩, v₁.clearPackage d.path) := by
          simp [Flight.advance, hd, hio]
        simp only [if_pos hio]
        exact ⟨3, (run_advance_some h₁).append ((run_advance_some h₂).append (run_advance_none rfl))⟩
      simp only [if_neg hio]
      cases hr : d.isRetryAble with
      | false =>
        have h₂ : Flight.advance ⟨i, info, .decide⟩ v₁ = (some ⟨i, info, .update⟩, v₁) := by
          simp [Flight.advance, hd, hio, hr]
        exact ⟨3, (run_advance_some h₁).append ((run_advance_some h₂).append (run_advance_none rfl))⟩
      | true =>
        have h₂ : Flight.advance ⟨i, info, .decide⟩ v₁ = (some ⟨i, info, .retry⟩, v₁) := by
          simp [Flight.advance, hd, hio, hr]
        obtain ⟨v₂, he, -⟩ := ServiceState.handleRetry_eq info.endReason hd
        have h₃ : Flight.advance ⟨i, info, .retry⟩ v₁ = (none,
          v₂.startDownloadThread (d.countRetry.switchUrl info.endReason)) := by
          simp [Flight.advance, he]
        simp only [he]
        exact ⟨3, (run_advance_some h₁).append ((run_advance_some h₂).append (run_advance_none h₃))⟩
  · have h₁ : Flight.advance ⟨i, info, .begin⟩ v = (some ⟨i, info, .update⟩, v₁) := by
      simp [Flight.advance, hfail, ← hv]
    rw [if_pos hfail]
    exact ⟨2, (run_advance_some h₁).append (run_advance_none rfl)⟩

theorem run_report (h : s.running? i = some th) (hid : r.info.downloadId = th.downloadId) (hfl : s.flights = []) :
    ∃ n, lts.Run s (.report i r :: List.replicate n (.advance 0))
      (let s₁ := if r.isLast then s.setThread i { th with phase := .finished } else s
       { s₁ with service := s₁.service.callbackUpdateDownloadProgress r.info }) := by
  have hstep : lts.step s (.report i r) (s.report i th r) := by simp [lts, Lts.ofPartial, step, h, hid]
  unfold report at hstep
  generalize hs₁ : (if r.isLast then s.setThread i { th with phase := .finished } else s) = s₁ at hstep ⊢
  have hfl₁ : s₁.flights = [] := by rw [← hs₁]; split <;> exact hfl
  unfold ServiceState.callbackUpdateDownloadProgress
  dsimp only at hstep ⊢
  by_cases hstop : s₁.service.isStopCallback = true
  · rw [if_pos hstop] at hstep
    simp only [if_pos hstop]
    exact ⟨0, .single hstep⟩
  · rw [if_neg hstop, hfl₁] at hstep
    simp only [if_neg hstop]
    obtain ⟨n, hn⟩ := run_flight (s := s₁) (v := s₁.service) [] i r.info
    exact ⟨n, .cons hstep (by rw [hfl₁]; exact hn)⟩

theorem run_notify (ids : List String) (v : ServiceState) :
    ∃ ops, lts.Run { s with service := v, op := .notifying ids none } ops
      { s with
        service := ids.foldl (fun v id => match v.infoMap.find? id with
          | none => v
          | some d => v.updateDownloadProgress d.pauseReport) v
        op := .notifying [] none } := by
  induction ids generalizing v with
  | nil => exact ⟨[], .nil _⟩
  | cons id ids ih =>
    rw [List.foldl_cons]
    cases hd : v.infoMap.find? id with
    | none =>
      obtain ⟨ops, hrun⟩ := ih v
      exact ⟨.notifyRemove :: ops, .cons (by simp [lts, Lts.ofPartial, step, notifyRemove, hd]) hrun⟩
    | some d =>
      obtain ⟨ops, hrun⟩ := ih (v.updateDownloadProgress d.pauseReport)
      have h₁ : step { s with service := v, op := .notifying (id :: ids) none } .notifyRemove =
          some { s with
            service := v.removeThread d.pauseReport.downloadId
            op := .notifying ids (some d.pauseReport) } := by
        simp only [step, notifyRemove, hd]
      exact ⟨_, (run_step _ h₁).append ((run_step .notifyUpdate rfl).append hrun)⟩

theorem run_pause (h : s.op = .idle) (ended : Nat → Bool) :
    ∃ ops, lts.Run s ops { s with service := (s.service.pause ended).2, op := .idle, paused := true } := by
  obtain ⟨ops, hrun⟩ := run_notify (s := s) s.service.infoMap.keys (s.service.stopAllDownloadThread ended)
  have h₁ : s.step .pauseBegin =
      some { s with service := { s.service with isStopCallback := true }, op := .stopping } := by
    simp only [step, h]
  have h₂ : step { s with service := { s.service with isStopCallback := true }, op := .stopping } (.stopAll ended) =
      some { s with
        service := s.service.stopAllDownloadThread ended
        op := .notifying s.service.infoMap.keys none } := rfl
  exact ⟨_, (run_step _ h₁).append ((run_step _ h₂).append (hrun.append (run_step .pauseReturn rfl)))⟩

end Uninterrupted

end ServiceSystem

end UpdateService
