import UpdateService.ProgressThread

/-!
# Stopping and joining the worker

A worker is safe to stop and to join where it does not need the mutex: in one of the virtual functions or at its
end. If it is called nowhere else, and an execution that overlaps such a call is the last one, then both promises
hold; and a step against this breaks one of them, at once or with the next step of the worker.
-/

namespace UpdateService

namespace ProgressThread

/-- The worker is about to take the mutex. -/
def NeedsMutex (s : ProgressThread) : Prop := s.pDealThread = some .lock ∨ s.pDealThread = some .wait

instance (s : ProgressThread) : Decidable s.NeedsMutex := inferInstanceAs (Decidable (_ ∨ _))

def Deadlocked (s : ProgressThread) : Prop := s.joining = true ∧ s.NeedsMutex

/-- No step leads out of a deadlock. -/
theorem Deadlocked.step {s s' : ProgressThread} {a : Step} (h : s.Deadlocked)
    (hstep : s.step a = some s') : s'.Deadlocked := by
  obtain ⟨hj, hpc⟩ := h
  cases a with
  | startProgress _ | stopProgress | quitDownloadThread => simp [ProgressThread.step, hj] at hstep
  | joined => rcases hpc with hpc | hpc <;> simp [ProgressThread.step, hpc] at hstep
  | worker => simp [ProgressThread.step, hj] at hstep
  | executed _ => rcases hpc with hpc | hpc <;> simp [ProgressThread.step, hpc] at hstep
  | exited => rcases hpc with hpc | hpc <;> simp [ProgressThread.step, hpc] at hstep
  | wake =>
    obtain ⟨-, ⟨⟩⟩ := Option.ite_none_right_eq_some.1 hstep
    exact ⟨hj, .inl rfl⟩

/-- `stopped` from `StopProgress` to the next `StartProgress`; `overrun` once an execution has begun in between. -/
structure Observed where
  stopped : Bool := false
  overrun : Bool := false
deriving DecidableEq, Repr

def Observed.update (o : Observed) (_ : ProgressThread) (a : Step) (s' : ProgressThread) : Observed :=
  match a with
  | .startProgress _ => { o with stopped := false }
  | .stopProgress => { o with stopped := true }
  | .worker => { o with overrun := o.overrun || (o.stopped && s'.pDealThread = some .processThreadExecute) }
  | .quitDownloadThread | .joined | .wake | .executed _ | .exited => o

/-- What the callers are promised. -/
structure Sound (s : ProgressThread) (o : Observed) : Prop where
  deadlock : ¬ s.Deadlocked
  overrun : o.overrun = false

/-- The worker does not need the mutex when it is stopped or joined, and the execution it is in is the last one. -/
def Orderly (x : ProgressThread × Observed) : Step → Prop
  | .stopProgress | .quitDownloadThread => ¬ x.1.NeedsMutex
  | .executed result => result = true → x.1.joining = false ∧ x.2.stopped = false
  | _ => True

/-- What the steps of a run keep. After a stop the flags are such that the worker would go on. -/
structure Inv (s : ProgressThread) (o : Observed) : Prop where
  away : s.joining = true ∨ o.stopped = true → ¬ s.NeedsMutex
  flags : o.stopped = true → s.pDealThread = some .processThreadExecute → s.joining = false →
    s.isWake = true ∧ s.isExitThread = false
  overrun : o.overrun = false

variable {s s' : ProgressThread} {o : Observed} {a : Step}

theorem Inv.sound (h : Inv s o) : Sound s o := ⟨fun hd => h.away (.inl hd.1) hd.2, h.overrun⟩

theorem joining_notifyOne : s.notifyOne.joining = s.joining := rfl

theorem notifyOne_of_not_needsMutex (h : ¬ s.NeedsMutex) : s.notifyOne = s := by
  rw [notifyOne, if_neg (fun hw => h (.inr hw))]

theorem Inv.of_calm (hj : s.joining = false) (ho : o.stopped = false) (hover : o.overrun = false) : Inv s o where
  away h := by simp [hj, ho] at h
  flags h := by simp [ho] at h
  overrun := hover

/-- A worker that needs the mutex is neither stopped nor joined. -/
theorem Inv.calm (h : Inv s o) (hneeds : s.NeedsMutex) : s.joining = false ∧ o.stopped = false := by
  constructor
  · cases hj : s.joining with
    | false => rfl
    | true => exact absurd hneeds (h.away (.inl hj))
  · cases hs : o.stopped with
    | false => rfl
    | true => exact absurd hneeds (h.away (.inr hs))

/-- A worker that is gone or at its end needs no mutex, and is not in an execution. -/
theorem Inv.of_away (hneeds : ¬ s.NeedsMutex) (hpc : s.pDealThread ≠ some .processThreadExecute)
    (hover : o.overrun = false) :
    Inv s o :=
  ⟨fun _ => hneeds, fun _ h => absurd h hpc, hover⟩

theorem joining_startProgress (created : Bool) : (s.startProgress created).joining = s.joining := by
  rw [startProgress]
  split <;> rfl

theorem joining_executeThreadFunc : s.executeThreadFunc.joining = s.joining := by
  rw [executeThreadFunc]
  split
  · rfl
  · split <;> rfl

theorem Inv.step (h : Inv s o) (ho : Orderly (s, o) a) (hstep : s.step a = some s') : Inv s' (o.update s a s') := by
  cases a with
  | startProgress created =>
    obtain ⟨hj, ⟨⟩⟩ := Option.ite_none_left_eq_some.1 hstep
    refine .of_calm ?_ rfl h.overrun
    rw [joining_startProgress]
    simpa using hj
  | stopProgress =>
    obtain ⟨-, ⟨⟩⟩ := Option.ite_none_left_eq_some.1 hstep
    have hsame : s.stopProgress = { s with isWake := true, isExitThread := false } := notifyOne_of_not_needsMutex ho
    rw [hsame]
    exact ⟨fun _ => ho, fun _ _ _ => ⟨rfl, rfl⟩, h.overrun⟩
  | quitDownloadThread =>
    obtain ⟨-, ⟨⟩⟩ := Option.ite_none_left_eq_some.1 hstep
    have hsame : notifyOne { s with isWake := true, isExitThread := true } = { s with isWake := true, isExitThread := true } :=
      notifyOne_of_not_needsMutex ho
    rw [quitDownloadThread, hsame]
    refine ⟨fun _ => ho, fun _ hpc hj => ?_, h.overrun⟩
    have hpc : s.pDealThread = some .processThreadExecute := hpc
    simp [hpc] at hj
  | joined =>
    obtain ⟨-, ⟨⟩⟩ := Option.ite_none_right_eq_some.1 hstep
    exact .of_away (by simp [NeedsMutex]) (by simp) h.overrun
  | worker =>
    obtain ⟨⟨hpc, -⟩, ⟨⟩⟩ := Option.ite_none_right_eq_some.1 hstep
    obtain ⟨hj, hs⟩ := h.calm (.inl hpc)
    refine .of_calm ?_ hs ?_
    · rw [joining_executeThreadFunc]
      exact hj
    · simp [Observed.update, h.overrun, hs]
  | wake =>
    obtain ⟨hpc, ⟨⟩⟩ := Option.ite_none_right_eq_some.1 hstep
    obtain ⟨hj, hs⟩ := h.calm (.inr hpc)
    exact .of_calm hj hs h.overrun
  | executed result =>
    obtain ⟨-, ⟨⟩⟩ := Option.ite_none_right_eq_some.1 hstep
    cases result with
    | true =>
      obtain ⟨hj, hs⟩ := ho rfl
      exact .of_calm hj hs h.overrun
    | false => exact .of_away (by simp [NeedsMutex]) (by simp) h.overrun
  | exited =>
    obtain ⟨-, ⟨⟩⟩ := Option.ite_none_right_eq_some.1 hstep
    exact .of_away (by simp [NeedsMutex]) (by simp) h.overrun

/-- The worker goes on into the next execution. -/
theorem overrun_of_worker (hpc : s.pDealThread = some .lock) (hj : s.joining = false) (hwake : s.isWake = true)
    (hexit : s.isExitThread = false) (hs : o.stopped = true) :
    ∃ y, (lts.observe Observed.update).step (s, o) .worker y ∧ ¬ Sound y.1 y.2 := by
  refine ⟨(s.executeThreadFunc, o.update s .worker s.executeThreadFunc), ⟨?_, rfl⟩, ?_⟩
  · show s.step .worker = _
    rw [ProgressThread.step, if_pos ⟨hpc, by simp [hj]⟩]
  · intro hsound
    have hover := hsound.overrun
    simp [Observed.update, executeThreadFunc, hwake, hexit, hs] at hover

/-- A step that is not orderly breaks a promise, or the next step of the worker does. -/
theorem Inv.unsound (h : Inv s o) (ho : ¬ Orderly (s, o) a) (hstep : s.step a = some s') :
    ¬ Sound s' (o.update s a s') ∨
      ∃ y, (lts.observe Observed.update).step (s', o.update s a s') .worker y ∧ ¬ Sound y.1 y.2 := by
  cases a with
  | startProgress _ | joined | worker | wake | exited => exact absurd trivial ho
  | stopProgress =>
    obtain ⟨hj, ⟨⟩⟩ := Option.ite_none_left_eq_some.1 hstep
    have hneeds : s.NeedsMutex := Classical.not_not.1 ho
    have hj : s.stopProgress.joining = false := by
      rw [stopProgress, joining_notifyOne]
      simpa using hj
    refine .inr (overrun_of_worker ?_ hj rfl rfl rfl)
    rcases hneeds with hpc | hpc <;> simp [stopProgress, notifyOne, hpc]
  | quitDownloadThread =>
    obtain ⟨-, ⟨⟩⟩ := Option.ite_none_left_eq_some.1 hstep
    have hneeds : s.NeedsMutex := Classical.not_not.1 ho
    refine .inl fun hsound => hsound.deadlock ?_
    rcases hneeds with hpc | hpc <;> simp [Deadlocked, NeedsMutex, quitDownloadThread, notifyOne, hpc]
  | executed result =>
    obtain ⟨hpc, ⟨⟩⟩ := Option.ite_none_right_eq_some.1 hstep
    obtain ⟨rfl, hbad⟩ := Classical.not_imp.1 ho
    by_cases hj : s.joining = true
    · exact .inl fun hsound => hsound.deadlock ⟨hj, .inl rfl⟩
    · have hj : s.joining = false := by simpa using hj
      have hs : o.stopped = true := by simpa [hj] using hbad
      obtain ⟨hwake, hexit⟩ := h.flags hs hpc hj
      exact .inr (overrun_of_worker rfl hj hwake hexit hs)

/-- Both promises hold in every orderly run, and no step against the order leaves them intact. -/
theorem worker_sound {as : List Step} (h : ((lts.observe Observed.update).guard Orderly).Run ({}, {}) as (s, o)) :
    Sound s o ∧ ∀ a s' o', (lts.observe Observed.update).step (s, o) a (s', o') → ¬ Orderly (s, o) a →
      ¬ Sound s' o' ∨ ∃ y, (lts.observe Observed.update).step (s', o') .worker y ∧ ¬ Sound y.1 y.2 := by
  have hinv : ((lts.observe Observed.update).guard Orderly).Preserved fun x => Inv x.1 x.2 := by
    rintro ⟨s, o⟩ a ⟨s', o'⟩ ⟨ho, hstep, hupdate⟩ h
    show Inv s' o'
    rw [show o' = o.update s a s' from hupdate]
    exact Inv.step h ho hstep
  have h₀ : Inv {} {} := .of_calm rfl rfl rfl
  have hs := h.invariant hinv h₀
  refine ⟨hs.sound, ?_⟩
  intro a s' o' hstep ho
  rw [show o' = o.update s a s' from hstep.2]
  exact Inv.unsound hs ho hstep.1

instance (x : ProgressThread × Observed) (a : Step) : Decidable (Orderly x a) :=
  match a with
  | .stopProgress | .quitDownloadThread => inferInstanceAs (Decidable (¬ x.1.NeedsMutex))
  | .executed result => inferInstanceAs (Decidable (result = true → x.1.joining = false ∧ x.2.stopped = false))
  | .startProgress _ | .joined | .worker | .wake | .exited => isTrue trivial

/-- A download that is stopped and joined while it runs. -/
theorem worker_sound_joined : ∃ s o, s.pDealThread = none ∧ o.stopped = true ∧ Sound s o := by
  have hrun : ∃ s o, ((lts.observe Observed.update).guard Orderly).Run ({}, {})
      [.startProgress true, .worker, .stopProgress, .quitDownloadThread, .executed false, .joined] (s, o) ∧
      s.pDealThread = none ∧ o.stopped = true := by
    rw [lts, Lts.observe_ofPartial, Lts.guard_ofPartial]
    exact ⟨_, _, Lts.run_ofPartial_get (by rfl), rfl, rfl⟩
  obtain ⟨s, o, h, hpc, hs⟩ := hrun
  exact ⟨s, o, hpc, hs, (worker_sound h).1⟩

/-- The thread is joined before it has taken the mutex, and no step leads out of that; and a download that is stopped
before then begins all the same. -/
theorem not_worker_sound :
    (∃ s, lts.Run {} [.startProgress true, .quitDownloadThread] s ∧ s.Deadlocked ∧ ∀ a, s.step a = none) ∧
    ∃ s o, (lts.observe Observed.update).Run ({}, {}) [.startProgress true, .stopProgress, .worker] (s, o) ∧
      s.pDealThread = some .processThreadExecute ∧ o.overrun = true := by
  constructor
  · refine ⟨_, Lts.run_ofPartial_get (by rfl), ⟨rfl, .inl rfl⟩, ?_⟩
    rintro (_ | _ | _ | _ | _ | _ | _ | _) <;> rfl
  · rw [lts, Lts.observe_ofPartial]
    exact ⟨_, _, Lts.run_ofPartial_get (by rfl), rfl, rfl⟩

end ProgressThread

end UpdateService
