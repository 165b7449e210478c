import UpdateService.TaskProgress

/-!
# When the status of a task is terminal

`Sound infos status`: what a terminal task status should say about the records it was computed from.
One call is unsound in two cases only, a failure beside a download that has not started
(`FailsBeforeStart`) and a terminal status kept from an earlier call although everything is `INIT`
again. `reports_sound_iff` carries this over sequences of calls.
-/

namespace UpdateService

/-- A terminal status says that nothing is pending. -/
structure Sound (infos : List DownloadInfo) (status : DownloadStatus) : Prop where
  success : status = .success ↔ ∀ d ∈ infos, d.getTaskStatus = .success
  fail : status = .fail → (∀ d ∈ infos, d.isCompleted) ∧ ∃ d ∈ infos, d.status = .fail ∧ d.isIgnoredFail = false

/-- Some download has failed, some has not started, and there are no others than such and completed ones. -/
def FailsBeforeStart (infos : List DownloadInfo) : Prop :=
  (∃ d ∈ infos, d.status = .init) ∧ (∃ d ∈ infos, d.status = .fail ∧ d.isIgnoredFail = false) ∧
    ∀ d ∈ infos, d.status = .init ∨ d.isCompleted

abbrev AllInit (infos : List DownloadInfo) : Prop := ∀ d ∈ infos, d.status = .init

abbrev AllCompleted (infos : List DownloadInfo) : Prop := ∀ d ∈ infos, d.isCompleted

/-- No call fails before start, and none finds everything `INIT` when the last call before it that did
not do so found everything completed; `completed` says whether that was so at the start. -/
def ReportsInTime : Bool → List (List DownloadInfo) → Prop
  | _, [] => True
  | completed, infos :: calls =>
    (AllInit infos → completed = false) ∧ ¬ FailsBeforeStart infos ∧
      ReportsInTime (if AllInit infos then completed else decide (AllCompleted infos)) calls

instance (infos : List DownloadInfo) : Decidable (FailsBeforeStart infos) :=
  inferInstanceAs (Decidable (_ ∧ _ ∧ _))

instance ReportsInTime.decidable : (completed : Bool) → (calls : List (List DownloadInfo)) →
    Decidable (ReportsInTime completed calls)
  | _, [] => .isTrue trivial
  | completed, infos :: calls =>
    have := ReportsInTime.decidable (if AllInit infos then completed else decide (AllCompleted infos)) calls
    inferInstanceAs (Decidable (_ ∧ _ ∧ _))

namespace DownloadInfo
variable {d : DownloadInfo}

@[simp] theorem getTaskStatus_eq_init : d.getTaskStatus = .init ↔ d.status = .init := by
  unfold getTaskStatus
  split <;> simp_all

theorem getTaskStatus_eq_fail : d.getTaskStatus = .fail ↔ d.status = .fail ∧ d.isIgnoredFail = false := by
  unfold getTaskStatus
  split <;> simp_all

theorem isCompleted_iff : d.isCompleted = true ↔ d.getTaskStatus = .success ∨ d.getTaskStatus = .fail := by
  unfold getTaskStatus isCompleted
  split <;> simp_all

end DownloadInfo

namespace DownloadTaskProgressProcessor
variable {infos : List DownloadInfo} {p : DownloadTaskProgressProcessor}

def reports (p : DownloadTaskProgressProcessor) : List (List DownloadInfo) → List DownloadStatus
  | [] => []
  | infos :: calls => (p.getTaskProgress infos).2.taskStatus :: (p.getTaskProgress infos).1.reports calls

/-! ### One call -/

theorem status_update_of_allInit (h : p.totalInfoSize = infos.length) (hi : AllInit infos) :
    (p.update infos).status = p.status := by
  rw [status_update h, if_pos]
  exact fun d hd => DownloadInfo.getTaskStatus_eq_init.2 (hi d hd)

theorem status_update_eq_success (h : p.totalInfoSize = infos.length) (hi : ¬ AllInit infos) :
    (p.update infos).status = .success ↔ ∀ d ∈ infos, d.getTaskStatus = .success := by
  simp only [DownloadInfo.getTaskStatus_eq_init, status_update h, if_neg hi]
  split
  · rename_i hs
    exact ⟨fun _ => hs, fun _ => rfl⟩
  · rename_i hs
    refine ⟨fun he => ?_, fun h => absurd h hs⟩
    split_ifs at he

theorem status_update_eq_fail (h : p.totalInfoSize = infos.length) (hi : ¬ AllInit infos) :
    (p.update infos).status = .fail ↔ (∃ d ∈ infos, d.getTaskStatus = .fail) ∧
      ∀ d ∈ infos, d.status = .init ∨ d.isCompleted := by
  simp only [DownloadInfo.getTaskStatus_eq_init, DownloadInfo.isCompleted_iff, status_update h, if_neg hi]
  constructor
  · intro he
    split_ifs at he with h₁ h₂ h₃ h₄ h₅ h₆
    refine ⟨h₆, fun d hd => ?_⟩
    push Not at h₂ h₃ h₄ h₅
    have hd₂ := h₂ d hd
    have hd₃ := h₃ d hd
    have hd₄ := h₄ d hd
    have hd₅ := h₅ d hd
    rw [← DownloadInfo.getTaskStatus_eq_init]
    cases hs : d.getTaskStatus <;> simp_all
  · rintro ⟨⟨d, hd, hfail⟩, hall⟩
    have hnone : ∀ st, st ≠ .init → st ≠ .success → st ≠ .fail → ¬ ∃ d ∈ infos, d.getTaskStatus = st := by
      rintro st h₁ h₂ h₃ ⟨d, hd, rfl⟩
      rcases hall d hd with hs | hs | hs
      exacts [h₁ (DownloadInfo.getTaskStatus_eq_init.2 hs), h₂ hs, h₃ hs]
    rw [if_neg fun hs => ?_, if_neg ?_, if_neg (hnone .pause (by decide) (by decide) (by decide)),
      if_neg (hnone .autoPause (by decide) (by decide) (by decide)),
      if_neg (hnone .cancel (by decide) (by decide) (by decide)), if_pos ⟨d, hd, hfail⟩]
    · rintro ⟨d, hd, hs | hs⟩
      exacts [hnone .downloading (by decide) (by decide) (by decide) ⟨d, hd, hs⟩,
        hnone .verifying (by decide) (by decide) (by decide) ⟨d, hd, hs⟩]
    · rw [hs d hd] at hfail; cases hfail

theorem not_failsBeforeStart (hi : AllInit infos) : ¬ FailsBeforeStart infos := by
  rintro ⟨-, ⟨d, hd, hf, -⟩, -⟩
  rw [hi d hd] at hf; cases hf

/-- The two ways in which a terminal status can be wrong. -/
theorem sound_update_iff (h : p.totalInfoSize = infos.length) (hne : infos ≠ []) : Sound infos (p.update infos).status ↔
    (AllInit infos → ¬ (p.status = .success ∨ p.status = .fail)) ∧ ¬ FailsBeforeStart infos := by
  obtain ⟨d₀, hd₀⟩ := List.exists_mem_of_ne_nil infos hne
  by_cases hi : AllInit infos
  · rw [status_update_of_allInit h hi]
    constructor
    · intro hs
      refine ⟨fun _ => ?_, not_failsBeforeStart hi⟩
      rintro (hsucc | hfail)
      · have := hs.success.1 hsucc d₀ hd₀
        rw [DownloadInfo.getTaskStatus_eq_init.2 (hi d₀ hd₀)] at this; cases this
      · have := (hs.fail hfail).1 d₀ hd₀
        simp [DownloadInfo.isCompleted, hi d₀ hd₀] at this
    · rintro ⟨hterm, -⟩
      refine ⟨⟨fun hs => ?_, fun hs => ?_⟩, fun hf => ?_⟩
      · exact absurd (.inl hs) (hterm hi)
      · have := hs d₀ hd₀
        rw [DownloadInfo.getTaskStatus_eq_init.2 (hi d₀ hd₀)] at this; cases this
      · exact absurd (.inr hf) (hterm hi)
  · have hfail := status_update_eq_fail h hi
    simp only [DownloadInfo.getTaskStatus_eq_fail] at hfail
    constructor
    · intro hs
      refine ⟨fun hi' => absurd hi' hi, ?_⟩
      rintro ⟨⟨d, hd, hinit⟩, hf, hall⟩
      have := (hs.fail (hfail.2 ⟨hf, hall⟩)).1 d hd
      simp [DownloadInfo.isCompleted, hinit] at this
    · rintro ⟨-, hn⟩
      refine ⟨status_update_eq_success h hi, fun hf => ?_⟩
      obtain ⟨hex, hall⟩ := hfail.1 hf
      refine ⟨fun d hd => (hall d hd).resolve_left fun hinit => hn ⟨⟨d, hd, hinit⟩, hex, hall⟩, hex⟩

/-- After a sound call that found something started, the status is terminal when everything is completed. -/
theorem terminal_update_iff (h : p.totalInfoSize = infos.length) (hi : ¬ AllInit infos)
    (hn : ¬ FailsBeforeStart infos) :
    ((p.update infos).status = .success ∨ (p.update infos).status = .fail) ↔ AllCompleted infos := by
  rw [status_update_eq_success h hi, status_update_eq_fail h hi]
  constructor
  · rintro (hs | ⟨⟨d, hd, hf⟩, hall⟩)
    · exact fun d hd => DownloadInfo.isCompleted_iff.2 (.inl (hs d hd))
    · exact fun d' hd' => (hall d' hd').resolve_left fun hinit =>
        hn ⟨⟨d', hd', hinit⟩, ⟨d, hd, DownloadInfo.getTaskStatus_eq_fail.1 hf⟩, hall⟩
  · intro hall
    by_cases hex : ∃ d ∈ infos, d.getTaskStatus = .fail
    · exact .inr ⟨hex, fun d hd => .inr (hall d hd)⟩
    · exact .inl fun d hd => (DownloadInfo.isCompleted_iff.1 (hall d hd)).resolve_right fun hf => hex ⟨d, hd, hf⟩

/-! ### Sequences of calls -/

theorem forall₂_sound_iff {n : Nat} (hn : n ≠ 0) {calls : List (List DownloadInfo)}
    (hc : ∀ infos ∈ calls, infos.length = n)
    {completed : Bool} (hp : p.totalInfoSize = n) (hcompleted : completed = true ↔
    p.status = .success ∨ p.status = .fail) :
    List.Forall₂ Sound calls (p.reports calls) ↔ ReportsInTime completed calls := by
  induction calls generalizing p completed with
  | nil => simp [reports, ReportsInTime]
  | cons infos calls ih =>
    obtain ⟨hlen, hc⟩ := List.forall_mem_cons.1 hc
    have hne : infos ≠ [] := fun he => hn (by rw [← hlen, he]; rfl)
    have hsize : p.totalInfoSize = infos.length := hp.trans hlen.symm
    have hsound : Sound infos (p.getTaskProgress infos).2.taskStatus ↔ _ := sound_update_iff hsize hne
    rw [reports, List.forall₂_cons, hsound, ReportsInTime, ← hcompleted, Bool.not_eq_true, and_assoc]
    refine and_congr_right fun _ => and_congr_right fun hnf => ih hc (totalInfoSize_update.trans hp) ?_
    change _ ↔ (p.update infos).status = .success ∨ (p.update infos).status = .fail
    split
    · rename_i hi
      rw [status_update_of_allInit hsize hi, hcompleted]
    · rename_i hi
      rw [terminal_update_iff hsize hi hnf, decide_eq_true_eq]

/-- Every terminal status that a processor reports is right exactly when no call fails before start and
none finds everything `INIT` again after everything was completed. -/
theorem reports_sound_iff (downloadInfos : List DownloadInfo) (hne : downloadInfos ≠ [])
    (calls : List (List DownloadInfo))
    (hc : ∀ infos ∈ calls, infos.length = downloadInfos.length) :
    List.Forall₂ Sound calls ((ofInfos downloadInfos).reports calls) ↔ ReportsInTime false calls :=
  forall₂_sound_iff (by simpa using hne) hc rfl (by simp [ofInfos])

/-- The failure of one download while the other has not started fails the task. -/
theorem fail_beside_init :
    ¬ List.Forall₂ Sound [[{ downloadId := "v1", status := .fail }, { downloadId := "v2" }]]
      ((ofInfos [{ downloadId := "v1" }, { downloadId := "v2" }]).reports
        [[{ downloadId := "v1", status := .fail }, { downloadId := "v2" }]]) := by
  intro h
  have hs := (List.forall₂_cons.1 h).1
  exact absurd ((hs.fail (by decide)).1 { downloadId := "v2" } (by simp)) (by decide)

/-- Both downloads succeed, one after the other. -/
theorem reports_sound_success :
    List.Forall₂ Sound
      [[{ downloadId := "v1", status := .success }, { downloadId := "v2", status := .downloading }],
        [{ downloadId := "v1", status := .success }, { downloadId := "v2", status := .success }]]
      [.downloading, .success] :=
  (reports_sound_iff [{ downloadId := "v1" }, { downloadId := "v2" }] (by decide) _ (by simp)).2 (by decide)

end DownloadTaskProgressProcessor
end UpdateService
