import Mathlib.Data.List.Destutter
import UpdateService.DownloadTask

/-!
# The filter of progress reports

What the filter recorded last stands before all that it accepts: a snapshot that is rejected has the recorded status,
and leaves the status and both sizes as they are.
-/

namespace UpdateService

/-- What the filter compares, the percentage apart. -/
def ProgressInfo.recorded (p : ProgressInfo) : DownloadStatus × Int × Int :=
  (p.taskStatus, p.downloadedSize, p.verifiedSize)

namespace DownloadTask
variable {t : DownloadTask} {p q : ProgressInfo} {ps : List ProgressInfo}

/-- The snapshots that the filter lets through. -/
def accepted (t : DownloadTask) : List ProgressInfo → List ProgressInfo
  | [] => []
  | p :: ps =>
    if (t.isProgressChanged p).2 then p :: accepted (t.isProgressChanged p).1 ps
    else accepted (t.isProgressChanged p).1 ps

def recorded (t : DownloadTask) : DownloadStatus × Int × Int :=
  (t.status, t.progressInfo.downloadedSize, t.progressInfo.verifiedSize)

/-- `q` can be accepted where `last` is recorded. -/
def Follows (last : DownloadStatus × Int × Int) (q : ProgressInfo) : Prop :=
  last.1 = q.taskStatus → last.2.1 ≤ q.downloadedSize ∧ last.2.2 ≤ q.verifiedSize ∧ q.isTaskCompleted = false

/-- A snapshot is rejected, and the filter stands as before, or it is accepted and recorded. -/
theorem isProgressChanged_spec (p : ProgressInfo) (t : DownloadTask) :
    ((t.isProgressChanged p).2 = false ∧ p.taskStatus = t.status ∧ (t.isProgressChanged p).1.recorded = t.recorded) ∨
      ((t.isProgressChanged p).2 = true ∧ (t.isProgressChanged p).1 = t.record p ∧ Follows t.recorded p) := by
  rw [isProgressChanged]
  split
  · rename_i h
    exact .inl ⟨rfl, h.1, rfl⟩
  rename_i hsizes
  split
  · rename_i h
    exact .inl ⟨rfl, h.1, rfl⟩
  rename_i hcompleted
  dsimp only
  cases hchanged : (decide (p.taskProgress ≠ t.reportedTaskProgress) || decide (p.taskStatus ≠ t.status) ||
    decide (p.verifiedSize ≠ t.progressInfo.verifiedSize) || decide (p.downloadedSize ≠ t.progressInfo.downloadedSize)) with
  | false =>
    simp only [Bool.or_eq_false_iff, decide_eq_false_iff_not, not_not] at hchanged
    obtain ⟨⟨⟨-, hstatus⟩, hverified⟩, hdownloaded⟩ := hchanged
    refine .inl ⟨rfl, hstatus, ?_⟩
    rw [recorded, recorded, hstatus, hverified, hdownloaded]
  | true =>
    refine .inr ⟨rfl, rfl, fun hstatus => ?_⟩
    have hsame : p.taskStatus = t.status := hstatus.symm
    obtain ⟨hdownloaded, hverified⟩ := not_or.1 fun h => hsizes ⟨hsame, h⟩
    exact ⟨Int.not_lt.1 hdownloaded, Int.not_lt.1 hverified, by simpa [hsame] using hcompleted⟩

theorem statuses_accepted (ps : List ProgressInfo) (t : DownloadTask) :
    ((t.accepted ps).map ProgressInfo.taskStatus).destutter' (· ≠ ·) t.status =
      (ps.map ProgressInfo.taskStatus).destutter' (· ≠ ·) t.status := by
  induction ps generalizing t with
  | nil => rfl
  | cons p ps ih =>
    rw [accepted, List.map_cons]
    rcases isProgressChanged_spec p t with ⟨hrejected, hstatus, hrecorded⟩ | ⟨haccepted, hrecord, -⟩
    · have hkept : (t.isProgressChanged p).1.status = t.status := congrArg Prod.fst hrecorded
      rw [if_neg (by rw [hrejected]; exact Bool.noConfusion), hstatus,
        List.destutter'_cons_neg _ (fun h => h rfl), ← hkept]
      exact ih _
    · rw [if_pos haccepted, hrecord, List.map_cons, List.destutter'_cons, List.destutter'_cons]
      have hstatuses : ((accepted (t.record p) ps).map ProgressInfo.taskStatus).destutter' (· ≠ ·) p.taskStatus = _ :=
        ih (t.record p)
      split
      · rw [hstatuses]
        rfl
      · rename_i hsame
        rw [not_not.1 hsame, hstatuses]
        rfl

/-- The first snapshot that is accepted follows what is recorded, and each other one the one before. -/
theorem follows_accepted (ps : List ProgressInfo) (t : DownloadTask) :
    (∀ q ∈ (t.accepted ps).head?, Follows t.recorded q) ∧
      (t.accepted ps).IsChain fun p q => Follows p.recorded q := by
  induction ps generalizing t with
  | nil =>
    refine ⟨?_, .nil⟩
    rintro q ⟨⟩
  | cons p ps ih =>
    rw [accepted]
    rcases isProgressChanged_spec p t with ⟨hrejected, -, hrecorded⟩ | ⟨haccepted, hrecord, hfollows⟩
    · rw [if_neg (by rw [hrejected]; exact Bool.noConfusion), ← hrecorded]
      exact ih _
    · rw [if_pos haccepted, hrecord]
      obtain ⟨hhead, hchain⟩ := ih (t.record p)
      refine ⟨?_, List.isChain_cons.2 ⟨hhead, hchain⟩⟩
      rintro q ⟨⟩
      exact hfollows

/-- In a stretch of one status the sizes never go back. -/
theorem pairwise_of_isChain {status : DownloadStatus} {stretch : List ProgressInfo}
    (h : stretch.IsChain fun p q => Follows p.recorded q) (hstatus : ∀ p ∈ stretch, p.taskStatus = status) :
    stretch.Pairwise fun p q => p.downloadedSize ≤ q.downloadedSize ∧ p.verifiedSize ≤ q.verifiedSize := by
  have htrans : IsTrans ProgressInfo fun p q => p.downloadedSize ≤ q.downloadedSize ∧ p.verifiedSize ≤ q.verifiedSize :=
    ⟨fun _ _ _ h h' => ⟨h.1.trans h'.1, h.2.trans h'.2⟩⟩
  refine List.isChain_iff_pairwise.1 (List.IsChain.imp_of_mem_imp (fun p q hp hq hfollows => ?_) h)
  obtain ⟨hdownloaded, hverified, -⟩ := hfollows (show p.taskStatus = q.taskStatus by rw [hstatus p hp, hstatus q hq])
  exact ⟨hdownloaded, hverified⟩

/-- No change of status is lost, the sizes of one status never go back, and no end of a task is reported twice. -/
theorem progress_filter (t : DownloadTask) (ps : List ProgressInfo) :
    ((t.accepted ps).map ProgressInfo.taskStatus).destutter' (· ≠ ·) t.status =
        (ps.map ProgressInfo.taskStatus).destutter' (· ≠ ·) t.status ∧
      (∀ status stretch, stretch <:+: t.accepted ps → (∀ p ∈ stretch, p.taskStatus = status) →
        stretch.Pairwise fun p q => p.downloadedSize ≤ q.downloadedSize ∧ p.verifiedSize ≤ q.verifiedSize) ∧
      (t.accepted ps).IsChain fun p q => p.isTaskCompleted = true → q.taskStatus ≠ p.taskStatus := by
  obtain ⟨-, hchain⟩ := follows_accepted ps t
  refine ⟨statuses_accepted ps t, fun status stretch hinfix hstatus => ?_,
    hchain.imp fun p q hfollows hcompleted hsame => ?_⟩
  · have hstretch := List.IsChain.infix hchain hinfix
    exact pairwise_of_isChain hstretch hstatus
  · obtain ⟨-, -, hnot⟩ := hfollows hsame.symm
    rw [ProgressInfo.isTaskCompleted, hsame] at hnot
    rw [ProgressInfo.isTaskCompleted, hnot] at hcompleted
    cases hcompleted

end DownloadTask

end UpdateService
