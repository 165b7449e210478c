import UpdateService.Proofs.ThreadSteps

/-!
# The sizes in the reports of a thread

Other reports than a failure have the greater of the size that has arrived and the size of the file at the beginning,
so that they never go back. The same rule comes after that of the failure, and overrides it while the thread has not
caught up with the file.
-/

namespace UpdateService

namespace ThreadRun
variable {s s' : ThreadRun} {op : ThreadOp} {ops : List ThreadOp} {d : DownloadInfo} {size : Nat}

/-- If the thread fails now it has caught up with the file it found, or the file had the size of the package. -/
def CaughtUp (s : ThreadRun) (op : ThreadOp) : Prop :=
  (s.kind op).isFail = true →
    s.thread.fileInitSize ≤ s.thread.downloadedSize ∨ s.thread.fileInitSize = s.thread.totalSize

instance : Decidable (s.CaughtUp op) := inferInstanceAs (Decidable (_ → _))

/-- A request goes on, or it is made with the size that is there. -/
theorem requesting_of_next {off : Int} (h : s.Next op (.requesting off)) :
    s.pc = .requesting off ∨ s.pc = .initPackage ∧ off = s.thread.downloadedSize := by
  generalize hpc : TaskPc.requesting off = pc at h
  cases h with
  | aside => exact .inl rfl
  | request hs =>
    cases hpc
    exact .inr ⟨hs, rfl⟩
  | _ => cases hpc

/-- What curl has told of the bytes that have arrived. -/
def dlNows (ops : List ThreadOp) : List Int :=
  ops.filterMap fun | .progress _ dlNow _ => some dlNow | _ => none

theorem dlNows_append {ops ops' : List ThreadOp} :
    dlNows (ops ++ ops') = dlNows ops ++ dlNows ops' := List.filterMap_append

/-- What is to hold of the sizes in the reports of a thread that found `size` bytes in the file. -/
structure SizesKept (d : DownloadInfo) (size : Nat) (reports : List DownloadCallbackInfo) : Prop where
  fail : ∀ r ∈ reports, r.status = .fail → r.downloadedSize = d.packageSize ∧ r.verifiedSize = d.packageSize
  least : ∀ r ∈ reports, r.status ≠ .fail → size ≤ r.downloadedSize
  mono : reports.Pairwise fun r r' => r.status ≠ .fail → r'.status ≠ .fail → r.downloadedSize ≤ r'.downloadedSize

/-- After the calls `dls` the thread is not ahead of the last of them, and no report is ahead of the thread. -/
structure SizeInv (d : DownloadInfo) (size : Nat) (dls : List Int) (s : ThreadRun) : Prop where
  fileInitSize : s.thread.fileInitSize = size
  totalSize : s.thread.totalSize = d.packageSize
  early : s.pc.isEarly = true → s.thread.downloadedSize ≤ size
  requesting : ∀ off, s.pc = .requesting off →
    off ≤ size ∧ ∀ x, (∀ y ∈ dls, y ≤ x) → s.thread.downloadedSize ≤ max (x + off) size
  behind : ∀ r ∈ s.reports, r.status ≠ .fail → r.downloadedSize ≤ max s.thread.downloadedSize size
  kept : SizesKept d size s.reports

namespace SizeInv
variable {dls : List Int} {now : Int}

theorem ofInfo (d : DownloadInfo) (size : Nat) (now : Int) : SizeInv d size [] (.ofInfo d size now) where
  fileInitSize := rfl
  totalSize := rfl
  early _ := (DownloadThread.initialDownloadedSize_natCast size).trans_le (Int.ofNat_le.2 (Nat.sub_le ..))
  requesting _ h := by cases h
  behind _ h := absurd h List.not_mem_nil
  kept := ⟨fun _ h => absurd h List.not_mem_nil, fun _ h => absurd h List.not_mem_nil, .nil⟩

/-- What the thread shows never goes back. -/
theorem shown_le (h : SizeInv d size dls s) (hs : s.Spec op s') (hmono : (dls ++ dlNows [op]).Pairwise (· ≤ ·)) :
    max s.thread.downloadedSize size ≤ max s'.thread.downloadedSize size := by
  rcases hs.downloadedSize_cases with hsame | ⟨off, dlTotal, dlNow, now, rfl, hpc, -, hnow⟩
  · rw [hsame]
  · obtain ⟨-, hlast⟩ := h.requesting off hpc
    have hall : ∀ y ∈ dls, y ≤ dlNow := fun y hy => (List.pairwise_append.1 hmono).2.2 y hy dlNow (List.mem_singleton.2 rfl)
    have := hlast dlNow hall
    omega

theorem early_step (h : SizeInv d size dls s) (hs : s.Spec op s') (hpc : s'.pc.isEarly = true) :
    s'.thread.downloadedSize ≤ size := by
  have hearly : s.pc.isEarly = true := isEarly_of_next hs.next hpc
  rcases hs.downloadedSize_cases with hsame | ⟨off, dlTotal, dlNow, now, rfl, hreq, -, -⟩
  · rw [hsame]
    exact h.early hearly
  · rw [hreq] at hearly
    cases hearly

theorem requesting_step (h : SizeInv d size dls s) (hs : s.Spec op s') (off : Int) (hpc : s'.pc = .requesting off) :
    off ≤ size ∧ ∀ x, (∀ y ∈ dls ++ dlNows [op], y ≤ x) → s'.thread.downloadedSize ≤ max (x + off) size := by
  rcases requesting_of_next (hpc ▸ hs.next) with hreq | ⟨hinit, rfl⟩
  · obtain ⟨hoff, hlast⟩ := h.requesting off hreq
    refine ⟨hoff, fun x hx => ?_⟩
    rcases hs.downloadedSize_cases with hsame | ⟨off', dlTotal, dlNow, now, rfl, hreq', -, hnow⟩
    · rw [hsame]
      exact hlast x fun y hy => hx y (List.mem_append_left _ hy)
    · obtain rfl : off = off' := by simpa [hreq] using hreq'
      have : dlNow ≤ x := hx dlNow (List.mem_append_right _ (List.mem_singleton.2 rfl))
      omega
  · have hoff := h.early (by rw [hinit]; rfl)
    refine ⟨hoff, fun x _ => ?_⟩
    rcases hs.downloadedSize_cases with hsame | ⟨off', dlTotal, dlNow, now, rfl, hreq, -, -⟩
    · omega
    · rw [hinit] at hreq
      cases hreq

theorem step (h : SizeInv d size dls s) (hs : s.Spec op s') (hmono : (dls ++ dlNows [op]).Pairwise (· ≤ ·))
    (hcaught : s.CaughtUp op) : SizeInv d size (dls ++ dlNows [op]) s' := by
  have hshown := h.shown_le hs hmono
  have hbehind : ∀ r ∈ s.reports, r.status ≠ .fail → r.downloadedSize ≤ max s'.thread.downloadedSize size :=
    fun r hr hother => (h.behind r hr hother).trans hshown
  have hfile := hs.fileInitSize.trans h.fileInitSize
  have htotal := hs.totalSize.trans h.totalSize
  rcases hs.reports with ⟨hreports, -⟩ | ⟨info, hreports, ⟨hfail, hother⟩, his⟩
  · exact ⟨hfile, htotal, h.early_step hs, h.requesting_step hs, hreports ▸ hbehind, hreports ▸ h.kept⟩
  rw [hfile] at hother
  refine ⟨hfile, htotal, h.early_step hs, h.requesting_step hs, ?_, ?_, ?_, ?_⟩
  · rw [hreports]
    refine List.forall_mem_append.2 ⟨hbehind, List.forall_mem_singleton.2 fun hne => ?_⟩
    exact (hother hne).le
  · rw [hreports]
    refine List.forall_mem_append.2 ⟨h.kept.fail, List.forall_mem_singleton.2 fun hf => ?_⟩
    have hkind := his.fail_iff.1 hf
    obtain ⟨hverified, hdownloaded⟩ := hfail hf
    rw [htotal] at hverified
    rw [hs.totalSize, hs.fileInitSize, hs.downloadedSize_of_isFail hkind] at hdownloaded
    refine ⟨?_, hverified⟩
    rcases hcaught hkind with hge | heq
    · rw [hdownloaded, if_neg (Int.not_lt.2 hge), h.totalSize]
    · rw [hdownloaded, heq, ite_self, h.totalSize]
  · rw [hreports]
    refine List.forall_mem_append.2 ⟨h.kept.least, List.forall_mem_singleton.2 fun hne => ?_⟩
    exact (hother hne).symm ▸ le_max_right ..
  · rw [hreports]
    refine List.pairwise_append.2 ⟨h.kept.mono, List.pairwise_singleton .., fun r hr => List.forall_mem_singleton.2 ?_⟩
    intro hne hne'
    rw [hother hne']
    exact hbehind r hr hne

/-- A failure that comes too early has the size of the file. -/
theorem caughtUp (h : SizeInv d size dls s) (hs : s.Spec op s')
    (hkept : SizesKept d size s'.reports) : s.CaughtUp op := by
  intro hkind
  rcases hs.reports with ⟨-, hnot⟩ | ⟨info, hreports, ⟨hfail, -⟩, his⟩
  · rw [hnot] at hkind
    cases hkind
  have hf := his.fail_iff.2 hkind
  have hmem : info ∈ s'.reports := hreports ▸ List.mem_append_right _ (List.mem_singleton.2 rfl)
  have hpackage := (hkept.fail info hmem hf).1
  have hdownloaded := (hfail hf).2
  rw [hs.totalSize, hs.fileInitSize, hs.downloadedSize_of_isFail hkind, hpackage, ← h.totalSize] at hdownloaded
  split at hdownloaded
  · exact .inr hdownloaded.symm
  · rename_i hlt
    exact .inl (Int.not_lt.1 hlt)

theorem run (hrun : (lts.guard CaughtUp).Run (.ofInfo d size now) ops s) (hmono : (dlNows ops).Pairwise (· ≤ ·)) :
    SizeInv d size (dlNows ops) s := by
  have hstep : ∀ ops s op s', (lts.guard CaughtUp).step s op s' →
      ((dlNows ops).Pairwise (· ≤ ·) → SizeInv d size (dlNows ops) s) →
      (dlNows (ops ++ [op])).Pairwise (· ≤ ·) → SizeInv d size (dlNows (ops ++ [op])) s' := by
    intro ops s op s' hs hinv hmono
    rw [dlNows_append] at hmono ⊢
    exact (hinv (List.pairwise_append.1 hmono).1).step (spec hs.2) hmono hs.1
  exact hrun.history hstep (fun _ => ofInfo d size now) hmono

end SizeInv

/-- In a run in which no thread fails behind the file it found, the sizes are kept, and the next step keeps them
exactly if it is no such failure. -/
theorem sizes_kept_iff (d : DownloadInfo) (size : Nat) (now : Int)
    (hrun : (lts.guard CaughtUp).Run (ofInfo d size now) ops s) (hmono : (dlNows ops).Pairwise (· ≤ ·)) :
    SizesKept d size s.reports ∧
      ∀ op s', s.step op = some s' → (dlNows (ops ++ [op])).Pairwise (· ≤ ·) →
        (SizesKept d size s'.reports ↔ s.CaughtUp op) := by
  have hinv := SizeInv.run hrun hmono
  refine ⟨hinv.kept, fun op s' hstep hmono' => ⟨hinv.caughtUp (spec hstep), fun hcaught => ?_⟩⟩
  exact (hinv.step (spec hstep) (dlNows_append ▸ hmono') hcaught).kept

/-- A download of which 40 of 100 bytes are there begins again at 0, and goes through. -/
def resumed : List ThreadOp :=
  [.begin, .checkBeforeStart 1, .start 1, .initPackageParam none 1, .progress 100 30 2, .progress 100 100 3,
    .response 0 206, .notifyCancel, .finish ⟨0, ""⟩ true 4, .verify 100 4, .digest {}, .notifyCancel]

theorem sizes_kept_resumed : ∃ s s', (lts.guard CaughtUp).Run (ofInfo samplePackage (40 : Nat) 0) resumed s ∧
    s.step (.reportVerify 100 5) = some s' ∧ SizesKept samplePackage 40 s'.reports := by
  have hrun : (Lts.ofPartial fun s op => if CaughtUp s op then step s op else none).Run
    (ofInfo samplePackage (40 : Nat) 0) resumed _ := Lts.run_ofPartial_get (by rfl)
  rw [← Lts.guard_ofPartial] at hrun
  have hlast := (sizes_kept_iff samplePackage 40 0 hrun (by decide)).2 (.reportVerify 100 5) _ rfl (by decide)
  exact ⟨_, _, hrun, rfl, hlast.2 (by decide)⟩

/-- It cannot open its file, and fails with the size of the file. -/
theorem not_sizes_kept : ∃ s, lts.Run (ofInfo samplePackage (40 : Nat) 0)
      [.begin, .checkBeforeStart 1, .start 1, .initPackageParam (some "errno=5;errnoMsg=I/O error") 1] s ∧
    (s.reports.map fun r => (r.status, r.downloadedSize, r.verifiedSize)) = [(.downloading, 40, 0), (.fail, 40, 100)] ∧
    ¬ SizesKept samplePackage 40 s.reports := by
  refine ⟨_, Lts.run_ofPartial_get (by rfl), rfl, fun h => ?_⟩
  have hpackage := (h.fail _ (List.mem_cons_of_mem _ (List.mem_singleton.2 rfl)) rfl).1
  exact absurd hpackage (by decide)

end ThreadRun

end UpdateService
