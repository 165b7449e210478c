import UpdateService.DownloadRequest

/-!
# Resuming a download after a crash

Every run of `PackageDownload.lts` keeps `Inv`: the file is a `Window` of width
`MIN_FILE_DOWNLOAD_SIZE` over the package and an open transfer is a `Writer` whose unsynced bytes
are those `fsyncSize_` counts. What the fsync threshold contributes is `u_lt`: even the last chunk
before a sync, or a short one after it, stays below the roll-back.
-/

namespace UpdateService
open DurableFile

namespace DownloadRequest
variable {β : Type*} {pkg buffer : List β} {io : WriteIo} {r r' : DownloadRequest} {f f' : List (Cell β)}
  {ret pos u : Nat}

theorem fileSizeMb_add_lt {n u : Nat} (hu : u < fileSizeMb) (hn : n ≤ curlMaxWriteSize) :
    u + n < minFileDownloadSize := by
  unfold fileSizeMb minFileDownloadSize curlMaxWriteSize at *; omega

/-- One `WriteFun` call on the next bytes of the package: the file stays a writer's file below the
roll-back, and if the call succeeded the position and the unsynced count are as the next call
expects them. -/
theorem writeFun_writer (hw : Writer minFileDownloadSize pkg f pos u) (hfile : r.file = some pos)
    (hu : r.fsyncSize = u) (hlt : u < fileSizeMb)
    (hb : ∀ i, (hi : i < buffer.length) → pkg[pos + i]? = some buffer[i])
    (h : r.writeFun buffer io f = (ret, r', f')) :
    r'.downloadedSize = r.downloadedSize ∧ ∃ pos' u', r'.file = some pos' ∧
      Writer minFileDownloadSize pkg f' pos' u' ∧ u' < minFileDownloadSize ∧
      (ret = buffer.length → pos' = pos + buffer.length ∧ u' = r'.fsyncSize ∧ u' < fileSizeMb) := by
  have hu₀ := fileSizeMb_add_lt hlt (Nat.zero_le _)
  unfold writeFun at h
  split at h
  · -- an empty or oversized chunk is refused; only the empty one does not end the transfer
    cases h
    exact ⟨rfl, pos, u, hfile, hw, hu₀, fun h0 => ⟨by omega, hu.symm, hlt⟩⟩
  rename_i hlen
  have hlen0 : 0 < buffer.length := by omega
  have hmax : buffer.length ≤ curlMaxWriteSize := by omega
  split at h
  · cases h
    exact ⟨rfl, pos, u, hfile, hw, hu₀, fun h0 => by omega⟩
  simp only [hfile] at h
  have hsl : (buffer.take io.stored).length ≤ buffer.length := List.length_take_le' ..
  have hw' : Writer minFileDownloadSize pkg (write f pos (buffer.take io.stored))
      (pos + (buffer.take io.stored).length) (u + (buffer.take io.stored).length) := by
    refine hw.write (Nat.le_of_lt (fileSizeMb_add_lt hlt (hsl.trans hmax))) fun i hi => ?_
    rw [List.getElem_take]
    exact hb i (by omega)
  split at h
  · -- a short `fwrite` leaves the bytes it stored uncounted
    cases h
    exact ⟨rfl, _, _, rfl, hw', fileSizeMb_add_lt hlt (hsl.trans hmax), fun h0 => by omega⟩
  rename_i hfull
  rw [Decidable.not_not] at hfull
  rw [hfull] at hw' h
  have hu' := fileSizeMb_add_lt hlt hmax
  split at h
  · split at h
    · cases h
      exact ⟨rfl, _, _, rfl, hw', hu', fun h0 => by omega⟩
    split at h
    · cases h
      exact ⟨rfl, _, _, rfl, hw', hu', fun h0 => by omega⟩
    · cases h
      exact ⟨rfl, _, 0, rfl, hw'.sync, by omega, fun _ => ⟨rfl, rfl, by omega⟩⟩
  · rename_i hthr
    cases h
    exact ⟨rfl, _, _, rfl, hw', hu', fun _ => ⟨rfl, by rw [hu], by simp only [hu] at hthr; omega⟩⟩

end DownloadRequest

namespace PackageDownload
variable {β : Type*} {pkg : List β} {s s' : PackageDownload β} {f : List (Cell β)} {t : Transfer} {n m : Nat}

/-- The thread's transfer: while curl goes on it writes where the server reads, and `fsyncSize_`
counts its unsynced bytes. -/
structure TransferOk (pkg : List β) (f : List (Cell β)) (t : Transfer) (pos u : Nat) : Prop where
  base : 0 ≤ t.request.downloadedSize
  file : t.request.file = some pos
  writer : Writer minFileDownloadSize pkg f pos u
  u_lt : u < minFileDownloadSize
  opened : t.isOpen = true → pos = t.offset ∧ u = t.request.fsyncSize ∧ u < fileSizeMb

structure Inv (pkg : List β) (s : PackageDownload β) : Prop where
  window : Window minFileDownloadSize pkg s.file
  transfer : ∀ t, s.thread = some t → ∃ pos u, TransferOk pkg s.file t pos u

theorem Inv.init : Inv pkg {} := ⟨Window.nil, fun _ h => by simp at h⟩

theorem Inv.idle (h : Window minFileDownloadSize pkg f) : Inv pkg { file := f } := ⟨h, fun _ ht => by simp at ht⟩

theorem Inv.resume (h : Inv pkg s) : Inv pkg { s with thread := some (startTransfer s.file) } := by
  refine ⟨h.window, fun t ht => ?_⟩
  obtain rfl := Option.some.inj ht
  have hoff := DownloadThread.initialDownloadedSize_toNat s.file.length
  refine ⟨s.file.length - minFileDownloadSize, 0, ?_, ?_, h.window.writer, by decide, fun _ => ⟨?_, rfl, by decide⟩⟩
  · show 0 ≤ DownloadThread.initialDownloadedSize s.file.length
    rw [DownloadThread.initialDownloadedSize_natCast]; omega
  · exact congrArg some hoff
  · exact hoff.symm

theorem Inv.deliver (h : Inv pkg s) (ht : s.thread = some t) (ho : t.isOpen = true) (n : Nat) (io : WriteIo) :
    Inv pkg (deliver pkg n io t s.file) := by
  obtain ⟨pos, u, hok⟩ := h.transfer t ht
  obtain ⟨rfl, hu, hlt⟩ := hok.opened ho
  rcases hr : t.request.writeFun ((pkg.drop t.offset).take n) io s.file with ⟨ret, r', f'⟩
  have hb : ∀ i, (hi : i < ((pkg.drop t.offset).take n).length) →
      pkg[t.offset + i]? = some ((pkg.drop t.offset).take n)[i] := by
    intro i hi
    simp only [List.getElem_take, List.getElem_drop]
    rw [List.length_take, List.length_drop] at hi
    exact List.getElem?_eq_getElem (by omega)
  obtain ⟨hbase, pos', u', hfile, hw, hu', hopen⟩ :=
    DownloadRequest.writeFun_writer hok.writer hok.file hu.symm hlt hb hr
  have hd : PackageDownload.deliver pkg n io t s.file =
      ⟨f', some ⟨r', t.received + ((pkg.drop t.offset).take n).length,
        ret = ((pkg.drop t.offset).take n).length⟩⟩ := by
    simp only [PackageDownload.deliver, hr]
  rw [hd]
  refine ⟨hw.window, fun t' ht' => ?_⟩
  obtain rfl := Option.some.inj ht'
  refine ⟨pos', u', hbase ▸ hok.base, hfile, hw, hu', fun ho' => ?_⟩
  obtain ⟨rfl, h₂, h₃⟩ := hopen (by simpa using ho')
  exact ⟨by simp only [Transfer.offset, hbase]; omega, h₂, h₃⟩

theorem Inv.stop (h : Inv pkg s) (ht : s.thread = some t) :
    Inv pkg { s with thread := some { t with request := { t.request with isNeedStop := true } } } := by
  obtain ⟨pos, u, hok⟩ := h.transfer t ht
  refine ⟨h.window, fun t' ht' => ?_⟩
  obtain rfl := Option.some.inj ht'
  exact ⟨pos, u, hok.base, hok.file, hok.writer, hok.u_lt, hok.opened⟩

theorem Inv.finish (h : Inv pkg s) (fflushOk fsyncOk : Bool) (ht : s.thread ≠ none) :
    Inv pkg (finishTransfer fflushOk fsyncOk s.file) := by
  obtain ⟨t, ht⟩ := Option.ne_none_iff_exists'.1 ht
  obtain ⟨pos, u, hok⟩ := h.transfer t ht
  refine Inv.idle ?_
  split
  · exact hok.writer.sync.window
  · exact h.window

theorem inv_preserved (pkg : List β) : (lts pkg).Preserved (Inv pkg) := by
  intro s op s' hs h
  cases op with
  | resume => obtain ⟨-, rfl⟩ := hs; exact h.resume
  | chunk n io => obtain ⟨t, ht, ho, rfl⟩ := hs; exact h.deliver ht ho n io
  | stop => obtain ⟨t, ht, rfl⟩ := hs; exact h.stop ht
  | finish a b => obtain ⟨ht, rfl⟩ := hs; exact h.finish a b ht
  | powerLoss f => obtain ⟨hc, rfl⟩ := hs; exact Inv.idle (h.window.crash hc)
  | clearPackage => obtain ⟨-, rfl⟩ := hs; exact Inv.init

theorem startTransfer_file : (startTransfer f).request.file = some (startTransfer f).offset := rfl

theorem startTransfer_offset : (startTransfer f).offset = f.length - minFileDownloadSize := by
  have h : (startTransfer f).offset = (DownloadThread.initialDownloadedSize f.length).toNat := rfl
  rw [h, DownloadThread.initialDownloadedSize_toNat]

theorem callbackProgress_offset (hb : 0 ≤ t.request.downloadedSize) {dlTotal : Int} {a : Int × Int}
    (h : t.request.callbackProgress dlTotal t.received = some a) : a.2 = t.offset := by
  unfold DownloadRequest.callbackProgress at h
  split at h
  · simp at h
  split at h
  · simp at h
  · obtain rfl := Option.some.inj h
    simp only [Transfer.offset]; omega

theorem Inv.last_bytes (h : Inv pkg s) {i : Nat} {v : β} (hv : s.file[i]? = some ⟨v, false⟩) :
    s.file.length ≤ i + minFileDownloadSize := by
  by_contra hlt
  obtain ⟨w, -, hw⟩ := h.window.stable i (by omega)
  rw [hv] at hw; simp at hw

/-- In every state of every run: the unsynced bytes are among the last `MIN_FILE_DOWNLOAD_SIZE` of
the file, every byte below the offset at which the next thread resumes is synced and is the
package's, and a running transfer has fewer than `MIN_FILE_DOWNLOAD_SIZE` unsynced bytes of its own
and writes where the server reads. -/
theorem resume_is_durable {ops : List (TransferOp β)} (h : (lts pkg).Run {} ops s) :
    unsynced s.file ≤ minFileDownloadSize ∧
    (∀ i v, s.file[i]? = some ⟨v, false⟩ → s.file.length ≤ i + minFileDownloadSize) ∧
    Stable pkg (startTransfer s.file).offset s.file ∧
    (startTransfer s.file).request.file = some (startTransfer s.file).offset ∧
    ∀ t, s.thread = some t →
      (∃ pos u, t.request.file = some pos ∧ u < minFileDownloadSize ∧ Stable pkg (pos - u) s.file) ∧
      (t.isOpen = true → t.request.file = some t.offset ∧ ∀ dlTotal a,
        t.request.callbackProgress dlTotal t.received = some a → a.2 = t.offset) := by
  have hi := h.invariant (inv_preserved pkg) Inv.init
  refine ⟨?_, fun i v hv => hi.last_bytes hv, ?_, startTransfer_file, fun t ht => ?_⟩
  · have := hi.window.stable.unsynced_le; omega
  · rw [startTransfer_offset]; exact hi.window.stable
  · obtain ⟨pos, u, hok⟩ := hi.transfer t ht
    refine ⟨⟨pos, u, hok.file, hok.u_lt, hok.writer.stable⟩, fun ho => ?_⟩
    obtain ⟨rfl, -, -⟩ := hok.opened ho
    exact ⟨hok.file, fun dlTotal a ha => callbackProgress_offset hok.base ha⟩

/-! ### A run that leaves as many bytes unsynced as the next thread rolls back -/

/-- The answers of the C library when nothing fails. -/
def allWritten (n : Nat) : WriteIo := ⟨n, true, true⟩

/-- The `n` bytes of the package from `t.offset` on, written into the file. -/
def writeNext (pkg : List β) (n : Nat) (t : Transfer) (f : List (Cell β)) : List (Cell β) :=
  write f t.offset ((pkg.drop t.offset).take n)

/-- The transfer after `n` more bytes without a sync. -/
def advance (n : Nat) (t : Transfer) : Transfer :=
  { t with
    request := { t.request with file := some (t.offset + n), fsyncSize := t.request.fsyncSize + n }
    received := t.received + n }

@[simp] theorem advance_offset (n : Nat) : (advance n t).offset = t.offset + n :=
  (Nat.add_assoc _ _ _).symm

/-- The transfer after a sync. -/
def synced (t : Transfer) : Transfer := { t with request := { t.request with fsyncSize := 0 } }

@[simp] theorem advance_fsyncSize (n : Nat) : (advance n t).request.fsyncSize = t.request.fsyncSize + n := rfl

/-- A transfer for which the package has `n` more bytes. -/
structure Ready (pkg : List β) (f : List (Cell β)) (t : Transfer) (n : Nat) : Prop where
  isOpen : t.isOpen = true
  noStop : t.request.isNeedStop = false
  file : t.request.file = some t.offset
  offset_le : t.offset ≤ f.length
  fits : t.offset + n ≤ pkg.length

theorem Ready.length (h : Ready pkg f t n) : ((pkg.drop t.offset).take n).length = n := by
  rw [List.length_take, List.length_drop]; have := h.fits; omega

theorem Ready.mono (h : Ready pkg f t m) (hn : n ≤ m) : Ready pkg f t n :=
  { h with fits := by have := h.fits; omega }

theorem Ready.next (h : Ready pkg f t (n + m)) : Ready pkg (writeNext pkg n t f) (advance n t) m := by
  have hlen := (h.mono (Nat.le_add_right n m)).length
  refine ⟨h.isOpen, h.noStop, congrArg some (advance_offset n).symm, ?_, ?_⟩ <;> rw [advance_offset]
  · rw [writeNext, length_write h.offset_le, hlen]; omega
  · have := h.fits; omega

theorem Ready.of_sync (h : Ready pkg f t n) : Ready pkg (sync f) (synced t) n :=
  ⟨h.isOpen, h.noStop, h.file, h.offset_le.trans (length_sync (f := f)).ge, h.fits⟩

theorem Ready.writeNext_writeNext (h : Ready pkg f t (n + m)) :
    writeNext pkg m (advance n t) (writeNext pkg n t f) = writeNext pkg (n + m) t f := by
  have hw := write_write h.offset_le ((pkg.drop t.offset).take n) ((pkg.drop (t.offset + n)).take m)
  rw [(h.mono (Nat.le_add_right n m)).length] at hw
  unfold writeNext
  rw [advance_offset, hw, List.take_add, List.drop_drop]

theorem advance_advance (m n : Nat) : advance m (advance n t) = advance (n + m) t := by
  have h := advance_offset (t := t) n
  rw [advance, h]
  simp only [advance, Nat.add_assoc]

theorem Ready.deliver (h : Ready pkg f t n) (hn : 0 < n) (hc : n ≤ curlMaxWriteSize) :
    deliver pkg n (allWritten n) t f =
      if fileSizeMb ≤ t.request.fsyncSize + n then ⟨sync (writeNext pkg n t f), some (synced (advance n t))⟩
      else ⟨writeNext pkg n t f, some (advance n t)⟩ := by
  have hlen := h.length
  have hw : t.request.writeFun ((pkg.drop t.offset).take n) (allWritten n) f =
      if fileSizeMb ≤ t.request.fsyncSize + n then (n, (synced (advance n t)).request, sync (writeNext pkg n t f))
      else (n, (advance n t).request, writeNext pkg n t f) := by
    rw [DownloadRequest.writeFun, if_neg (by omega), if_neg (by simp [h.noStop]), h.file]
    simp only [allWritten, List.take_take, Nat.min_self, hlen, ne_eq, not_true_eq_false, if_false]
    rfl
  have hopen : (advance n t).isOpen = true := h.isOpen
  rw [PackageDownload.deliver, hw]
  by_cases hs : fileSizeMb ≤ t.request.fsyncSize + n
  · simp only [hs, if_true, hlen, decide_true, ← hopen]; rfl
  · simp only [hs, if_false, hlen, decide_true, ← hopen]; rfl

theorem Ready.run_chunks (hn : 0 < n) (hc : n ≤ curlMaxWriteSize) (k : Nat) {f : List (Cell β)} {t : Transfer}
    (h : Ready pkg f t (k * n)) (hu : t.request.fsyncSize + k * n < fileSizeMb) :
    (lts pkg).Run ⟨f, some t⟩ (List.replicate k (.chunk n (allWritten n)))
      ⟨writeNext pkg (k * n) t f, some (advance (k * n) t)⟩ := by
  induction k generalizing f t with
  | zero =>
    have hw : writeNext pkg 0 t f = f := by rw [writeNext, List.take_zero, write_nil]
    have ha : advance 0 t = t := by
      rw [advance, Nat.add_zero, ← h.file]; rfl
    rw [Nat.zero_mul, hw, ha]; exact .nil _
  | succ k ih =>
    rw [Nat.succ_mul, Nat.add_comm (k * n)] at h hu ⊢
    have hrun := ih h.next (by rw [advance_fsyncSize]; omega)
    rw [h.writeNext_writeNext, advance_advance] at hrun
    refine .cons ⟨t, rfl, h.isOpen, ?_⟩ hrun
    rw [(h.mono (Nat.le_add_right n _)).deliver hn hc, if_neg (by omega)]

theorem Ready.run_sync (hn : 0 < n) (hc : n ≤ curlMaxWriteSize) {k : Nat} (h : Ready pkg f t (k * n + n))
    (hu : t.request.fsyncSize + k * n < fileSizeMb) (hs : fileSizeMb ≤ t.request.fsyncSize + k * n + n) :
    (lts pkg).Run ⟨f, some t⟩ (List.replicate (k + 1) (.chunk n (allWritten n)))
      ⟨sync (writeNext pkg (k * n + n) t f), some (synced (advance (k * n + n) t))⟩ := by
  rw [List.replicate_succ']
  refine ((h.mono (Nat.le_add_right _ _)).run_chunks hn hc k hu).snoc ⟨_, rfl, h.isOpen, ?_⟩
  rw [h.next.deliver hn hc, if_pos (by rw [advance_fsyncSize]; exact hs), h.writeNext_writeNext, advance_advance]

/-- As many bytes as 1275 full chunks hold. -/
def overlapPackage : List Nat := List.replicate (1275 * curlMaxWriteSize) 0

/-- `k` full chunks. -/
def fullChunks (k : Nat) : List (TransferOp Nat) :=
  List.replicate k (.chunk curlMaxWriteSize (allWritten curlMaxWriteSize))

/-- A thread syncs after 638 full chunks, is stopped 637 chunks later and its last `fsync` fails; the
next thread overwrites three of the synced chunks. -/
def overlapOps : List (TransferOp Nat) :=
  [.resume] ++ fullChunks 638 ++ fullChunks 637 ++ [.stop, .finish true false] ++ [.resume] ++ fullChunks 3

theorem length_overlapPackage : overlapPackage.length = 1275 * curlMaxWriteSize := List.length_replicate ..

theorem fileSizeMb_eq : fileSizeMb = 638 * curlMaxWriteSize := rfl

theorem minFileDownloadSize_eq : minFileDownloadSize = 640 * curlMaxWriteSize := rfl

theorem ready_startTransfer (hn : f.length - minFileDownloadSize + n ≤ pkg.length) :
    Ready pkg f (startTransfer f) n := by
  refine ⟨rfl, rfl, startTransfer_file, ?_, ?_⟩ <;> rw [startTransfer_offset]
  exacts [Nat.sub_le .., hn]

theorem run_resume (f : List (Cell β)) : (lts pkg).Run ⟨f, none⟩ [.resume] ⟨f, some (startTransfer f)⟩ :=
  .single ⟨rfl, rfl⟩

theorem overlap_synced : ∃ f t, (lts overlapPackage).Run {} ([.resume] ++ fullChunks 638) ⟨f, some t⟩ ∧
    Ready overlapPackage f t (637 * curlMaxWriteSize) ∧ t.request.fsyncSize = 0 ∧
    t.offset = 638 * curlMaxWriteSize ∧ f.length = 638 * curlMaxWriteSize := by
  have hpkg := length_overlapPackage
  have hthr := fileSizeMb_eq
  have hc : 0 < curlMaxWriteSize := by decide
  generalize hcm : curlMaxWriteSize = c at *
  have h₀ : Ready overlapPackage [] (startTransfer []) ((637 * c + c) + 637 * c) :=
    ready_startTransfer (by rw [List.length_nil]; omega)
  have ho : (startTransfer ([] : List (Cell Nat))).offset = 0 := by
    rw [startTransfer_offset, List.length_nil, Nat.zero_sub]
  have hu : (startTransfer ([] : List (Cell Nat))).request.fsyncSize = 0 := rfl
  have hrun := (h₀.mono (Nat.le_add_right ..)).run_sync hc hcm.ge (by omega) (by omega)
  refine ⟨_, _, (run_resume []).append (by rw [fullChunks, hcm]; exact hrun), h₀.next.of_sync, rfl, ?_, ?_⟩
  · have := advance_offset (t := startTransfer ([] : List (Cell Nat))) (637 * c + c)
    rw [ho] at this; exact this.trans (by omega)
  · rw [length_sync, writeNext, length_write (by omega), (h₀.mono (Nat.le_add_right ..)).length, ho,
      List.length_nil]
    omega

/-- The file that the first thread leaves: its last 637 chunks are unsynced. -/
theorem overlap_stopped : ∃ f,
    (lts overlapPackage).Run {} ([.resume] ++ fullChunks 638 ++ fullChunks 637 ++ [.stop, .finish true false]) ⟨f, none⟩ ∧
    f.length = 1275 * curlMaxWriteSize ∧
    637 * curlMaxWriteSize ≤ unsynced (f.drop (638 * curlMaxWriteSize)) := by
  obtain ⟨f, t, hrun, hr, hu, ho, hl⟩ := overlap_synced
  have hthr := fileSizeMb_eq
  have hc : 0 < curlMaxWriteSize := by decide
  have hrun' := hr.run_chunks hc le_rfl 637 (by omega)
  have hlen := hr.length
  refine ⟨_, (hrun.append hrun').append (.cons ⟨_, rfl, rfl⟩ (.single ⟨by simp, rfl⟩)), ?_, ?_⟩
  · show (writeNext _ _ _ _).length = _
    rw [writeNext, length_write hr.offset_le, hlen, hl, ho]; omega
  · show _ ≤ unsynced ((writeNext _ _ _ _).drop _)
    rw [writeNext, ← ho]
    exact hlen.ge.trans (le_unsynced_drop_write hr.offset_le)

/-- A run that leaves `MIN_FILE_DOWNLOAD_SIZE` bytes unsynced, not fewer. -/
theorem unsynced_reaches_roll_back :
    ∃ s, (lts overlapPackage).Run {} overlapOps s ∧ ¬ unsynced s.file < minFileDownloadSize := by
  obtain ⟨f, hrun, hl, hu⟩ := overlap_stopped
  have hpkg := length_overlapPackage
  have hmin := minFileDownloadSize_eq
  have hthr := fileSizeMb_eq
  have hc : 0 < curlMaxWriteSize := by decide
  have ho : (startTransfer f).offset = 635 * curlMaxWriteSize := by rw [startTransfer_offset]; omega
  have hr : Ready overlapPackage f (startTransfer f) (3 * curlMaxWriteSize) := ready_startTransfer (by omega)
  have hz : (startTransfer f).request.fsyncSize = 0 := rfl
  refine ⟨_, (hrun.append (run_resume f)).append (hr.run_chunks hc le_rfl 3 (by omega)), ?_⟩
  have hle := le_unsynced_write f (startTransfer f).offset
    ((overlapPackage.drop (startTransfer f).offset).take (3 * curlMaxWriteSize))
  have hd : (startTransfer f).offset + 3 * curlMaxWriteSize = 638 * curlMaxWriteSize := by omega
  rw [hr.length, hd] at hle
  show ¬ unsynced (writeNext _ _ _ _) < _
  rw [writeNext]; omega

/-- After the stop the next thread starts behind synced bytes. -/
theorem resume_is_durable_after_stop : ∃ f, f.length = 1275 * curlMaxWriteSize ∧
    Stable overlapPackage (startTransfer f).offset f :=
  let ⟨f, hrun, hl, _⟩ := overlap_stopped
  ⟨f, hl, (resume_is_durable hrun).2.2.1⟩

end PackageDownload

end UpdateService
