import UpdateService.StreamProgressThread

/-!
# The stream buffer loses nothing

`Buffered` holds before and after every iteration of `WriteFunc`: the blocks handed on and the content of the
buffer are the bytes received, and the buffer is neither full nor, at the end of the file, anything but empty.
-/

namespace UpdateService

theorem bufferSize_le : bufferSize ≤ securecMemMaxLen := by decide

theorem Chunk.totalSize_eq {c : Chunk} (h : c.ptr.length < 2 ^ 64) : c.totalSize = c.ptr.length := by
  rw [Chunk.totalSize, ← c.length_ptr]
  exact Nat.mod_eq_of_lt h

theorem castInt64_eq {x : Int} (hmin : -2 ^ 63 ≤ x) (hmax : x < 2 ^ 63) : castInt64 x = x :=
  Int.bmod_eq_of_le (by omega) (by omega)

namespace StreamProgressThread

/-- `received` are the bytes of the transfer so far, and the last `ahead` of them are not counted yet. -/
structure Buffered (recordPoint size : Int) (received : List UInt8) (ahead : Nat) (s : StreamProgressThread) : Prop where
  blocked : Blocked (bufferSize - 1) received s.blocks s.buffer.content
  totalFileSize : s.totalFileSize = size
  downloadedSize : s.downloadedSize + ahead = recordPoint + received.length
  last : recordPoint + received.length = size → s.buffer.pos = 0
  copies : ∀ c ∈ s.copies, 0 < c.1 ∧ c.2 = true

variable {processStreamData : List (List UInt8) → Int} {recordPoint size : Int} {received : List UInt8} {ahead processed : Nat}
  {s : StreamProgressThread} {c : Chunk}

theorem buffered_startDownload : Buffered recordPoint size [] 0 (startDownload size recordPoint) where
  blocked := by
    rw [startDownload, BlockBuffer.content_clear]
    exact .nil (by decide)
  totalFileSize := rfl
  downloadedSize := rfl
  last _ := rfl
  copies := by simp [startDownload]

namespace Buffered

theorem pos_lt (h : Buffered recordPoint size received ahead s) : s.buffer.pos < bufferSize - 1 := by
  have hlt := h.blocked.rest
  rwa [BlockBuffer.length_content] at hlt

/-- An iteration copies at least one byte, and takes what it has copied from the chunk. -/
theorem iteration (h : Buffered recordPoint size received processed s) (hok : ∀ blocks, processStreamData blocks = 0)
    (htotal : c.totalSize = c.ptr.length) (hlt : processed < c.totalSize) :
    ∃ (s' : StreamProgressThread) (n : Nat), 0 < n ∧ processed + n ≤ c.totalSize ∧
      writeIteration processStreamData c processed s = (s', some (processed + n)) ∧
      s'.downloadedSize = s.downloadedSize ∧
      Buffered recordPoint size (received ++ (c.ptr.drop processed).take n) (processed + n) s' := by
  have hpos := h.pos_lt
  have hsize := bufferSize_le
  obtain ⟨n, hn⟩ : ∃ n, n = min (bufferSize - s.buffer.pos - 1) (c.totalSize - processed) := ⟨_, rfl⟩
  have hn₀ : 0 < n := by omega
  have hpiece : ((c.ptr.drop processed).take n).length = n := by
    rw [List.length_take, List.length_drop]
    omega
  -- so much fits that the last byte of the array stays free
  have hfit : s.buffer.pos + ((c.ptr.drop processed).take n).length ≤ bufferSize := by omega
  have hcopy : memcpyS ((c.ptr.drop processed).take n) s.buffer = some (s.buffer.write _ hfit) :=
    dif_pos ⟨by omega, by omega, by omega⟩
  have hcopies : ∀ x ∈ s.copies ++ [(n, true)], 0 < x.1 ∧ x.2 = true := by
    intro x hx
    rcases List.mem_append.1 hx with hx | hx
    · exact h.copies x hx
    · obtain rfl := List.mem_singleton.1 hx
      exact ⟨hn₀, rfl⟩
  have hlength : (s.buffer.content ++ (c.ptr.drop processed).take n).length = s.buffer.pos + n := by
    rw [List.length_append, BlockBuffer.length_content, hpiece]
  have hdownloaded : s.downloadedSize + ((processed + n : Nat) : Int) =
      recordPoint + (received ++ (c.ptr.drop processed).take n).length := by
    have hd := h.downloadedSize
    rw [List.length_append, hpiece]
    push_cast
    omega
  unfold writeIteration
  dsimp only
  rw [← hn, hcopy]
  dsimp only
  rw [BlockBuffer.pos_write, BlockBuffer.content_write, hpiece]
  split
  · rw [if_neg (not_not.2 (hok _))]
    refine ⟨_, n, hn₀, by omega, rfl, rfl, ?_, h.totalFileSize, hdownloaded, fun _ => rfl, hcopies⟩
    rw [BlockBuffer.content_clear]
    exact h.blocked.close (by omega) (by omega)
  · rename_i hopen
    rw [not_or] at hopen
    refine ⟨_, n, hn₀, by omega, rfl, rfl, ?_, h.totalFileSize, hdownloaded, fun hlast => ?_, hcopies⟩
    · rw [BlockBuffer.content_write]
      exact h.blocked.grow (by omega)
    · refine absurd ?_ hopen.2
      rw [hdownloaded, hlast, h.totalFileSize]

theorem loop (h : Buffered recordPoint size received processed s) (hok : ∀ blocks, processStreamData blocks = 0)
    (htotal : c.totalSize = c.ptr.length) {fuel : Nat} (hfuel : c.totalSize < processed + fuel)
    (hle : processed ≤ c.totalSize) :
    ∃ s' : StreamProgressThread, writeLoop processStreamData c fuel processed s = some (s', true) ∧
      s'.downloadedSize = s.downloadedSize ∧
      Buffered recordPoint size (received ++ c.ptr.drop processed) c.totalSize s' := by
  induction fuel generalizing processed received s with
  | zero => omega
  | succ fuel ih =>
    rw [writeLoop]
    by_cases hlt : processed < c.totalSize
    · obtain ⟨s', n, hn, hn', hs, hsize, hb⟩ := h.iteration hok htotal hlt
      obtain ⟨s'', hs', hsize', hb'⟩ := ih hb (by omega) hn'
      refine ⟨s'', ?_, hsize'.trans hsize, ?_⟩
      · rw [if_pos hlt, hs]
        exact hs'
      · rwa [List.append_assoc, ← List.drop_drop, List.take_append_drop] at hb'
    · obtain rfl : processed = c.totalSize := by omega
      rw [if_neg hlt, htotal, List.drop_length, List.append_nil]
      exact ⟨s, rfl, rfl, htotal ▸ h⟩

theorem writeFunc (h : Buffered recordPoint size received 0 s) (hok : ∀ blocks, processStreamData blocks = 0)
    (hmin : -2 ^ 63 ≤ recordPoint) (hmax : size < 2 ^ 63) (hfit : recordPoint + (received ++ c.ptr).length ≤ size)
    {fuel : Nat} (hfuel : c.ptr.length < fuel) :
    ∃ s' : StreamProgressThread, writeFunc processStreamData fuel c s = some (s', (c.ptr.length : Int)) ∧
      Buffered recordPoint size (received ++ c.ptr) 0 s' := by
  rw [List.length_append] at hfit
  push_cast at hfit
  have htotal : c.totalSize = c.ptr.length := c.totalSize_eq (by omega)
  obtain ⟨s', hs, hsize, hb⟩ := h.loop hok htotal (show c.totalSize < 0 + fuel by omega) (Nat.zero_le _)
  have hd := h.downloadedSize
  have hcast : castInt64 (s'.downloadedSize + c.totalSize) = s'.downloadedSize + c.totalSize :=
    castInt64_eq (by omega) (by omega)
  refine ⟨{ s' with downloadedSize := s'.downloadedSize + c.totalSize }, ?_, hb.blocked, hb.totalFileSize, ?_, hb.last,
    hb.copies⟩
  · rw [StreamProgressThread.writeFunc, hs, Option.map_some]
    dsimp only
    rw [hcast, htotal]
  · exact (Int.add_zero _).trans hb.downloadedSize

theorem receive (h : Buffered recordPoint size received 0 s) (hok : ∀ blocks, processStreamData blocks = 0)
    (hmin : -2 ^ 63 ≤ recordPoint) (hmax : size < 2 ^ 63) {chunks : List Chunk}
    (hfit : recordPoint + (received ++ (chunks.map (·.ptr)).flatten).length ≤ size)
    {fuel : Nat} (hfuel : ∀ c ∈ chunks, c.ptr.length < fuel) :
    ∃ s' : StreamProgressThread, receive processStreamData fuel chunks s = some s' ∧
      Buffered recordPoint size (received ++ (chunks.map (·.ptr)).flatten) 0 s' := by
  induction chunks generalizing received s with
  | nil => exact ⟨s, rfl, by simpa using h⟩
  | cons c chunks ih =>
    rw [List.map_cons, List.flatten_cons, ← List.append_assoc] at hfit ⊢
    have hle := (List.sublist_append_left (received ++ c.ptr) (chunks.map (·.ptr)).flatten).length_le
    obtain ⟨s', hs, hb⟩ := h.writeFunc hok hmin hmax (c := c) (by omega) (hfuel c List.mem_cons_self)
    obtain ⟨s'', hs', hb'⟩ := ih hb hfit fun c hc => hfuel c (List.mem_cons_of_mem _ hc)
    refine ⟨s'', ?_, hb'⟩
    rw [StreamProgressThread.receive, hs, Option.bind_some, if_pos rfl]
    exact hs'

end Buffered

/-- A transfer from `recordPoint` on that stays within the file is taken to its end, whatever its chunks are,
and every call leaves the stream as the blocks handed on and what is buffered. -/
theorem receive_startDownload (hok : ∀ blocks, processStreamData blocks = 0) (hmin : -2 ^ 63 ≤ recordPoint)
    (hmax : size < 2 ^ 63) {chunks : List Chunk} (hfit : recordPoint + (chunks.map (·.ptr)).flatten.length ≤ size)
    {fuel : Nat} (hfuel : ∀ c ∈ chunks, c.ptr.length < fuel) :
    ∃ s, receive processStreamData fuel chunks (startDownload size recordPoint) = some s ∧
      s.blocks.flatten ++ s.buffer.content = (chunks.map (·.ptr)).flatten ∧ s.buffer.content.length = s.buffer.pos ∧
      s.buffer.pos < bufferSize - 1 ∧ (∀ copy ∈ s.copies, 0 < copy.1 ∧ copy.2 = true) ∧
      (∀ block ∈ s.blocks, 1 ≤ block.length ∧ block.length ≤ bufferSize - 1) ∧
      (recordPoint + (chunks.map (·.ptr)).flatten.length = size → s.buffer.pos = 0) := by
  obtain ⟨s, hs, hb⟩ := buffered_startDownload.receive hok hmin hmax hfit hfuel
  exact ⟨s, hs, hb.blocked.flatten, s.buffer.length_content, hb.pos_lt, hb.copies, hb.blocked.blocks, hb.last⟩

def twoChunks : List Chunk := [⟨[1, 2, 3], 1, 3, rfl⟩, ⟨[4], 1, 1, rfl⟩]

theorem receive_startDownload_two : ∃ s, receive (fun _ => 0) 4 twoChunks (startDownload 5 1) = some s ∧
    s.blocks.flatten ++ s.buffer.content = [1, 2, 3, 4] ∧ s.buffer.pos = 0 := by
  obtain ⟨s, hs, hflatten, -, -, -, -, hlast⟩ := @receive_startDownload (fun _ => 0) 1 5 (fun _ => rfl)
    (by decide) (by decide)
    twoChunks (by decide) 4 (by decide)
  exact ⟨s, hs, hflatten, hlast (by decide)⟩

end StreamProgressThread

end UpdateService
