import Mathlib.Data.List.Basic
import Mathlib.Algebra.Order.Group.Nat

/-!
# Files that are written in place and synced now and then

A `DurableFile` is the byte sequence the operating system shows, each byte with a mark that says
whether it has been synced since it was last written. `Crash` is all a power loss may do: synced
bytes survive, the others may change or disappear, and the file does not grow.

`Window w src f`: outside its last `w` bytes, `f` is synced and a prefix of `src`. `Writer w src f
pos u` is what a writer at `pos` with `u` unsynced bytes keeps if it starts `w` bytes before the end
of such a file and never leaves more than `w` bytes unsynced; whatever stops it, the file it leaves
is a `Window` again.
-/

namespace DurableFile
variable {β : Type*}

/-- A byte and whether it has been synced since it was last written. -/
structure Cell (β : Type*) where
  val : β
  synced : Bool
deriving DecidableEq, Repr

def write (f : List (Cell β)) (pos : Nat) (buf : List β) : List (Cell β) :=
  f.take pos ++ buf.map (⟨·, false⟩) ++ f.drop (pos + buf.length)

def sync (f : List (Cell β)) : List (Cell β) := f.map fun c => { c with synced := true }

/-- What a power loss may leave of `f`. -/
structure Crash (f f' : List (Cell β)) : Prop where
  length_le : f'.length ≤ f.length
  survives : ∀ (i : Nat) (c : Cell β), f[i]? = some c → c.synced = true → f'[i]? = some c
  destroyed : ∀ (i : Nat) (c' : Cell β), f'[i]? = some c' → c'.synced = true → f[i]? = some c'

def unsynced (f : List (Cell β)) : Nat := f.countP fun c => !c.synced

/-- The first `n` bytes are synced and are those of `src`. -/
def Stable (src : List β) (n : Nat) (f : List (Cell β)) : Prop :=
  ∀ i < n, ∃ v, src[i]? = some v ∧ f[i]? = some ⟨v, true⟩

/-- The first `n` bytes are those of `src`, synced or not. -/
def Prefix (src : List β) (n : Nat) (f : List (Cell β)) : Prop :=
  ∀ i < n, ∃ v b, src[i]? = some v ∧ f[i]? = some ⟨v, b⟩

variable {src : List β} {f f' : List (Cell β)} {n m w pos u : Nat} {buf : List β}

theorem length_write (h : pos ≤ f.length) :
    (write f pos buf).length = max f.length (pos + buf.length) := by
  simp only [write, List.length_append, List.length_take, List.length_map, List.length_drop]
  omega

@[simp] theorem length_sync : (sync f).length = f.length := by simp [sync]

@[simp] theorem write_nil : write f pos [] = f := by simp [write]

theorem getElem?_write_of_lt (h : pos ≤ f.length) {i : Nat} (hi : i < pos) :
    (write f pos buf)[i]? = f[i]? := by
  rw [write, List.append_assoc, List.getElem?_append_left (by simp; omega), List.getElem?_take_of_lt hi]

theorem getElem?_write_mid (h : pos ≤ f.length) {i : Nat} (hi : i < buf.length) :
    (write f pos buf)[pos + i]? = some ⟨buf[i], false⟩ := by
  rw [write, List.append_assoc, List.getElem?_append_right (by simp)]
  rw [List.getElem?_append_left (by simp; omega)]
  simp [Nat.min_eq_left h, hi]

theorem write_write (h : pos ≤ f.length) (buf buf' : List β) :
    write (write f pos buf) (pos + buf.length) buf' = write f pos (buf ++ buf') := by
  have h₁ : (f.take pos ++ buf.map fun v => (⟨v, false⟩ : Cell β)).length = pos + buf.length := by simp; omega
  rw [write, write, List.take_left' h₁, write, List.map_append, List.length_append]
  rw [List.drop_append, h₁, List.drop_eq_nil_of_le (by omega), List.nil_append, List.drop_drop]
  simp only [List.append_assoc, Nat.add_sub_cancel_left]
  congr 3
  rw [Nat.add_assoc]

/-! ### What writing, syncing and crashing do to a stable prefix -/

theorem Stable.mono (h : Stable src n f) (hm : m ≤ n) : Stable src m f :=
  fun i hi => h i (Nat.lt_of_lt_of_le hi hm)

theorem Stable.prefix (h : Stable src n f) : Prefix src n f :=
  fun i hi => let ⟨v, h₁, h₂⟩ := h i hi; ⟨v, true, h₁, h₂⟩

theorem Prefix.sync (h : Prefix src n f) : Stable src n (sync f) := by
  intro i hi
  obtain ⟨v, b, h₁, h₂⟩ := h i hi
  exact ⟨v, h₁, by simp [DurableFile.sync, h₂]⟩

theorem Stable.sync (h : Stable src n f) : Stable src n (sync f) := h.prefix.sync

theorem Stable.write (h : Stable src n f) (hn : n ≤ pos) (hp : pos ≤ f.length) :
    Stable src n (write f pos buf) := by
  intro i hi
  rw [getElem?_write_of_lt hp (by omega)]
  exact h i hi

theorem Prefix.write (h : Prefix src pos f) (hp : pos ≤ f.length)
    (hb : ∀ i, (hi : i < buf.length) → src[pos + i]? = some buf[i]) :
    Prefix src (pos + buf.length) (write f pos buf) := by
  intro i hi
  by_cases hip : i < pos
  · rw [getElem?_write_of_lt hp hip]; exact h i hip
  · obtain ⟨j, rfl⟩ := Nat.exists_eq_add_of_le (Nat.le_of_not_lt hip)
    have hj : j < buf.length := by omega
    exact ⟨buf[j], false, hb j hj, getElem?_write_mid hp hj⟩

theorem Stable.crash (h : Stable src n f) (hc : Crash f f') : Stable src n f' := by
  intro i hi
  obtain ⟨v, h₁, h₂⟩ := h i hi
  exact ⟨v, h₁, hc.survives i _ h₂ rfl⟩

/-- Behind a stable prefix there are at most the remaining bytes left unsynced. -/
theorem Stable.unsynced_le (h : Stable src n f) : unsynced f ≤ f.length - n := by
  have hz : (f.take n).countP (fun c => !c.synced) = 0 := by
    rw [List.countP_eq_zero]
    intro c hc
    obtain ⟨i, hi, rfl⟩ := List.mem_take_iff_getElem.1 hc
    obtain ⟨v, -, hv⟩ := h i (by omega)
    rw [List.getElem?_eq_getElem (by omega), Option.some.injEq] at hv
    simp [hv]
  have := List.countP_le_length (p := fun c : Cell β => !c.synced) (l := f.drop n)
  rw [unsynced, ← List.take_append_drop n f, List.countP_append, hz, List.take_append_drop, Nat.zero_add]
  simpa using this

/-- The bytes just written and those behind them that the write has not reached. -/
theorem le_unsynced_write (f : List (Cell β)) (pos : Nat) (buf : List β) :
    buf.length + unsynced (f.drop (pos + buf.length)) ≤ unsynced (write f pos buf) := by
  have hbuf : (buf.map fun v => (⟨v, false⟩ : Cell β)).countP (fun c => !c.synced) = buf.length := by
    rw [List.countP_map, List.countP_eq_length.2 (by simp)]
  rw [write, unsynced, unsynced, List.countP_append, List.countP_append, hbuf]; omega

theorem le_unsynced_drop_write (h : pos ≤ f.length) : buf.length ≤ unsynced ((write f pos buf).drop pos) := by
  have hbuf : (buf.map fun v => (⟨v, false⟩ : Cell β)).countP (fun c => !c.synced) = buf.length := by
    rw [List.countP_map, List.countP_eq_length.2 (by simp)]
  rw [write, List.append_assoc, List.drop_left' (by simp [h]), unsynced, List.countP_append, hbuf]; omega

/-! ### Windows and writers -/

/-- Outside its last `w` bytes `f` is synced and agrees with `src`, and it is not longer. -/
structure Window (w : Nat) (src : List β) (f : List (Cell β)) : Prop where
  fits : f.length ≤ src.length
  stable : Stable src (f.length - w) f

/-- A writer at `pos` of a file whose last `u` bytes before `pos` it has not synced. -/
structure Writer (w : Nat) (src : List β) (f : List (Cell β)) (pos u : Nat) : Prop where
  pos_le : pos ≤ f.length
  unsynced_le : u ≤ pos
  fits : f.length ≤ src.length
  reach : f.length ≤ pos - u + w
  stable : Stable src (pos - u) f
  written : Prefix src pos f

theorem Window.nil : Window w src [] := ⟨by simp, fun i hi => by simp at hi⟩

theorem Window.crash (h : Window w src f) (hc : Crash f f') : Window w src f' :=
  ⟨hc.length_le.trans h.fits, (h.stable.crash hc).mono (by have := hc.length_le; omega)⟩

theorem Window.writer (h : Window w src f) : Writer w src f (f.length - w) 0 :=
  ⟨by omega, by omega, h.fits, by omega, h.stable, h.stable.prefix⟩

namespace Writer

theorem window (h : Writer w src f pos u) : Window w src f :=
  ⟨h.fits, h.stable.mono (by have := h.reach; omega)⟩

theorem sync (h : Writer w src f pos u) : Writer w src (sync f) pos 0 := by
  refine ⟨?_, by omega, ?_, ?_, h.written.sync, h.written.sync.prefix⟩ <;> rw [length_sync]
  exacts [h.pos_le, h.fits, by have := h.reach; omega]

/-- Writing the next bytes of `src` keeps the writer, as long as at most `w` bytes are unsynced. -/
theorem write (h : Writer w src f pos u) (hu : u + buf.length ≤ w)
    (hb : ∀ i, (hi : i < buf.length) → src[pos + i]? = some buf[i]) :
    Writer w src (write f pos buf) (pos + buf.length) (u + buf.length) := by
  have hlen : (DurableFile.write f pos buf).length = _ := length_write h.pos_le
  have hsub : pos + buf.length - (u + buf.length) = pos - u := by have := h.unsynced_le; omega
  have hfit : pos + buf.length ≤ src.length := by
    rcases Nat.eq_zero_or_pos buf.length with h0 | h0
    · have := h.pos_le; have := h.fits; omega
    · have := (List.getElem?_eq_some_iff.1 (hb (buf.length - 1) (by omega))).1
      omega
  refine ⟨by omega, by have := h.unsynced_le; omega, ?_, ?_, ?_, h.written.write h.pos_le hb⟩
  · have := h.fits; omega
  · have := h.reach; have := h.unsynced_le; omega
  · rw [hsub]; exact h.stable.write (by omega) h.pos_le

end Writer

end DurableFile
