import Mathlib.Data.List.Perm.Basic
import UpdateService.UpdateUserUnlockObserver

/-!
# Initialisation after unlock

The exchange of `initialized_` lets one thread through, so the callback runs once at most in every run. That nothing is
left registered rests on the second check: a `Start` does not ask `initialized_`, so where its second check finds the
user locked again its listener stays.
-/

namespace UpdateService

namespace UnlockPc

/-- Where only a thread can be that has found the business initialised, or initialised it, or that stops. -/
def isLate : UnlockPc → Bool
  | onUnlocked | submit | unregister => true
  | _ => false

/-- Where a thread has not yet registered, or will not. -/
def isBefore : UnlockPc → Bool
  | getActiveUserId | firstCheck _ | register _ | tryNotify => true
  | _ => false

/-- The user a thread has asked for. -/
def userId? : UnlockPc → Option Int
  | firstCheck userId | register userId | secondCheck userId => some userId
  | _ => none

end UnlockPc

namespace UpdateUserUnlockObserver
open UserAccountHelper
variable {s s' : UpdateUserUnlockObserver} {op : UnlockOp} {ops : List UnlockOp} {isOk : Bool} {pc : UnlockPc}
  {unlocked : Int → Bool} {activeUser : Int}

/-! ### What a step needs -/

theorem run_of_step {thread : Nat} (hs : s.step (.run thread isOk) = some s') : ∃ pc, s.threads[thread]? = some pc ∧
    s' = { (s.advance isOk pc).1 with threads := s.threads.eraseIdx thread ++ (s.advance isOk pc).2 } := by
  simp only [UpdateUserUnlockObserver.step] at hs
  split at hs
  · cases hs
  · rename_i pc hpc
    exact ⟨pc, hpc, (Option.some.inj hs).symm⟩

theorem deliver_of_step {subscriber : Nat} (hs : s.step (.deliver subscriber) = some s') : subscriber ∈ s.events ∧
    s' = { s with events := s.events.erase subscriber, threads := s.threads ++ [.tryNotify] } := by
  simp only [UpdateUserUnlockObserver.step] at hs
  split at hs
  · rename_i hmem
    exact ⟨hmem, (Option.some.inj hs).symm⟩
  · cases hs

theorem drop_of_step {subscriber : Nat} (hs : s.step (.drop subscriber) = some s') :
    (subscriber ∈ s.events ∧ subscriber ∉ s.subscribers) ∧ s' = { s with events := s.events.erase subscriber } := by
  simp only [UpdateUserUnlockObserver.step] at hs
  split at hs
  · rename_i hmem
    exact ⟨hmem, (Option.some.inj hs).symm⟩
  · cases hs

/-! ### At most once -/

/-- The thread that got through has called or is about to. -/
def Once (s : UpdateUserUnlockObserver) : Prop :=
  s.unlockedCalls + s.threads.count .onUnlocked = if s.initialized then 1 else 0

theorem advance_once (isOk : Bool) (pc : UnlockPc) (s : UpdateUserUnlockObserver) :
    (s.advance isOk pc).1.unlockedCalls + (s.advance isOk pc).2.count .onUnlocked + (if s.initialized then 1 else 0) =
      s.unlockedCalls + [pc].count .onUnlocked + if (s.advance isOk pc).1.initialized then 1 else 0 := by
  cases pc with
  | firstCheck userId | secondCheck userId =>
    unfold advance
    dsimp only
    split <;> rfl
  | register userId =>
    unfold advance registerUserUnlockListener
    dsimp only
    split
    · rfl
    · split <;> rfl
  | unregister =>
    unfold advance unregisterUserUnlockListener
    dsimp only
    split <;> rfl
  | tryNotify => cases hinit : s.initialized <;> simp [advance, hinit]
  | onUnlocked =>
    show s.unlockedCalls + 1 + 0 + _ = s.unlockedCalls + 1 + _
    rfl
  | _ => rfl

theorem threads_perm {thread : Nat} (h : s.threads[thread]? = some pc) :
    s.threads.Perm (pc :: s.threads.eraseIdx thread) := by
  obtain ⟨hlt, rfl⟩ := List.getElem?_eq_some_iff.1 h
  exact (List.getElem_cons_eraseIdx_perm hlt).symm

theorem count_threads {thread : Nat} (h : s.threads[thread]? = some pc) (a : UnlockPc) :
    s.threads.count a = [pc].count a + (s.threads.eraseIdx thread).count a := by
  rw [← List.count_append]
  exact (threads_perm h).count_eq a

theorem mem_threads {thread : Nat} (h : s.threads[thread]? = some pc) {a : UnlockPc} (ha : a ∈ s.threads) :
    a = pc ∨ a ∈ s.threads.eraseIdx thread := List.mem_cons.1 ((threads_perm h).mem_iff.1 ha)

theorem Once.step (h : Once s) (hs : s.step op = some s') : Once s' := by
  unfold Once at h
  cases op with
  | run thread isOk =>
    obtain ⟨pc, hpc, rfl⟩ := run_of_step hs
    have hadvance := advance_once isOk pc s
    rw [count_threads hpc] at h
    show (s.advance isOk pc).1.unlockedCalls + (s.threads.eraseIdx thread ++ (s.advance isOk pc).2).count .onUnlocked =
      if (s.advance isOk pc).1.initialized then 1 else 0
    rw [List.count_append]
    omega
  | start | stop =>
    obtain rfl := Option.some.inj hs
    show s.unlockedCalls + (s.threads ++ [_]).count UnlockPc.onUnlocked = if s.initialized then 1 else 0
    rw [List.count_append]
    exact h
  | deliver subscriber =>
    obtain ⟨-, rfl⟩ := deliver_of_step hs
    show s.unlockedCalls + (s.threads ++ [_]).count UnlockPc.onUnlocked = if s.initialized then 1 else 0
    rw [List.count_append]
    exact h
  | drop subscriber =>
    obtain ⟨-, rfl⟩ := drop_of_step hs
    exact h
  | unlock userId | lock userId | switchUser userId =>
    obtain rfl := Option.some.inj hs
    exact h

/-! ### Nothing left registered -/

/-- `SubscribeCommonEvent` succeeds. -/
def subscribes (s : UpdateUserUnlockObserver) : UnlockOp → Bool
  | .run thread isOk =>
    match s.threads[thread]? with
    | some (.register _) => isOk
    | _ => true
  | _ => true

/-- Once the active user has been unlocked a second check finds it unlocked, and an unsubscription succeeds; and no
change of the active user takes the place of the unlock. -/
def settles (s : UpdateUserUnlockObserver) : UnlockOp → Bool
  | .run thread isOk =>
    match s.threads[thread]? with
    | some (.secondCheck userId) => !s.wasUnlocked || isActiveUserUnlocked userId isOk s.unlocked
    | some .unregister => isOk
    | _ => true
  | .switchUser userId => !s.hasStarted || !s.unlocked userId || s.wasUnlocked
  | _ => true

def Settled (s : UpdateUserUnlockObserver) (op : UnlockOp) : Prop :=
  s.subscribes op = true ∧ (s.hasStopped = false → s.settles op = true)

instance : Decidable (Settled s op) := inferInstanceAs (Decidable (_ ∧ _))

/-- What holds as long as no `Stop` has come: as long as there is something to do, there is someone who will. -/
structure Inv (s : UpdateUserUnlockObserver) : Prop where
  subscribers : s.subscribers = s.userUnlockSubscriber.toList
  late : ∀ pc ∈ s.threads, pc.isLate = true → s.initialized = true
  started : s.wasUnlocked = true → s.hasStarted = true
  noted : s.hasStarted = true → s.unlocked s.activeUser = true → s.wasUnlocked = true
  subscribed : s.hasStarted = true → s.initialized = false →
    s.userUnlockSubscriber ≠ none ∨ ∃ pc ∈ s.threads, pc.isBefore = true
  busy : s.wasUnlocked = true → (s.initialized = true → s.userUnlockSubscriber ≠ none) →
    s.threads ≠ [] ∨ ∃ subscriber ∈ s.events, subscriber ∈ s.subscribers

/-- What no step of a thread changes. -/
theorem advance_frame (isOk : Bool) (pc : UnlockPc) (s : UpdateUserUnlockObserver) :
    (s.advance isOk pc).1.hasStopped = s.hasStopped ∧ (s.advance isOk pc).1.wasUnlocked = s.wasUnlocked ∧
      (s.advance isOk pc).1.unlocked = s.unlocked ∧ (s.advance isOk pc).1.activeUser = s.activeUser := by
  cases pc with
  | firstCheck userId | secondCheck userId | tryNotify =>
    unfold advance
    dsimp only
    split <;> exact ⟨rfl, rfl, rfl, rfl⟩
  | register userId =>
    unfold advance registerUserUnlockListener
    dsimp only
    split
    · exact ⟨rfl, rfl, rfl, rfl⟩
    · split <;> exact ⟨rfl, rfl, rfl, rfl⟩
  | unregister =>
    unfold advance unregisterUserUnlockListener
    dsimp only
    split <;> exact ⟨rfl, rfl, rfl, rfl⟩
  | _ => exact ⟨rfl, rfl, rfl, rfl⟩

theorem hasStopped_of_step (hs : s.step op = some s') (hstop : s'.hasStopped = false) : s.hasStopped = false := by
  cases op with
  | run thread isOk =>
    simp only [step] at hs
    split at hs
    · cases hs
    · rename_i pc hpc
      obtain rfl := Option.some.inj hs
      exact (advance_frame isOk pc s).1.symm.trans hstop
  | stop =>
    obtain rfl := Option.some.inj hs
    cases hstop
  | deliver subscriber | drop subscriber =>
    simp only [step] at hs
    split at hs
    · obtain rfl := Option.some.inj hs
      exact hstop
    · cases hs
  | _ =>
    obtain rfl := Option.some.inj hs
    exact hstop

namespace Inv

theorem init (unlocked : Int → Bool) (activeUser : Int) : Inv { unlocked, activeUser } where
  subscribers := rfl
  late _ h := absurd h List.not_mem_nil
  started h := by cases h
  noted h := by cases h
  subscribed h := by cases h
  busy h := by cases h

theorem mem_subscribers (h : Inv s) (hne : s.userUnlockSubscriber ≠ none) :
    ∃ subscriber, subscriber ∈ s.subscribers := by
  obtain ⟨subscriber, hsome⟩ := Option.ne_none_iff_exists'.1 hne
  exact ⟨subscriber, by rw [h.subscribers, hsome]; exact List.mem_singleton.2 rfl⟩

theorem deliver (h : Inv s) (subscriber : Nat) :
    Inv { s with events := s.events.erase subscriber, threads := s.threads ++ [.tryNotify] } where
  subscribers := h.subscribers
  late := List.forall_mem_append.2 ⟨h.late, List.forall_mem_singleton.2 nofun⟩
  started := h.started
  noted := h.noted
  subscribed _ _ := .inr ⟨.tryNotify, by simp, rfl⟩
  busy _ _ := .inl (by simp)

theorem drop (h : Inv s) {subscriber : Nat} (hnot : subscriber ∉ s.subscribers) :
    Inv { s with events := s.events.erase subscriber } := by
  refine ⟨h.subscribers, h.late, h.started, h.noted, h.subscribed, fun hwas hinit => ?_⟩
  rcases h.busy hwas hinit with hthreads | ⟨other, hother, hmem⟩
  · exact .inl hthreads
  · have hne : other ≠ subscriber := by
      rintro rfl
      exact hnot hmem
    exact .inr ⟨other, (List.mem_erase_of_ne hne).2 hother, hmem⟩

theorem start (h : Inv s) : Inv (note { s with threads := s.threads ++ [.getActiveUserId], hasStarted := true }) where
  subscribers := h.subscribers
  late := List.forall_mem_append.2 ⟨h.late, List.forall_mem_singleton.2 nofun⟩
  started _ := rfl
  noted _ hunlocked := by
    show (s.wasUnlocked || (true && s.unlocked s.activeUser)) = true
    rw [show s.unlocked s.activeUser = true from hunlocked, Bool.and_self, Bool.or_true]
  subscribed _ _ := .inr ⟨.getActiveUserId, List.mem_append_right _ (List.mem_singleton.2 rfl), rfl⟩
  busy _ _ := .inl (List.append_ne_nil_of_right_ne_nil _ nofun)

/-- The unlock of a user is an event for the subscriber, or a `Start` has still to look. -/
theorem unlock (h : Inv s) (userId : Int) : Inv (note { s with
    unlocked := Function.update s.unlocked userId true
    events := s.events ++ s.subscribers }) := by
  have hstarted : (s.wasUnlocked || (s.hasStarted && Function.update s.unlocked userId true s.activeUser)) = true →
      s.hasStarted = true := by
    intro h'
    rcases Bool.or_eq_true_iff.1 h' with hwas | hnow
    · exact h.started hwas
    · exact (Bool.and_eq_true_iff.1 hnow).1
  refine ⟨h.subscribers, h.late, hstarted, ?_, h.subscribed, fun hwas hinit => ?_⟩
  · intro hstarted hunlocked
    exact Bool.or_eq_true_iff.2 (.inr (Bool.and_eq_true_iff.2 ⟨hstarted, hunlocked⟩))
  · have hsubscribed : s.userUnlockSubscriber ≠ none ∨ s.threads ≠ [] := by
      cases hinitialized : s.initialized with
      | true => exact .inl (hinit hinitialized)
      | false =>
        rcases h.subscribed (hstarted hwas) hinitialized with hsubscriber | ⟨pc, hpc, -⟩
        · exact .inl hsubscriber
        · exact .inr (List.ne_nil_of_mem hpc)
    rcases hsubscribed with hsubscriber | hthreads
    · obtain ⟨subscriber, hmem⟩ := h.mem_subscribers hsubscriber
      exact .inr ⟨subscriber, List.mem_append_right _ hmem, hmem⟩
    · exact .inl hthreads

theorem lock (h : Inv s) (userId : Int) : Inv { s with unlocked := Function.update s.unlocked userId false } := by
  refine ⟨h.subscribers, h.late, h.started, fun hstarted hunlocked => h.noted hstarted ?_, h.subscribed, h.busy⟩
  by_cases huser : s.activeUser = userId
  · simp [huser] at hunlocked
  · simpa [Function.update_of_ne huser] using hunlocked

theorem switchUser (h : Inv s) {userId : Int} (hs : s.settles (.switchUser userId) = true) :
    Inv (note { s with activeUser := userId }) := by
  have hwas : (s.wasUnlocked || (s.hasStarted && s.unlocked userId)) = s.wasUnlocked := by
    revert hs
    simp only [settles]
    cases s.hasStarted <;> cases s.unlocked userId <;> cases s.wasUnlocked <;> simp
  refine ⟨h.subscribers, h.late, fun h' => h.started (hwas ▸ h'), ?_, h.subscribed, fun h' => h.busy (hwas ▸ h')⟩
  intro hstarted hunlocked
  exact Bool.or_eq_true_iff.2 (.inr (Bool.and_eq_true_iff.2 ⟨hstarted, hunlocked⟩))

/-- A thread makes its step, and `pcs` go on. -/
theorem of_run {t : UpdateUserUnlockObserver} {thread : Nat} {pcs : List UnlockPc} (h : Inv s)
    (hpc : s.threads[thread]? = some pc) (hsubscribers : t.subscribers = t.userUnlockSubscriber.toList)
    (hinit : s.initialized = true → t.initialized = true)
    (hlate : ∀ pc ∈ pcs, pc.isLate = true → t.initialized = true)
    (hsame : t.wasUnlocked = s.wasUnlocked ∧ t.hasStarted = s.hasStarted ∧ t.unlocked = s.unlocked ∧
      t.activeUser = s.activeUser)
    (hbefore : pc.isBefore = true → t.initialized = false → t.userUnlockSubscriber ≠ none ∨
    ∃ pc ∈ pcs, pc.isBefore = true)
    (hsubscriber : t.initialized = false → s.userUnlockSubscriber ≠ none → t.userUnlockSubscriber ≠ none)
    (hbusy : pcs = [] → t.wasUnlocked = true → t.initialized = true ∧ t.userUnlockSubscriber = none) :
    Inv { t with threads := s.threads.eraseIdx thread ++ pcs } := by
  obtain ⟨hwas, hstarted, hunlocked, hactive⟩ := hsame
  refine ⟨hsubscribers, ?_, ?_, ?_, ?_, ?_⟩
  · refine List.forall_mem_append.2 ⟨fun pc hpc hpcLate => hinit (h.late pc (List.mem_of_mem_eraseIdx hpc) hpcLate), hlate⟩
  · rw [hwas, hstarted]
    exact h.started
  · rw [hwas, hstarted, hunlocked, hactive]
    exact h.noted
  · intro hs hnot
    have hnot' : s.initialized = false := by
      cases hi : s.initialized with
      | false => rfl
      | true => rw [hinit hi] at hnot; cases hnot
    rcases h.subscribed (hstarted ▸ hs) hnot' with hsub | ⟨pc', hmem, hpc'⟩
    · exact .inl (hsubscriber hnot hsub)
    · rcases mem_threads hpc hmem with rfl | hrest
      · rcases hbefore hpc' hnot with hsub | ⟨pc'', hmem, hpc''⟩
        · exact .inl hsub
        · exact .inr ⟨pc'', List.mem_append_right _ hmem, hpc''⟩
      · exact .inr ⟨pc', List.mem_append_left _ hrest, hpc'⟩
  · intro hw hi
    by_cases hpcs : pcs = []
    · obtain ⟨hinit', hnone⟩ := hbusy hpcs hw
      exact absurd hnone (hi hinit')
    · exact .inl (List.append_ne_nil_of_right_ne_nil _ hpcs)

theorem run (h : Inv s) {thread : Nat} (hpc : s.threads[thread]? = some pc)
    (hs : s.subscribes (.run thread isOk) = true) (hs' : s.settles (.run thread isOk) = true) :
    Inv { (s.advance isOk pc).1 with threads := s.threads.eraseIdx thread ++ (s.advance isOk pc).2 } := by
  have hmem : pc ∈ s.threads := List.mem_of_getElem? hpc
  simp only [subscribes, hpc] at hs
  simp only [settles, hpc] at hs'
  cases pc with
  | getActiveUserId =>
    exact h.of_run hpc h.subscribers id (List.forall_mem_singleton.2 nofun) ⟨rfl, rfl, rfl, rfl⟩
      (fun _ _ => .inr ⟨_, List.mem_singleton.2 rfl, rfl⟩) (fun _ => id) nofun
  | firstCheck userId =>
    rw [advance]
    split
    · exact h.of_run hpc h.subscribers id (List.forall_mem_singleton.2 nofun) ⟨rfl, rfl, rfl, rfl⟩
        (fun _ _ => .inr ⟨_, List.mem_singleton.2 rfl, rfl⟩) (fun _ => id) nofun
    · exact h.of_run hpc h.subscribers id (List.forall_mem_singleton.2 nofun) ⟨rfl, rfl, rfl, rfl⟩
        (fun _ _ => .inr ⟨_, List.mem_singleton.2 rfl, rfl⟩) (fun _ => id) nofun
  | register userId =>
    rw [advance, registerUserUnlockListener]
    cases hsubscriber : s.userUnlockSubscriber with
    | some subscriber =>
      exact h.of_run hpc h.subscribers id (List.forall_mem_singleton.2 nofun) ⟨rfl, rfl, rfl, rfl⟩
        (fun _ _ => .inl (by rw [hsubscriber]; exact nofun)) (fun _ => id) nofun
    | none =>
      have hnone : s.subscribers = [] := by rw [h.subscribers, hsubscriber]; rfl
      obtain rfl : isOk = true := hs
      refine h.of_run (t := { s with
        userUnlockSubscriber := some s.nextSubscriber
        subscribers := s.subscribers ++ [s.nextSubscriber]
        nextSubscriber := s.nextSubscriber + 1 }) hpc (by rw [hnone]; rfl) id (List.forall_mem_singleton.2 nofun)
        ⟨rfl, rfl, rfl, rfl⟩ (fun _ _ => .inl nofun) (fun _ _ => nofun) nofun
  | secondCheck userId =>
    rw [advance]
    split
    · exact h.of_run hpc h.subscribers id (List.forall_mem_singleton.2 nofun) ⟨rfl, rfl, rfl,
        rfl⟩ nofun (fun _ => id) nofun
    · rename_i hlocked
      have hwas : s.wasUnlocked = false := by simpa [hlocked] using hs'
      exact h.of_run hpc h.subscribers id nofun ⟨rfl, rfl, rfl,
        rfl⟩ nofun (fun _ => id) fun _ hw => by simp [hwas] at hw
  | tryNotify =>
    rw [advance]
    split
    · rename_i hinit
      exact h.of_run hpc h.subscribers id (fun _ _ _ => hinit) ⟨rfl, rfl, rfl,
        rfl⟩ (fun _ hnot => by simp [hinit] at hnot)
        (fun _ => id) nofun
    · exact h.of_run (t := { s with initialized := true }) hpc h.subscribers (fun _ => rfl) (fun _ _ _ => rfl)
        ⟨rfl, rfl, rfl, rfl⟩ (fun _ => nofun) nofun nofun
  | onUnlocked =>
    have hinit := h.late _ hmem rfl
    exact h.of_run (t := { s with unlockedCalls := s.unlockedCalls + 1 }) hpc h.subscribers id (fun _ _ _ => hinit)
      ⟨rfl, rfl, rfl, rfl⟩ nofun (fun _ => id) nofun
  | submit =>
    have hinit := h.late _ hmem rfl
    exact h.of_run hpc h.subscribers id (fun _ _ _ => hinit) ⟨rfl, rfl, rfl, rfl⟩ nofun (fun _ => id) nofun
  | unregister =>
    have hinit := h.late _ hmem rfl
    obtain rfl : isOk = true := hs'
    rw [advance, unregisterUserUnlockListener]
    cases hsubscriber : s.userUnlockSubscriber with
    | none =>
      exact h.of_run hpc h.subscribers id nofun ⟨rfl, rfl, rfl, rfl⟩ nofun (fun _ => id) fun _ _ => ⟨hinit, hsubscriber⟩
    | some subscriber =>
      have herase : s.subscribers.erase subscriber = [] := by rw [h.subscribers, hsubscriber]; simp
      exact h.of_run (t := { s with
        userUnlockSubscriber := none
        subscribers := s.subscribers.erase subscriber }) hpc herase id nofun ⟨rfl, rfl, rfl, rfl⟩ nofun
        (fun hnot => by simp [hinit] at hnot) fun _ _ => ⟨hinit, rfl⟩

theorem step (h : Inv s) (hsettled : s.Settled op) (hs : s.step op = some s')
    (hstop : s'.hasStopped = false) : Inv s' := by
  obtain ⟨hsubscribes, hsettles⟩ := hsettled
  cases op with
  | run thread isOk =>
    obtain ⟨pc, hpc, rfl⟩ := run_of_step hs
    exact h.run hpc hsubscribes (hsettles ((advance_frame isOk pc s).1.symm.trans hstop))
  | start =>
    obtain rfl := Option.some.inj hs
    exact h.start
  | stop =>
    obtain rfl := Option.some.inj hs
    cases hstop
  | unlock userId =>
    obtain rfl := Option.some.inj hs
    exact h.unlock userId
  | lock userId =>
    obtain rfl := Option.some.inj hs
    exact h.lock userId
  | switchUser userId =>
    obtain rfl := Option.some.inj hs
    exact h.switchUser (hsettles hstop)
  | deliver subscriber =>
    obtain ⟨-, rfl⟩ := deliver_of_step hs
    exact h.deliver subscriber
  | drop subscriber =>
    obtain ⟨hmem, rfl⟩ := drop_of_step hs
    exact h.drop hmem.2

end Inv

/-- The callback runs once at most; and in a settled run without a `Stop` it has run, and nothing is registered, when all
is done after the active user was unlocked. -/
theorem unlocked_once (hrun : lts.Run { unlocked, activeUser } ops s) :
    s.unlockedCalls ≤ 1 ∧
      ((lts.guard Settled).Run { unlocked, activeUser } ops s → s.Quiescent → s.wasUnlocked = true →
      s.hasStopped = false →
        s.unlockedCalls = 1 ∧ s.userUnlockSubscriber = none ∧ s.subscribers = []) := by
  have honce : Once s := hrun.invariant (fun _ _ _ hs h => h.step hs) rfl
  unfold Once at honce
  constructor
  · split at honce <;> omega
  rintro hsettled ⟨hthreads, hevents⟩ hwas hstop
  have hpreserved : (lts.guard Settled).Preserved fun s => s.hasStopped = false → Inv s := by
    rintro s op s' ⟨hok, hs⟩ hinv hstop
    exact (hinv (hasStopped_of_step hs hstop)).step hok hs hstop
  have h := hsettled.invariant hpreserved (fun _ => .init unlocked activeUser) hstop
  have hnot : ¬ (s.initialized = true → s.userUnlockSubscriber ≠ none) := by
    intro hneed
    rcases h.busy hwas hneed with hne | ⟨subscriber, hmem, -⟩
    · exact hne hthreads
    · rw [hevents] at hmem
      cases hmem
  obtain ⟨hinit, hnone⟩ := Classical.not_imp.1 hnot
  have hnone := not_not.1 hnone
  refine ⟨?_, hnone, by rw [h.subscribers, hnone]; rfl⟩
  rw [hthreads, hinit] at honce
  exact honce

/-! ### One user, who stays unlocked -/

/-- All calls succeed, and the active user is neither locked nor changed. -/
def Steady (_ : UpdateUserUnlockObserver) : UnlockOp → Prop
  | .run _ isOk => isOk = true
  | .lock _ | .switchUser _ => False
  | _ => True

/-- Every thread asks for the active user, who stays unlocked. -/
structure OneUser (activeUser : Int) (s : UpdateUserUnlockObserver) : Prop where
  active : s.activeUser = activeUser
  asked : ∀ pc ∈ s.threads, ∀ userId, pc.userId? = some userId → userId = activeUser
  unlocked : s.wasUnlocked = true → s.unlocked activeUser = true

namespace OneUser

theorem settled (h : OneUser activeUser s) (huser : 0 ≤ activeUser) (hsteady : Steady s op) : Settled s op := by
  cases op with
  | run thread isOk =>
    obtain rfl : isOk = true := hsteady
    refine ⟨?_, fun _ => ?_⟩
    · unfold subscribes
      dsimp only
      split <;> rfl
    · unfold settles
      dsimp only
      split
      · rename_i userId hpc
        obtain rfl := h.asked _ (List.mem_of_getElem? hpc) userId rfl
        cases hwas : s.wasUnlocked with
        | false => rfl
        | true =>
          rw [isActiveUserUnlocked, if_neg (Int.not_lt.2 huser), h.unlocked hwas]
          rfl
      · rfl
      · rfl
  | lock | switchUser => exact hsteady.elim
  | _ => exact ⟨rfl, fun _ => rfl⟩

/-- A thread keeps the user it has asked for. -/
theorem userId_advance (h : OneUser activeUser s) (hmem : pc ∈ s.threads) :
    ∀ pc' ∈ (s.advance true pc).2, ∀ userId, pc'.userId? = some userId → userId = activeUser := by
  have hasked := h.asked pc hmem
  cases pc with
  | getActiveUserId =>
    refine List.forall_mem_singleton.2 ?_
    rintro _ ⟨⟩
    exact h.active
  | firstCheck userId =>
    unfold advance
    dsimp only
    split
    · exact List.forall_mem_singleton.2 nofun
    · exact List.forall_mem_singleton.2 hasked
  | register userId => exact List.forall_mem_singleton.2 hasked
  | secondCheck userId =>
    unfold advance
    dsimp only
    split
    · exact List.forall_mem_singleton.2 nofun
    · exact nofun
  | tryNotify =>
    unfold advance
    dsimp only
    split <;> exact List.forall_mem_singleton.2 nofun
  | onUnlocked | submit => exact List.forall_mem_singleton.2 nofun
  | unregister => exact nofun

theorem note (h : OneUser activeUser s) : OneUser activeUser s.note := by
  refine ⟨h.active, h.asked, fun hwas => ?_⟩
  rcases Bool.or_eq_true_iff.1 hwas with hwas | hnow
  · exact h.unlocked hwas
  · exact h.active ▸ (Bool.and_eq_true_iff.1 hnow).2

theorem step (h : OneUser activeUser s) (hsteady : Steady s op) (hs : s.step op = some s') : OneUser activeUser s' := by
  cases op with
  | run thread isOk =>
    obtain rfl : isOk = true := hsteady
    obtain ⟨pc, hpc, rfl⟩ := run_of_step hs
    obtain ⟨-, hwas, hunlocked, hactive⟩ := advance_frame true pc s
    refine ⟨hactive.trans h.active, ?_, ?_⟩
    · refine List.forall_mem_append.2 ⟨fun pc' hpc' => h.asked pc' (List.mem_of_mem_eraseIdx hpc'), ?_⟩
      exact h.userId_advance (List.mem_of_getElem? hpc)
    · show (s.advance true pc).1.wasUnlocked = true → (s.advance true pc).1.unlocked activeUser = true
      rw [hwas, hunlocked]
      exact h.unlocked
  | start =>
    obtain rfl := Option.some.inj hs
    exact note ⟨h.active, List.forall_mem_append.2 ⟨h.asked, List.forall_mem_singleton.2 nofun⟩, h.unlocked⟩
  | stop =>
    obtain rfl := Option.some.inj hs
    exact ⟨h.active, List.forall_mem_append.2 ⟨h.asked, List.forall_mem_singleton.2 nofun⟩, h.unlocked⟩
  | unlock userId =>
    obtain rfl := Option.some.inj hs
    refine note ⟨h.active, h.asked, fun hwas => ?_⟩
    show Function.update s.unlocked userId true activeUser = true
    by_cases huser : activeUser = userId
    · rw [huser, Function.update_self]
    · rw [Function.update_of_ne huser]
      exact h.unlocked hwas
  | deliver subscriber =>
    obtain ⟨-, rfl⟩ := deliver_of_step hs
    exact ⟨h.active, List.forall_mem_append.2 ⟨h.asked, List.forall_mem_singleton.2 nofun⟩, h.unlocked⟩
  | drop subscriber =>
    obtain ⟨-, rfl⟩ := drop_of_step hs
    exact ⟨h.active, h.asked, h.unlocked⟩
  | lock | switchUser => exact hsteady.elim

end OneUser

/-- Where one user is active, no call fails and nobody is locked, every run is settled. -/
theorem settled_of_steady (huser : 0 ≤ activeUser) (hrun : (lts.guard Steady).Run { unlocked, activeUser } ops s) :
    (lts.guard Settled).Run { unlocked, activeUser } ops s := by
  have hpreserved : (lts.guard Steady).Preserved (OneUser activeUser) := fun _ _ _ hs h => h.step hs.1 hs.2
  refine hrun.guard_mono hpreserved (fun s op h hsteady => h.settled huser hsteady) ⟨rfl, ?_, ?_⟩
  · exact fun _ h => absurd h List.not_mem_nil
  · intro h
    cases h

/-- The threads and the event of a first `Start` whose user is unlocked after it. -/
def startThenUnlock : List UnlockOp :=
  [.start, .run 0 true, .run 0 true, .run 0 true, .run 0 true, .unlock 100, .deliver 0, .run 0 true, .run 0 true, .run 0 true,
    .run 0 true]

theorem unlocked_once_start : ∃ s, (lts.guard Settled).Run { unlocked := fun _ => false, activeUser := 100 } startThenUnlock s ∧
    s.unlockedCalls = 1 ∧ s.userUnlockSubscriber = none ∧ s.subscribers = [] := by
  have hrun : (Lts.ofPartial fun s op => if Settled s op then step s op else none).Run
    { unlocked := fun _ => false, activeUser := 100 } startThenUnlock _ := Lts.run_ofPartial_get (by rfl)
  rw [← Lts.guard_ofPartial] at hrun
  exact ⟨_, hrun, (unlocked_once hrun.of_guard).2 hrun ⟨rfl, rfl⟩ rfl rfl⟩

/-- After it the device changes to another user, who is locked, and the observer is started again: its listener stays. -/
theorem not_unlocked_once : ∃ s, lts.Run { unlocked := fun _ => false, activeUser := 100 }
      (startThenUnlock ++ [.switchUser 101, .start, .run 0 true, .run 0 true, .run 0 true, .run 0 true]) s ∧
    s.Quiescent ∧ s.wasUnlocked = true ∧ s.hasStopped = false ∧ s.unlockedCalls = 1 ∧ s.subscribers = [1] :=
  ⟨_, Lts.run_ofPartial_get (by rfl), ⟨rfl, rfl⟩, rfl, rfl, rfl, rfl⟩

end UpdateUserUnlockObserver

end UpdateService
