import UpdateService.StatusCache
import UpdateService.Lib.Lts

/-!
# The gates against repeated requests

`Download` and `Upgrade` each pass a gate of one second. In every order of requests and checks, by a clock that does
not go back: what passes a gate is a second apart, and what is refused comes within a second of something that has
passed, not of something that has been refused.
-/

namespace UpdateService

inductive RequestKind
  | download | upgrade
deriving DecidableEq, Repr

/-- A request with the two readings of the clock that its gate may make, and what the gate answers. -/
structure GateRequest where
  kind : RequestKind
  now : Int
  now' : Int
  refused : Bool
deriving DecidableEq, Repr

inductive StatusCacheOp
  | request (r : GateRequest)
  | setIsChecking (isChecking : Bool) (now : Int)
deriving DecidableEq, Repr

namespace StatusCacheOp

/-- The readings of the clock, in their order. -/
def readings : StatusCacheOp → List Int
  | request r => [r.now, r.now']
  | setIsChecking _ now => [now]

/-- The request, if it passes the gate of its kind. -/
def passed (kind : RequestKind) : StatusCacheOp → Option GateRequest
  | request r => if r.kind = kind ∧ r.refused = false then some r else none
  | setIsChecking _ _ => none

/-- A clock that starts at a time of its own or later, and does not go back. -/
def Clock (ops : List StatusCacheOp) : Prop :=
  (ops.flatMap readings).Pairwise (· ≤ ·) ∧ ∀ t ∈ ops.flatMap readings, 0 ≤ t

instance (ops : List StatusCacheOp) : Decidable (Clock ops) := inferInstanceAs (Decidable (_ ∧ _))

end StatusCacheOp

namespace StatusCache
open StatusCacheOp

def lastTime (c : StatusCache) : RequestKind → Int
  | .download => c.lastDownloadTime
  | .upgrade => c.lastUpgradeTime

def request (c : StatusCache) (r : GateRequest) : Bool × StatusCache :=
  match r.kind with
  | .download => c.isDownloadTriggered r.now r.now'
  | .upgrade => c.isUpgradeTriggered r.now r.now'

def step (c : StatusCache) : StatusCacheOp → Option StatusCache
  | .request r => if (c.request r).1 = r.refused then some (c.request r).2 else none
  | .setIsChecking isChecking now => some (c.setIsChecking isChecking now)

def lts : Lts StatusCache StatusCacheOp := Lts.ofPartial step

variable {c c' : StatusCache} {r : GateRequest} {ops : List StatusCacheOp} {op : StatusCacheOp} {kind : RequestKind}

theorem request_fst (c : StatusCache) (r : GateRequest) :
    (c.request r).1 = (isTriggered r.now r.now' (c.lastTime r.kind)).1 := by
  obtain ⟨kind, now, now', refused⟩ := r
  cases kind <;> rfl

theorem lastTime_request (c : StatusCache) (r : GateRequest) :
    (c.request r).2.lastTime kind =
      if r.kind = kind then (isTriggered r.now r.now' (c.lastTime kind)).2 else c.lastTime kind := by
  obtain ⟨kind', now, now', refused⟩ := r
  cases kind' <;> cases kind <;> rfl

/-- What a step does to one of the gates: it is passed, and keeps one of the two readings, or it is as it was. -/
theorem step_cases (h : lts.step c op c') (kind : RequestKind) :
    (∃ r, op.passed kind = some r ∧ op = .request r ∧ r.refused = false ∧
      (c.lastTime kind = -1 ∧ c'.lastTime kind = r.now ∨
        c.lastTime kind ≠ -1 ∧ 1000 ≤ |r.now - c.lastTime kind| ∧ c'.lastTime kind = r.now')) ∨
    op.passed kind = none ∧ c'.lastTime kind = c.lastTime kind ∧
      ∀ r, op = .request r → r.kind = kind →
        r.refused = true ∧ c.lastTime kind ≠ -1 ∧ |r.now - c.lastTime kind| < 1000 := by
  cases op with
  | setIsChecking isChecking now =>
    obtain rfl := Option.some.inj h
    refine .inr ⟨rfl, by cases kind <;> rfl, ?_⟩
    rintro r ⟨⟩
  | request r =>
    change (if (c.request r).1 = r.refused then some (c.request r).2 else none) = some c' at h
    split_ifs at h with hr
    obtain rfl := Option.some.inj h
    rw [request_fst] at hr
    rw [lastTime_request]
    by_cases hk : r.kind = kind
    · subst hk
      rw [if_pos rfl]
      unfold isTriggered at hr ⊢
      by_cases h₁ : c.lastTime r.kind = -1
      · rw [if_pos h₁] at hr ⊢
        exact .inl ⟨r, if_pos ⟨rfl, hr.symm⟩, rfl, hr.symm, .inl ⟨h₁, rfl⟩⟩
      · rw [if_neg h₁] at hr ⊢
        by_cases h₂ : |r.now - c.lastTime r.kind| < Constant.milleseconds
        · rw [if_pos h₂] at hr ⊢
          refine .inr ⟨if_neg fun h => ?_, rfl, ?_⟩
          · rw [← hr] at h
            cases h.2
          · rintro r' ⟨⟩ -
            exact ⟨hr.symm, h₁, h₂⟩
        · rw [if_neg h₂] at hr ⊢
          exact .inl ⟨r, if_pos ⟨rfl, hr.symm⟩, rfl, hr.symm, .inr ⟨h₁, not_lt.1 h₂, rfl⟩⟩
    · rw [if_neg hk]
      refine .inr ⟨if_neg fun h => hk h.1, rfl, ?_⟩
      rintro r' ⟨⟩ hk'
      exact absurd hk' hk

/-- What a gate knows of the requests that have passed it. -/
structure Gate (kind : RequestKind) (ops : List StatusCacheOp) (c : StatusCache) : Prop where
  apart : (ops.filterMap (passed kind)).Pairwise fun r r' => r.now + 1000 ≤ r'.now
  now_le : ∀ r ∈ ops.filterMap (passed kind), r.now ≤ c.lastTime kind
  lastTime : c.lastTime kind = -1 ∧ ops.filterMap (passed kind) = [] ∨
    0 ≤ c.lastTime kind ∧ ∃ r ∈ ops.filterMap (passed kind), c.lastTime kind ≤ r.now'

theorem clock_of_append {ops' : List StatusCacheOp} (h : Clock (ops ++ ops')) : Clock ops := by
  unfold Clock at h
  rw [List.flatMap_append] at h
  exact ⟨(List.pairwise_append.1 h.1).1, fun t ht => h.2 t (List.mem_append_left _ ht)⟩

theorem mem_of_passed (hr : r ∈ ops.filterMap (passed kind)) : StatusCacheOp.request r ∈ ops := by
  obtain ⟨op, hop, hp⟩ := List.mem_filterMap.1 hr
  cases op with
  | setIsChecking isChecking now => cases hp
  | request r' =>
    change (if r'.kind = kind ∧ r'.refused = false then some r' else none) = some r at hp
    split_ifs at hp
    exact Option.some.inj hp ▸ hop

/-- The next request reads the clock after all that have passed. -/
theorem clock_request (kind : RequestKind) (h : Clock (ops ++ [.request r])) :
    0 ≤ r.now ∧ r.now ≤ r.now' ∧ ∀ r' ∈ ops.filterMap (passed kind), r'.now' ≤ r.now := by
  unfold Clock at h
  rw [List.flatMap_append, List.flatMap_singleton] at h
  obtain ⟨hp, h₀⟩ := h
  obtain ⟨-, hr, hlt⟩ := List.pairwise_append.1 hp
  refine ⟨h₀ _ (List.mem_append_right _ List.mem_cons_self), (List.pairwise_cons.1 hr).1 _ List.mem_cons_self,
    fun r' hr' => hlt _ (List.mem_flatMap.2 ⟨_, mem_of_passed hr', ?_⟩) _ List.mem_cons_self⟩
  exact List.mem_cons_of_mem _ List.mem_cons_self

theorem Gate.step (hg : Gate kind ops c) (hc : Clock (ops ++ [op])) (h : lts.step c op c') :
    Gate kind (ops ++ [op]) c' := by
  rcases step_cases h kind with ⟨r, hp, rfl, -, hr⟩ | ⟨hp, hlast, -⟩
  · obtain ⟨h₀, hle, hlater⟩ := clock_request kind hc
    have hops : (ops ++ [StatusCacheOp.request r]).filterMap (passed kind) = ops.filterMap (passed kind) ++ [r] := by
      rw [List.filterMap_append, List.filterMap_cons_some hp, List.filterMap_nil]
    -- what has passed before is a second away
    have hapart : ∀ r' ∈ ops.filterMap (passed kind), r'.now + 1000 ≤ r.now := by
      intro r' hr'
      rcases hg.lastTime with ⟨-, hnil⟩ | ⟨hpos, r₁, hr₁, hle₁⟩
      · rw [hnil] at hr'
        cases hr'
      · have h₁ := hlater r₁ hr₁
        have h₂ := hg.now_le r' hr'
        rcases hr with ⟨hnone, -⟩ | ⟨-, hfar, -⟩
        · omega
        · rw [abs_of_nonneg (by omega)] at hfar
          omega
    have hnow : r.now ≤ c'.lastTime kind ∧ c'.lastTime kind ≤ r.now' := by
      rcases hr with ⟨-, he⟩ | ⟨-, -, he⟩ <;> exact he ▸ ⟨by omega, by omega⟩
    refine ⟨?_, ?_, .inr ⟨h₀.trans hnow.1, r, ?_, hnow.2⟩⟩
    · rw [hops, List.pairwise_append]
      exact ⟨hg.apart, List.pairwise_singleton .., fun r' hr' r'' hr'' => List.mem_singleton.1 hr'' ▸ hapart r' hr'⟩
    · intro r' hr'
      rw [hops] at hr'
      rcases List.mem_append.1 hr' with hr' | hr'
      · have := hapart r' hr'
        omega
      · exact List.mem_singleton.1 hr' ▸ hnow.1
    · rw [hops]
      exact List.mem_append_right _ (List.mem_singleton_self r)
  · have hops : (ops ++ [op]).filterMap (passed kind) = ops.filterMap (passed kind) := by
      rw [List.filterMap_append, List.filterMap_cons_none hp, List.filterMap_nil, List.append_nil]
    obtain ⟨hapart, hle, hl⟩ := hg
    rw [← hops, ← hlast] at hl
    rw [← hops] at hapart hle
    exact ⟨hapart, fun r hr => hlast ▸ hle r hr, hl⟩

theorem gate (h : lts.Run {} ops c) (hc : Clock ops) (kind : RequestKind) : Gate kind ops c := by
  refine h.history (I := fun ops c => Clock ops → Gate kind ops c) (fun ops c op c' hs hI hc => ?_) (fun _ => ?_) hc
  · exact (hI (clock_of_append hc)).step hc hs
  · exact ⟨.nil, List.forall_mem_nil _, .inl ⟨by cases kind <;> rfl, rfl⟩⟩

/-- In every order of requests and checks: what passes a gate is a second apart; a request within a second of the
first reading of one that has passed is refused; and one that is refused is within a second of the second reading of
one that has passed. -/
theorem passed_apart (h : lts.Run {} ops c) (hc : Clock ops) :
    (∀ kind, (ops.filterMap (passed kind)).Pairwise fun r r' => r.now + 1000 ≤ r'.now) ∧
      ∀ before r after, ops = before ++ .request r :: after →
        ((∃ r' ∈ before.filterMap (passed r.kind), r.now < r'.now + 1000) → r.refused = true) ∧
        (r.refused = true → ∃ r' ∈ before.filterMap (passed r.kind), r.now < r'.now' + 1000) := by
  refine ⟨fun kind => (gate h hc kind).apart, ?_⟩
  rintro before r after rfl
  obtain ⟨c₁, hbefore, hafter⟩ := h.exists_of_append
  cases hafter with
  | @cons _ c₂ _ _ _ hs _ =>
  have hc' : Clock (before ++ [.request r]) := by
    rw [List.append_cons] at hc
    exact clock_of_append hc
  have hg := gate hbefore (clock_of_append hc') r.kind
  obtain ⟨-, -, hlater⟩ := clock_request r.kind hc'
  rcases step_cases hs r.kind with ⟨r', hp, hr', hrefused, -⟩ | ⟨-, -, hnone⟩
  · cases hr'
    refine ⟨?_, fun h => absurd h (hrefused ▸ Bool.false_ne_true)⟩
    rintro ⟨r', hmem, hlt⟩
    have happ := (hg.step hc' hs).apart
    rw [List.filterMap_append, List.filterMap_cons_some hp] at happ
    have := (List.pairwise_append.1 happ).2.2 r' hmem r List.mem_cons_self
    omega
  · obtain ⟨hrefused, hne, hlt⟩ := hnone r rfl rfl
    refine ⟨fun _ => hrefused, fun _ => ?_⟩
    rcases hg.lastTime with ⟨he, -⟩ | ⟨-, r₁, hr₁, hle⟩
    · exact absurd he hne
    · refine ⟨r₁, hr₁, ?_⟩
      have := (abs_lt.1 hlt).2
      omega

/-- Three downloads, the second one refused, and an upgrade beside them. -/
def clicks : List StatusCacheOp :=
  [.request ⟨.download, 0, 1, false⟩, .request ⟨.upgrade, 400, 400, false⟩, .request ⟨.download, 999, 999, true⟩,
    .setIsChecking true 999, .request ⟨.download, 1000, 1001, false⟩]

theorem passed_apart_clicks :
    (∃ c, lts.Run {} clicks c) ∧
      (clicks.filterMap (passed .download)).Pairwise fun r r' => r.now + 1000 ≤ r'.now := by
  have hrun : lts.Run {} clicks _ := Lts.run_ofPartial_get (by rfl)
  exact ⟨⟨_, hrun⟩, (passed_apart hrun (by decide)).1 .download⟩

end StatusCache

end UpdateService
