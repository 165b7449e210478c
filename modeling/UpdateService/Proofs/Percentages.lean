import UpdateService.ProgressCheck
import UpdateService.Proofs.SpaceExact

/-!
# The percentages that are shown

The task and each download of it have a percentage. That of the task is bounded by its guards, that of a download is
the quotient as it is, which a file that is longer than its package takes above a hundred. Both multiply by a hundred
before they divide.
-/

namespace UpdateService

structure DownloadInfo.NonNeg (d : DownloadInfo) : Prop where
  packageSize : 0 ≤ d.packageSize
  downloadedSize : 0 ≤ d.downloadedSize
  verifiedSize : 0 ≤ d.verifiedSize

/-- `d` is the same download with as much on disk or more. -/
structure DownloadInfo.Grown (d₀ d : DownloadInfo) : Prop where
  nonNeg : d₀.NonNeg
  packageSize : d₀.packageSize = d.packageSize
  downloadedSize : d₀.downloadedSize ≤ d.downloadedSize

theorem int64?_eq_some_iff {x y : Int} (h : 0 ≤ x) : int64? x = some y ↔ x ≤ 2 ^ 63 - 1 ∧ x = y := by
  rw [int64?, Checked.fit_eq_some_iff, and_iff_right (by omega : -2 ^ 63 ≤ x)]

/-! ### The quotient -/

section Quotient
variable {done done₀ total : Int}

theorem product_nonneg (h : 0 ≤ done) : 0 ≤ done * downloadMaxPercent := Int.mul_nonneg h (by decide)

theorem quotient_nonneg (h : 0 ≤ done) (ht : 0 < total) : 0 ≤ done * downloadMaxPercent / total :=
  Int.ediv_nonneg (product_nonneg h) ht.le

theorem quotient_mono (h : done₀ ≤ done) (ht : 0 < total) :
    done₀ * downloadMaxPercent / total ≤ done * downloadMaxPercent / total :=
  Int.ediv_le_ediv ht (Int.mul_le_mul_of_nonneg_right h (by decide))

theorem quotient_lt (ht : 0 < total) (h : done < total) : done * downloadMaxPercent / total < 100 := by
  rw [Int.ediv_lt_iff_lt_mul ht, downloadMaxPercent]
  omega

theorem quotient_le_iff (ht : 0 < total) : done * downloadMaxPercent / total ≤ 100 ↔
    done * downloadMaxPercent < 101 * total := by
  rw [← Int.ediv_lt_iff_lt_mul ht]
  omega

end Quotient

/-! ### One download -/

namespace DownloadProgress
variable {d d₀ : DownloadInfo} {x : DownloadProgress}

/-- The product of the percentage has room. -/
def Fits (d : DownloadInfo) : Prop := d.packageSize ≠ 0 → d.downloadedSize * downloadMaxPercent ≤ 2 ^ 63 - 1

theorem percent?_eq_some_iff (h : d.NonNeg) {percent : Int} :
    percent? d = some percent ↔ Fits d ∧ (ofInfo d).percent = percent := by
  unfold percent? Fits ofInfo
  by_cases hp : d.packageSize = 0
  · simp [hp]
  · rw [if_neg hp, Option.map_eq_some_iff]
    constructor
    · rintro ⟨product, hproduct, rfl⟩
      obtain ⟨hfits, rfl⟩ := (int64?_eq_some_iff (product_nonneg h.downloadedSize)).1 hproduct
      exact ⟨fun _ => hfits, if_neg hp⟩
    · rintro ⟨hfits, rfl⟩
      exact ⟨_, (int64?_eq_some_iff (product_nonneg h.downloadedSize)).2 ⟨hfits hp, rfl⟩, (if_neg hp).symm⟩

theorem ofInfo?_eq_some_iff (h : d.NonNeg) : ofInfo? d = some x ↔ Fits d ∧ ofInfo d = x := by
  unfold ofInfo?
  rw [Option.map_eq_some_iff]
  constructor
  · rintro ⟨percent, hpercent, rfl⟩
    obtain ⟨hfits, rfl⟩ := (percent?_eq_some_iff h).1 hpercent
    exact ⟨hfits, rfl⟩
  · rintro ⟨hfits, rfl⟩
    exact ⟨_, (percent?_eq_some_iff h).2 ⟨hfits, rfl⟩, rfl⟩

theorem percent_ofInfo (h : d.NonNeg) (hp : 0 < d.packageSize) :
    (ofInfo d).percent = d.downloadedSize * downloadMaxPercent / d.packageSize % 2 ^ 32 := by
  rw [ofInfo]
  simp only [if_neg hp.ne', Int.tdiv_eq_ediv_of_nonneg (product_nonneg h.downloadedSize)]

theorem percent_ofInfo_of_zero (hp : d.packageSize = 0) : (ofInfo d).percent = 0 := by
  rw [ofInfo]
  simp only [if_pos hp]

theorem percent_of_lt (h : d.NonNeg) (hp : 0 < d.packageSize)
    (hlt : d.downloadedSize * downloadMaxPercent < 101 * d.packageSize) :
    (ofInfo d).percent = d.downloadedSize * downloadMaxPercent / d.packageSize := by
  have h0 := quotient_nonneg h.downloadedSize hp
  have h100 := (quotient_le_iff hp).2 hlt
  rw [percent_ofInfo h hp, Int.emod_eq_of_lt h0 (by omega)]

/-- A percentage of a hundred is that of a package that is there as a whole. -/
theorem le_of_percent_eq (h : d.NonNeg) (hx : (ofInfo d).percent = 100) :
    0 < d.packageSize ∧ d.packageSize ≤ d.downloadedSize := by
  by_cases hp : d.packageSize = 0
  · rw [percent_ofInfo_of_zero hp] at hx
    cases hx
  have hpos : 0 < d.packageSize := lt_of_le_of_ne h.packageSize (Ne.symm hp)
  refine ⟨hpos, ?_⟩
  by_contra hlt
  have hquot := quotient_lt hpos (not_le.1 hlt)
  have h0 := quotient_nonneg h.downloadedSize hpos
  rw [percent_ofInfo h hpos, Int.emod_eq_of_lt h0 (by omega)] at hx
  omega

/-- In range, not smaller than with less on disk, and a hundred for a whole package only. -/
structure Sound (d : DownloadInfo) : Prop where
  range : ∀ x, ofInfo? d = some x → 0 ≤ x.percent ∧ x.percent ≤ 100
  grows : ∀ d₀, DownloadInfo.Grown d₀ d → ∀ x₀ x, ofInfo? d₀ = some x₀ → ofInfo? d = some x → x₀.percent ≤ x.percent
  complete : ∀ x, ofInfo? d = some x → x.percent = 100 → 0 < d.packageSize ∧ d.packageSize ≤ d.downloadedSize

theorem Sound.lt (hsound : Sound d) (h : d.NonNeg) (hfits : Fits d) (hp : 0 < d.packageSize) :
    d.downloadedSize * downloadMaxPercent < 101 * d.packageSize := by
  have hofInfo : ofInfo? d = some (ofInfo d) := (ofInfo?_eq_some_iff h).2 ⟨hfits, rfl⟩
  rw [← quotient_le_iff hp]
  by_contra hbig
  have hrange := hsound.range _ hofInfo
  rw [percent_ofInfo h hp] at hrange
  -- the quotient has gone round, and so it is larger for a file of twice the length of the package
  have hround : 2 ^ 32 * d.packageSize ≤ d.downloadedSize * downloadMaxPercent := by
    rw [← Int.le_ediv_iff_mul_le hp]
    omega
  rw [downloadMaxPercent] at hround
  let d₀ := { d with downloadedSize := 2 * d.packageSize }
  have hgrown : DownloadInfo.Grown d₀ d :=
    ⟨⟨h.packageSize, by show 0 ≤ 2 * d.packageSize; omega, h.verifiedSize⟩, rfl, by
      show 2 * d.packageSize ≤ d.downloadedSize
      omega⟩
  have hfits₀ : Fits d₀ := fun _ => by
    have := hfits hp.ne'
    rw [downloadMaxPercent] at this ⊢
    show 2 * d.packageSize * 100 ≤ 2 ^ 63 - 1
    omega
  have hle := hsound.grows d₀ hgrown _ _ ((ofInfo?_eq_some_iff hgrown.nonNeg).2 ⟨hfits₀, rfl⟩) hofInfo
  have htwice : d₀.downloadedSize * downloadMaxPercent / d₀.packageSize = 200 := by
    show 2 * d.packageSize * 100 / d.packageSize = 200
    rw [show 2 * d.packageSize * 100 = 200 * d.packageSize by omega, Int.mul_ediv_cancel _ hp.ne']
  rw [percent_ofInfo hgrown.nonNeg hp, htwice, percent_ofInfo h hp] at hle
  omega

theorem percent_le_of_grown (h : d.NonNeg) (hgrown : DownloadInfo.Grown d₀ d)
    (hlt : 0 < d.packageSize → d.downloadedSize * downloadMaxPercent < 101 * d.packageSize) :
    (ofInfo d₀).percent ≤ (ofInfo d).percent := by
  rcases h.packageSize.eq_or_lt with hp | hp
  · rw [percent_ofInfo_of_zero hp.symm, percent_ofInfo_of_zero (hgrown.packageSize.trans hp.symm)]
  have hquot := quotient_mono hgrown.downloadedSize hp
  have hlt₀ : d₀.downloadedSize * downloadMaxPercent < 101 * d₀.packageSize := by
    rw [hgrown.packageSize, ← quotient_le_iff hp]
    exact hquot.trans ((quotient_le_iff hp).2 (hlt hp))
  rw [percent_of_lt h hp (hlt hp), percent_of_lt hgrown.nonNeg (hgrown.packageSize ▸ hp) hlt₀, hgrown.packageSize]
  exact hquot

theorem sound_of_lt (h : d.NonNeg)
    (hlt : 0 < d.packageSize → d.downloadedSize * downloadMaxPercent < 101 * d.packageSize) : Sound d where
  range x hx := by
    obtain ⟨-, rfl⟩ := (ofInfo?_eq_some_iff h).1 hx
    rcases h.packageSize.eq_or_lt with hp | hp
    · rw [percent_ofInfo_of_zero hp.symm]
      decide
    · rw [percent_of_lt h hp (hlt hp)]
      exact ⟨quotient_nonneg h.downloadedSize hp, (quotient_le_iff hp).2 (hlt hp)⟩
  grows d₀ hgrown x₀ x hx₀ hx := by
    obtain ⟨-, rfl⟩ := (ofInfo?_eq_some_iff h).1 hx
    obtain ⟨-, rfl⟩ := (ofInfo?_eq_some_iff hgrown.nonNeg).1 hx₀
    exact percent_le_of_grown h hgrown hlt
  complete x hx := by
    obtain ⟨-, rfl⟩ := (ofInfo?_eq_some_iff h).1 hx
    exact le_of_percent_eq h

end DownloadProgress

/-! ### The task -/

namespace DownloadTaskProgressProcessor
open DownloadTask
variable {p p₀ q : DownloadTaskProgressProcessor} {infos infos₀ : List DownloadInfo} {r : ProgressInfo}

@[simp] theorem packageSize_update : (p.update infos).packageSize = p.packageSize := by
  unfold update
  dsimp only
  split <;> rfl

@[simp] theorem downloadedSize_update : (p.update infos).downloadedSize = (infos.map (·.downloadedSize)).sum := by
  unfold update
  dsimp only
  split <;> rfl

@[simp] theorem verifiedSize_update : (p.update infos).verifiedSize = (infos.map (·.verifiedSize)).sum := by
  unfold update
  dsimp only
  split <;> rfl

theorem calcDownloadProgress_of_nonpos (hp : p.packageSize ≤ 0) : p.calcDownloadProgress = 0 := if_pos hp

/-- The guards cut the quotient at a hundred. -/
theorem calcDownloadProgress_eq (hd : 0 ≤ p.downloadedSize) (hp : 0 < p.packageSize) :
    p.calcDownloadProgress = min (p.downloadedSize * downloadMaxPercent / p.packageSize) downloadMaxPercent := by
  unfold calcDownloadProgress
  rw [if_neg (by omega)]
  split
  · rename_i hgt
    have hle : downloadMaxPercent * p.packageSize ≤ p.downloadedSize * downloadMaxPercent := by
      rw [downloadMaxPercent]
      omega
    rw [min_eq_right (Int.le_ediv_of_mul_le hp hle)]
  · rename_i hle
    have hproduct : p.downloadedSize * downloadMaxPercent ≤ downloadMaxPercent * p.packageSize := by
      rw [downloadMaxPercent]
      omega
    rw [Int.tdiv_eq_ediv_of_nonneg (product_nonneg hd), min_eq_left (Int.ediv_le_of_le_mul hp hproduct)]

theorem calcDownloadProgress_range (hd : 0 ≤ p.downloadedSize) :
    0 ≤ p.calcDownloadProgress ∧ p.calcDownloadProgress ≤ downloadMaxPercent := by
  rcases le_or_gt p.packageSize 0 with hp | hp
  · rw [calcDownloadProgress_of_nonpos hp]
    decide
  · rw [calcDownloadProgress_eq hd hp]
    exact ⟨le_min (quotient_nonneg hd hp) (by decide), min_le_right _ _⟩

theorem calcDownloadProgress_le (hd₀ : 0 ≤ p₀.downloadedSize) (hp : p₀.packageSize = p.packageSize)
    (hd : p₀.downloadedSize ≤ p.downloadedSize) : p₀.calcDownloadProgress ≤ p.calcDownloadProgress := by
  rcases le_or_gt p.packageSize 0 with hpos | hpos
  · rw [calcDownloadProgress_of_nonpos hpos, calcDownloadProgress_of_nonpos (hp.trans_le hpos)]
  · rw [calcDownloadProgress_eq (hd₀.trans hd) hpos, calcDownloadProgress_eq hd₀ (hp ▸ hpos), hp]
    exact min_le_min_right _ (quotient_mono hd hpos)

theorem le_of_calcDownloadProgress_eq (hd : 0 ≤ p.downloadedSize) (h : p.calcDownloadProgress = 100) :
    0 < p.packageSize ∧ p.packageSize ≤ p.downloadedSize := by
  rcases le_or_gt p.packageSize 0 with hp | hp
  · rw [calcDownloadProgress_of_nonpos hp] at h
    cases h
  refine ⟨hp, ?_⟩
  by_contra hlt
  have hquot := quotient_lt hp (not_le.1 hlt)
  rw [calcDownloadProgress_eq hd hp] at h
  have hle := min_le_left (p.downloadedSize * downloadMaxPercent / p.packageSize) downloadMaxPercent
  omega

theorem calcDownloadProgress?_eq_some_iff (hp₀ : 0 ≤ p.packageSize) (hd : 0 ≤ p.downloadedSize) {x : Int} :
    p.calcDownloadProgress? = some x ↔
      (p.downloadedSize ≤ p.packageSize → p.downloadedSize * downloadMaxPercent ≤ 2 ^ 63 - 1) ∧
        p.calcDownloadProgress = x := by
  have hproduct := product_nonneg hd
  unfold calcDownloadProgress? calcDownloadProgress
  by_cases hp : p.packageSize ≤ 0
  · have hroom : p.downloadedSize ≤ p.packageSize → p.downloadedSize * downloadMaxPercent ≤ 2 ^ 63 - 1 := fun h => by
      rw [downloadMaxPercent]
      omega
    rw [if_pos hp, if_pos hp, Option.some_inj, and_iff_right hroom]
  rw [if_neg hp, if_neg hp]
  split
  · rename_i hgt
    rw [Option.some_inj, and_iff_right fun h => absurd h hgt.not_ge]
  · rename_i hle
    rw [Option.map_eq_some_iff, forall_prop_of_true (not_lt.1 hle)]
    simp only [int64?_eq_some_iff hproduct, and_assoc, exists_and_left, exists_eq_left']

theorem ofInfos?_eq_some_iff (hnonneg : ∀ d ∈ infos, d.NonNeg) (hsum : (infos.map (·.packageSize)).sum ≤ 2 ^ 63 - 1) :
    ofInfos? infos = some p ↔ (infos.map (·.downloadedSize)).sum ≤ 2 ^ 63 - 1 ∧ ofInfos infos = p := by
  unfold ofInfos? ofInfos
  simp only [Option.bind_eq_bind, Option.bind_eq_some_iff, Option.pure_def, Option.some_inj, and_assoc,
    totalOf_eq_some_iff fun d hd => (hnonneg d hd).packageSize,
    totalOf_eq_some_iff fun d hd => (hnonneg d hd).downloadedSize, exists_and_left, exists_eq_left', and_iff_right hsum]

theorem update?_eq_some_iff (hnonneg : ∀ d ∈ infos, d.NonNeg) : p.update? infos = some q ↔
    ((infos.map (·.downloadedSize)).sum ≤ 2 ^ 63 - 1 ∧ (infos.map (·.verifiedSize)).sum ≤ 2 ^ 63 - 1) ∧
      p.update infos = q := by
  have hself : { p.update infos with
      downloadedSize := (infos.map (·.downloadedSize)).sum
      verifiedSize := (infos.map (·.verifiedSize)).sum } = p.update infos := by
    rw [← downloadedSize_update (p := p), ← verifiedSize_update (p := p)]
  unfold update?
  simp only [Option.bind_eq_bind, Option.bind_eq_some_iff, Option.pure_def, Option.some_inj, and_assoc,
    totalOf_eq_some_iff fun d hd => (hnonneg d hd).downloadedSize,
    totalOf_eq_some_iff fun d hd => (hnonneg d hd).verifiedSize, exists_and_left, exists_eq_left', hself]

/-- Every sum and every product has room. -/
structure Fits (infos : List DownloadInfo) : Prop where
  downloadedSize : (infos.map (·.downloadedSize)).sum ≤ 2 ^ 63 - 1
  verifiedSize : (infos.map (·.verifiedSize)).sum ≤ 2 ^ 63 - 1
  product : (infos.map (·.downloadedSize)).sum ≤ (infos.map (·.packageSize)).sum →
    (infos.map (·.downloadedSize)).sum * downloadMaxPercent ≤ 2 ^ 63 - 1
  downloads : ∀ d ∈ infos, DownloadProgress.Fits d

theorem initTaskProgress?_eq_some_iff (hnonneg : ∀ d ∈ infos, d.NonNeg)
    (hsum : (infos.map (·.packageSize)).sum ≤ 2 ^ 63 - 1) :
    initTaskProgress? infos = some r ↔ Fits infos ∧ ((ofInfos infos).getTaskProgress infos).2 = r := by
  have hp₀ : 0 ≤ (infos.map (·.packageSize)).sum := List.sum_map_nonneg fun d hd => (hnonneg d hd).packageSize
  have hd₀ : 0 ≤ (infos.map (·.downloadedSize)).sum := List.sum_map_nonneg fun d hd => (hnonneg d hd).downloadedSize
  have hprogresses : ∀ progresses, infos.mapM DownloadProgress.ofInfo? = some progresses ↔
      (∀ d ∈ infos, DownloadProgress.Fits d) ∧ infos.map .ofInfo = progresses := fun progresses => by
    rw [Checked.mapM_eq_some_iff fun d hd x hx => ((DownloadProgress.ofInfo?_eq_some_iff (hnonneg d hd)).1 hx).2.symm]
    refine and_congr_left fun _ => forall₂_congr fun d hd => ?_
    rw [DownloadProgress.ofInfo?_eq_some_iff (hnonneg d hd), and_iff_left rfl]
  have hprogress : ∀ x, ((ofInfos infos).update infos).calcDownloadProgress? = some x ↔
      ((infos.map (·.downloadedSize)).sum ≤ (infos.map (·.packageSize)).sum →
        (infos.map (·.downloadedSize)).sum * downloadMaxPercent ≤ 2 ^ 63 - 1) ∧
        ((ofInfos infos).update infos).calcDownloadProgress = x := fun x => by
    rw [calcDownloadProgress?_eq_some_iff (by simpa [ofInfos] using hp₀) (by simpa using hd₀)]
    simp [ofInfos]
  unfold initTaskProgress?
  constructor
  · intro h
    obtain ⟨p, hp, h⟩ := Option.bind_eq_some_iff.1 h
    obtain ⟨-, rfl⟩ := (ofInfos?_eq_some_iff hnonneg hsum).1 hp
    obtain ⟨p, hp, h⟩ := Option.bind_eq_some_iff.1 h
    obtain ⟨⟨hdownloaded, hverified⟩, rfl⟩ := (update?_eq_some_iff hnonneg).1 hp
    obtain ⟨x, hx, h⟩ := Option.bind_eq_some_iff.1 h
    obtain ⟨hproduct, rfl⟩ := (hprogress x).1 hx
    obtain ⟨progresses, hall, h⟩ := Option.bind_eq_some_iff.1 h
    obtain ⟨hdownloads, rfl⟩ := (hprogresses progresses).1 hall
    exact ⟨⟨hdownloaded, hverified, hproduct, hdownloads⟩, Option.some.inj h⟩
  · rintro ⟨hfits, rfl⟩
    rw [(ofInfos?_eq_some_iff hnonneg hsum).2 ⟨hfits.downloadedSize, rfl⟩, Option.bind_eq_bind, Option.bind_some,
      (update?_eq_some_iff hnonneg).2 ⟨⟨hfits.downloadedSize, hfits.verifiedSize⟩, rfl⟩, Option.bind_eq_bind,
      Option.bind_some, (hprogress _).2 ⟨hfits.product, rfl⟩, (hprogresses _).2 ⟨hfits.downloads, rfl⟩]
    rfl

/-- Computed without overflow, in range, not smaller than with less on disk, and a hundred for what is there as a
whole only: for the task and for each of its downloads. -/
structure PercentagesSound (infos : List DownloadInfo) : Prop where
  computed : ∃ r, initTaskProgress? infos = some r
  range : ∀ r, initTaskProgress? infos = some r → 0 ≤ r.taskProgress ∧ r.taskProgress ≤ 100
  grows : ∀ infos₀, List.Forall₂ DownloadInfo.Grown infos₀ infos → ∀ r₀ r, initTaskProgress? infos₀ = some r₀ →
    initTaskProgress? infos = some r → r₀.taskProgress ≤ r.taskProgress
  complete : ∀ r, initTaskProgress? infos = some r → r.taskProgress = 100 →
    0 < (infos.map (·.packageSize)).sum ∧ (infos.map (·.packageSize)).sum ≤ (infos.map (·.downloadedSize)).sum
  downloads : ∀ d ∈ infos, DownloadProgress.Sound d

structure WithinBounds (infos : List DownloadInfo) : Prop where
  fits : Fits infos
  downloads : ∀ d ∈ infos, 0 < d.packageSize → d.downloadedSize * downloadMaxPercent < 101 * d.packageSize

theorem sums_of_grown (h : List.Forall₂ DownloadInfo.Grown infos₀ infos) :
    (∀ d ∈ infos₀, d.NonNeg) ∧ (infos₀.map (·.packageSize)).sum = (infos.map (·.packageSize)).sum ∧
      (infos₀.map (·.downloadedSize)).sum ≤ (infos.map (·.downloadedSize)).sum := by
  induction h with
  | nil => simp
  | cons hd hrest ih =>
    obtain ⟨hnonneg, hp, hle⟩ := ih
    simp only [List.map_cons, List.sum_cons, List.forall_mem_cons]
    exact ⟨⟨hd.nonNeg, hnonneg⟩, by rw [hd.packageSize, hp], add_le_add hd.downloadedSize hle⟩

theorem percentagesSound_iff (hnonneg : ∀ d ∈ infos, d.NonNeg)
    (hsum : (infos.map (·.packageSize)).sum ≤ 2 ^ 63 - 1) : PercentagesSound infos ↔ WithinBounds infos := by
  have hd₀ : 0 ≤ ((ofInfos infos).update infos).downloadedSize := by
    rw [downloadedSize_update]
    exact List.sum_map_nonneg fun d hd => (hnonneg d hd).downloadedSize
  constructor
  · intro h
    obtain ⟨r, hr⟩ := h.computed
    have hfits := ((initTaskProgress?_eq_some_iff hnonneg hsum).1 hr).1
    exact ⟨hfits, fun d hd => (h.downloads d hd).lt (hnonneg d hd) (hfits.downloads d hd)⟩
  · intro h
    refine ⟨⟨_, (initTaskProgress?_eq_some_iff hnonneg hsum).2 ⟨h.fits, rfl⟩⟩, fun r hr => ?_,
      fun infos₀ hgrown r₀ r hr₀ hr => ?_, fun r hr h100 => ?_,
      fun d hd => DownloadProgress.sound_of_lt (hnonneg d hd) (h.downloads d hd)⟩
    · obtain ⟨-, rfl⟩ := (initTaskProgress?_eq_some_iff hnonneg hsum).1 hr
      exact calcDownloadProgress_range hd₀
    · obtain ⟨hnonneg₀, hp, hle⟩ := sums_of_grown hgrown
      obtain ⟨-, rfl⟩ := (initTaskProgress?_eq_some_iff hnonneg hsum).1 hr
      obtain ⟨-, rfl⟩ := (initTaskProgress?_eq_some_iff hnonneg₀ (hp.trans_le hsum)).1 hr₀
      refine calcDownloadProgress_le ?_ (by simpa [ofInfos] using hp) (by simpa using hle)
      rw [downloadedSize_update]
      exact List.sum_map_nonneg fun d hd => (hnonneg₀ d hd).downloadedSize
    · obtain ⟨-, rfl⟩ := (initTaskProgress?_eq_some_iff hnonneg hsum).1 hr
      simpa [ofInfos] using le_of_calcDownloadProgress_eq hd₀ h100

def packageOf (packageSize : Int) : DownloadInfo := { versionId := "base", packageSize }

theorem percentagesSound_two : PercentagesSound [packageOf 0, initInfo "task" (fun _ => 100) (packageOf 100)] ↔
    WithinBounds [packageOf 0, initInfo "task" (fun _ => 100) (packageOf 100)] := by
  refine percentagesSound_iff ?_ (by decide)
  simp only [List.forall_mem_cons, List.not_mem_nil, false_imp_iff, implies_true, and_true]
  exact ⟨⟨by decide, by decide, by decide⟩, by decide, by decide, by decide⟩

/-- A file of twice the length of its package, and a package whose size leaves no room for the product. -/
theorem not_percentagesSound :
    (initTaskProgress? [initInfo "task" (fun _ => 200) (packageOf 100)]).map (·.progresses.map (·.percent)) = some [200] ∧
      ¬ PercentagesSound [initInfo "task" (fun _ => 200) (packageOf 100)] ∧
      initTaskProgress? [initInfo "task" (fun _ => 2 ^ 62) (packageOf (2 ^ 62))] = none ∧
      ¬ PercentagesSound [initInfo "task" (fun _ => 2 ^ 62) (packageOf (2 ^ 62))] := by
  have hnone : initTaskProgress? [initInfo "task" (fun _ => 2 ^ 62) (packageOf (2 ^ 62))] = none := by decide +kernel
  refine ⟨by decide +kernel, fun h => ?_, hnone, fun h => ?_⟩
  · have hrange := (h.downloads _ (List.mem_singleton_self _)).range _ rfl
    exact absurd hrange.2 (by decide +kernel)
  · obtain ⟨r, hr⟩ := h.computed
    cases hnone.symm.trans hr

end DownloadTaskProgressProcessor

end UpdateService
