import UpdateService.Proofs.CheckResult
import UpdateService.FirmwareSystem

/-!
# The paths of the packages

`IsValidFileName` looks at the bare name, `InitPackageParam` at the path behind a slash: a name that begins with a dot
passes the one and not the other. And components whose urls end alike get one path.
-/

namespace UpdateService

namespace StringUtils
variable {a b : Char} {l r : List Char}

theorem pair_infix_append_iff : [a, b] <:+: l ++ r ↔ [a, b] <:+: l ∨ [a, b] <:+: r ∨ [a] <:+ l ∧ [b] <+: r := by
  rw [List.infix_append_iff_ne_nil]
  refine or_congr_right (or_congr_right ⟨?_, fun ⟨hl, hr⟩ => ⟨[a], [b], by simp, by simp, rfl, hl, hr⟩⟩)
  rintro ⟨l₁, l₂, h₁, h₂, hab, hl, hr⟩
  obtain ⟨c, l₁, rfl⟩ := List.exists_cons_of_ne_nil h₁
  obtain ⟨d, l₂, rfl⟩ := List.exists_cons_of_ne_nil h₂
  cases l₁ with
  | nil =>
    obtain ⟨rfl, rfl, rfl⟩ : a = c ∧ b = d ∧ l₂ = [] := by simpa using hab
    exact ⟨hl, hr⟩
  | cons e l₁ => simp at hab

end StringUtils

namespace DownloadThread
variable {fileName : String}

theorem initPackageParam_eq_none_iff : initPackageParam fileName {} = none ↔ isInvalidPath fileName = false := by
  rw [initPackageParam, if_neg (by decide)]
  cases isInvalidPath fileName <;> simp

/-- Behind the directory of the packages a name without a slash is refused if it begins with a dot. -/
theorem isInvalidPath_packagePath (hslash : '/' ∉ fileName.toList) :
    isInvalidPath (Firmware.packagePath ++ "/" ++ fileName) = true ↔ ['.'] <+: fileName.toList := by
  have hpath : (Firmware.packagePath ++ "/" ++ fileName).toList = (Firmware.packagePath ++ "/").toList ++ fileName.toList :=
    String.toList_append
  have hnot : ∀ c d, c = '/' ∨ d = '/' → ¬ [c, d] <:+: fileName.toList := by
    rintro c d hcd h
    have hc : c ∈ fileName.toList := h.subset (by simp)
    have hd : d ∈ fileName.toList := h.subset (by simp)
    rcases hcd with rfl | rfl
    · exact hslash hc
    · exact hslash hd
  have hdir : ¬ ['/', '.'] <:+: (Firmware.packagePath ++ "/").toList ∧
      ¬ ['.', '/'] <:+: (Firmware.packagePath ++ "/").toList ∧
      ['/'] <:+ (Firmware.packagePath ++ "/").toList ∧ ¬ ['.'] <:+ (Firmware.packagePath ++ "/").toList := by
    decide +kernel
  obtain ⟨hslashDot, hdotSlash, hlast, hnotLast⟩ := hdir
  rw [isInvalidPath, Bool.or_eq_true, decide_eq_true_iff, decide_eq_true_iff, hpath]
  show ['/', '.'] <:+: _ ∨ ['.', '/'] <:+: _ ↔ _
  rw [StringUtils.pair_infix_append_iff, StringUtils.pair_infix_append_iff]
  simp only [hslashDot, hdotSlash, hlast, hnotLast, hnot '/' '.' (.inl rfl), hnot '.' '/' (.inr rfl), false_or, true_and,
    false_and, or_false]

end DownloadThread

namespace FirmwareCheckAnalyzeUtils
open UpdateServiceJsonUtils
variable {p : JsonPlatform} {c : FirmwareComponent} {fileName : String}

theorem isValidFileName_of_mem_doAnalyze {rawJson responseStatus : String}
    (hc : c ∈ (doAnalyze p rawJson [] responseStatus).1) : isValidFileName c.fileName = true := by
  obtain ⟨item, hitem⟩ := mem_doAnalyze hc
  unfold processCheckResult at hitem
  dsimp only at hitem
  split at hitem
  · cases hitem
  split at hitem
  · cases hitem
  · rename_i hname
    obtain rfl := Option.some.inj hitem
    simpa using hname

theorem not_mem_of_isValidFileName (h : isValidFileName fileName = true) : '/' ∉ fileName.toList := by
  simp only [isValidFileName, Bool.and_eq_true, List.all_cons, Bool.not_eq_true', decide_eq_false_iff_not] at h
  obtain ⟨-, -, hslash, -⟩ := h
  intro hmem
  obtain ⟨l, r, h⟩ := List.append_of_mem hmem
  exact hslash ⟨l, r, by rw [h, List.append_assoc]; rfl⟩

/-- What is known of the name of a component that is handed out. -/
theorem fileName_of_mem_doAnalyze {rawJson responseStatus : String}
    (hc : c ∈ (doAnalyze p rawJson [] responseStatus).1) : c.fileName = fileNameOf c.url ∧ c.fileName ≠ "" ∧
      '/' ∉ c.fileName.toList ∧ c.fileName ≠ ".." := by
  have hvalid := isValidFileName_of_mem_doAnalyze hc
  refine ⟨(parsed_doAnalyze hc).fileName, ?_, not_mem_of_isValidFileName hvalid, ?_⟩
  · intro he
    rw [he] at hvalid
    exact absurd hvalid (by decide)
  · intro he
    rw [he] at hvalid
    exact absurd hvalid (by decide)

end FirmwareCheckAnalyzeUtils

namespace FirmwareCheckDataProcessor
open FirmwareCheckAnalyzeUtils
variable {p : JsonPlatform} {components : List FirmwareComponent}

def DirectlyInside (dir path : String) : Prop :=
  ∃ name : String, path = dir ++ "/" ++ name ∧ (name ≠ "" ∧ name ≠ "." ∧ name ≠ "..") ∧ '/' ∉ name.toList

/-- What is downloaded for the one does not pass the checks of the other. -/
def NeedDifferent (c c' : FirmwareComponent) : Prop := c.size ≠ c'.size ∨ c.verifyInfo ≠ c'.verifyInfo

instance : DecidableRel NeedDifferent := fun c c' =>
  inferInstanceAs (Decidable (c.size ≠ c'.size ∨ c.verifyInfo ≠ c'.verifyInfo))

/-- The paths of the packages are where they should be, are opened where nothing but the name could prevent it, and
are not shared. -/
structure NamesAgree (components : List FirmwareComponent) : Prop where
  inside : ∀ c ∈ buildComponentSPath components, DirectlyInside Firmware.packagePath c.spath
  opened : ∀ c ∈ buildComponentSPath components, DownloadThread.initPackageParam c.spath {} = none
  apart : (buildComponentSPath components).Pairwise fun c c' => NeedDifferent c c' → c.spath ≠ c'.spath

def packageAt (url verifyInfo : String) : Json :=
  .object [("descriptPackageId", .string "base"), ("url", .string url), ("size", .number (.finite 1)),
    ("verifyInfo", .string verifyInfo), ("versionCode", .string "2.0"), ("versionName", .string "2.0"),
    ("packageType", .number (.finite 1)), ("otaType", .number (.finite 1))]

end FirmwareCheckDataProcessor

end UpdateService
