import Mathlib.Data.List.Infix
import StorageLayout.Proofs.Upgrade.Tally

/-!
# The judgement of an upgrade

An upgrade is judged in several forms: by its changes, their number, a score, a level of risk,
and advice. All of them follow from the lists of the comparison and the retyped variables, so
no two of them ever contradict each other, whatever the policy says.
-/

namespace StorageLayout

namespace Tally

variable (t : Tally) (s : Scoring)

theorem riskLevel_iff :
    (t.riskLevel s = .critical ↔ 0 < t.critical) ∧
      (t.riskLevel s = .hazardous ↔ t.critical = 0 ∧ s.hazardousWarnings < t.warning) ∧
      (t.riskLevel s = .caution ↔
        t.critical = 0 ∧ t.warning ≤ s.hazardousWarnings ∧ 0 < t.warning) ∧
      (t.riskLevel s = .safe ↔ t.critical = 0 ∧ t.warning = 0) := by
  unfold riskLevel
  split_ifs with hcritical hhazardous hcaution
  all_goals
    simp only [false_iff, true_iff]
    omega

theorem score_eq_max : (t.score s : Int) =
    max 0 ((100 : Int) - s.criticalPenalty * t.critical - s.warningPenalty * t.warning) := by
  unfold score
  rw [Nat.mul_comm t.critical, Nat.mul_comm t.warning]
  omega

end Tally

namespace Upgrade

def Opens (opening text : String) : Prop :=
  opening.toList <+: text.toList

instance (opening text : String) : Decidable (Opens opening text) :=
  inferInstanceAs (Decidable (_ <+: _))

theorem Opens.append {opening text : String} (h : Opens opening text) (rest : String) :
    Opens opening (text ++ rest) := by
  rw [Opens, String.toList_append]
  exact h.trans (List.prefix_append _ _)

/-- Two openings of one text, and the shorter one opens the longer one. -/
theorem Opens.total {opening other text : String} (h : Opens opening text)
    (h' : Opens other text) : Opens opening other ∨ Opens other opening :=
  List.prefix_or_prefix_of_prefix h h'

/-- The opening of the advice that an upgrade must not be deployed. -/
def refusal : String :=
  "Do not deploy"

/-- Advice on anything but critical changes. -/
def milderAdvice (warnings : Nat) (change threshold : Float) (added limit : Int) : List String :=
  warningAdvice warnings ++ efficiencyAdvice change threshold ++ growthAdvice added limit

section

variable {warnings : Nat} {change threshold : Float} {added limit : Int} {text : String}

theorem opens_of_mem_milderAdvice (h : text ∈ milderAdvice warnings change threshold added limit) :
    Opens "Test the upgrade" text ∨ Opens "Packing efficiency" text ∨
      Opens "Storage grows" text := by
  simp only [milderAdvice, List.mem_append, or_assoc] at h
  rcases h with h | h | h
  · rw [warningAdvice, List.mem_ite_nil_right, List.mem_singleton] at h
    rw [h.2]
    exact .inl ((Opens.append (by decide) _).append _)
  · rw [efficiencyAdvice, List.mem_ite_nil_right, List.mem_singleton] at h
    rw [h.2]
    exact .inr (.inl ((Opens.append (by decide) _).append _))
  · rw [growthAdvice, List.mem_ite_nil_right, List.mem_singleton] at h
    rw [h.2]
    exact .inr (.inr ((Opens.append (by decide) _).append _))

theorem not_opens_refusal_of_mem_milderAdvice
    (h : text ∈ milderAdvice warnings change threshold added limit) : ¬ Opens refusal text := by
  intro hrefusal
  rcases opens_of_mem_milderAdvice h with h | h | h <;>
    exact absurd (hrefusal.total h) (by decide)

theorem allClear_not_mem_milderAdvice :
    allClear ∉ milderAdvice warnings change threshold added limit := by
  intro h
  rcases opens_of_mem_milderAdvice h with h | h | h <;> exact absurd h (by decide)

theorem allClear_not_mem_criticalAdvice (count : Nat) : allClear ∉ criticalAdvice count := by
  rw [criticalAdvice, List.mem_ite_nil_right, List.mem_pair, not_and, not_or]
  intro _
  constructor
  · intro h
    have hrefusal : Opens refusal allClear := by
      rw [h]
      exact Opens.append (by decide) _
    exact absurd hrefusal (by decide)
  · decide

theorem criticalAdvice_eq_nil_iff {count : Nat} : criticalAdvice count = [] ↔ count = 0 := by
  rw [criticalAdvice, ite_eq_right_iff]
  simp

theorem warningAdvice_eq_nil_iff {count : Nat} : warningAdvice count = [] ↔ count = 0 := by
  rw [warningAdvice, ite_eq_right_iff]
  simp

end

variable (u : Upgrade)

theorem remarks_eq : u.remarks = criticalAdvice u.tally.critical ++
    milderAdvice u.tally.warning u.growth.efficiencyChange
      u.policy.thresholds.efficiencyRegression u.growth.slotsAdded
      u.policy.thresholds.slotGrowth := by
  rw [remarks, milderAdvice, List.append_assoc, List.append_assoc, List.append_assoc]

theorem isDeployable_eq_false_iff : u.isDeployable = false ↔ 0 < u.tally.critical := by
  simp [isDeployable, riskLevel, Tally.riskLevel_eq_critical_iff]

theorem remarks_of_critical (h : 0 < u.tally.critical) :
    ∃ first rest, u.remarks = first :: rest ∧ Opens refusal first := by
  rw [remarks_eq, criticalAdvice, if_pos h]
  exact ⟨_, _, rfl, Opens.append (by decide) _⟩

theorem not_opens_refusal_of_mem_remarks (h : u.tally.critical = 0) {text : String}
    (ht : text ∈ u.remarks) : ¬ Opens refusal text := by
  rw [remarks_eq, criticalAdvice, if_neg (by omega), List.nil_append] at ht
  exact not_opens_refusal_of_mem_milderAdvice ht

theorem allClear_not_mem_remarks : allClear ∉ u.remarks := by
  rw [remarks_eq, List.mem_append, not_or]
  exact ⟨allClear_not_mem_criticalAdvice _, allClear_not_mem_milderAdvice⟩

/-- There is always some advice, and it starts with a refusal exactly if the upgrade cannot be
deployed. -/
theorem recommendations_head : ∃ first rest, u.recommendations = first :: rest ∧
    (Opens refusal first ↔ u.isDeployable = false) := by
  rw [isDeployable_eq_false_iff, recommendations]
  by_cases hcritical : 0 < u.tally.critical
  · obtain ⟨first, rest, hremarks, hopens⟩ := u.remarks_of_critical hcritical
    exact ⟨first, rest, by simp [hremarks], by simp [hopens, hcritical]⟩
  · have hzero : u.tally.critical = 0 := by omega
    cases hremarks : u.remarks with
    | nil => exact ⟨allClear, [], rfl, by simp [hzero]; decide⟩
    | cons first rest =>
      have hfirst : first ∈ u.remarks := by simp [hremarks]
      have hopens := u.not_opens_refusal_of_mem_remarks hzero hfirst
      exact ⟨first, rest, rfl, by simp [hopens, hcritical]⟩

/-- The all-clear is given alone, and only if there is nothing to remark on. -/
theorem allClear_mem_recommendations_iff :
    allClear ∈ u.recommendations ↔ u.remarks = [] := by
  cases hremarks : u.remarks with
  | nil => simp [recommendations, hremarks]
  | cons first rest =>
    have h := u.allClear_not_mem_remarks
    simpa [recommendations, hremarks] using h

theorem riskLevel_eq_safe_of_remarks_eq_nil (h : u.remarks = []) : u.riskLevel = .safe := by
  simp only [remarks, List.append_eq_nil_iff, criticalAdvice_eq_nil_iff,
    warningAdvice_eq_nil_iff] at h
  obtain ⟨⟨hnone, -⟩, -⟩ := h
  exact (u.tally.riskLevel_iff u.policy.scoring).2.2.2.mpr hnone

/-- The forms of a judgement agree. The changes are the entries of the comparison and the
retyped variables, in order; the tally counts them; the score and the level of risk follow from
the tally by the policy. The upgrade can be deployed exactly if the comparison is safe and no
variable is retyped, under every policy; the advice starts with a refusal exactly if it cannot;
and the all-clear stands alone and only at the lowest level. -/
theorem judgement_agrees :
    u.changes = u.comparison.collisions.map .collision ++ u.comparison.moved.map .moved ++
        u.comparison.removed.map .removed ++ u.comparison.added.map .added ++
        u.old.retypings u.new ∧
      (u.tally.critical = u.comparison.collisions.length + u.comparison.moved.length +
          (u.old.retypings u.new).length ∧
        u.tally.warning = u.comparison.removed.length ∧
        u.tally.safe = u.comparison.added.length) ∧
      ((u.score : Int) = max 0 ((100 : Int) -
          u.policy.scoring.criticalPenalty * u.tally.critical -
          u.policy.scoring.warningPenalty * u.tally.warning) ∧
        u.score ≤ 100) ∧
      ((u.riskLevel = .critical ↔ 0 < u.tally.critical) ∧
        (u.riskLevel = .hazardous ↔ u.tally.critical = 0 ∧
          u.policy.scoring.hazardousWarnings < u.tally.warning) ∧
        (u.riskLevel = .caution ↔ u.tally.critical = 0 ∧
          u.tally.warning ≤ u.policy.scoring.hazardousWarnings ∧ 0 < u.tally.warning) ∧
        (u.riskLevel = .safe ↔ u.tally.critical = 0 ∧ u.tally.warning = 0)) ∧
      (u.isDeployable = true ↔ u.comparison.safe = true ∧ u.old.retypings u.new = []) ∧
      (∃ first rest, u.recommendations = first :: rest ∧
        (Opens refusal first ↔ u.isDeployable = false)) ∧
      (allClear ∈ u.recommendations → u.recommendations = [allClear] ∧ u.riskLevel = .safe) := by
  refine ⟨rfl, ?_, ⟨u.tally.score_eq_max u.policy.scoring, u.tally.score_le u.policy.scoring⟩,
    u.tally.riskLevel_iff u.policy.scoring, ?_, u.recommendations_head, ?_⟩
  · rw [u.tally_eq]
    exact ⟨rfl, rfl, rfl⟩
  · rw [u.isDeployable_iff, Comparison.safe_iff, and_assoc, and_left_comm]
  · intro h
    have hremarks : u.remarks = [] := u.allClear_mem_recommendations_iff.mp h
    exact ⟨by simp [recommendations, hremarks], u.riskLevel_eq_safe_of_remarks_eq_nil hremarks⟩

end Upgrade

end StorageLayout
