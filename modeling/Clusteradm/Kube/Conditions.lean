import Clusteradm.Kube.Types

/-!
# The condition helpers of `apimachinery/pkg/api/meta`

Both searches stop at the first condition of the asked type, so a later duplicate is never seen and a missing
type reads as absent. Written as the library writes them, each as its own early-return loop, with the bridge
to `List.find?` that the proofs use.
-/

namespace Clusteradm

/-- `metav1.ConditionTrue`. -/
def conditionTrue : String := "True"

/-- `meta.FindStatusCondition`: the first condition of type `t`. -/
def findStatusCondition : List Condition → String → Option Condition
  | [], _ => none
  | c :: cs, t => if c.type = t then some c else findStatusCondition cs t

/-- `meta.IsStatusConditionPresentAndEqual`: the first condition of type `t` has status `s`. -/
def isStatusConditionPresentAndEqual : List Condition → String → String → Bool
  | [], _, _ => false
  | c :: cs, t, s => if c.type = t then c.status == s else isStatusConditionPresentAndEqual cs t s

/-- `meta.IsStatusConditionTrue`. -/
def isStatusConditionTrue (conds : List Condition) (t : String) : Bool :=
  isStatusConditionPresentAndEqual conds t conditionTrue

theorem findStatusCondition_eq_find (cs : List Condition) (t : String) :
    findStatusCondition cs t = cs.find? (·.type == t) := by
  induction cs with
  | nil => rfl
  | cons c cs ih =>
      by_cases h : c.type = t
      · simp [findStatusCondition, h]
      · simp [findStatusCondition, h, ih]

/-- The presence test is a comparison of the found condition's status. -/
theorem isStatusConditionPresentAndEqual_eq (cs : List Condition) (t s : String) :
    isStatusConditionPresentAndEqual cs t s = ((findStatusCondition cs t).map (·.status) == some s) := by
  induction cs with
  | nil => rfl
  | cons c cs ih =>
      by_cases h : c.type = t
      · simp [isStatusConditionPresentAndEqual, findStatusCondition, h]
      · simp [isStatusConditionPresentAndEqual, findStatusCondition, h, ih]

end Clusteradm
