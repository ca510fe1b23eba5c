import CarbonSurvey.Condition
import Mathlib.Data.Prod.Lex
import Mathlib.Order.Compare

/-! # How numbers compare

Every double that is a number has a rank, and doubles compare as their ranks do (`compare_eq_compare_rank`). Ranks
are in a linear order, in which the finite numbers lie between both infinities. A comparison of a condition asks
how a number lies to its literal (`Operator.holds_eq_any`), so two comparisons with finite literals that agree on
all numbers have the same operator and equal literals (`Operator.holds_eq_iff`).
-/

namespace CarbonSurvey

open Float.Model

namespace Decimal

/-- Ranks are compared by size class first, then by exponent and mantissa. -/
abbrev Rank := ℤ ×ₗ ℤ ×ₗ ℤ

/-- The rank of negative infinity. -/
def Rank.lowest : Rank := toLex (-2, toLex (0, 0))

/-- The rank of positive infinity. -/
def Rank.highest : Rank := toLex (2, toLex (0, 0))

def rankUnpacked : UnpackedFloat → Option Rank
  | .notANumber => none
  | .infinity .negative => some Rank.lowest
  | .finite .negative mantissa exponent _ => some (toLex (-1, toLex (-exponent, -mantissa)))
  | .zero _ => some (toLex (0, toLex (0, 0)))
  | .finite .positive mantissa exponent _ => some (toLex (1, toLex (exponent, mantissa)))
  | .infinity .positive => some Rank.highest

/-- Where a number lies among the others. Both zeros are at the same place. -/
def rank (x : Float) : Option Rank :=
  rankUnpacked x.toModel.unpack

theorem compare_neg_neg (m n : ℤ) : compare (-m) (-n) = compare n m := by
  simp only [compare, compareOfLessAndEq]
  grind

theorem compare_natCast (m n : ℕ) : compare (m : ℤ) n = compare m n := by
  simp only [compare, compareOfLessAndEq]
  grind

theorem compare_toLex (size e f m n : ℤ) :
    compare (toLex (size, toLex (e, m)) : Rank) (toLex (size, toLex (f, n))) =
      (compare e f).then (compare m n) := by
  simp [Prod.Lex.compare_def, compareLex, compareOn]

theorem compare_eq_compare_rank (x y : UnpackedFloat) :
    x.compare y = (rankUnpacked x).bind fun a => (rankUnpacked y).map fun b => compare a b := by
  -- Only numbers of the same sign are not told apart by their size class.
  rcases x with ⟨_ | _⟩ | _ | _ | ⟨_ | _, m, e, _⟩ <;> rcases y with ⟨_ | _⟩ | _ | _ | ⟨_ | _, n, f, _⟩ <;> try rfl
  · refine congrArg some (Eq.trans ?_ (compare_toLex (-1) (-e) (-f) (-m) (-n)).symm)
    rw [compare_neg_neg, compare_neg_neg, compare_natCast, Ordering.swap_then, Int.compare_swap, Nat.compare_swap]
  · refine congrArg some (Eq.trans ?_ (compare_toLex 1 e f m n).symm)
    rw [compare_natCast]

theorem compare_toModel (x y : Float) :
    x.toModel.unpack.compare y.toModel.unpack = (rank x).bind fun a => (rank y).map fun b => compare a b :=
  compare_eq_compare_rank _ _

theorem lt_eq_compare (x y : Float) :
    decide (x < y) = (x.toModel.unpack.compare y.toModel.unpack == some .lt) := by
  have asked : x < y ↔ (x.toModel.unpack.compare y.toModel.unpack == some .lt) = true := by
    change decide (x.toModel < y.toModel) = true ↔ _
    rw [decide_eq_true_iff]
    exact Iff.rfl
  exact Bool.eq_iff_iff.2 (decide_eq_true_iff.trans asked)

theorem beq_eq_compare (x y : Float) : (x == y) = (x.toModel.unpack.compare y.toModel.unpack == some .eq) := rfl

theorem rank_negative_infinity : rank (-1 / 0) = some Rank.lowest := by decide +kernel

theorem rank_positive_infinity : rank (1 / 0) = some Rank.highest := by decide +kernel

/-- A finite number lies between both infinities. -/
theorem exists_rank {x : Float} (finite : x.isFinite) :
    ∃ a, rank x = some a ∧ Rank.lowest < a ∧ a < Rank.highest := by
  change x.toModel.unpack.isFinite = true at finite
  rw [rank]
  generalize x.toModel.unpack = unpacked at finite ⊢
  rcases unpacked with _ | _ | _ | ⟨_ | _, m, e, _⟩
  · cases finite
  · cases finite
  all_goals
    exact ⟨_, rfl, by simp [Rank.lowest, Prod.Lex.toLex_lt_toLex], by simp [Rank.highest, Prod.Lex.toLex_lt_toLex]⟩

end Decimal

namespace Operator

open Decimal

/-- How a number has to lie to the literal. -/
def ordering : Operator → Ordering
  | .less => .lt
  | .greater => .gt
  | .equal => .eq

/-- What an operator says of the infinities tells it from the others. -/
theorem eq_of_ordering {op other : Operator} (low : (Ordering.lt == op.ordering) = (.lt == other.ordering))
    (high : (Ordering.gt == op.ordering) = (.gt == other.ordering)) : op = other := by
  cases op <;> cases other <;> first | rfl | exact absurd low (by decide) | exact absurd high (by decide)

/-- A comparison of numbers asks for one order of their ranks. -/
theorem holds_eq_any (op : Operator) (x y : Float) :
    op.holds (.number x) (.number y) =
      (rank x).any fun a => (rank y).any fun b => compare a b == op.ordering := by
  cases op with
  | less =>
      refine (lt_eq_compare x y).trans ?_
      rw [compare_toModel]
      cases rank x <;> cases rank y <;> rfl
  | equal =>
      refine (beq_eq_compare x y).trans ?_
      rw [compare_toModel]
      cases rank x <;> cases rank y <;> rfl
  | greater =>
      refine (lt_eq_compare y x).trans ?_
      rw [compare_toModel]
      cases rank x with
      | none => cases rank y <;> rfl
      | some a =>
          cases rank y with
          | none => rfl
          | some b =>
              rw [Bool.eq_iff_iff]
              simp [ordering, compare_lt_iff_lt, compare_gt_iff_gt]

/-- Comparisons with finite literals agree on all numbers when they have the same operator and equal literals. -/
theorem holds_eq_iff {op other : Operator} {y z : Float} (hy : y.isFinite) (hz : z.isFinite) :
    (∀ x, op.holds (.number x) (.number y) = other.holds (.number x) (.number z)) ↔
      op = other ∧ (y == z) = true := by
  obtain ⟨b, hb, lowb, bhigh⟩ := exists_rank hy
  obtain ⟨c, hc, lowc, chigh⟩ := exists_rank hz
  have equal : (y == z) = (compare b c == .eq) := by
    rw [beq_eq_compare, compare_toModel, hb, hc]
    rfl
  constructor
  · intro agree
    have atlow := agree (-1 / 0)
    have athigh := agree (1 / 0)
    have aty := agree y
    have atz := agree z
    simp only [holds_eq_any, rank_negative_infinity, rank_positive_infinity, hb, hc, Option.any_some,
      compare_lt_iff_lt.2 lowb, compare_lt_iff_lt.2 lowc, compare_gt_iff_gt.2 bhigh, compare_gt_iff_gt.2 chigh,
      (compare_eq_iff_eq.2 rfl : compare b b = .eq), (compare_eq_iff_eq.2 rfl : compare c c = .eq)]
      at atlow athigh aty atz
    obtain rfl := eq_of_ordering atlow athigh
    refine ⟨rfl, ?_⟩
    -- With one operator, one of the two literals would tell them apart.
    have swapped : compare c b = (compare b c).swap := Std.OrientedOrd.eq_swap
    rw [equal]
    rw [swapped] at atz
    cases op <;> cases lies : compare b c <;> rw [lies] at aty atz <;>
      first | rfl | exact absurd aty (by decide) | exact absurd atz (by decide)
  · rintro ⟨rfl, same⟩ x
    rw [equal, beq_iff_eq, compare_eq_iff_eq] at same
    rw [holds_eq_any, holds_eq_any, hb, hc, same]

end Operator

end CarbonSurvey
