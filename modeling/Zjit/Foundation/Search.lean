/-!
# Binary search

Bisection of an interval of positions by a probe that says on which side of a position the target
lies. One function serves searches for a position that fits, which stop at it, and searches for
the place to insert at, which never do.
-/
namespace Foundation

/-- Where the target lies, seen from a position. -/
inductive Side
  | before
  | here
  | after
  deriving DecidableEq, Repr

/-- Bisect the positions from `bot` to `top`, in at most `steps` steps. -/
def bisect (probe : Nat → Side) : Nat → Nat → Nat → Nat
  | 0, bot, top => (bot + top) / 2
  | steps + 1, bot, top =>
    if bot < top then
      let index := (bot + top) / 2
      match probe index with
      | .before => bisect probe steps bot index
      | .here => index
      | .after => bisect probe steps (index + 1) top
    else (bot + top) / 2

/-- Bisect a sequence of `length` positions. -/
def search (probe : Nat → Side) (length : Nat) : Nat := bisect probe length 0 length

/-- The probe agrees with a target at `i`: positions below it point up, positions above it point
down, and at `i` itself nothing points up. -/
structure Points (probe : Nat → Side) (bot top i : Nat) : Prop where
  below : ∀ j, bot ≤ j → j < i → probe j = .after
  at_target : i < top → probe i ≠ .after
  above : ∀ j, i < j → j < top → probe j = .before

theorem bisect_eq {probe : Nat → Side} {i : Nat} (steps bot top : Nat) (enough : top - bot ≤ steps)
    (low : bot ≤ i) (high : i ≤ top) (points : Points probe bot top i) :
    bisect probe steps bot top = i := by
  induction steps generalizing bot top with
  | zero =>
    simp only [bisect]
    omega
  | succ steps ih =>
    simp only [bisect]
    split
    next inside =>
      split
      next down =>
        -- The target is at the middle or before it.
        have notAbove : i ≤ (bot + top) / 2 := by
          refine Nat.le_of_not_lt fun above => ?_
          have up := points.below ((bot + top) / 2) (by omega) above
          exact absurd (down.symm.trans up) (by decide)
        refine ih bot _ (by omega) low notAbove ⟨points.below, ?_, ?_⟩
        · exact fun before => points.at_target (by omega)
        · exact fun j after before => points.above j after (by omega)
      next found =>
        rcases Nat.lt_trichotomy ((bot + top) / 2) i with less | equal | more
        · have up := points.below ((bot + top) / 2) (by omega) less
          exact absurd (found.symm.trans up) (by decide)
        · exact equal
        · have down := points.above ((bot + top) / 2) more (by omega)
          exact absurd (found.symm.trans down) (by decide)
      next up =>
        have above : (bot + top) / 2 < i := by
          refine Nat.lt_of_not_le fun notAbove => ?_
          rcases Nat.lt_or_eq_of_le notAbove with less | equal
          · have down := points.above ((bot + top) / 2) less (by omega)
            exact absurd (up.symm.trans down) (by decide)
          · exact points.at_target (by omega) (equal ▸ up)
        refine ih _ top (by omega) above high ⟨?_, points.at_target, points.above⟩
        exact fun j from_ before => points.below j (by omega) before
    next outside => omega

/-- A search finds the target that the probe points to. -/
theorem search_eq {probe : Nat → Side} {length i : Nat} (high : i ≤ length)
    (points : Points probe 0 length i) : search probe length = i :=
  bisect_eq length 0 length (Nat.le_of_eq (Nat.sub_zero length)) (Nat.zero_le i) high points

end Foundation
