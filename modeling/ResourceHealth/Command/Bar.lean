import ResourceHealth.Binary64.Arithmetic
import ResourceHealth.Level

/-!
# Bars

A share of a hundred drawn as a bar of fixed width, in a symbol that shows the
level.

Main definitions:

- `Bar.filled`: how much of the bar is filled.
- `Bar.draw`: the bar.

Main results:

- Theorem `Bar.length_draw`: every bar has the same width.
-/

namespace ResourceHealth

namespace Bar

/-- How many places a bar has. -/
def width : Nat := 20

/-- The symbol of a level. -/
def symbol : Level → Char
  | .critical => '#'
  | .warning => '='
  | .healthy => '-'

/-- How many places are filled: the share in places, rounded, within the bar. -/
def filled (percent : Binary64) : Nat :=
  min (percent / 100 * Binary64.ofNat width).round.toCount width

/-- The bar of a share. -/
def draw (percent : Binary64) (level : Level) : List Char :=
  '[' :: (List.replicate (filled percent) (symbol level) ++
    List.replicate (width - filled percent) '.' ++ [']'])

/-- Every bar has the same width. -/
theorem length_draw (percent : Binary64) (level : Level) :
    (draw percent level).length = width + 2 := by
  have hle : filled percent ≤ width := Nat.min_le_right _ _
  simp only [draw, List.length_cons, List.length_append, List.length_replicate,
    List.length_nil]
  omega

end Bar

end ResourceHealth
