/-!
# Tab stops

A tab goes on to the next column that is a multiple of eight. A line feed or a carriage return
starts again at column zero.
-/

namespace DealWatch

/-- A text that starts at a column, with spaces in place of its tabs. -/
def expandTabsFrom : Nat → List Char → List Char
  | _, [] => []
  | column, c :: rest =>
    if c = '\t' then List.replicate (8 - column % 8) ' ' ++ expandTabsFrom 0 rest
    else if c = '\n' || c = '\r' then c :: expandTabsFrom 0 rest
    else c :: expandTabsFrom (column + 1) rest

/-- A text with spaces in place of its tabs. -/
def expandTabs (cs : List Char) : List Char := expandTabsFrom 0 cs

end DealWatch
