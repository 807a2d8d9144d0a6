import DealWatch.Data.Datum

/-!
# Merging values

* `Datum.merge` puts one value over another: dictionaries are merged key by key, and of other
  values the upper one counts.
-/

namespace DealWatch

mutual

/-- One value over another one. -/
def Datum.merge (lower : Datum) : Datum → Datum
  | .dict upper =>
    match lower with
    | .dict es => .dict (mergeEntries es upper)
    | _ => .dict upper
  | d => d

/-- Some entries over others. -/
def mergeEntries (lower : List (Scalar × Datum)) :
    List (Scalar × Datum) → List (Scalar × Datum)
  | [] => lower
  | (k, d) :: upper =>
    let value := match lower.find? fun (j, _) => j.sameKey k with
      | some (_, old) => Datum.merge old d
      | none => d
    mergeEntries (Entries.put k value lower) upper

end

/-- Some entries over others. -/
abbrev Entries.merge (lower upper : Entries) : Entries := mergeEntries lower upper

end DealWatch
