import DealWatch.Proofs.Json.Limits
import DealWatch.Proofs.Rule.Compilation
import DealWatch.Rule.File

/-!
# What a file of rules gives

* `RuleSet.ReadAs` lists what can come of the bytes of a file: rules, an error of the rules, or one
  of three failures that are none;
* `RuleSet.ofBytes_readAs` says that there is nothing else, `RuleSet.ofBytes_of_limits` that a text
  within the limits gives none of the three.

The bytes are read as a text, the text as JSON, and the items of a list as rules, so the cases are
those of the three steps. That the last two failures have a cause in the text is what is known of
the limits of the reader.
-/

namespace DealWatch

namespace RuleSet

/-- What comes of the bytes of a file. -/
inductive ReadAs (path : String) (bytes : List UInt8) : Outcome RuleSet → Prop
  /-- The bytes are no text. -/
  | undecodable : fileText? bytes = none → ReadAs path bytes (.error .undecodable)
  /-- An integer has more digits than are converted. -/
  | longInteger {text : String} : fileText? bytes = some text → Json.HasLongRow text.toList →
      ReadAs path bytes (.error .longInteger)
  /-- Lists and dictionaries are too deep inside of each other. -/
  | endless {text : String} : fileText? bytes = some text →
      Json.maxLevels < Json.openings text.toList → ReadAs path bytes (.error .endless)
  /-- The text is no JSON. -/
  | invalid {text : String} {e : Json.Error} : fileText? bytes = some text →
      Json.read text.toList = .error e →
      ReadAs path bytes (.error (.badRule (.fileInvalid path e text.toList)))
  /-- The document is no list. -/
  | notList {text : String} {d : Datum} : fileText? bytes = some text →
      Json.read text.toList = .ok d → (∀ ds, d ≠ .list ds) →
      ReadAs path bytes (.error (.badRule .notList))
  /-- A definition is wrong. The first such one is named. -/
  | refused {text : String} {before after : List Datum} {d : Datum} {cause : RuleError} :
      fileText? bytes = some text → Json.read text.toList = .ok (.list (before ++ d :: after)) →
      (∀ x ∈ before, ∃ r, Rule.compile x = .ok r) → Rule.compile d = .error cause →
      ReadAs path bytes (.error (.badRule (.atPosition (before.length + 1) cause)))
  /-- Each definition is a rule. -/
  | rules {text : String} {ds : List Datum} {rs : List Rule} : fileText? bytes = some text →
      Json.read text.toList = .ok (.list ds) → ds.map Rule.compile = rs.map .ok →
      ReadAs path bytes (.ok ⟨rs⟩)

theorem ofText_readAs {path : String} {bytes : List UInt8} {text : String}
    (h : fileText? bytes = some text) : ReadAs path bytes (ofText path text.toList) := by
  unfold ofText
  split
  · rename_i e hread
    obtain ⟨hdeep, hlong⟩ := Json.read_limits hread
    unfold Json.Error.limit?
    split
    · rename_i hfault
      exact .longInteger h (hlong hfault)
    · rename_i hfault
      exact .endless h (hdeep hfault)
    · exact .invalid h hread
  · rename_i ds hread
    split
    · rename_i s hs
      exact .rules h hread (compile_eq_ok_iff.1 hs)
    · rename_i e he
      obtain ⟨before, d, after, rfl, hbefore, cause, hd, rfl⟩ := compile_eq_error_iff.1 he
      exact .refused h hread hbefore hd
  · rename_i d hno hread
    exact .notList h hread hno

/-- **A file of rules** gives rules, an error of the rules, or one of three failures. -/
theorem ofBytes_readAs (path : String) (bytes : List UInt8) :
    ReadAs path bytes (ofBytes path (some bytes)) := by
  cases h : fileText? bytes with
  | none =>
    simp only [ofBytes, h]
    exact .undecodable h
  | some text =>
    simp only [ofBytes, h]
    exact ofText_readAs h

/-- **Within the limits** a file of rules gives the rules of its definitions in their order, or an
error of the rules. -/
theorem ofBytes_of_limits (path : String) {bytes : List UInt8} {text : String}
    (h : fileText? bytes = some text) (hdigits : ¬ Json.HasLongRow text.toList)
    (hlevels : Json.openings text.toList ≤ Json.maxLevels) :
    (∃ ds rs, Json.read text.toList = .ok (.list ds) ∧ ds.map Rule.compile = rs.map .ok ∧
      ofBytes path (some bytes) = .ok ⟨rs⟩) ∨
    ∃ cause, ofBytes path (some bytes) = .error (.badRule cause) := by
  have hread := ofBytes_readAs path bytes
  generalize ofBytes path (some bytes) = result at hread
  cases hread with
  | undecodable hnone => rw [h] at hnone; cases hnone
  | longInteger htext hrow =>
    obtain rfl := Option.some.inj (h.symm.trans htext)
    exact absurd hrow hdigits
  | endless htext hdeep =>
    obtain rfl := Option.some.inj (h.symm.trans htext)
    exact absurd hdeep (Nat.not_lt.2 hlevels)
  | rules htext hjson hrules =>
    obtain rfl := Option.some.inj (h.symm.trans htext)
    exact .inl ⟨_, _, hjson, hrules, rfl⟩
  | invalid | notList | refused => exact .inr ⟨_, rfl⟩

/-- A byte that is part of no text ends the reading of this list with a failure that is no error of
the rules. -/
theorem ofBytes_undecodable :
    ofBytes "rules.json" (some [0x5b, 0xff, 0x5d]) = .error .undecodable ∧
      ∀ cause, Failure.undecodable ≠ .badRule cause :=
  ⟨by decide +kernel, nofun⟩

end RuleSet

end DealWatch
