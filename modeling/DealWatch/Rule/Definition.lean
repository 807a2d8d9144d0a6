import DealWatch.Rule.Basic

/-!
# Rules written as documents

A definition is a dictionary with texts for the name and the patterns and integers for the bounds.
Every key may be absent or null, and others are ignored.

* `Rule.Definition.check` reads the fields of a definition;
* `Rule.withHalvesOf` adds what a definition says about halves of surrogate pairs;
* `Rule.compile` makes a rule of a definition, or says what is wrong with it.
-/

namespace DealWatch

namespace Rule

/-- The fields of a definition. -/
structure Definition where
  name : Option String
  flair : Option String
  productType : Option String
  description : Option String
  priceMin : Option Int
  priceMax : Option Int
  deriving DecidableEq, Repr, Inhabited

/-- Reads the fields of a definition. -/
def Definition.check (es : Entries) : Verdict Definition :=
  Definition.mk <$> Fields.optional es "name" Check.strictText
    <*> Fields.optional es "link_flair_pattern" Check.strictText
    <*> Fields.optional es "product_type_pattern" Check.strictText
    <*> Fields.optional es "description_pattern" Check.strictText
    <*> Fields.optional es "price_min" Check.strictInt
    <*> Fields.optional es "price_max" Check.strictInt

/-- Whether a bound can be written in eight bytes. -/
def boundFits (bound : Option Int) : Bool :=
  match bound with
  | some i => isWord i
  | none => true

/-- Reads a pattern from the field with the given key. -/
def compileField (key : String) : Option String → Except RuleError (Option SourcedPattern)
  | none => .ok none
  | some source =>
    match SourcedPattern.parse source with
    | .ok p => .ok (some p)
    | .error e => .error (.badPattern key e)

/-- The rule of a definition. -/
def Definition.compile (d : Definition) : Except RuleError Rule := do
  unless boundFits d.priceMin do throw (.wrongType ["price_min"])
  unless boundFits d.priceMax do throw (.wrongType ["price_max"])
  let flair ← compileField "link_flair_pattern" d.flair
  let productType ← compileField "product_type_pattern" d.productType
  let description ← compileField "description_pattern" d.description
  return { name := d.name, flair, productType, description,
           priceMin := d.priceMin, priceMax := d.priceMax }

/-- A pattern with what is known of the halves under its key. -/
def markHalves (es : Entries) (key : String) (p : SourcedPattern) : SourcedPattern :=
  { p with halving := (Entries.halvedAt? es key).map (Halving.of p.pattern) }

/-- A rule with what is known of the halves in the texts of its definition. -/
def withHalvesOf (es : Entries) (r : Rule) : Rule :=
  { r with
    nameFault := (Entries.halvedAt? es "name").map (·.fault)
    flair := r.flair.map (markHalves es "link_flair_pattern")
    productType := r.productType.map (markHalves es "product_type_pattern")
    description := r.description.map (markHalves es "description_pattern") }

/-- The rule of a document. -/
def compile (d : Datum) : Except RuleError Rule :=
  match d with
  | .dict es =>
    match Definition.check es with
    | .accepted definition => (withHalvesOf es) <$> definition.compile
    | .rejected problems => .error (.wrongType (problems.filterMap fun p => p.path.head?))
  | _ => .error .notObject

end Rule

end DealWatch
