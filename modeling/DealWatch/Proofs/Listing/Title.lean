import DealWatch.Listing.Title
import DealWatch.Proofs.Text.Stretch
import Mathlib.Logic.ExistsUnique

/-!
# Which titles are read

A title is read by looking for the longest stretches of a class of characters. What is found can be
said without that: it is the only way in which the title can be cut.

* `Priced` says that a price can be read behind a bracket;
* `TitleCut` says how a text is cut from its opening bracket on, `FirstTitleCut` that no bracket
  with a price stands further to the left;
* `titleAt?_eq_some_iff` and `titleParts?_eq_some_iff` say that these cuts are what is found;
* `extractTitle_spec` says what is made of a title.

For one bracket the parts are found from left to right, and each ends where its class of characters
does; so there is at most one cut, and there is one if `Priced` holds. The brackets are tried from
the left, by induction on the text: where one is found no cut can begin further to the right.
-/

namespace DealWatch

/-! ### How a title is cut -/

/-- Behind a bracket stand a type, the bracket that closes it, and a price: the first dollar sign
after it is there and a digit follows. -/
def Priced (cs : List Char) : Prop :=
  ∃ productType description digit rest,
    cs = productType ++ ']' :: (description ++ '$' :: digit :: rest) ∧
    productType ≠ [] ∧ (∀ c ∈ productType, isTypeChar c = true) ∧ '$' ∉ description ∧
    isDecimalDigit digit = true

/-- The cents that a text behind the dollars starts with, and what follows the price: the longest
row of digits behind a point, or nothing if there is no point with a digit. -/
inductive CentsCut : List Char → Option (List Char) → List Char → Prop
  | digits {ds rest : List Char} : ds ≠ [] → Stretch isDecimalDigit ds rest →
      CentsCut ('.' :: (ds ++ rest)) (some ds) rest
  | nothing {cs : List Char} : (∀ c rest, cs = '.' :: c :: rest → isDecimalDigit c = false) →
      CentsCut cs none cs

/-- What is kept of the text that follows a price: nothing if there is none, and otherwise its first
character with all up to the next line feed. -/
inductive ExtraCut : List Char → Option (List Char) → Prop
  | nothing : ExtraCut [] none
  | line {c : Char} {line rest : List Char} : '\n' ∉ line → (∀ d ∈ rest.head?, d = '\n') →
      ExtraCut (c :: (line ++ rest)) (some (c :: line))

/-- The parts into which a text is cut from its opening bracket on. -/
inductive TitleCut : List Char → TitleParts → Prop
  | parts {productType description dollars afterDollars rest : List Char}
      {cents extra : Option (List Char)} :
      productType ≠ [] → (∀ c ∈ productType, isTypeChar c = true) → '$' ∉ description →
      dollars ≠ [] → Stretch isDecimalDigit dollars afterDollars →
      CentsCut afterDollars cents rest → ExtraCut rest extra →
      TitleCut ('[' :: (productType ++ ']' :: (description ++ '$' :: (dollars ++ afterDollars))))
        ⟨productType, description, dollars, cents, extra⟩

/-- The parts into which a text is cut from the first bracket with a price on. -/
def FirstTitleCut (cs : List Char) (parts : TitleParts) : Prop :=
  ∃ before titled, cs = before ++ titled ∧ TitleCut titled parts ∧
    ∀ u v, cs = u ++ '[' :: v → Priced v → before.length ≤ u.length

/-! ### From the opening bracket on -/

theorem CentsCut.eq {cs rest : List Char} {cents : Option (List Char)}
    (h : CentsCut cs cents rest) :
    centsAfter? cs = cents ∧ cents.elim cs (fun ds => cs.drop (ds.length + 1)) = rest := by
  cases h with
  | digits hne hrun =>
    obtain ⟨d, ds, rfl⟩ := List.exists_cons_of_ne_nil hne
    refine ⟨?_, by simp⟩
    rw [centsAfter?, hrun.takeWhile_eq]
  | nothing hnot =>
    refine ⟨?_, rfl⟩
    unfold centsAfter?
    split
    · rename_i after
      cases after with
      | nil => rfl
      | cons c after => rw [List.takeWhile_cons_of_neg (by simp [hnot c after rfl])]
    · rfl

theorem exists_centsCut (cs : List Char) : ∃ cents rest, CentsCut cs cents rest := by
  by_cases h : ∃ c rest, cs = '.' :: c :: rest ∧ isDecimalDigit c = true
  · obtain ⟨c, after, rfl, hc⟩ := h
    obtain ⟨ds, rest, hrest, hrun⟩ := Stretch.exists_eq isDecimalDigit (c :: after)
    have hne : ds ≠ [] := hrun.ne_nil hrest hc
    exact ⟨some ds, rest, hrest ▸ .digits hne hrun⟩
  · refine ⟨none, cs, .nothing fun c rest heq => ?_⟩
    rw [← Bool.not_eq_true]
    exact fun hc => h ⟨c, rest, heq, hc⟩

theorem ExtraCut.eq {cs : List Char} {extra : Option (List Char)} (h : ExtraCut cs extra) :
    extraAfter? cs = extra := by
  cases h with
  | nothing => rfl
  | line hline hrest => rw [extraAfter?, (stretch_ne_iff.2 ⟨hline, hrest⟩).takeWhile_eq]

theorem exists_extraCut : ∀ cs, ∃ extra, ExtraCut cs extra
  | [] => ⟨none, .nothing⟩
  | c :: after => by
    obtain ⟨line, rest, hrest, hrun⟩ := Stretch.exists_eq (· != '\n') after
    obtain ⟨hline, hend⟩ := stretch_ne_iff.1 hrun
    exact ⟨some (c :: line), hrest ▸ .line hline hend⟩

/-- A text that is cut is read so: each part is as long as it can be. -/
theorem TitleCut.titleAt?_eq {cs : List Char} {parts : TitleParts} (h : TitleCut cs parts) :
    titleAt? cs = some parts := by
  obtain ⟨hne, htype, hdescription, hdollars, hrun, hcents, hextra⟩ := h
  rename_i productType description dollars afterDollars rest cents extra
  have hbracket : Stretch isTypeChar productType
      (']' :: (description ++ '$' :: (dollars ++ afterDollars))) :=
    ⟨htype, by rintro c ⟨⟩; decide +kernel⟩
  have hsign : Stretch (· != '$') description ('$' :: (dollars ++ afterDollars)) :=
    stretch_ne_iff.2 ⟨hdescription, by rintro c ⟨⟩; rfl⟩
  obtain ⟨t, ts, rfl⟩ := List.exists_cons_of_ne_nil hne
  obtain ⟨d, ds, rfl⟩ := List.exists_cons_of_ne_nil hdollars
  obtain ⟨hcents, hrest⟩ := hcents.eq
  simp only [titleAt?, hbracket.takeWhile_eq, List.drop_left, hsign.takeWhile_eq, hrun.takeWhile_eq,
    hcents, ← hextra.eq, ← hrest]
  cases cents <;> rfl

theorem TitleCut.priced {cs : List Char} {parts : TitleParts} (h : TitleCut ('[' :: cs) parts) :
    Priced cs := by
  obtain ⟨hne, htype, hdescription, hdollars, hrun, -, -⟩ := h
  rename_i productType description dollars afterDollars _ _ _
  obtain ⟨d, ds, rfl⟩ := List.exists_cons_of_ne_nil hdollars
  exact ⟨productType, description, d, ds ++ afterDollars, rfl, hne, htype, hdescription,
    hrun.inside d List.mem_cons_self⟩

theorem Priced.exists_titleCut {cs : List Char} (h : Priced cs) :
    ∃ parts, TitleCut ('[' :: cs) parts := by
  obtain ⟨productType, description, digit, rest, rfl, hne, htype, hdescription, hdigit⟩ := h
  obtain ⟨dollars, afterDollars, heq, hrun⟩ := Stretch.exists_eq isDecimalDigit (digit :: rest)
  obtain ⟨cents, afterCents, hcents⟩ := exists_centsCut afterDollars
  obtain ⟨extra, hextra⟩ := exists_extraCut afterCents
  rw [heq]
  exact ⟨_, .parts hne htype hdescription (hrun.ne_nil heq hdigit) hrun hcents hextra⟩

/-- What is read starts with a bracket that has a price. -/
theorem priced_of_titleAt? {cs : List Char} {parts : TitleParts} (h : titleAt? cs = some parts) :
    ∃ rest, cs = '[' :: rest ∧ Priced rest := by
  unfold titleAt? at h
  split at h
  · rename_i rest
    refine ⟨rest, rfl, ?_⟩
    obtain ⟨productType, afterType, rfl, htype⟩ := Stretch.exists_eq isTypeChar rest
    simp only [htype.takeWhile_eq, List.drop_left] at h
    split at h
    · rename_i t ts afterBracket
      obtain ⟨description, priced, rfl, hsign⟩ := Stretch.exists_eq (· != '$') afterBracket
      obtain ⟨hdescription, hprice⟩ := stretch_ne_iff.1 hsign
      simp only [hsign.takeWhile_eq, List.drop_left] at h
      split at h
      · rename_i sign afterSign
        obtain rfl : sign = '$' := hprice sign rfl
        obtain ⟨dollars, afterDollars, rfl, hrun⟩ := Stretch.exists_eq isDecimalDigit afterSign
        rw [hrun.takeWhile_eq] at h
        cases dollars with
        | nil => cases h
        | cons d ds =>
          exact ⟨t :: ts, description, d, ds ++ afterDollars, rfl, List.cons_ne_nil t ts,
            htype.inside, hdescription, hrun.inside d List.mem_cons_self⟩
      · cases h
    · cases h
  · cases h

/-- **From an opening bracket on**, what is read is how the text is cut. -/
theorem titleAt?_eq_some_iff {cs : List Char} {parts : TitleParts} :
    titleAt? cs = some parts ↔ TitleCut cs parts := by
  constructor
  · intro h
    obtain ⟨rest, rfl, hpriced⟩ := priced_of_titleAt? h
    obtain ⟨parts', hcut⟩ := hpriced.exists_titleCut
    obtain rfl : parts' = parts := Option.some.inj (hcut.titleAt?_eq.symm.trans h)
    exact hcut
  · exact TitleCut.titleAt?_eq

theorem titleAt?_eq_none_iff {cs : List Char} :
    titleAt? cs = none ↔ ∀ rest, cs = '[' :: rest → ¬ Priced rest := by
  constructor
  · rintro h rest rfl hpriced
    obtain ⟨parts, hcut⟩ := hpriced.exists_titleCut
    rw [hcut.titleAt?_eq] at h
    cases h
  · intro h
    rw [Option.eq_none_iff_forall_ne_some]
    intro parts hparts
    obtain ⟨rest, heq, hpriced⟩ := priced_of_titleAt? hparts
    exact h rest heq hpriced

/-! ### From the first bracket with a price on -/

/-- A text has a bracket with a price. -/
def HasPrice (cs : List Char) : Prop := ∃ u v, cs = u ++ '[' :: v ∧ Priced v

theorem hasPrice_cons {c : Char} {cs : List Char} :
    HasPrice (c :: cs) ↔ (∃ v, c :: cs = '[' :: v ∧ Priced v) ∨ HasPrice cs := by
  constructor
  · rintro ⟨u, v, heq, hv⟩
    cases u with
    | nil => exact .inl ⟨v, heq, hv⟩
    | cons d u => exact .inr ⟨u, v, (List.cons.inj heq).2, hv⟩
  · rintro (⟨v, heq, hv⟩ | ⟨u, v, rfl, hv⟩)
    · exact ⟨[], v, heq, hv⟩
    · exact ⟨c :: u, v, rfl, hv⟩

theorem titleParts?_eq_none_iff {cs : List Char} : titleParts? cs = none ↔ ¬ HasPrice cs := by
  induction cs with
  | nil => simp [titleParts?, HasPrice]
  | cons c cs ih =>
    rw [titleParts?, hasPrice_cons]
    cases hat : titleAt? (c :: cs) with
    | some parts =>
      obtain ⟨rest, heq, hpriced⟩ := priced_of_titleAt? hat
      exact ⟨nofun, fun hnot => absurd (.inl ⟨rest, heq, hpriced⟩) hnot⟩
    | none =>
      have hnot := titleAt?_eq_none_iff.1 hat
      rw [or_iff_right fun ⟨v, heq, hv⟩ => hnot v heq hv]
      exact ih

/-- Where no title can be read from the first character, the first cut is that of the rest. -/
theorem firstTitleCut_cons {c : Char} {cs : List Char} {parts : TitleParts}
    (h : titleAt? (c :: cs) = none) : FirstTitleCut (c :: cs) parts ↔ FirstTitleCut cs parts := by
  constructor
  · rintro ⟨before, titled, heq, hcut, hfirst⟩
    cases before with
    | nil =>
      rw [← List.nil_append titled, ← heq] at hcut
      rw [hcut.titleAt?_eq] at h
      cases h
    | cons d before =>
      refine ⟨before, titled, (List.cons.inj heq).2, hcut, fun u v huv hv => ?_⟩
      exact Nat.le_of_succ_le_succ (hfirst (c :: u) v (congrArg (c :: ·) huv) hv)
  · rintro ⟨before, titled, rfl, hcut, hfirst⟩
    refine ⟨c :: before, titled, rfl, hcut, fun u v huv hv => ?_⟩
    cases u with
    | nil => exact absurd hv (titleAt?_eq_none_iff.1 h v huv)
    | cons d u => exact Nat.succ_le_succ (hfirst u v (List.cons.inj huv).2 hv)

/-- **The parts of a title** are those from the first bracket with a price on. -/
theorem titleParts?_eq_some_iff {cs : List Char} {parts : TitleParts} :
    titleParts? cs = some parts ↔ FirstTitleCut cs parts := by
  induction cs with
  | nil =>
    refine ⟨nofun, fun ⟨before, titled, heq, hcut, _⟩ => ?_⟩
    obtain ⟨-, rfl⟩ := List.append_eq_nil_iff.1 heq.symm
    cases hcut
  | cons c cs ih =>
    rw [titleParts?]
    cases hat : titleAt? (c :: cs) with
    | none =>
      rw [firstTitleCut_cons hat]
      exact ih
    | some found =>
      obtain ⟨rest, hopen, hpriced⟩ := priced_of_titleAt? hat
      constructor
      · rintro ⟨⟩
        exact ⟨[], c :: cs, rfl, titleAt?_eq_some_iff.1 hat, fun u v _ _ => Nat.zero_le _⟩
      · rintro ⟨before, titled, heq, hcut, hfirst⟩
        -- the first cut cannot be further to the right than the price that was found
        obtain rfl : before = [] := List.eq_nil_of_length_eq_zero
          (Nat.le_zero.1 (hfirst [] rest hopen hpriced))
        rw [heq, List.nil_append, hcut.titleAt?_eq] at hat
        exact congrArg some (Option.some.inj hat).symm

/-! ### What is made of a title -/

theorem digitsNumber_of_le {ds : List Char} (h : ds.length ≤ maxIntegerDigits) :
    digitsNumber ds = .ok (numberOf ds) :=
  if_neg (Nat.not_lt.2 h)

theorem digitsNumber_of_lt {ds : List Char} (h : maxIntegerDigits < ds.length) :
    digitsNumber ds = .error .longInteger :=
  if_pos h

namespace TitleParts

/-- Both numbers of a price have no more digits than can be read. -/
def Fits (parts : TitleParts) : Prop :=
  parts.dollars.length ≤ maxIntegerDigits ∧ ∀ ds ∈ parts.cents, ds.length ≤ maxIntegerDigits

/-- What the parts say: trimmed, and the digits as numbers. -/
def said (parts : TitleParts) (postId : String) : ParsedTitle where
  postId
  productType := trimmed parts.productType
  description := trimmed parts.description
  dollars := numberOf parts.dollars
  cents := match parts.cents with
    | some ds => numberOf ds
    | none => 0
  extra := parts.extra.map trimmed

theorem toTitle_of_fits {parts : TitleParts} (h : parts.Fits) (postId : String) :
    parts.toTitle postId = .ok (parts.said postId) := by
  obtain ⟨productType, description, dollars, cents, extra⟩ := parts
  cases cents with
  | none => rw [toTitle, digitsNumber_of_le h.1]; rfl
  | some ds => simp only [toTitle, digitsNumber_of_le h.1, digitsNumber_of_le (h.2 ds rfl)]; rfl

theorem toTitle_of_not_fits {parts : TitleParts} (h : ¬ parts.Fits) (postId : String) :
    parts.toTitle postId = .error .longInteger := by
  obtain ⟨productType, description, dollars, cents, extra⟩ := parts
  by_cases hdollars : dollars.length ≤ maxIntegerDigits
  · cases cents with
    | none => exact absurd ⟨hdollars, nofun⟩ h
    | some ds =>
      have hcents : maxIntegerDigits < ds.length :=
        Nat.not_le.1 fun hle => h ⟨hdollars, by rintro _ ⟨⟩; exact hle⟩
      simp only [toTitle, digitsNumber_of_le hdollars, digitsNumber_of_lt hcents]
      rfl
  · rw [toTitle, digitsNumber_of_lt (Nat.not_le.1 hdollars)]
    rfl

end TitleParts

/-- **Reading titles.**  A title is read if and only if it has a bracket with a price, and then it is
cut in one way only, at the first such bracket. The parts are trimmed and the digits are read as
numbers, unless there are too many of them; without digits behind a point there are no cents. -/
theorem extractTitle_spec (title postId : String) :
    (HasPrice title.toList ↔ ∃! parts, FirstTitleCut title.toList parts) ∧
    (extractTitle title postId = .ok none ↔ ¬ HasPrice title.toList) ∧
    (∀ t, extractTitle title postId = .ok (some t) ↔
      ∃ parts, FirstTitleCut title.toList parts ∧ parts.Fits ∧ t = parts.said postId) ∧
    ∀ e, extractTitle title postId = .error e ↔
      ∃ parts, FirstTitleCut title.toList parts ∧ ¬ parts.Fits ∧ e = .longInteger := by
  simp only [← titleParts?_eq_some_iff, ← titleParts?_eq_none_iff]
  unfold extractTitle
  cases h : titleParts? title.toList with
  | none =>
    have hnot : ¬ HasPrice title.toList := titleParts?_eq_none_iff.1 h
    refine ⟨⟨fun hprice => absurd hprice hnot, ?_⟩, by simp, by simp, by simp⟩
    rintro ⟨parts, ⟨⟩, -⟩
  | some parts =>
    have hprice : HasPrice title.toList := Classical.not_not.1 fun hnot => by
      rw [titleParts?_eq_none_iff.2 hnot] at h
      cases h
    refine ⟨⟨fun _ => ⟨parts, rfl, fun _ heq => (Option.some.inj heq).symm⟩, fun _ => hprice⟩, ?_⟩
    by_cases hfits : parts.Fits
    · have hread : some <$> parts.toTitle postId = .ok (some (parts.said postId)) := by
        rw [TitleParts.toTitle_of_fits hfits]
        rfl
      simp [hread, hfits, eq_comm]
    · have hread : some <$> parts.toTitle postId = .error .longInteger := by
        rw [TitleParts.toTitle_of_not_fits hfits]
        rfl
      simp [hread, hfits, eq_comm]

end DealWatch
