import DealWatch.Proofs.Pipeline.Match

/-!
# Histories of the match stage

The match stage is started with some rules and offered listings, and may be started again with
other rules on the store that it left. Steps that fail count as well: an offer that fails leaves
what it wrote, and a start that fails leaves the rules that it stored but not its rules in use.

`History` is what a sequence of `Event`s leaves: the store and all that was returned.
`returned_once_and_recorded` says that no listing is returned twice and that every table row has
the rows that it refers to. The proof is an induction on the events, and `Consistent` is what each
of them keeps (`Consistent.start`, `Consistent.offer`). Its strongest part is that what was returned
has its title in the table: a listing comes to the rules only if its title was not there, so it was
not returned before, under whatever rules.
-/

namespace DealWatch

/-- What the match stage has done since its store was empty. -/
structure History where
  store : Store
  /-- The rules of the latest start that stored all of them. -/
  rules : RuleSet
  /-- The rules that starts have stored. -/
  started : List Rule
  /-- All that was returned, the oldest first. -/
  returned : List MatchingPost

namespace History

/-- What happens to the match stage, each time with its own clock and journal. -/
inductive Event where
  /-- It is started, and the rules are stored. -/
  | start (rules : RuleSet) (o : Outside)
  /-- It is offered a listing. -/
  | offer (l : Listing) (o : Outside)

/-- What is returned for a listing, if anything. -/
def found : Outcome (Option MatchingPost) → List MatchingPost
  | .ok (some m) => [m]
  | _ => []

/-- Goes on with one event. -/
def step (h : History) : Event → History
  | .start rules o =>
    let run := (storeRules rules.rules).runWith h.store o
    { h with
      store := run.2.1
      rules := match run.1 with
        | .ok _ => rules
        | .error _ => h.rules
      started := h.started ++ RuleSet.storable rules.rules }
  | .offer l o =>
    let run := (processListing h.rules l).runWith h.store o
    { h with store := run.2.1, returned := h.returned ++ found run.1 }

/-- Nothing has happened. -/
def empty : History := ⟨.empty, .empty, [], []⟩

/-- What some events leave. -/
def after (es : List Event) : History := es.foldl step empty

/-- The key of the match that is recorded for what is returned. -/
def hitKey (m : MatchingPost) : String × String := (m.rule.fingerprint, m.listing.id)

/-! ### The invariant -/

/-- What ties the tables to each other and to what was returned. -/
structure Consistent (h : History) : Prop where
  /-- The matches are those of what was returned, in the same order. -/
  hits : h.store.hitKeys = h.returned.map hitKey
  /-- No listing was returned twice. -/
  once : (h.returned.map (·.listing.id)).Nodup
  /-- What was returned has its title in the table. -/
  titled : ∀ m ∈ h.returned, m.listing.id ∈ h.store.titleIds
  /-- Every title has its post in the table. -/
  posted : ∀ id ∈ h.store.titleIds, id ∈ h.store.postIds
  /-- The rules in use were stored. -/
  inUse : ∀ r ∈ h.rules.rules, r ∈ h.started
  /-- What was returned was accepted by a rule that was stored. -/
  accepted : ∀ m ∈ h.returned, m.rule ∈ h.started
  /-- Every rule that was stored has its key in the table. -/
  stored : ∀ r ∈ h.started, r.fingerprint ∈ h.store.ruleIds
  /-- Every row of the rules is the record of one that was stored. -/
  records : ∀ row ∈ h.store.rules, ∃ r ∈ h.started, row = r.toRecord

theorem consistent_empty : Consistent empty where
  hits := rfl
  once := List.nodup_nil
  titled := by simp [empty]
  posted := by simp [empty, Store.empty, Store.titleIds]
  inUse := by simp [empty, RuleSet.empty]
  accepted := by simp [empty]
  stored := by simp [empty]
  records := by simp [empty, Store.empty]

variable {h : History}

/-- A start writes rules and nothing else, and its rules are in use only if all of them are
written. -/
theorem Consistent.start (hc : h.Consistent) (rules : RuleSet) (o : Outside) :
    (h.step (.start rules o)).Consistent := by
  obtain ⟨result, o', hrun, hstoring⟩ := storeRules_run rules.rules h.store o
  have hstep : ∃ inUse : RuleSet,
      (∀ r ∈ inUse.rules, r ∈ h.rules.rules ∨ r ∈ RuleSet.storable rules.rules) ∧
      h.step (.start rules o) = ⟨h.store.withRules (RuleSet.storable rules.rules), inUse,
        h.started ++ RuleSet.storable rules.rules, h.returned⟩ := by
    rw [step, hrun]
    cases hstoring with
    | all hall => exact ⟨rules, fun r hr => .inr ((RuleSet.storable_eq_self hall).symm ▸ hr), rfl⟩
    | flawed => exact ⟨h.rules, fun r hr => .inl hr, rfl⟩
  obtain ⟨inUse, hinUse, hstep⟩ := hstep
  rw [hstep]
  refine { hits := ?_, once := hc.once, titled := ?_, posted := ?_, inUse := ?_, accepted := ?_,
           stored := ?_, records := ?_ }
  · rw [Store.hitKeys_withRules, hc.hits]
  · rw [Store.titleIds_withRules]
    exact hc.titled
  · rw [Store.titleIds_withRules, Store.postIds_withRules]
    exact hc.posted
  · intro r hr
    obtain hr | hr := hinUse r hr
    · exact List.mem_append_left _ (hc.inUse r hr)
    · exact List.mem_append_right _ hr
  · exact fun m hm => List.mem_append_left _ (hc.accepted m hm)
  · intro r hr
    rw [Store.mem_ruleIds_withRules]
    obtain hr | hr := List.mem_append.1 hr
    · exact .inl (hc.stored r hr)
    · exact .inr (List.mem_map_of_mem hr)
  · intro row hrow
    obtain hrow | ⟨r, hr, rfl⟩ := Store.mem_rules_withRules hrow
    · obtain ⟨r, hr, rfl⟩ := hc.records row hrow
      exact ⟨r, List.mem_append_left _ hr, rfl⟩
    · exact ⟨r, List.mem_append_right _ hr, rfl⟩

/-- Writing posts, and titles whose posts are there, keeps the invariant if nothing is returned. -/
theorem Consistent.quiet (hc : h.Consistent) {s : Store} (hhits : s.hits = h.store.hits)
    (hrules : s.rules = h.store.rules) (htitles : ∀ id ∈ h.store.titleIds, id ∈ s.titleIds)
    (hposted : ∀ id ∈ s.titleIds, id ∈ s.postIds) : Consistent { h with store := s } where
  hits := by
    rw [Store.hitKeys, hhits]
    exact hc.hits
  once := hc.once
  titled m hm := htitles _ (hc.titled m hm)
  posted := hposted
  inUse := hc.inUse
  accepted := hc.accepted
  stored r hr := by
    rw [Store.ruleIds, hrules]
    exact hc.stored r hr
  records row hrow := hc.records row (hrules ▸ hrow)

/-- Recording a match of a listing that was not returned before keeps the invariant. -/
theorem Consistent.withMatch (hc : h.Consistent) {m : MatchingPost} (hrule : m.rule ∈ h.rules.rules)
    (hnew : ∀ m' ∈ h.returned, m'.listing.id ≠ m.listing.id)
    (htitle : m.listing.id ∈ h.store.titleIds) (now : Int) :
    Consistent { h with store := (h.store.insertMatch m.rule m.listing.id now).1,
                        returned := h.returned ++ [m] } := by
  -- the key is new for every rule, also for those of earlier starts, because the listing is
  have hfresh : (m.rule.fingerprint, m.listing.id) ∉ h.store.hitKeys := by
    rw [hc.hits]
    intro hmem
    obtain ⟨m', hm', hkey⟩ := List.mem_map.1 hmem
    exact hnew m' hm' (Prod.mk.inj hkey).2
  rw [Store.insertMatch_new hfresh]
  refine { hits := ?_, once := ?_, titled := ?_, posted := hc.posted, inUse := hc.inUse,
           accepted := ?_, stored := hc.stored, records := hc.records }
  · have hhits := hc.hits
    simp only [Store.hitKeys] at hhits
    simp only [Store.hitKeys, List.map_append, hhits]
    rfl
  · rw [List.map_append, List.map_singleton, List.nodup_append]
    refine ⟨hc.once, by simp, ?_⟩
    intro id hid id' hid'
    obtain ⟨m', hm', rfl⟩ := List.mem_map.1 hid
    rw [List.mem_singleton.1 hid']
    exact hnew m' hm'
  · intro m' hm'
    obtain hm' | hm' := List.mem_append.1 hm'
    · exact hc.titled m' hm'
    · rw [List.mem_singleton.1 hm']
      exact htitle
  · intro m' hm'
    obtain hm' | hm' := List.mem_append.1 hm'
    · exact hc.accepted m' hm'
    · rw [List.mem_singleton.1 hm']
      exact hc.inUse m.rule hrule

/-- A post is written, and perhaps nothing else. -/
theorem Consistent.withPost (hc : h.Consistent) (p : Post) :
    Consistent { h with store := { h.store with posts := h.store.posts ++ [p] } } := by
  refine hc.quiet rfl rfl (fun _ hid => hid) ?_
  intro id hid
  simp only [Store.postIds, List.map_append]
  exact List.mem_append_left _ (hc.posted id hid)

/-- A post is written and its title. -/
theorem Consistent.withTitle (hc : h.Consistent) {p : Post} {t : ParsedTitle}
    (hid : t.postId = p.id) :
    Consistent { h with store := { h.store with
      posts := h.store.posts ++ [p], titles := h.store.titles ++ [t] } } := by
  refine hc.quiet rfl rfl ?_ ?_
  · intro id hid
    simp only [Store.titleIds, List.map_append]
    exact List.mem_append_left _ hid
  · intro id hmem
    simp only [Store.titleIds, Store.postIds, List.map_append, List.mem_append] at hmem ⊢
    obtain hmem | hmem := hmem
    · exact .inl (hc.posted id hmem)
    · exact .inr (by simpa [hid] using hmem)

theorem mem_of_select {rules : List Rule} {l : Listing} {t : ParsedTitle} {r : Rule}
    (h : RuleSet.selectFrom l t rules = .ok (some r)) : r ∈ rules := by
  induction rules with
  | nil => cases h
  | cons r' rules ih =>
    rw [RuleSet.selectFrom] at h
    split at h
    · cases hr : r'.acceptsTitle t with
      | error e =>
        rw [hr] at h
        cases h
      | ok accepted =>
        rw [hr] at h
        cases accepted with
        | true =>
          cases h
          exact List.mem_cons_self
        | false => exact List.mem_cons_of_mem _ (ih h)
    · exact List.mem_cons_of_mem _ (ih h)

/-- An offer keeps the invariant, wherever it ends. -/
theorem Consistent.offer (hc : h.Consistent) (l : Listing) (o : Outside) :
    (h.step (.offer l o)).Consistent := by
  rw [step]
  have hrun := processing_of_run h.rules l h.store o
  generalize (processListing h.rules l).runWith h.store o = run at hrun ⊢
  obtain ⟨x, s, o'⟩ := run
  simp only at hrun ⊢
  cases hrun with
  | refused => simpa [found] using hc
  | known => simpa [found] using hc
  | unreadable => simpa [found] using hc.withPost _
  | untitled => simpa [found] using hc.withPost _
  | unstorable => simpa [found] using hc.withPost _
  | retitled => simpa [found] using hc.withPost _
  | undecided hp _ ht =>
    have hid := (extractTitle_postId ht).trans (Store.postOf_id hp).symm
    simpa [found] using hc.withTitle hid
  | unmatched hp _ ht =>
    have hid := (extractTitle_postId ht).trans (Store.postOf_id hp).symm
    simpa [found] using hc.withTitle hid
  | unidentified hp _ ht =>
    have hid := (extractTitle_postId ht).trans (Store.postOf_id hp).symm
    simpa [found] using hc.withTitle hid
  | @matched p t row r hp _ ht _ htid hsel =>
    have hpost := extractTitle_postId ht
    have hid := hpost.trans (Store.postOf_id hp).symm
    -- all that was returned has its title in the table, and this title was not there
    refine (hc.withTitle hid).withMatch (m := ⟨r, l, t⟩) (mem_of_select hsel) ?_ ?_
      o.now
    · intro m hm he
      exact htid (he ▸ hc.titled m hm)
    · simp [Store.titleIds, hpost]

theorem Consistent.step (hc : h.Consistent) : ∀ e, (h.step e).Consistent
  | .start rules o => hc.start rules o
  | .offer l o => hc.offer l o

/-- **Every history is consistent.** -/
theorem consistent_after (es : List Event) : (after es).Consistent := by
  suffices hall : ∀ h : History, h.Consistent → (es.foldl History.step h).Consistent from
    hall empty consistent_empty
  induction es with
  | nil => exact fun h hc => hc
  | cons e es ih => exact fun h hc => ih (h.step e) (hc.step e)

/-- A listing whose post is stored is offered in vain. -/
theorem offer_known {l : Listing} {s : Store} (hid : l.id ∈ s.postIds) (rules : RuleSet)
    (o : Outside) :
    (((processListing rules l).runWith s o).1 = .ok none ∨
        ∃ e, ((processListing rules l).runWith s o).1 = .error e) ∧
      ((processListing rules l).runWith s o).2.1 = s := by
  rcases hp : Store.postOf l with e | p
  · rw [processListing_of_refused hp]
    exact ⟨.inr ⟨e, rfl⟩, rfl⟩
  · obtain ⟨o', hrun⟩ := processListing_of_known hp hid rules o
    rw [hrun]
    exact ⟨.inl rfl, rfl⟩

/-- **No listing is returned twice, and the tables say what was returned.**  After any starts and
offers: no two returned matches are of the same listing; the rows of the matches are those of what
was returned, in that order; each of them has its rule, its post and its title, and each title has
its post; and a listing whose post is stored is offered in vain and changes no table. -/
theorem returned_once_and_recorded (es : List Event) :
    ((after es).returned.map (·.listing.id)).Nodup ∧
    (after es).store.hitKeys = (after es).returned.map hitKey ∧
    (∀ m ∈ (after es).store.hits, m.ruleId ∈ (after es).store.ruleIds ∧
      m.postId ∈ (after es).store.postIds ∧ m.postId ∈ (after es).store.titleIds) ∧
    (∀ t ∈ (after es).store.titles, t.postId ∈ (after es).store.postIds) ∧
    ∀ l o, l.id ∈ (after es).store.postIds →
      (((processListing (after es).rules l).runWith (after es).store o).1 = .ok none ∨
        ∃ e, ((processListing (after es).rules l).runWith (after es).store o).1 = .error e) ∧
      ((processListing (after es).rules l).runWith (after es).store o).2.1 = (after es).store := by
  have hc := consistent_after es
  refine ⟨hc.once, hc.hits, ?_, ?_, fun l o hid => offer_known hid (after es).rules o⟩
  · intro m hm
    have hkey : (m.ruleId, m.postId) ∈ (after es).store.hitKeys := List.mem_map_of_mem hm
    rw [hc.hits] at hkey
    obtain ⟨p, hp, hpkey⟩ := List.mem_map.1 hkey
    obtain ⟨hrule, hpost⟩ := Prod.mk.inj hpkey
    have htitle : m.postId ∈ (after es).store.titleIds := hpost ▸ hc.titled p hp
    exact ⟨hrule ▸ hc.stored p.rule (hc.accepted p hp), hc.posted _ htitle, htitle⟩
  · exact fun t ht => hc.posted t.postId (List.mem_map_of_mem ht)

end History

end DealWatch
