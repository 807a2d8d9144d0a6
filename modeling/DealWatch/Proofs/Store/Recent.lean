import DealWatch.Proofs.Store.FirstWrite

/-!
# The latest matches

A query for the latest matches pairs each of them with its rule and its post, and leaves out those
without. Because rows are told apart by their keys, nothing is found twice.

* `Store.Written` says that a store was made by writing rows;
* `Store.Recent` says what is found: which matches, with what, in which order and how many;
* `Store.Written.recentMatches` says that this is what the query finds.

Without its limit the query is a list in order (`Store.allRecent`), and what it says about single
matches is read off the keys, which are distinct in each table of a written store. The limit takes
the beginning of that list, so what is left out is no newer.

In which order matches of the same time are found is not said.
-/

namespace DealWatch

namespace Store

/-! ### Stores that were written -/

/-- A store that was made by writing rows, whatever they are. -/
inductive Written : Store → Prop
  | empty : Written .empty
  | write {s : Store} (row : Row) : Written s → Written (s.write row).1

variable {s : Store}

/-- The keys of a table are different. -/
theorem Written.nodup (h : s.Written) (t : Table) : ((s.table t).map Row.key).Nodup := by
  induction h with
  | empty => cases t <;> exact List.nodup_nil
  | @write s row _ ih =>
    by_cases ht : row.key.table = t
    · subst ht
      have hwritten := nodup_map_addNew row ih
      rwa [addNew_table] at hwritten
    · rwa [table_write_of_ne s ht]

theorem Written.nodup_postIds (h : s.Written) : s.postIds.Nodup := by
  refine List.Nodup.of_map (fun id => (⟨.posts, [id]⟩ : Key)) ?_
  simpa [postIds, table, Row.key, Function.comp_def] using h.nodup .posts

theorem Written.nodup_ruleIds (h : s.Written) : s.ruleIds.Nodup := by
  refine List.Nodup.of_map (fun id => (⟨.rules, [id]⟩ : Key)) ?_
  simpa [ruleIds, table, Row.key, Function.comp_def] using h.nodup .rules

theorem Written.nodup_hitKeys (h : s.Written) : s.hitKeys.Nodup := by
  refine List.Nodup.of_map (fun k => (⟨.hits, [k.1, k.2]⟩ : Key)) ?_
  simpa [hitKeys, table, Row.key, Function.comp_def] using h.nodup .hits

/-- What calls leave was written by them. -/
theorem written_after (calls : List (Insertion × Outside)) : (after calls).Written := by
  induction calls using List.reverseRecOn with
  | nil => exact .empty
  | append_singleton calls call ih =>
    obtain ⟨c, o⟩ := call
    obtain ⟨o', hrun⟩ := c.act_run (after calls) o
    rw [after_concat, hrun]
    cases c.row o.now with
    | error e => exact ih
    | ok row => exact ih.write row

/-! ### What is found -/

/-- Whether the rule and the post of a match are stored. -/
def isLinked (s : Store) (m : MatchRecord) : Bool :=
  decide (m.ruleId ∈ s.ruleIds) && decide (m.postId ∈ s.postIds)

/-- A stored match with the one row of its rule and the one row of its post. -/
structure Joins (s : Store) (x : MatchRecord × RuleRecord × Post) : Prop where
  hit : x.1 ∈ s.hits
  rule : ∀ r, r ∈ s.rules ∧ r.id = x.1.ruleId ↔ r = x.2.1
  post : ∀ p, p ∈ s.posts ∧ p.id = x.1.postId ↔ p = x.2.2

/-- The number of items that a limit leaves; a negative one leaves all. -/
def cutTo (limit : Int) (count : Nat) : Nat := if limit < 0 then count else min limit.toNat count

/-- What a query for the latest matches finds. -/
structure Recent (s : Store) (limit : Int) (found : List (MatchRecord × RuleRecord × Post)) :
    Prop where
  distinct : (found.map fun x => (x.1.ruleId, x.1.postId)).Nodup
  joins : ∀ x ∈ found, s.Joins x
  ordered : found.Pairwise fun x y => y.1.created ≤ x.1.created
  /-- What is left out is no newer. -/
  latest : ∀ m ∈ s.hits, s.isLinked m = true → m ∉ found.map (·.1) →
    ∀ x ∈ found, m.created ≤ x.1.created
  length : found.length = cutTo limit (s.hits.countP s.isLinked)

/-! ### Rows by their keys -/

/-- If keys are different, a row is found by its key. -/
theorem find?_key_eq_some_iff {α : Type} {key : α → String} {rows : List α}
    (h : (rows.map key).Nodup) {k : String} {row : α} :
    rows.find? (fun r => key r == k) = some row ↔ row ∈ rows ∧ key row = k := by
  constructor
  · intro hfound
    exact ⟨List.mem_of_find?_eq_some hfound, by simpa using List.find?_some hfound⟩
  · rintro ⟨hrow, hkey⟩
    cases hfound : rows.find? fun r => key r == k with
    | none => exact absurd hkey (by simpa using List.find?_eq_none.1 hfound row hrow)
    | some row' =>
      have hkey' : key row' = k := by simpa using List.find?_some hfound
      rw [List.inj_on_of_nodup_map h (List.mem_of_find?_eq_some hfound) hrow
        (hkey'.trans hkey.symm)]

theorem joined_eq_some_iff {m : MatchRecord} {x : MatchRecord × RuleRecord × Post} :
    s.joined m = some x ↔ x.1 = m ∧ s.rules.find? (fun r => r.id == m.ruleId) = some x.2.1 ∧
      s.posts.find? (fun p => p.id == m.postId) = some x.2.2 := by
  obtain ⟨m', r, p⟩ := x
  simp only [joined, bind, Option.bind_eq_some_iff, pure, Option.some.injEq, Prod.mk.injEq]
  constructor
  · rintro ⟨r', hr, p', hp, rfl, rfl, rfl⟩
    exact ⟨rfl, hr, hp⟩
  · rintro ⟨rfl, hr, hp⟩
    exact ⟨r, hr, p, hp, rfl, rfl, rfl⟩

/-- A match is found with the rows of its rule and its post. -/
theorem Written.joins (h : s.Written) {m : MatchRecord} (hm : m ∈ s.hits)
    {x : MatchRecord × RuleRecord × Post} (hx : s.joined m = some x) : s.Joins x := by
  obtain ⟨rfl, hrule, hpost⟩ := joined_eq_some_iff.1 hx
  refine ⟨hm, fun r => ?_, fun p => ?_⟩
  · rw [← find?_key_eq_some_iff h.nodup_ruleIds, hrule, Option.some_inj, eq_comm]
  · rw [← find?_key_eq_some_iff h.nodup_postIds, hpost, Option.some_inj, eq_comm]

theorem isSome_find?_key {α : Type} (key : α → String) (rows : List α) (k : String) :
    (rows.find? fun r => key r == k).isSome = decide (k ∈ rows.map key) := by
  rw [Bool.eq_iff_iff, List.find?_isSome]
  simp

theorem isSome_joined (s : Store) (m : MatchRecord) : (s.joined m).isSome = s.isLinked m := by
  rw [isLinked, ruleIds, postIds, ← isSome_find?_key, ← isSome_find?_key, joined]
  cases s.rules.find? fun r => r.id == m.ruleId with
  | none => rfl
  | some r => cases s.posts.find? fun p => p.id == m.postId <;> rfl

/-! ### The query -/

theorem latestFirst_perm (hits : List MatchRecord) : (latestFirst hits).Perm hits :=
  (List.mergeSort_perm _ _).trans hits.reverse_perm

theorem latestFirst_pairwise (hits : List MatchRecord) :
    (latestFirst hits).Pairwise fun a b => b.created ≤ a.created := by
  have hsorted : (latestFirst hits).Pairwise fun a b => decide (b.created ≤ a.created) = true :=
    List.pairwise_mergeSort
      (fun a b c => by simpa using fun hab hbc => Int.le_trans hbc hab)
      (fun a b => by simpa using Int.le_total b.created a.created) hits.reverse
  exact hsorted.imp fun h => by simpa using h

/-- All matches whose rule and post are stored, the latest first. -/
def allRecent (s : Store) : List (MatchRecord × RuleRecord × Post) :=
  (latestFirst s.hits).filterMap s.joined

theorem mem_allRecent {x : MatchRecord × RuleRecord × Post} :
    x ∈ s.allRecent ↔ x.1 ∈ s.hits ∧ s.joined x.1 = some x := by
  rw [allRecent, List.mem_filterMap]
  constructor
  · rintro ⟨m, hm, hx⟩
    obtain rfl := (joined_eq_some_iff.1 hx).1
    exact ⟨(latestFirst_perm s.hits).mem_iff.1 hm, hx⟩
  · rintro ⟨hm, hx⟩
    exact ⟨x.1, (latestFirst_perm s.hits).mem_iff.2 hm, hx⟩

theorem allRecent_pairwise (s : Store) :
    s.allRecent.Pairwise fun x y => y.1.created ≤ x.1.created := by
  refine (latestFirst_pairwise s.hits).filterMap _ fun m m' hle x hx y hy => ?_
  obtain rfl := (joined_eq_some_iff.1 hx).1
  obtain rfl := (joined_eq_some_iff.1 hy).1
  exact hle

theorem length_allRecent (s : Store) : s.allRecent.length = s.hits.countP s.isLinked := by
  rw [allRecent, List.length_filterMap_eq_countP]
  simp only [isSome_joined]
  exact (latestFirst_perm s.hits).countP_eq _

/-- No match is found twice. -/
theorem Written.nodup_allRecent (h : s.Written) :
    (s.allRecent.map fun x => (x.1.ruleId, x.1.postId)).Nodup := by
  have hkeys : ((latestFirst s.hits).map fun m => (m.ruleId, m.postId)).Nodup :=
    ((latestFirst_perm s.hits).map _).nodup_iff.2 h.nodup_hitKeys
  rw [List.Nodup, List.pairwise_map] at hkeys ⊢
  refine hkeys.filterMap _ fun m m' hne x hx y hy => ?_
  obtain rfl := (joined_eq_some_iff.1 hx).1
  obtain rfl := (joined_eq_some_iff.1 hy).1
  exact hne

/-- A limit leaves the first items. -/
theorem exists_limited {α : Type} (limit : Int) (xs : List α) :
    ∃ k, limited limit xs = xs.take k ∧ (xs.take k).length = cutTo limit xs.length := by
  unfold limited cutTo
  by_cases hneg : limit < 0
  · exact ⟨xs.length, by simp [hneg], by simp [hneg]⟩
  · exact ⟨limit.toNat, by simp [hneg], by simp [hneg]⟩

/-- **The latest matches** of a store that was written. -/
theorem Written.recentMatches (h : s.Written) {limit : Int} (hlimit : isWord limit = true) :
    ∃ found, s.recentMatches limit = .ok found ∧ s.Recent limit found := by
  obtain ⟨k, hcut, hlength⟩ := exists_limited limit s.allRecent
  refine ⟨s.allRecent.take k, ?_, ?_⟩
  · rw [Store.recentMatches, if_pos hlimit, ← hcut]
    rfl
  · have hsplit : s.allRecent.take k ++ s.allRecent.drop k = s.allRecent := List.take_append_drop ..
    refine { distinct := ?_, joins := ?_, ordered := ?_, latest := ?_, length := ?_ }
    · rw [List.map_take]
      exact h.nodup_allRecent.sublist (List.take_sublist ..)
    · intro x hx
      obtain ⟨hm, hjoined⟩ := mem_allRecent.1 (List.mem_of_mem_take hx)
      exact h.joins hm hjoined
    · exact s.allRecent_pairwise.sublist (List.take_sublist ..)
    · intro m hm hlinked hleft x hx
      obtain ⟨y, hy⟩ := Option.isSome_iff_exists.1 ((s.isSome_joined m).trans hlinked)
      obtain rfl := (joined_eq_some_iff.1 hy).1
      -- a match that is left out stands behind all that are found
      have hdrop : y ∈ s.allRecent.drop k := by
        have hall := mem_allRecent.2 ⟨hm, hy⟩
        rw [← hsplit, List.mem_append] at hall
        exact hall.resolve_left fun htake => hleft (List.mem_map_of_mem htake)
      have hordered := s.allRecent_pairwise
      rw [← hsplit, List.pairwise_append] at hordered
      exact hordered.2.2 x hx y hdrop
    · rw [hlength, length_allRecent]

end Store

end DealWatch
