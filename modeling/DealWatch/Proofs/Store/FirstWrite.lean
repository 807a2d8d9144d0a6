import DealWatch.Proofs.Pipeline.Match
import Mathlib.Data.List.Dedup
import Mathlib.Data.List.Induction

/-!
# The first row of a key stays

The store is written by calls (`Store.Insertion`). A call gives one row, or it fails. Whatever the
calls are and however many of them fail, each table holds for every key the row that was given first;
`Store.first_write_wins` says so, and what each call returns.

The proof takes the four tables as one: a row knows its table, and `Insertion.act_run` says that a
call writes its row or fails and writes nothing. Then what many calls leave of a table is what
`addAll` leaves of the rows that were given for it (`Store.table_after`), by induction on the calls
from the last one on, and the rest is about lists.
-/

namespace DealWatch

namespace Store

/-! ### Rows of all tables -/

/-- A table of the store. -/
inductive Table where
  | posts
  | titles
  | rules
  | hits
  deriving DecidableEq

/-- A row of one of the tables. -/
inductive Row where
  | post (p : Post)
  | title (t : ParsedTitle)
  | rule (r : RuleRecord)
  | hit (m : MatchRecord)

/-- What tells a row from all others: its table, and the texts that are its key there. -/
structure Key where
  table : Table
  texts : List String
  deriving DecidableEq

/-- The key of a row. -/
def Row.key : Row → Key
  | .post p => ⟨.posts, [p.id]⟩
  | .title t => ⟨.titles, [t.postId]⟩
  | .rule r => ⟨.rules, [r.id]⟩
  | .hit m => ⟨.hits, [m.ruleId, m.postId]⟩

/-- The rows of a table, the oldest first. -/
def table (s : Store) : Table → List Row
  | .posts => s.posts.map .post
  | .titles => s.titles.map .title
  | .rules => s.rules.map .rule
  | .hits => s.hits.map .hit

/-- Writes a row, unless one with its key is there, and says whether it was written. -/
def write (s : Store) : Row → Store × Bool
  | .post p => s.insertPost p
  | .title t =>
    let (titles, fresh) := addNew (·.postId) t s.titles
    ({ s with titles }, fresh)
  | .rule r =>
    let (rules, fresh) := addNew (·.id) r s.rules
    ({ s with rules }, fresh)
  | .hit m =>
    let (hits, fresh) := addNew (fun m => (m.ruleId, m.postId)) m s.hits
    ({ s with hits }, fresh)

/-! ### Calls -/

/-- A call that writes a row. -/
inductive Insertion where
  | listing (l : Listing)
  | title (t : ParsedTitle)
  | rule (r : Rule)
  | hit (r : Rule) (postId : String)

namespace Insertion

/-- Makes a call. -/
def act : Insertion → Act Store Bool
  | .listing l => insertRow (·.insertListing l)
  | .title t => insertRow (·.insertTitle t)
  | .rule r => storeRule r
  | .hit r postId => storeMatch r postId

/-- The table that a call writes to. -/
def table : Insertion → Table
  | .listing _ => .posts
  | .title _ => .titles
  | .rule _ => .rules
  | .hit .. => .hits

/-- The row that a call gives at a microsecond, or the failure in its place. -/
def row (now : Int) : Insertion → Outcome Row
  | .listing l => do return .post (← postOf l)
  | .title t => do return .title (← titleRow t)
  | .rule r => do return .rule { r.toRecord with id := ← r.tryFingerprint }
  | .hit r postId => do return .hit ⟨← r.tryFingerprint, postId, now⟩

theorem table_row {c : Insertion} {now : Int} {row : Row} (h : c.row now = .ok row) :
    row.key.table = c.table := by
  cases c <;>
  · obtain ⟨_, -, hrow⟩ := Outcome.bind_eq_ok.1 h
    cases hrow
    rfl

/-- **One call.**  It writes its row, or fails and writes nothing. -/
theorem act_run (c : Insertion) (s : Store) (o : Outside) :
    ∃ o', c.act.runWith s o =
      match c.row o.now with
      | .ok row => (.ok (s.write row).2, (s.write row).1, o')
      | .error e => (.error e, s, o') := by
  cases c with
  | listing l =>
    refine ⟨o, (insertRow_run _ s o).trans ?_⟩
    simp only [insertListing, row]
    cases postOf l <;> rfl
  | title t =>
    refine ⟨o, (insertRow_run _ s o).trans ?_⟩
    simp only [insertTitle, row]
    cases titleRow t <;> rfl
  | rule r =>
    simp only [act, row, Rule.tryFingerprint_eq]
    cases hflaw : r.flaw? with
    | some f => exact ⟨o, storeRule_run_of_flaw hflaw s o⟩
    | none => exact storeRule_run hflaw s o
  | hit r postId =>
    simp only [act, row, Rule.tryFingerprint_eq]
    cases hflaw : r.flaw? with
    | some f => exact ⟨o, storeMatch_run_of_flaw hflaw postId s o⟩
    | none => exact ⟨o, storeMatch_run hflaw postId s o⟩

end Insertion

/-! ### Writing one row -/

section AddNew

variable {α β κ κ' : Type} [DecidableEq κ] [DecidableEq κ'] {key : α → κ}

theorem addNew_snd_iff {row : α} {rows : List α} :
    (addNew key row rows).2 = true ↔ key row ∉ rows.map key := by
  by_cases h : key row ∈ rows.map key
  · simp [addNew_known h, h]
  · simp [addNew_new h, h]

theorem addNew_fst_eq_self {row : α} {rows : List α} (h : (addNew key row rows).2 = false) :
    (addNew key row rows).1 = rows := by
  by_cases hrow : key row ∈ rows.map key
  · rw [addNew_known hrow]
  · rw [addNew_new hrow] at h
    cases h

theorem nodup_map_addNew (row : α) {rows : List α} (h : (rows.map key).Nodup) :
    ((addNew key row rows).1.map key).Nodup := by
  by_cases hrow : key row ∈ rows.map key
  · rwa [addNew_known hrow]
  · rw [addNew_new hrow, List.map_append, List.map_singleton, ← List.concat_eq_append]
    exact h.concat hrow

/-- Rows may be taken for rows of another type if their keys are kept apart. -/
theorem addNew_map {f : α → β} {key' : β → κ'} (h : ∀ a b, key' (f a) = key' (f b) ↔ key a = key b)
    (row : α) (rows : List α) :
    addNew key' (f row) (rows.map f) =
      ((addNew key row rows).1.map f, (addNew key row rows).2) := by
  have hmem : key' (f row) ∈ (rows.map f).map key' ↔ key row ∈ rows.map key := by simp [h]
  by_cases hrow : key row ∈ rows.map key
  · rw [addNew_known hrow, addNew_known (hmem.2 hrow)]
  · rw [addNew_new hrow, addNew_new (mt hmem.1 hrow), List.map_append, List.map_singleton]

end AddNew

/-- A row is written to its table as it is added to the rows there. -/
theorem addNew_table (s : Store) (row : Row) :
    addNew Row.key row (s.table row.key.table) =
      ((s.write row).1.table row.key.table, (s.write row).2) := by
  cases row with
  | post p => exact addNew_map (by simp [Row.key]) p s.posts
  | title t => exact addNew_map (by simp [Row.key]) t s.titles
  | rule r => exact addNew_map (by simp [Row.key]) r s.rules
  | hit m => exact addNew_map (by simp [Row.key]) m s.hits

/-- A row leaves the other tables alone. -/
theorem table_write_of_ne (s : Store) {row : Row} {t : Table} (h : row.key.table ≠ t) :
    (s.write row).1.table t = s.table t := by
  cases row <;> cases t <;> first | rfl | exact absurd rfl h

theorem write_fst_eq_self {s : Store} {row : Row} (h : (s.write row).2 = false) :
    (s.write row).1 = s := by
  cases row with
  | post p => exact congrArg (fun posts => { s with posts }) (addNew_fst_eq_self h)
  | title t => exact congrArg (fun titles => { s with titles }) (addNew_fst_eq_self h)
  | rule r => exact congrArg (fun rules => { s with rules }) (addNew_fst_eq_self h)
  | hit m => exact congrArg (fun hits => { s with hits }) (addNew_fst_eq_self h)

/-! ### Adding many rows -/

section AddAll

variable {α κ : Type} [DecidableEq κ] {key : α → κ}

/-- The rows of which none before has the same key. -/
def addAll (key : α → κ) (rows : List α) : List α :=
  rows.foldl (fun kept row => (addNew key row kept).1) []

theorem addAll_concat (rows : List α) (row : α) :
    addAll key (rows ++ [row]) = (addNew key row (addAll key rows)).1 := by
  rw [addAll, List.foldl_concat]
  rfl

theorem mem_map_addAll {rows : List α} {k : κ} :
    k ∈ (addAll key rows).map key ↔ k ∈ rows.map key := by
  induction rows using List.reverseRecOn with
  | nil => rfl
  | append_singleton rows row ih =>
    rw [addAll_concat, List.map_append, List.mem_append, ← ih]
    by_cases hrow : key row ∈ (addAll key rows).map key
    · rw [addNew_known hrow]
      refine (or_iff_left_of_imp fun hk => ?_).symm
      rwa [List.mem_singleton.1 hk]
    · rw [addNew_new hrow, List.map_append, List.mem_append]

theorem nodup_map_addAll (rows : List α) : ((addAll key rows).map key).Nodup := by
  induction rows using List.reverseRecOn with
  | nil => exact List.nodup_nil
  | append_singleton rows row ih =>
    rw [addAll_concat]
    exact nodup_map_addNew row ih

/-- Under each key stands the first row with it. -/
theorem filter_addAll (rows : List α) (k : κ) :
    (addAll key rows).filter (key · = k) = (rows.find? (key · = k)).toList := by
  induction rows using List.reverseRecOn with
  | nil => rfl
  | append_singleton rows row ih =>
    rw [addAll_concat, List.find?_append]
    by_cases hrow : key row ∈ (addAll key rows).map key
    · rw [addNew_known hrow, ih]
      cases hfound : rows.find? (key · = k) with
      | some first => rfl
      | none =>
        -- the row has another key, because none before has this one
        have hne : key row ≠ k := by
          rintro rfl
          obtain ⟨r, hr, hkey⟩ := List.mem_map.1 (mem_map_addAll.1 hrow)
          exact List.find?_eq_none.1 hfound r hr (by simpa using hkey)
        simp [hne]
    · rw [addNew_new hrow, List.filter_append, ih]
      cases hfound : rows.find? (key · = k) with
      | none => by_cases hk : key row = k <;> simp [hk]
      | some first =>
        have hne : key row ≠ k := by
          rintro rfl
          refine hrow (mem_map_addAll.2 (List.mem_map.2 ⟨first, List.mem_of_find?_eq_some hfound, ?_⟩))
          simpa using List.find?_some hfound
        simp [hne]

/-- There are as many rows as there are keys. -/
theorem length_addAll (rows : List α) : (addAll key rows).length = (rows.map key).dedup.length := by
  rw [← List.length_map (f := key)]
  refine List.Perm.length_eq ?_
  rw [List.perm_ext_iff_of_nodup (nodup_map_addAll rows) (List.nodup_dedup _)]
  intro k
  rw [mem_map_addAll, List.mem_dedup]

end AddAll

/-! ### Many calls -/

variable {calls : List (Insertion × Outside)}

/-- What calls leave of an empty store. Each of them has its own clock and journal. -/
def after (calls : List (Insertion × Outside)) : Store :=
  calls.foldl (fun s c => (c.1.act.runWith s c.2).2.1) empty

/-- The rows that calls give. Calls that fail give none. -/
def given (calls : List (Insertion × Outside)) : List Row :=
  calls.filterMap fun c => (c.1.row c.2.now).toOption

/-- The rows that calls give for a table. -/
def givenTo (t : Table) (calls : List (Insertion × Outside)) : List Row :=
  (given calls).filter (·.key.table = t)

theorem after_concat (calls : List (Insertion × Outside)) (c : Insertion) (o : Outside) :
    after (calls ++ [(c, o)]) = (c.act.runWith (after calls) o).2.1 := by
  rw [after, List.foldl_concat]
  rfl

theorem given_concat (calls : List (Insertion × Outside)) (c : Insertion) (o : Outside) :
    given (calls ++ [(c, o)]) = given calls ++ (c.row o.now).toOption.toList := by
  rw [given, List.filterMap_append, given]
  cases h : (c.row o.now).toOption <;> simp [h]

/-- **What calls leave** in each table. -/
theorem table_after (calls : List (Insertion × Outside)) (t : Table) :
    (after calls).table t = addAll Row.key (givenTo t calls) := by
  induction calls using List.reverseRecOn with
  | nil => cases t <;> rfl
  | append_singleton calls call ih =>
    obtain ⟨c, o⟩ := call
    obtain ⟨o', hrun⟩ := c.act_run (after calls) o
    rw [after_concat, hrun, givenTo, given_concat, List.filter_append, ← givenTo]
    cases c.row o.now with
    | error e => simpa [Except.toOption] using ih
    | ok row =>
      simp only [Except.toOption, Option.toList_some]
      by_cases ht : row.key.table = t
      · subst ht
        have hrow : [row].filter (fun r => r.key.table = row.key.table) = [row] := by simp
        rw [hrow, addAll_concat, ← ih, addNew_table]
      · have hrow : [row].filter (fun r => r.key.table = t) = [] := by simp [ht]
        rw [hrow, List.append_nil, table_write_of_ne _ ht, ih]

theorem mem_givenTo {t : Table} {row : Row} :
    row ∈ givenTo t calls ↔ row ∈ given calls ∧ row.key.table = t := by
  simp [givenTo]

/-- A row is written exactly if no call before gave one with its key. -/
theorem write_after_iff {row : Row} :
    ((after calls).write row).2 = true ↔ ∀ r ∈ given calls, r.key ≠ row.key := by
  have hwritten := congrArg Prod.snd (addNew_table (after calls) row)
  rw [← hwritten, addNew_snd_iff, table_after, mem_map_addAll, List.mem_map]
  constructor
  · intro hnew r hr hkey
    exact hnew ⟨r, mem_givenTo.2 ⟨hr, congrArg Key.table hkey⟩, hkey⟩
  · rintro hnew ⟨r, hr, hkey⟩
    exact hnew r (mem_givenTo.1 hr).1 hkey

/-- The first row with a key is the first that was given for its table. -/
theorem find?_givenTo (key : Key) :
    (givenTo key.table calls).find? (·.key = key) = (given calls).find? (·.key = key) := by
  rw [givenTo, List.find?_filter]
  refine congrArg (List.find? · (given calls)) (funext fun r => ?_)
  by_cases h : r.key = key <;> simp [h]

/-- The keys that calls give for a table, each of them once. -/
def keysGiven (t : Table) (calls : List (Insertion × Outside)) : List Key :=
  ((givenTo t calls).map Row.key).dedup

theorem counts_eq (s : Store) :
    s.counts = ⟨(s.table .posts).length, (s.table .titles).length, (s.table .rules).length,
      (s.table .hits).length⟩ := by
  simp [counts, table]

/-- **The first row of a key stays.**  After any calls, there is one row for each key that was
given, namely the first, and so there are as many rows as there are keys. The next call returns
true exactly if it gives a row whose key was not given before, and fails exactly if it gives none.
If it does not return true, nothing changes, and if it does, only its own table. -/
theorem first_write_wins (calls : List (Insertion × Outside)) :
    (∀ key, ((after calls).table key.table).filter (·.key = key) =
      ((given calls).find? (·.key = key)).toList) ∧
    (after calls).counts = ⟨(keysGiven .posts calls).length, (keysGiven .titles calls).length,
      (keysGiven .rules calls).length, (keysGiven .hits calls).length⟩ ∧
    ∀ (c : Insertion) (o : Outside),
      let run := c.act.runWith (after calls) o
      (run.1 = .ok true ↔
        ∃ row, c.row o.now = .ok row ∧ ∀ r ∈ given calls, r.key ≠ row.key) ∧
      (∀ e, run.1 = .error e ↔ c.row o.now = .error e) ∧
      (run.1 ≠ .ok true → run.2.1 = after calls) ∧
      ∀ t, t ≠ c.table → run.2.1.table t = (after calls).table t := by
  refine ⟨fun key => ?_, ?_, fun c o => ?_⟩
  · rw [table_after, filter_addAll, find?_givenTo]
  · simp only [counts_eq, table_after, length_addAll, keysGiven]
  · obtain ⟨o', hrun⟩ := c.act_run (after calls) o
    rw [hrun]
    cases hrow : c.row o.now with
    | error e => simp
    | ok row =>
      have htable := Insertion.table_row hrow
      refine ⟨?_, by simp, fun hfalse => ?_, fun t ht => ?_⟩
      · simp [write_after_iff]
      · have hknown : ((after calls).write row).2 = false := by simpa using hfalse
        exact write_fst_eq_self hknown
      · exact table_write_of_ne _ (htable.trans_ne ht.symm)

end Store

end DealWatch
