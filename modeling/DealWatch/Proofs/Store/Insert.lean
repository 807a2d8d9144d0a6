import DealWatch.Store.Basic

/-!
# What insertions do to the tables

A row is added to its table exactly if no row there has its key, and nothing else is touched.

* `Store.insertListing_known`, `Store.insertListing_new` and their like for the other tables are the
  cases of each insertion;
* `Store.postIds`, `Store.titleIds`, `Store.ruleIds` and `Store.hitKeys` are the keys.

A listing and a title may not fit into a row, and then nothing is added. Rules and matches are taken
with their fingerprint here; whether a rule has one is another matter.
-/

namespace DealWatch

namespace Store

section AddNew

variable {α κ : Type} [DecidableEq κ] {key : α → κ} {row : α} {rows : List α}

theorem addNew_known (h : key row ∈ rows.map key) : addNew key row rows = (rows, false) := by
  obtain ⟨r, hr, hkey⟩ := List.mem_map.1 h
  rw [addNew, if_pos (List.any_eq_true.2 ⟨r, hr, by simpa using hkey⟩)]

theorem addNew_new (h : key row ∉ rows.map key) :
    addNew key row rows = (rows ++ [row], true) := by
  rw [addNew, if_neg]
  intro hany
  obtain ⟨r, hr, hkey⟩ := List.any_eq_true.1 hany
  exact h (List.mem_map.2 ⟨r, hr, by simpa using hkey⟩)

end AddNew

/-! ### The keys of the tables -/

/-- The keys of the posts. -/
def postIds (s : Store) : List String := s.posts.map (·.id)

/-- The keys of the titles. -/
def titleIds (s : Store) : List String := s.titles.map (·.postId)

/-- The keys of the rules. -/
def ruleIds (s : Store) : List String := s.rules.map (·.id)

/-- The keys of the matches: the rule and the post of each. -/
def hitKeys (s : Store) : List (String × String) := s.hits.map fun m => (m.ruleId, m.postId)

/-! ### Rows that can be written -/

/-- The row of a listing has the key of the listing. -/
theorem postOf_id {l : Listing} {p : Post} (h : postOf l = .ok p) : p.id = l.id := by
  simp only [postOf, bind, Except.bind] at h
  repeat' split at h
  all_goals cases h
  rfl

theorem titleRow_eq {t row : ParsedTitle} (h : titleRow t = .ok row) : row = t := by
  unfold titleRow at h
  split at h
  · exact (Except.ok.inj h).symm
  · cases h

/-! ### Insertions -/

variable {s : Store}

theorem insertListing_error {l : Listing} {e : Failure} (h : postOf l = .error e) :
    s.insertListing l = .error e := by
  rw [insertListing, h]
  rfl

theorem insertListing_known {l : Listing} {p : Post} (h : postOf l = .ok p)
    (hid : l.id ∈ s.postIds) : s.insertListing l = .ok (s, false) := by
  have hp : p.id ∈ s.posts.map (·.id) := by rwa [postOf_id h]
  rw [insertListing, h]
  change Except.ok (s.insertPost p) = _
  rw [insertPost, addNew_known hp]

theorem insertListing_new {l : Listing} {p : Post} (h : postOf l = .ok p)
    (hid : l.id ∉ s.postIds) :
    s.insertListing l = .ok ({ s with posts := s.posts ++ [p] }, true) := by
  have hp : p.id ∉ s.posts.map (·.id) := by rwa [postOf_id h]
  rw [insertListing, h]
  change Except.ok (s.insertPost p) = _
  rw [insertPost, addNew_new hp]

theorem insertTitle_error {t : ParsedTitle} {e : Failure} (h : titleRow t = .error e) :
    s.insertTitle t = .error e := by
  rw [insertTitle, h]
  rfl

theorem insertTitle_known {t row : ParsedTitle} (h : titleRow t = .ok row)
    (hid : t.postId ∈ s.titleIds) : s.insertTitle t = .ok (s, false) := by
  obtain rfl := titleRow_eq h
  rw [insertTitle, h]
  simp only [bind, Except.bind]
  rw [addNew_known hid]
  rfl

theorem insertTitle_new {t row : ParsedTitle} (h : titleRow t = .ok row)
    (hid : t.postId ∉ s.titleIds) :
    s.insertTitle t = .ok ({ s with titles := s.titles ++ [t] }, true) := by
  obtain rfl := titleRow_eq h
  rw [insertTitle, h]
  simp only [bind, Except.bind]
  rw [addNew_new hid]
  rfl

theorem insertRule_known {r : Rule} (h : r.fingerprint ∈ s.ruleIds) :
    s.insertRule r = (s, false) := by
  rw [insertRule, addNew_known]
  exact h

theorem insertRule_new {r : Rule} (h : r.fingerprint ∉ s.ruleIds) :
    s.insertRule r = ({ s with rules := s.rules ++ [r.toRecord] }, true) := by
  rw [insertRule, addNew_new]
  exact h

theorem insertMatch_known {r : Rule} {postId : String} (h : (r.fingerprint, postId) ∈ s.hitKeys)
    (now : Int) : s.insertMatch r postId now = (s, false) := by
  rw [insertMatch, addNew_known]
  exact h

theorem insertMatch_new {r : Rule} {postId : String} (h : (r.fingerprint, postId) ∉ s.hitKeys)
    (now : Int) :
    s.insertMatch r postId now =
      ({ s with hits := s.hits ++ [⟨r.fingerprint, postId, now⟩] }, true) := by
  rw [insertMatch, addNew_new]
  exact h

end Store

end DealWatch
