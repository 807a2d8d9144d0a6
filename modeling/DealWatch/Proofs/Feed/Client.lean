import DealWatch.Feed.Client
import DealWatch.Proofs.Outside.Act

/-!
# What the steps of the client do

A step of the client can fail at many places. What matters of it is which token the client has
then, and whether that token is in the file. The two can differ: the client takes a new token
before it writes it, and a token with halves of surrogate pairs is taken although it cannot be
written at all.

* `saved` are the files with a token in its file, and `prepared` those with the directory for it;
* `Issued` and `Reported` say what a new token looks like, and one with a report about the quota;
* `Saves` says that the files are as before or hold the token that the client has;
* `authenticate_saves` and `hear_saves` say what each call leaves, `waitTime_run` what to wait for.

A call is followed from its first part to its last. Every part before the token is set can only
fail and change nothing (`Saves.outcome`, `Saves.send`); the last part writes the file
(`Saves.save`). So `Saves` speaks of the state before the call throughout, and no part has to know
which one fails. What is made of the reply after that, as reading the listings in it, does not
touch the token (`Saves.before`).

What a text in the file means is not said here: that it can be read back is the matter of
`Proofs/Feed/Token.lean`.
-/

namespace DealWatch

namespace Feed

@[simp] theorem currentTime_run (c : Client) (o : Outside) :
    currentTime.runWith c o = (.ok (.utc o.now), c, o) := rfl

/-! ### The token file -/

/-- The files with a token written to its file. -/
def saved (s : FeedSettings) (a : Auth) (fs : Files) : Outcome Files := do
  (← fs.makeFolder s.tokenFile.parent).writeText s.tokenFile (← tokenText a)

/-- The files with the directory for the token file, if it can be made. -/
def prepared (s : FeedSettings) (fs : Files) : Files :=
  (fs.makeFolder s.tokenFile.parent).toOption.getD fs

/-- Saving a token fails and leaves no more than the directory for it, or writes it. -/
theorem saveToken_run (a : Auth) (c : Client) (o : Outside) :
    ∃ journal, (saveToken a).runWith c o =
      match saved c.settings a o.files with
      | .ok fs => (.ok (), c, { o with files := fs, journal })
      | .error e => (.error e, c, { o with files := prepared c.settings o.files }) := by
  simp only [saveToken, Act.runWith_bind, Act.runWith_state, Act.runWith_files,
    Act.runWith_ofOutcome]
  cases hfolder : o.files.makeFolder c.settings.tokenFile.parent with
  | error e =>
    have hsaved : saved c.settings a o.files = .error e := by rw [saved, hfolder]; rfl
    have hkept : prepared c.settings o.files = o.files := by rw [prepared, hfolder]; rfl
    rw [hsaved, hkept]
    exact ⟨o.journal, rfl⟩
  | ok folder =>
    have hsaved : saved c.settings a o.files =
        (do folder.writeText c.settings.tokenFile (← tokenText a)) := by rw [saved, hfolder]; rfl
    have hkept : prepared c.settings o.files = folder := by rw [prepared, hfolder]; rfl
    rw [hsaved, hkept]
    simp only [Act.runWith_putFiles]
    cases (do folder.writeText c.settings.tokenFile (← tokenText a) : Outcome Files) with
    | error e => exact ⟨o.journal, rfl⟩
    | ok fs => exact ⟨_, rfl⟩

/-! ### Tokens -/

/-- A point in universal time that can be shown. -/
def Shown (t : Timestamp) : Prop := ∃ micros, t = .utc micros ∧ Timestamp.inRange micros = true

theorem shown_of_later {now micros : Int} {t : Timestamp} (h : later (.utc now) micros = .ok t) :
    Shown t := by
  unfold later at h
  split at h
  · cases h
  · unfold Timestamp.shift? at h
    split at h
    · rename_i hshift
      split at hshift
      · rename_i hrange
        cases hshift
        cases h
        exact ⟨_, rfl, hrange⟩
      · cases hshift
    · cases h

/-- A new token: nothing was asked for yet. -/
structure Issued (a : Auth) : Prop where
  used : a.used = 0
  remaining : a.remaining = Auth.assumedRemaining
  expiresAt : Shown a.expiresAt
  resetAt : Shown a.resetAt

theorem issued_of_tokenOf {body : Datum} {now : Int} {a : Auth}
    (h : tokenOf body (.utc now) = .ok a) : Issued a := by
  obtain ⟨token, -, h⟩ := Outcome.bind_eq_ok.1 h
  obtain ⟨lifetime, -, h⟩ := Outcome.bind_eq_ok.1 h
  obtain ⟨duration, -, h⟩ := Outcome.bind_eq_ok.1 h
  obtain ⟨expiresAt, hexpires, h⟩ := Outcome.bind_eq_ok.1 h
  obtain ⟨resetAt, hreset, h⟩ := Outcome.bind_eq_ok.1 h
  split at h
  · cases h
    exact ⟨rfl, rfl, shown_of_later hexpires, shown_of_later hreset⟩
  · cases h

/-! ### Calls -/

/-- A client whose token was not saved: it has its old one, or a new one with some property. -/
def Unsaved (P : Auth → Prop) (c c' : Client) : Prop :=
  c' = c ∨ ∃ a, P a ∧ c' = { c with auth := some a }

/-- What a call leaves, if every new token has some property: a token that was not saved and the
files as they were, a token that could not be saved and no more than the directory for it, or a
new token that was saved. A call that does not fail has saved one. -/
inductive Saves {α : Type} (P : Auth → Prop) (c : Client) (fs : Files) :
    Outcome α × Client × Outside → Prop
  | failed {e : Failure} {c' : Client} {o : Outside} : Unsaved P c c' → o.files = fs →
      Saves P c fs (.error e, c', o)
  | unsaved {e : Failure} {a : Auth} {o : Outside} : P a → Feed.saved c.settings a fs = .error e →
      o.files = prepared c.settings fs → Saves P c fs (.error e, { c with auth := some a }, o)
  | saved {result : Outcome α} {a : Auth} {o : Outside} : P a →
      Feed.saved c.settings a fs = .ok o.files → Saves P c fs (result, { c with auth := some a }, o)

section Steps

variable {α β : Type} {P : Auth → Prop} {c c' : Client} {fs : Files} {o o' : Outside}

theorem Saves.step {act : ClientAct α} {next : α → ClientAct β} {a : α} {c'' : Client}
    (hrun : act.runWith c' o = (.ok a, c'', o'))
    (hnext : Saves P c fs ((next a).runWith c'' o')) :
    Saves P c fs ((act >>= next).runWith c' o) := by
  rwa [Act.runWith_bind_ok hrun]

theorem Saves.outcome {x : Outcome α} {next : α → ClientAct β} (hc : Unsaved P c c')
    (hfiles : o.files = fs) (hnext : ∀ a, x = .ok a → Saves P c fs ((next a).runWith c' o)) :
    Saves P c fs ((Act.ofOutcome x >>= next).runWith c' o) := by
  rw [Act.runWith_bind, Act.runWith_ofOutcome]
  cases x with
  | error e => exact .failed hc hfiles
  | ok a => exact hnext a rfl

theorem Saves.send {r : Request} {next : Reply → ClientAct β} (hc : Unsaved P c c')
    (hfiles : o.files = fs) (hnext : ∀ reply o', o'.files = fs → o'.now = o.now →
      Saves P c fs ((next reply).runWith c' o')) :
    Saves P c fs ((Act.send r >>= next).runWith c' o) := by
  rw [Act.runWith_bind, Act.runWith_send]
  cases o.nextReply with
  | error e => exact .failed hc hfiles
  | ok reply => exact hnext reply _ hfiles rfl

theorem Saves.save {a : Auth} (ha : P a) (hfiles : o.files = fs) :
    Saves P c fs ((saveToken a).runWith { c with auth := some a } o) := by
  obtain ⟨journal, hrun⟩ := saveToken_run a { c with auth := some a } o
  rw [hrun]
  subst hfiles
  cases hsaved : Feed.saved c.settings a o.files with
  | error e => exact .unsaved ha hsaved rfl
  | ok fs => exact .saved ha hsaved

end Steps

/-- **Asking for a token** saves a new one, if nothing fails. -/
theorem authenticate_saves (c : Client) (o : Outside) :
    Saves Issued c o.files (authenticate.runWith c o) := by
  have hc : Unsaved Issued c c := .inl rfl
  refine .step (Act.runWith_state c o) ?_
  refine .outcome hc rfl fun url _ => ?_
  refine .step (currentTime_run c o) ?_
  refine .send hc rfl fun reply o' hfiles _ => ?_
  refine .outcome hc hfiles fun _ _ => ?_
  refine .outcome hc hfiles fun body _ => ?_
  refine .outcome hc hfiles fun a ha => ?_
  refine .step (Act.runWith_put c { c with auth := some a } o') ?_
  refine .step (Act.runWith_log _ _ _ _ o') ?_
  exact .save (issued_of_tokenOf ha) hfiles

/-- A good reply brings a token, which is then to be saved. -/
theorem authenticate_run {c : Client} {o : Outside} {url : String} {reply : Reply}
    {rest : List (Outcome Reply)} {body : Datum} {a : Auth}
    (hurl : resolve c.settings.authHost "access_token" = .ok url)
    (hreplies : o.replies = .ok reply :: rest) (hgood : reply.requireSuccess url = .ok ())
    (hbody : reply.document = .ok body) (ha : tokenOf body (.utc o.now) = .ok a) :
    ∃ o', authenticate.runWith c o = (saveToken a).runWith { c with auth := some a } o' ∧
      o'.files = o.files := by
  rw [authenticate, Act.runWith_bind_ok (Act.runWith_state c o)]
  simp only [Act.runWith_bind, Act.runWith_ofOutcome, hurl, currentTime_run, Act.runWith_send,
    Outside.nextReply, hreplies, List.headD_cons, tokenRequest, hgood, hbody, ha, Act.runWith_put,
    Act.runWith_log]
  exact ⟨_, rfl, rfl⟩

/-! ### Fetching in two parts -/

theorem needsToken_run (c : Client) (o : Outside) :
    needsToken.runWith c o = (authExpired c.auth (.utc o.now), c, o) := by
  rw [needsToken, Act.runWith_bind_ok (Act.runWith_state c o),
    Act.runWith_bind_ok (currentTime_run c o), Act.runWith_ofOutcome]

/-- The first part of fetching: the request and its reply. -/
def ask (subreddit : String) (pageSize : Int) : ClientAct (Request × Reply) := do
  let c ← Act.state
  let url ← Act.ofOutcome (resolve c.settings.apiHost ("r/" ++ subreddit ++ "/new"))
  let request := listingRequest c.settings url (← validToken) pageSize
  let reply ← Act.send request
  return (request, reply)

/-- The second part: what is made of the reply. -/
def hear (subreddit : String) (request : Request) (reply : Reply) : ClientAct (List Listing) := do
  Act.ofOutcome (reply.requireSuccess request.url)
  keepQuota reply
  let listings ← Act.ofOutcome (do listingsOf (← reply.document))
  Act.log .debug "Fetched listings" [("subreddit", .text subreddit),
    ("count", .nat listings.length)]
  return listings

/-- Between its two parts, fetching does not look at what is outside. -/
theorem fetch_eq (subreddit : String) (pageSize : Int) :
    fetch subreddit pageSize =
      (do let (request, reply) ← ask subreddit pageSize; hear subreddit request reply) := by
  simp only [fetch, ask, hear, bind_assoc, pure_bind]

theorem isBefore_eq_ok {s t : Timestamp} {b : Bool} :
    isBefore s t = .ok b ↔ s.isBefore? t = some b := by
  unfold isBefore
  cases s.isBefore? t <;> simp

/-- A request is sent only with a token that can be encoded and is not past its end. -/
theorem validToken_run (c : Client) (o : Outside) :
    ∃ x, validToken.runWith c o = (x, c, o) ∧
      ∀ token, x = .ok token → ∃ a, c.auth = some a ∧ token = a.accessToken ∧ a.fault = none ∧
        a.expiresAt.isBefore? (.utc o.now) = some false := by
  rw [validToken, Act.runWith_bind_ok (Act.runWith_state c o)]
  cases hauth : c.auth with
  | none => exact ⟨.error .needsAuthorization, Act.runWith_fail _ c o, nofun⟩
  | some a =>
    simp only
    rw [Act.runWith_bind, needsToken_run, hauth, authExpired]
    cases hexpired : isBefore a.expiresAt (.utc o.now) with
    | error e => exact ⟨.error e, rfl, nofun⟩
    | ok expired =>
      cases expired with
      | true =>
        refine ⟨.error .needsAuthorization, ?_, nofun⟩
        simp only [if_true, Act.runWith_fail]
      | false =>
        simp only [Bool.false_eq_true, if_false]
        cases hfault : a.fault with
        | some fault => exact ⟨.error (.unencodable fault), Act.runWith_fail _ c o, nofun⟩
        | none =>
          refine ⟨.ok a.accessToken, Act.runWith_pure _ c o, fun token h => ?_⟩
          exact ⟨a, rfl, (Except.ok.inj h).symm, hfault, isBefore_eq_ok.1 hexpired⟩

/-- Asking changes neither the client nor the files. It fails without a request, or it sends one
with the token of the client, which can be encoded and is not past its end. -/
theorem ask_run (subreddit : String) (pageSize : Int) (c : Client) (o : Outside) :
    ∃ x o', (ask subreddit pageSize).runWith c o = (x, c, o') ∧ o'.files = o.files ∧
      o'.now = o.now ∧
      ((∃ e, x = .error e) ∧ o'.requests = o.requests ∨
        ∃ a url, c.auth = some a ∧ a.fault = none ∧
          a.expiresAt.isBefore? (.utc o.now) = some false ∧
          o'.requests = o.requests ++ [listingRequest c.settings url a.accessToken pageSize]) := by
  rw [ask, Act.runWith_bind_ok (Act.runWith_state c o)]
  cases resolve c.settings.apiHost ("r/" ++ subreddit ++ "/new") with
  | error e =>
    have hrun := Act.runWith_ofOutcome (.error e : Outcome String) c o
    exact ⟨.error e, o, Act.runWith_bind_error hrun _, rfl, rfl, .inl ⟨⟨e, rfl⟩, rfl⟩⟩
  | ok url =>
    rw [Act.runWith_bind_ok (Act.runWith_ofOutcome (.ok url) c o)]
    obtain ⟨x, hvalid, htoken⟩ := validToken_run c o
    cases x with
    | error e =>
      exact ⟨.error e, o, Act.runWith_bind_error hvalid _, rfl, rfl, .inl ⟨⟨e, rfl⟩, rfl⟩⟩
    | ok token =>
      obtain ⟨a, hauth, rfl, hfault, hvalidUntil⟩ := htoken token rfl
      rw [Act.runWith_bind_ok hvalid, Act.runWith_bind, Act.runWith_send]
      -- the request is sent, whether or not a reply comes
      cases o.nextReply with
      | error e => exact ⟨.error e, _, rfl, rfl, rfl, .inr ⟨a, url, hauth, hfault, hvalidUntil, rfl⟩⟩
      | ok reply => exact ⟨.ok _, _, rfl, rfl, rfl, .inr ⟨a, url, hauth, hfault, hvalidUntil, rfl⟩⟩

/-! ### Reports about the quota -/

/-- A number that a reply can report. -/
def Counted (n : Int) : Prop := ∃ reply name, headerCount reply name = .ok n

/-- A token after a report: it is the same, and so is its end. -/
structure Reported (a₀ a : Auth) : Prop where
  accessToken : a.accessToken = a₀.accessToken
  fault : a.fault = a₀.fault
  expiresAt : a.expiresAt = a₀.expiresAt
  used : Counted a.used
  remaining : Counted a.remaining
  resetAt : a.resetAt = a₀.resetAt ∨ Shown a.resetAt

/-- A step after the token was saved leaves it at that. -/
theorem Saves.before {α β : Type} {P : Auth → Prop} {c c' : Client} {fs : Files} {o : Outside}
    {act : ClientAct α} {next : α → ClientAct β} (h : Saves P c fs (act.runWith c' o))
    (hnext : ∀ a c o, ∃ x o', (next a).runWith c o = (x, c, o') ∧ o'.files = o.files) :
    Saves P c fs ((act >>= next).runWith c' o) := by
  rw [Act.runWith_bind]
  generalize act.runWith c' o = run at h
  cases h with
  | failed hc hfiles => exact .failed hc hfiles
  | unsaved ha hsaved hfiles => exact .unsaved ha hsaved hfiles
  | saved ha hsaved =>
    rename_i result a o'
    cases result with
    | error e => exact .saved ha hsaved
    | ok b =>
      obtain ⟨x, o'', hrun, hfiles⟩ := hnext b { c with auth := some a } o'
      simp only [hrun]
      exact .saved ha (by rw [hfiles, hsaved])

/-- A report is saved with the token that the client has. -/
theorem keepQuota_saves {c : Client} {a₀ : Auth} (hauth : c.auth = some a₀) (reply : Reply)
    (o : Outside) : Saves (Reported a₀) c o.files ((keepQuota reply).runWith c o) := by
  have hc : Unsaved (Reported a₀) c c := .inl rfl
  refine .step (Act.runWith_state c o) ?_
  rw [hauth]
  refine .outcome hc rfl fun used hused => ?_
  refine .outcome hc rfl fun remaining hremaining => ?_
  refine .outcome hc rfl fun reset _ => ?_
  -- the counts are kept even if the time cannot be computed
  have hcounts : Reported a₀ { a₀ with used, remaining } :=
    ⟨rfl, rfl, rfl, ⟨_, _, hused⟩, ⟨_, _, hremaining⟩, .inl rfl⟩
  refine .step (Act.runWith_put c _ o) ?_
  refine .step (currentTime_run _ o) ?_
  refine .outcome (.inr ⟨_, hcounts, rfl⟩) rfl fun resetAt hreset => ?_
  refine .step (Act.runWith_put _ { c with auth := some { a₀ with used, remaining, resetAt } } o) ?_
  refine .step (Act.runWith_log _ _ _ _ o) ?_
  exact .save { hcounts with resetAt := .inr (shown_of_later hreset) } rfl

/-- **What is made of a reply** saves what it reports, if nothing fails. -/
theorem hear_saves {c : Client} {a₀ : Auth} (hauth : c.auth = some a₀) (subreddit : String)
    (request : Request) (reply : Reply) (o : Outside) :
    Saves (Reported a₀) c o.files ((hear subreddit request reply).runWith c o) := by
  refine .outcome (.inl rfl) rfl fun _ _ => ?_
  refine (keepQuota_saves hauth reply o).before fun _ c o => ?_
  rw [Act.runWith_bind, Act.runWith_ofOutcome]
  cases (do listingsOf (← reply.document) : Outcome (List Listing)) with
  | error e => exact ⟨.error e, o, rfl, rfl⟩
  | ok listings => exact ⟨.ok listings, _, rfl, rfl⟩

/-! ### What is left alone -/

section Parts

variable {τ : Type} {part : Outside → τ}

theorem currentTime_spares : currentTime.Spares part := fun _ _ => rfl

theorem saveToken_spares (h : Act.Apart part) (a : Auth) : (saveToken a).Spares part := by
  refine .bind Act.spares_state fun c => .bind Act.spares_files fun fs => ?_
  refine .bind (Act.spares_ofOutcome _) fun _ => .bind (Act.spares_putFiles h _) fun _ => ?_
  refine .bind (Act.spares_ofOutcome _) fun _ => .bind (Act.spares_putFiles h _) fun _ => ?_
  exact Act.spares_log h _ _ _

theorem restore_spares (h : Act.Apart part) : restore.Spares part := by
  refine .bind Act.spares_state fun c => .bind Act.spares_files fun fs => ?_
  split
  · exact Act.spares_log h _ _ _
  · refine .bind (Act.spares_ofOutcome _) fun text => ?_
    split
    · exact Act.spares_log h _ _ _
    · refine .bind currentTime_spares fun _ => .bind (Act.spares_ofOutcome _) fun _ => ?_
      split
      · exact .bind (Act.spares_put _) fun _ => Act.spares_log h _ _ _
      · exact Act.spares_log h _ _ _

theorem keepQuota_spares (h : Act.Apart part) (reply : Reply) : (keepQuota reply).Spares part := by
  refine .bind Act.spares_state fun c => ?_
  split
  · exact Act.spares_pure _
  · refine .bind (Act.spares_ofOutcome _) fun _ => .bind (Act.spares_ofOutcome _) fun _ => ?_
    refine .bind (Act.spares_ofOutcome _) fun _ => .bind (Act.spares_put _) fun _ => ?_
    refine .bind currentTime_spares fun _ => .bind (Act.spares_ofOutcome _) fun _ => ?_
    refine .bind (Act.spares_put _) fun _ => .bind (Act.spares_log h _ _ _) fun _ => ?_
    exact saveToken_spares h _

theorem hear_spares (h : Act.Apart part) (subreddit : String) (request : Request)
    (reply : Reply) : (hear subreddit request reply).Spares part := by
  refine .bind (Act.spares_ofOutcome _) fun _ => .bind (keepQuota_spares h reply) fun _ => ?_
  refine .bind (Act.spares_ofOutcome _) fun _ => .bind (Act.spares_log h _ _ _) fun _ => ?_
  exact Act.spares_pure _

end Parts

theorem restore_keepsClock : restore.KeepsClock := restore_spares Act.apart_now

theorem authenticate_keepsClock : authenticate.KeepsClock := by
  show Act.Spares (·.now) authenticate
  refine .bind Act.spares_state fun c => .bind (Act.spares_ofOutcome _) fun url => ?_
  refine .bind currentTime_spares fun _ => .bind (Act.spares_send _) fun reply => ?_
  refine .bind (Act.spares_ofOutcome _) fun _ => .bind (Act.spares_ofOutcome _) fun _ => ?_
  refine .bind (Act.spares_ofOutcome _) fun a => .bind (Act.spares_put _) fun _ => ?_
  refine .bind (Act.spares_log Act.apart_now _ _ _) fun _ => ?_
  exact saveToken_spares Act.apart_now a

theorem hear_keepsClock (subreddit : String) (request : Request) (reply : Reply) :
    (hear subreddit request reply).KeepsClock := hear_spares Act.apart_now _ _ _

/-! ### Waiting -/

/-- The wait is for the quota, if nothing of it is left. -/
theorem waitTime_run {c c' : Client} {o o' : Outside} {wait : Binary64}
    (h : waitTime.runWith c o = (.ok wait, c', o')) :
    c' = c ∧ o' = o ∧ ∀ a reset, c.auth = some a → a.remaining ≤ 0 →
      a.resetAt.instant? = some reset → wait = secondsOfMicros (max (reset - o.now) 0) := by
  rw [waitTime, Act.runWith_bind_ok (Act.runWith_state c o)] at h
  cases hauth : c.auth with
  | none =>
    simp only [hauth] at h
    cases h
    exact ⟨rfl, rfl, nofun⟩
  | some a =>
    simp only [hauth] at h
    split at h
    · rename_i hleft
      cases h
      exact ⟨rfl, rfl, fun a' reset ha hnone => by cases ha; omega⟩
    · split at h
      · cases h
      · rename_i reset hreset
        cases h
        refine ⟨rfl, rfl, fun a' reset' ha _ hreset' => ?_⟩
        cases ha
        rw [hreset] at hreset'
        rw [Option.some.inj hreset']

end Feed

end DealWatch
