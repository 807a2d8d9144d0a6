import DealWatch.Pipeline.Ingestion
import DealWatch.Proofs.Feed.Client

/-!
# Requests with the token adopted last

A client takes its token from the file or from a reply, and loses it to time. Polls and looks into
the file may follow each other in any order, each call may fail anywhere, and the clock may show
anything whenever it is read.

* `Feed.kept?` and `Feed.offer` are the tokens that the file and a reply have to offer,
  `Feed.Renewal` says what asking for a token does with the second;
* `Ingestion.pollAt` is a poll with the readings of the clock during it, `Ingestion.Polls` says what
  it sends and which client it leaves;
* `Ingestion.Session` is a client with the token that was adopted last, `Session.Current` says that
  the client has that token, `Session.Proper` what a call may send;
* `Ingestion.carries_adopted_token` says that this holds of all calls.

The proof goes by what a poll sends. `authenticate_renewal` and `fetchAt_asks` say it of the two
parts of a poll, with the client each of them leaves, and `Polls` puts them together: nothing but a
request for listings, nothing but a request for a token, or one after the other. `Session.Proper` is
then read off in each of the three cases. What a case needs of the past is only that the client has
the token that was adopted last, and `Session.Current.next` keeps that through every call.

A token with halves of surrogate pairs is no exception: it is adopted, although it can be neither
written nor sent, and stays until it is past its end. `adopts_unusable_token` is such a poll.

Nothing is said of listings that are sent on, or of how often polls come.
-/

namespace DealWatch

namespace Feed

/-! ### Tokens on offer -/

/-- The token in the file, if there is one and it is not past its end. -/
def kept? (s : FeedSettings) (o : Outside) : Option Auth :=
  match o.files.readText s.tokenFile with
  | .error _ => none
  | .ok text =>
    match Auth.ofJson text with
    | .rejected _ => none
    | .accepted a =>
      if (Timestamp.utc o.now).isBefore? a.expiresAt = some true then some a else none

/-- The token in the reply to a request that was made at some time, if the reply is good for one. -/
def offer (url : String) (requested : Int) (reply : Outcome Reply) : Outcome Auth := do
  let reply ← reply
  reply.requireSuccess url
  tokenOf (← reply.document) (.utc requested)

/-- What a token grants: the token, why it cannot be encoded if it cannot, and its end. -/
def grant (a : Auth) : String × Option EncodingFault × Timestamp :=
  (a.accessToken, a.fault, a.expiresAt)

/-- **Taking the token from the file** adopts what the file has to offer, and nothing else. -/
theorem restore_adopts (c : Client) (o : Outside) :
    (restore.runWith c o).2.1 = { c with auth := (kept? c.settings o).or c.auth } := by
  rw [restore, Act.runWith_bind_ok (Act.runWith_state c o),
    Act.runWith_bind_ok (Act.runWith_files c o)]
  cases hthere : o.files.contains c.settings.tokenFile with
  | false =>
    have hnone : o.files.find? c.settings.tokenFile = none := by
      simpa [Files.contains] using hthere
    have htext : kept? c.settings o = none := by
      simp [kept?, Files.readText, Files.readBytes, hnone, bind, Except.bind]
    rw [htext]
    rfl
  | true =>
    simp only [Bool.not_true, Bool.false_eq_true, if_false, Act.runWith_bind, Act.runWith_ofOutcome]
    cases htext : o.files.readText c.settings.tokenFile with
    | error e => simp [kept?, htext]
    | ok text =>
      cases hread : Auth.ofJson text with
      | rejected ps => simp [kept?, htext, hread]
      | accepted a =>
        simp only [isBefore]
        rcases hbefore : (Timestamp.utc o.now).isBefore? a.expiresAt with _ | _ | _ <;>
          simp [kept?, htext, hread, hbefore, Act.runWith_bind]

/-- What asking for a token does. Without a request, or if the reply brings no token, it fails and
the client stays as it was. A token that is brought is adopted, also if it cannot be saved. -/
inductive Renewal (c : Client) (o : Outside) : Outcome Unit × Client × Outside → Prop
  | unsent {e : Failure} {o' : Outside} : o'.requests = o.requests → Renewal c o (.error e, c, o')
  | refused {e : Failure} {o' : Outside} {url : String} :
      o'.requests = o.requests ++ [tokenRequest c.settings url] →
      (offer url o.now o.nextReply).toOption = none → Renewal c o (.error e, c, o')
  | brought {x : Outcome Unit} {o' : Outside} {url : String} {a : Auth} :
      o'.requests = o.requests ++ [tokenRequest c.settings url] →
      (offer url o.now o.nextReply).toOption = some a →
      Renewal c o (x, { c with auth := some a }, o')

theorem saveToken_ends (a : Auth) (c : Client) (o : Outside) :
    ∃ x o', (saveToken a).runWith c o = (x, c, o') ∧ o'.requests = o.requests := by
  obtain ⟨journal, hrun⟩ := saveToken_run a c o
  rw [hrun]
  cases saved c.settings a o.files with
  | error e => exact ⟨.error e, _, rfl, rfl⟩
  | ok fs => exact ⟨.ok (), _, rfl, rfl⟩

/-- **Asking for a token** does one of these. -/
theorem authenticate_renewal (c : Client) (o : Outside) :
    Renewal c o (authenticate.runWith c o) := by
  rw [authenticate, Act.runWith_bind_ok (Act.runWith_state c o), Act.runWith_bind,
    Act.runWith_ofOutcome]
  cases resolve c.settings.authHost "access_token" with
  | error e => exact .unsent rfl
  | ok url =>
    simp only
    rw [Act.runWith_bind_ok (currentTime_run c o), Act.runWith_send_bind]
    let adopt (a : Auth) : ClientAct Unit := do
      Act.put { c with auth := some a }
      Act.log .info "Authenticated with Reddit" [("expires_at", .text a.expiresAt.isoText)]
      saveToken a
    let o₁ : Outside :=
      { o with
        requests := o.requests ++ [tokenRequest c.settings url], replies := o.replies.drop 1 }
    -- all that is read of the reply is the token that it offers
    have hrest : Renewal c o
        ((Act.ofOutcome (offer url o.now o.nextReply) >>= adopt).runWith c o₁) := by
      rw [Act.runWith_bind, Act.runWith_ofOutcome]
      cases hoffer : offer url o.now o.nextReply with
      | error e => exact .refused rfl (by rw [hoffer]; rfl)
      | ok a =>
        simp only [adopt, Act.runWith_bind, Act.runWith_put, Act.runWith_log]
        obtain ⟨x, o₂, hsave, hrequests⟩ := saveToken_ends a { c with auth := some a }
          { o₁ with journal := o₁.journal ++ [⟨.info, "Authenticated with Reddit",
            [("expires_at", .text a.expiresAt.isoText)], o₁.stage⟩] }
        rw [hsave]
        exact .brought hrequests (by rw [hoffer]; rfl)
    simp only [offer, Act.ofOutcome_bind, bind_assoc] at hrest
    exact hrest

/-- A report about the quota leaves what the token grants. -/
theorem Saves.grant_eq {α : Type} {c : Client} {a₀ : Auth} {fs : Files}
    {run : Outcome α × Client × Outside} (hauth : c.auth = some a₀)
    (h : Saves (Reported a₀) c fs run) : run.2.1.auth.map grant = c.auth.map grant := by
  have hgrant {a : Auth} (ha : Reported a₀ a) : grant a = grant a₀ := by
    rw [grant, ha.accessToken, ha.fault, ha.expiresAt, grant]
  cases h with
  | failed hunsaved _ =>
    obtain rfl | ⟨a, ha, rfl⟩ := hunsaved
    · rfl
    · rw [hauth, Option.map_some, Option.map_some, hgrant ha]
  | unsaved ha _ _ => rw [hauth, Option.map_some, Option.map_some, hgrant ha]
  | saved ha _ => rw [hauth, Option.map_some, Option.map_some, hgrant ha]

end Feed

namespace Ingestion

open Feed (Client grant)

/-! ### Polls by the clock -/

/-- What the clock shows during a poll: when the token is looked at, when a new one is asked for,
when listings are asked for, and when the reply with them is there. -/
structure Readings where
  checking : Int
  renewing : Int
  asking : Int
  hearing : Int

/-- Sets the clock. -/
def setClock (now : Int) : Feed.ClientAct Unit := Act.change fun o => { o with now }

/-- The part of a poll that fetches listings, with the readings of the clock. -/
def fetchAt (asking hearing : Int) : Feed.ClientAct (List Listing) := do
  setClock asking
  let s := (← Act.state).settings
  let (request, reply) ← Feed.ask s.subreddit s.pageSize
  setClock hearing
  Feed.hear s.subreddit request reply

/-- A poll with the readings of the clock. -/
def pollAt (r : Readings) : Feed.ClientAct (List Listing) := do
  setClock r.checking
  if ← Feed.needsToken then
    Act.log .info "Authenticating" []
    setClock r.renewing
    Feed.authenticate
  fetchAt r.asking r.hearing

theorem runWith_setClock_bind {α : Type} (now : Int) (next : Unit → Feed.ClientAct α) (c : Client)
    (o : Outside) : (setClock now >>= next).runWith c o = (next ()).runWith c { o with now } := by
  rw [setClock, Act.runWith_bind, Act.runWith_change]

/-- While the clock stands still, listings are fetched as ever. -/
theorem fetchAt_still (c : Client) (o : Outside) :
    (fetchAt o.now o.now).runWith c o =
      (Feed.fetch c.settings.subreddit c.settings.pageSize).runWith c o := by
  have hclock : ({ o with now := o.now } : Outside) = o := rfl
  obtain ⟨x, o', hask, -, hnow, -⟩ := Feed.ask_run c.settings.subreddit c.settings.pageSize c o
  rw [fetchAt, runWith_setClock_bind, hclock, Act.runWith_bind_ok (Act.runWith_state c o),
    Feed.fetch_eq, Act.runWith_bind, Act.runWith_bind, hask]
  cases x with
  | error e => rfl
  | ok rr =>
    simp only
    rw [runWith_setClock_bind, ← hnow]

/-- **While the clock stands still**, a poll with readings is a poll. -/
theorem pollAt_still (c : Client) (o : Outside) :
    (pollAt ⟨o.now, o.now, o.now, o.now⟩).runWith c o = poll.runWith c o := by
  have hclock : ({ o with now := o.now } : Outside) = o := rfl
  rw [pollAt, poll, runWith_setClock_bind, hclock, Act.runWith_bind, Act.runWith_bind,
    Feed.needsToken_run]
  cases hexpired : Feed.authExpired c.auth (.utc o.now) with
  | error e => rfl
  | ok expired =>
    cases expired with
    | false =>
      simp only [Bool.false_eq_true, if_false]
      rw [fetchAt_still, Act.runWith_bind_ok (Act.runWith_state c o)]
    | true =>
      simp only [if_true]
      rw [Act.runWith_bind_ok (Act.runWith_log _ _ _ c o), runWith_setClock_bind,
        Act.runWith_bind_ok (Act.runWith_log _ _ _ c o), Act.runWith_bind, Act.runWith_bind]
      let o₁ : Outside :=
        { o with journal := o.journal ++ [⟨.info, "Authenticating", [], o.stage⟩] }
      have hnow := Feed.authenticate_keepsClock c o₁
      generalize Feed.authenticate.runWith c _ = run at hnow ⊢
      obtain ⟨e | ⟨⟩, c', o'⟩ := run
      · rfl
      · simp only
        rw [Act.runWith_bind_ok (Act.runWith_state c' o'), ← fetchAt_still, hnow]

/-! ### What a poll sends -/

/-- What the part of a poll that fetches listings sends, and the client that it leaves: it asks for
listings with the token of the client, which can be encoded and is not past its end, or it asks for
nothing. -/
inductive Asks (c : Client) (asking : Int) : List Request → Client → Prop
  | nothing : Asks c asking [] c
  | listings {a : Auth} {url : String} {c' : Client} : c.auth = some a → a.fault = none →
      a.expiresAt.isBefore? (.utc asking) = some false →
      c'.auth.map grant = c.auth.map grant →
      Asks c asking [Feed.listingRequest c.settings url a.accessToken c.settings.pageSize] c'

theorem fetchAt_asks (asking hearing : Int) (c : Client) (o : Outside) :
    ∃ sent, ((fetchAt asking hearing).runWith c o).2.2.requests = o.requests ++ sent ∧
      Asks c asking sent ((fetchAt asking hearing).runWith c o).2.1 := by
  obtain ⟨x, o', hask, -, -, hasks⟩ :=
    Feed.ask_run c.settings.subreddit c.settings.pageSize c { o with now := asking }
  rw [fetchAt, runWith_setClock_bind, Act.runWith_bind_ok (Act.runWith_state c _),
    Act.runWith_bind, hask]
  obtain ⟨⟨e, rfl⟩, hrequests⟩ | ⟨a, url, hauth, hfault, hvalid, hrequests⟩ := hasks
  · exact ⟨[], by rw [List.append_nil]; exact hrequests, .nothing⟩
  · cases x with
    | error e => exact ⟨_, hrequests, .listings hauth hfault hvalid rfl⟩
    | ok rr =>
      -- what is made of the reply sends nothing and leaves what the token grants
      simp only
      rw [runWith_setClock_bind]
      have hgrant := (Feed.hear_saves hauth c.settings.subreddit rr.1 rr.2
        { o' with now := hearing }).grant_eq hauth
      have hquiet := Feed.hear_spares Act.apart_requests c.settings.subreddit rr.1 rr.2 c
        { o' with now := hearing }
      exact ⟨_, hquiet.trans hrequests, .listings hauth hfault hvalid hgrant⟩

/-- What a poll sends, and the client that it leaves. If there is a token that is not past its end,
or the clock cannot tell, nothing is sent before listings are asked for. Otherwise a token is asked
for first; if none is brought, nothing follows and the client stays as it was. -/
inductive Polls (c : Client) (r : Readings) (reply : Outcome Reply) : List Request → Client → Prop
  | current {sent : List Request} {c' : Client} :
      Asks c r.asking sent c' → Polls c r reply sent c'
  | refused {url : String} :
      Feed.authExpired c.auth (.utc r.checking) = .ok true →
      (Feed.offer url r.renewing reply).toOption = none →
      Polls c r reply [Feed.tokenRequest c.settings url] c
  | renewed {url : String} {a : Auth} {sent : List Request} {c' : Client} :
      Feed.authExpired c.auth (.utc r.checking) = .ok true →
      (Feed.offer url r.renewing reply).toOption = some a →
      Asks { c with auth := some a } r.asking sent c' →
      Polls c r reply (Feed.tokenRequest c.settings url :: sent) c'

theorem pollAt_polls (r : Readings) (c : Client) (o : Outside) :
    ∃ sent, ((pollAt r).runWith c o).2.2.requests = o.requests ++ sent ∧
      Polls c r o.nextReply sent ((pollAt r).runWith c o).2.1 := by
  rw [pollAt, runWith_setClock_bind, Act.runWith_bind, Feed.needsToken_run]
  cases hexpired : Feed.authExpired c.auth (.utc r.checking) with
  | error e => exact ⟨[], (List.append_nil _).symm, .current .nothing⟩
  | ok expired =>
    cases expired with
    | false =>
      obtain ⟨sent, hrequests, hasks⟩ :=
        fetchAt_asks r.asking r.hearing c { o with now := r.checking }
      exact ⟨sent, hrequests, .current hasks⟩
    | true =>
      simp only [if_true]
      rw [Act.runWith_bind_ok (Act.runWith_log _ _ _ c _), runWith_setClock_bind, Act.runWith_bind]
      have hrenewal := Feed.authenticate_renewal c { o with
        now := r.renewing, journal := o.journal ++ [⟨.info, "Authenticating", [], o.stage⟩] }
      generalize Feed.authenticate.runWith c _ = run at hrenewal ⊢
      cases hrenewal with
      | unsent hrequests =>
        exact ⟨[], by rw [List.append_nil]; exact hrequests, .current .nothing⟩
      | refused hrequests hoffer => exact ⟨_, hrequests, .refused hexpired hoffer⟩
      | @brought x o' url a hrequests hoffer =>
        cases x with
        | error e => exact ⟨_, hrequests, .renewed hexpired hoffer .nothing⟩
        | ok _ =>
          obtain ⟨sent, hsent, hasks⟩ :=
            fetchAt_asks r.asking r.hearing { c with auth := some a } o'
          refine ⟨Feed.tokenRequest c.settings url :: sent, ?_, .renewed hexpired hoffer hasks⟩
          simp only
          rw [hsent, hrequests, List.append_assoc, List.singleton_append]

/-! ### Calls -/

/-- A call, with what is outside when it begins: a look into the token file, or a poll. -/
inductive Call where
  | restore (o : Outside)
  | poll (r : Readings) (o : Outside)

/-- What is outside when a call begins. -/
def Call.outside : Call → Outside
  | .restore o => o
  | .poll _ o => o

/-- The client and what is outside after a call, whether it fails or not. -/
def Call.after (c : Client) : Call → Client × Outside
  | .restore o => (Feed.restore.runWith c o).2
  | .poll r o => ((pollAt r).runWith c o).2

/-- The requests of a call. -/
def Call.sent (c : Client) (call : Call) : List Request :=
  (call.after c).2.requests.drop call.outside.requests.length

/-- The token that a call adopts: the one that the file has to offer, or the one in the reply to the
first request, if that asks for a token. -/
def Call.adopted? (c : Client) : Call → Option Auth
  | .restore o => Feed.kept? c.settings o
  | .poll r o =>
    match (sent c (.poll r o)).head? with
    | some q =>
      if q.method = .post then (Feed.offer q.url r.renewing o.nextReply).toOption else none
    | none => none

/-- A client with the token that was adopted last. -/
structure Session where
  client : Client
  adopted : Option Auth

namespace Session

/-- A client that has not been called yet. -/
def new (s : FeedSettings) : Session := ⟨⟨s, none⟩, none⟩

/-- The session after a call. -/
def next (s : Session) (call : Call) : Session :=
  ⟨(call.after s.client).1, (call.adopted? s.client).or s.adopted⟩

/-- The session after some calls. -/
def after (s : Session) (calls : List Call) : Session := calls.foldl next s

/-- The client has the token that was adopted last. -/
def Current (s : Session) : Prop := s.client.auth.map grant = s.adopted.map grant

end Session

variable {c : Client} {r : Readings} {o : Outside}

theorem sent_restore (c : Client) (o : Outside) : Call.sent c (.restore o) = [] := by
  have hquiet := Feed.restore_spares Act.apart_requests c o
  exact List.drop_eq_nil_of_le (Nat.le_of_eq (congrArg List.length hquiet))

/-- The requests of a poll come after those before it. -/
theorem requests_poll (r : Readings) (c : Client) (o : Outside) :
    (Call.after c (.poll r o)).2.requests = o.requests ++ Call.sent c (.poll r o) ∧
      Polls c r o.nextReply (Call.sent c (.poll r o)) (Call.after c (.poll r o)).1 := by
  obtain ⟨sent, hrequests, hpolls⟩ := pollAt_polls r c o
  have hsent : Call.sent c (.poll r o) = sent := by
    have hdrop := congrArg (List.drop o.requests.length) hrequests
    rwa [List.drop_left] at hdrop
  rw [hsent]
  exact ⟨hrequests, hpolls⟩

/-- A client stays with what its token grants, unless it adopts another one. -/
theorem Asks.grant_eq {asking : Int} {sent : List Request} {c' : Client}
    (h : Asks c asking sent c') : c'.auth.map grant = c.auth.map grant := by
  cases h with
  | nothing => rfl
  | listings _ _ _ hgrant => exact hgrant

/-- A request that asks for listings asks for no token. -/
theorem Asks.get {asking : Int} {sent : List Request} {c' : Client} (h : Asks c asking sent c') :
    ∀ q ∈ sent, q.method = .get := by
  cases h with
  | nothing => simp
  | listings _ _ _ _ => simp [Feed.listingRequest]

theorem adopted?_of_gets {sent : List Request}
    (hsent : Call.sent c (.poll r o) = sent) (hget : ∀ q ∈ sent, q.method = .get) :
    Call.adopted? c (.poll r o) = none := by
  rw [Call.adopted?, hsent]
  cases sent with
  | nil => rfl
  | cons q sent => simp [hget q (by simp)]

theorem adopted?_of_post {url : String} {sent : List Request}
    (hsent : Call.sent c (.poll r o) = Feed.tokenRequest c.settings url :: sent) :
    Call.adopted? c (.poll r o) = (Feed.offer url r.renewing o.nextReply).toOption := by
  rw [Call.adopted?, hsent]
  simp [Feed.tokenRequest]

/-- **Every call** leaves the client with the token that was adopted last. -/
theorem Session.Current.next {s : Session} (h : s.Current) (call : Call) :
    (s.next call).Current := by
  unfold Current at h ⊢
  cases call with
  | restore o =>
    simp only [Session.next, Call.after, Feed.restore_adopts, Call.adopted?]
    cases Feed.kept? s.client.settings o with
    | none => exact h
    | some a => rfl
  | poll r o =>
    obtain ⟨-, hpolls⟩ := requests_poll r s.client o
    generalize hsent : Call.sent s.client (.poll r o) = sent at hpolls
    rcases hafter : Call.after s.client (.poll r o) with ⟨c', o'⟩
    rw [hafter] at hpolls
    simp only [Session.next, hafter]
    cases hpolls with
    | current hasks =>
      rw [adopted?_of_gets hsent hasks.get, hasks.grant_eq]
      exact h
    | refused hexpired hoffer =>
      rw [adopted?_of_post hsent, hoffer]
      exact h
    | renewed hexpired hoffer hasks =>
      rw [adopted?_of_post hsent, hoffer, hasks.grant_eq]
      rfl

/-- **All calls** leave the client with the token that was adopted last. -/
theorem Session.Current.after {s : Session} (h : s.Current) (calls : List Call) :
    (s.after calls).Current := by
  induction calls generalizing s with
  | nil => exact h
  | cons call calls ih => exact ih (h.next call)

/-- What a call may send. -/
structure Session.Proper (s : Session) (call : Call) : Prop where
  requests : (call.after s.client).2.requests = call.outside.requests ++ call.sent s.client
  /-- Listings are asked for by polls, with the token that was adopted last, which can be encoded and
  is not past its end when the request is made. -/
  listings : ∀ q ∈ call.sent s.client, q.method = .get → ∃ r o a, call = .poll r o ∧
    (s.next call).adopted = some a ∧
    q.headers = some [("Authorization", "bearer " ++ a.accessToken)] ∧ a.fault = none ∧
    a.expiresAt.isBefore? (.utc r.asking) = some false
  /-- Tokens are asked for by polls that find no token or one that is past its end. -/
  tokens : ∀ q ∈ call.sent s.client, q.method = .post → ∃ r o, call = .poll r o ∧
    (s.client.auth = none ∨
      ∃ a, s.client.auth = some a ∧ a.expiresAt.isBefore? (.utc r.checking) = some true)
  /-- A token is asked for once at most, and before listings. -/
  order : ∃ posts gets, call.sent s.client = posts ++ gets ∧ posts.length ≤ 1 ∧ gets.length ≤ 1 ∧
    (∀ q ∈ posts, q.method = .post) ∧ ∀ q ∈ gets, q.method = .get
  /-- If no token is brought, no listings are asked for and the client stays as it was. -/
  refused : (∃ q ∈ call.sent s.client, q.method = .post) → call.adopted? s.client = none →
    (∀ q ∈ call.sent s.client, q.method = .post) ∧ (s.next call).client = s.client
  /-- If the token that is brought cannot be encoded, no listings are asked for either, but the
  client has that token then. -/
  unusable : ∀ a, (∃ q ∈ call.sent s.client, q.method = .post) →
    call.adopted? s.client = some a → a.fault ≠ none →
    (∀ q ∈ call.sent s.client, q.method = .post) ∧ (s.next call).client.auth = some a

theorem length_le_of_asks {asking : Int} {sent : List Request} {c' : Client}
    (h : Asks c asking sent c') : sent.length ≤ 1 := by
  cases h <;> simp

/-- Listings are asked for with the token that the client was last given. -/
theorem listings_of_asks {b : Option Auth} {asking : Int} {sent : List Request} {c' : Client}
    (hcurrent : c.auth.map grant = b.map grant) (h : Asks c asking sent c') :
    ∀ q ∈ sent, ∃ a, b = some a ∧
      q.headers = some [("Authorization", "bearer " ++ a.accessToken)] ∧ a.fault = none ∧
      a.expiresAt.isBefore? (.utc asking) = some false := by
  cases h with
  | nothing => simp
  | @listings a _ _ hauth hfault hvalid _ =>
    rw [hauth] at hcurrent
    obtain ⟨a₁, rfl, hgrant⟩ := Option.map_eq_some_iff.1 hcurrent.symm
    obtain ⟨htoken, hrest⟩ := Prod.mk.inj hgrant
    obtain ⟨hencodes, hends⟩ := Prod.mk.inj hrest
    simp [Feed.listingRequest, htoken, hencodes, hfault, hends, hvalid]

/-- With a token that cannot be encoded nothing is asked for. -/
theorem Asks.of_fault {a : Auth} {asking : Int} {sent : List Request} {c' : Client}
    (h : Asks c asking sent c') (hauth : c.auth = some a) (hfault : a.fault ≠ none) :
    sent = [] ∧ c' = c := by
  cases h with
  | nothing => exact ⟨rfl, rfl⟩
  | listings hauth' hnone _ _ =>
    rw [hauth] at hauth'
    cases hauth'
    exact absurd hnone hfault

theorem expired_of_needsToken {now : Int} (h : Feed.authExpired c.auth (.utc now) = .ok true) :
    c.auth = none ∨ ∃ a, c.auth = some a ∧ a.expiresAt.isBefore? (.utc now) = some true := by
  cases hauth : c.auth with
  | none => exact .inl rfl
  | some a =>
    rw [hauth, Feed.authExpired] at h
    exact .inr ⟨a, rfl, Feed.isBefore_eq_ok.1 h⟩

/-- A look into the token file sends nothing. -/
theorem Session.proper_restore (s : Session) (o : Outside) : s.Proper (.restore o) := by
  have hnone := sent_restore s.client o
  have hquiet := Feed.restore_spares Act.apart_requests s.client o
  refine ⟨?_, ?_, ?_, ⟨[], [], ?_⟩, ?_, ?_⟩
  · rw [hnone, List.append_nil]
    exact hquiet
  all_goals simp [hnone]

/-- A poll of a client with the token that was adopted last sends what it may. -/
theorem Session.Current.proper_poll {s : Session} (h : s.Current) (r : Readings) (o : Outside) :
    s.Proper (.poll r o) := by
  obtain ⟨hrequests, hpolls⟩ := requests_poll r s.client o
  generalize hsent : Call.sent s.client (.poll r o) = sent at hpolls
  rcases hafter : Call.after s.client (.poll r o) with ⟨c', o'⟩
  rw [hafter] at hpolls
  cases hpolls with
  | current hasks =>
    have hadopted : (s.next (.poll r o)).adopted = s.adopted := by
      rw [Session.next, adopted?_of_gets hsent hasks.get, Option.none_or]
    have hnopost : ∀ q ∈ sent, q.method ≠ .post := by
      intro q hq hpost
      cases (hasks.get q hq).symm.trans hpost
    refine ⟨hrequests, ?_, ?_, ⟨[], sent, hsent, ?_⟩, ?_, ?_⟩
    · intro q hq _
      obtain ⟨a, ha, hheaders, hvalid⟩ := listings_of_asks h hasks q (hsent ▸ hq)
      exact ⟨r, o, a, rfl, hadopted.trans ha, hheaders, hvalid⟩
    · exact fun q hq hpost => absurd hpost (hnopost q (hsent ▸ hq))
    · exact ⟨Nat.zero_le 1, length_le_of_asks hasks, by simp, hasks.get⟩
    · rintro ⟨q, hq, hpost⟩
      exact absurd hpost (hnopost q (hsent ▸ hq))
    · rintro a ⟨q, hq, hpost⟩
      exact absurd hpost (hnopost q (hsent ▸ hq))
  | refused hexpired hoffer =>
    have hpost : ∀ q ∈ Call.sent s.client (.poll r o), q.method = .post := by
      simp [hsent, Feed.tokenRequest]
    refine ⟨hrequests, ?_, ?_, ⟨Call.sent s.client (.poll r o), [], ?_, ?_⟩, ?_, ?_⟩
    · intro q hq hget
      cases (hpost q hq).symm.trans hget
    · exact fun q _ _ => ⟨r, o, rfl, expired_of_needsToken hexpired⟩
    · exact (List.append_nil _).symm
    · exact ⟨by simp [hsent], Nat.zero_le 1, hpost, by simp⟩
    · intro _ _
      exact ⟨hpost, congrArg Prod.fst hafter⟩
    · -- no token was brought
      intro a _ hsome
      rw [adopted?_of_post hsent, hoffer] at hsome
      cases hsome
  | @renewed url a gets c' hexpired hoffer hasks =>
    have hadopted : (s.next (.poll r o)).adopted = some a := by
      rw [Session.next, adopted?_of_post hsent, hoffer, Option.some_or]
    refine ⟨hrequests, ?_, ?_, ⟨[Feed.tokenRequest s.client.settings url], gets, hsent, ?_⟩, ?_, ?_⟩
    · intro q hq hget
      rw [hsent, List.mem_cons] at hq
      obtain rfl | hq := hq
      · cases hget
      · obtain ⟨a', ha', hheaders, hvalid⟩ := listings_of_asks (b := some a) rfl hasks q hq
        exact ⟨r, o, a', rfl, hadopted.trans ha', hheaders, hvalid⟩
    · exact fun q _ _ => ⟨r, o, rfl, expired_of_needsToken hexpired⟩
    · exact ⟨Nat.le_refl 1, length_le_of_asks hasks, by simp [Feed.tokenRequest], hasks.get⟩
    · -- a token was brought
      intro _ hnone
      rw [adopted?_of_post hsent, hoffer] at hnone
      cases hnone
    · intro a' _ hsome hfault
      rw [adopted?_of_post hsent, hoffer] at hsome
      cases hsome
      obtain ⟨rfl, rfl⟩ := hasks.of_fault rfl hfault
      have hpost : ∀ q ∈ Call.sent s.client (.poll r o), q.method = .post := by
        simp [hsent, Feed.tokenRequest]
      exact ⟨hpost, congrArg (·.1.auth) hafter⟩

/-- **Requests carry the token that was adopted last.** Whatever polls and looks into the token file
a client makes, whatever the clock, the replies and the files are: the client has the token that a
reply or the file brought last, and what it sends next is proper. Listings are asked for with that
token and before its end, tokens only if there is none or it is past its end, once in a poll and
before the listings. If no token is brought, nothing else happens. If a token is brought that cannot
be encoded, nothing more is sent, but it takes the place of the one before. The polls of the stage
are such polls, at moments when the clock stands still. -/
theorem carries_adopted_token (settings : FeedSettings) (calls : List Call) :
    ((Session.new settings).after calls).Current ∧
      (∀ call, ((Session.new settings).after calls).Proper call) ∧
      ∀ c o, (pollAt ⟨o.now, o.now, o.now, o.now⟩).runWith c o = poll.runWith c o := by
  have hnew : (Session.new settings).Current := rfl
  have hcurrent := hnew.after calls
  refine ⟨hcurrent, fun call => ?_, pollAt_still⟩
  cases call with
  | restore o => exact Session.proper_restore _ o
  | poll r o => exact hcurrent.proper_poll r o

/-- A poll fails at a reply with half of a surrogate pair for a token, and no listings are asked
for. The client does not keep the token that it had. -/
theorem adopts_unusable_token :
    ∃ (c : Client) (o : Outside), c.auth.isSome = true ∧
      ((poll.runWith c o).1 matches .error (.unwritableToken _)) = true ∧
      (∀ q ∈ (poll.runWith c o).2.2.requests, q.method = .post) ∧
      (poll.runWith c o).2.1.auth ≠ c.auth :=
  ⟨⟨{ tokenFile := Path.ofText "token.json" }, some ⟨"t", .utc 0, 1, 1, .utc 0, none⟩⟩,
    { (default : Outside) with
      now := 1
      replies := [.ok { body := .text "\x7b\"access_token\":\"\\ud800\",\"expires_in\":9\x7d" }] },
    by decide +kernel, by decide +kernel, by decide +kernel, by decide +kernel⟩

end Ingestion

end DealWatch
