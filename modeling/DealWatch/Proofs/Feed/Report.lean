import DealWatch.Proofs.Feed.Client

/-!
# Reports about the quota

A reply reports the quota in three headers. All of them are read before anything of them is kept.
The time at which the quota is renewed is computed only after the counts are kept, and a report with
a time that cannot be shown ends there.

* `Says` and `BadHeader` say what a header reports and what may be wrong with it;
* `Misreport` lists the reports that make a call fail, `Kept` is a report that is kept as a whole,
  and `misreport_or_kept` says that there are no others;
* `fetch_keeps_report` says what each of them leaves.

The headers are read one after the other and the first bad one ends the call, so `FirstBad` goes
down the list of their names and `keepQuota_misreport` follows it, with the good headers before the
bad one rewritten to their numbers. A report without a bad header has three numbers, and the only
question left is whether the time of the renewal can be shown (`Reaches`).

Nothing is said of a call without a reply, with a bad status or with a token that cannot be sent:
it ends before a header is read.
-/

namespace DealWatch

namespace Feed

/-! ### Headers -/

/-- A header reports a number. Only what stands before its point counts. -/
def Says (reply : Reply) (name : String) (n : Int) : Prop :=
  ∃ raw x, reply.header? name = some raw ∧ readFloat? raw = some x ∧ x.truncate? = some n

/-- What is wrong with a header that reports none. -/
inductive BadHeader (reply : Reply) (name : String) : Failure → Prop
  | missing : reply.header? name = none → BadHeader reply name (.missingHeader name)
  | unreadable {raw : String} : reply.header? name = some raw → readFloat? raw = none →
      BadHeader reply name (.badNumber raw)
  | nan {raw : String} {neg : Bool} : reply.header? name = some raw →
      readFloat? raw = some (.nan neg) → BadHeader reply name .nanCount
  | infinite {raw : String} {neg : Bool} : reply.header? name = some raw →
      readFloat? raw = some (.infinite neg) → BadHeader reply name .infiniteCount

section Headers

variable {reply : Reply} {name : String} {n : Int} {e : Failure}

theorem says_iff : Says reply name n ↔
    ((reply.header? name).bind readFloat?).bind (·.truncate?) = some n := by
  simp only [Says, Option.bind_eq_some_iff]
  constructor
  · rintro ⟨raw, x, hheader, hraw, hn⟩
    exact ⟨x, ⟨raw, hheader, hraw⟩, hn⟩
  · rintro ⟨x, ⟨raw, hheader, hraw⟩, hn⟩
    exact ⟨raw, x, hheader, hraw, hn⟩

instance : Decidable (Says reply name n) := decidable_of_iff' _ says_iff

theorem Says.headerCount_eq (h : Says reply name n) : headerCount reply name = .ok n := by
  obtain ⟨raw, x, hheader, hraw, hn⟩ := h
  rw [headerCount, hheader]
  simp only [hraw]
  cases x with
  | nan neg => cases hn
  | infinite neg => cases hn
  | finite neg m e => simp only [hn]

theorem BadHeader.headerCount_eq (h : BadHeader reply name e) :
    headerCount reply name = .error e := by
  cases h with
  | missing hheader => rw [headerCount, hheader]
  | unreadable hheader hraw =>
    rw [headerCount, hheader]
    simp only [hraw]
  | nan hheader hraw =>
    rw [headerCount, hheader]
    simp only [hraw]
  | infinite hheader hraw =>
    rw [headerCount, hheader]
    simp only [hraw]
    rfl

/-- A header is a good one or a bad one. -/
theorem says_or_badHeader (reply : Reply) (name : String) :
    (∃ n, Says reply name n) ∨ ∃ e, BadHeader reply name e := by
  cases hheader : reply.header? name with
  | none => exact .inr ⟨_, .missing hheader⟩
  | some raw =>
    cases hraw : readFloat? raw with
    | none => exact .inr ⟨_, .unreadable hheader hraw⟩
    | some x =>
      cases x with
      | nan neg => exact .inr ⟨_, .nan hheader hraw⟩
      | infinite neg => exact .inr ⟨_, .infinite hheader hraw⟩
      | finite neg m e => exact .inl ⟨_, raw, _, hheader, hraw, rfl⟩

end Headers

/-! ### Reports -/

/-- The headers in the order in which they are read. -/
def quotaHeaders : List String :=
  ["X-Ratelimit-Used", "X-Ratelimit-Remaining", "X-Ratelimit-Reset"]

/-- The first of some headers that is bad. -/
inductive FirstBad (reply : Reply) : List String → Failure → Prop
  | here {name : String} {names : List String} {e : Failure} : BadHeader reply name e →
      FirstBad reply (name :: names) e
  | behind {name : String} {names : List String} {n : Int} {e : Failure} : Says reply name n →
      FirstBad reply names e → FirstBad reply (name :: names) e

/-- What a reply reports. -/
structure Reports (reply : Reply) (used remaining reset : Int) : Prop where
  used : Says reply "X-Ratelimit-Used" used
  remaining : Says reply "X-Ratelimit-Remaining" remaining
  reset : Says reply "X-Ratelimit-Reset" reset

/-- A point in time that is a number of seconds away and can be shown. -/
def Reaches (now seconds : Int) : Prop :=
  durationFits (seconds * microsPerSecond) = true ∧
    Timestamp.inRange (now + seconds * microsPerSecond) = true

instance (now seconds : Int) : Decidable (Reaches now seconds) :=
  inferInstanceAs (Decidable (_ ∧ _))

/-- Reports that make a call fail: how, and which token the client has then. -/
inductive Misreport (reply : Reply) (now : Int) (a : Auth) : Failure → Auth → Prop
  /-- A header is bad. Nothing is kept. -/
  | unread {e : Failure} : FirstBad reply quotaHeaders e → Misreport reply now a e a
  /-- The time of the renewal cannot be shown. The counts are kept. -/
  | outOfRange {used remaining reset : Int} : Reports reply used remaining reset →
      ¬ Reaches now reset → Misreport reply now a .timeOutOfRange { a with used, remaining }

/-- A report that is kept as a whole. -/
inductive Kept (reply : Reply) (now : Int) (a : Auth) : Auth → Prop
  | report {used remaining reset : Int} : Reports reply used remaining reset → Reaches now reset →
      Kept reply now a
        { a with used, remaining, resetAt := .utc (now + reset * microsPerSecond) }

/-- A report makes the call fail or is kept. -/
theorem misreport_or_kept (reply : Reply) (now : Int) (a : Auth) :
    (∃ e a', Misreport reply now a e a') ∨ ∃ a', Kept reply now a a' := by
  obtain ⟨used, hused⟩ | ⟨e, hbad⟩ := says_or_badHeader reply "X-Ratelimit-Used"
  case inr => exact .inl ⟨e, a, .unread (.here hbad)⟩
  obtain ⟨remaining, hremaining⟩ | ⟨e, hbad⟩ := says_or_badHeader reply "X-Ratelimit-Remaining"
  case inr => exact .inl ⟨e, a, .unread (.behind hused (.here hbad))⟩
  obtain ⟨reset, hreset⟩ | ⟨e, hbad⟩ := says_or_badHeader reply "X-Ratelimit-Reset"
  case inr => exact .inl ⟨e, a, .unread (.behind hused (.behind hremaining (.here hbad)))⟩
  by_cases hreach : Reaches now reset
  · exact .inr ⟨_, .report ⟨hused, hremaining, hreset⟩ hreach⟩
  · exact .inl ⟨_, _, .outOfRange ⟨hused, hremaining, hreset⟩ hreach⟩

theorem Reaches.later_eq {now seconds : Int} (h : Reaches now seconds) :
    later (.utc now) (seconds * microsPerSecond) =
      .ok (.utc (now + seconds * microsPerSecond)) := by
  rw [later, h.1]
  simp [Timestamp.shift?, Timestamp.utc, h.2]

theorem later_of_not_reaches {now seconds : Int} (h : ¬ Reaches now seconds) :
    later (.utc now) (seconds * microsPerSecond) = .error .timeOutOfRange := by
  rw [later]
  split
  · rfl
  · rename_i hfits
    have hrange : ¬ Timestamp.inRange (now + seconds * microsPerSecond) = true :=
      fun hrange => h ⟨by simpa using hfits, hrange⟩
    simp [Timestamp.shift?, Timestamp.utc, hrange]

/-! ### What is kept -/

section Steps

variable {c : Client} {a a' : Auth} {reply : Reply} {o : Outside}

/-- A report that makes the call fail leaves the files alone. -/
theorem keepQuota_misreport {e : Failure} (hauth : c.auth = some a)
    (h : Misreport reply o.now a e a') :
    (keepQuota reply).runWith c o = (.error e, { c with auth := some a' }, o) := by
  rw [keepQuota, Act.runWith_bind_ok (Act.runWith_state c o), hauth]
  cases h with
  | unread hfirst =>
    have hsame : { c with auth := some a } = c := by rw [← hauth]
    rw [hsame]
    -- the headers are read in order, up to the bad one
    cases hfirst with
    | here hbad => simp only [Act.runWith_bind, Act.runWith_ofOutcome, hbad.headerCount_eq]
    | behind hused hfirst =>
      cases hfirst with
      | here hbad =>
        simp only [Act.runWith_bind, Act.runWith_ofOutcome, hused.headerCount_eq,
          hbad.headerCount_eq]
      | behind hremaining hfirst =>
        cases hfirst with
        | here hbad =>
          simp only [Act.runWith_bind, Act.runWith_ofOutcome, hused.headerCount_eq,
            hremaining.headerCount_eq, hbad.headerCount_eq]
        | behind _ hnone => cases hnone
  | @outOfRange used remaining reset hreport hreach =>
    simp only [Act.runWith_bind, Act.runWith_ofOutcome, hreport.used.headerCount_eq,
      hreport.remaining.headerCount_eq, hreport.reset.headerCount_eq, Act.runWith_put,
      currentTime_run, later_of_not_reaches hreach]

/-- A report that is kept is then saved. -/
theorem keepQuota_kept (hauth : c.auth = some a) (h : Kept reply o.now a a') :
    ∃ journal, (keepQuota reply).runWith c o =
      (saveToken a').runWith { c with auth := some a' } { o with journal } := by
  obtain @⟨used, remaining, reset, hreport, hreach⟩ := h
  rw [keepQuota, Act.runWith_bind_ok (Act.runWith_state c o), hauth]
  simp only [Act.runWith_bind, Act.runWith_ofOutcome, hreport.used.headerCount_eq,
    hreport.remaining.headerCount_eq, hreport.reset.headerCount_eq, Act.runWith_put,
    currentTime_run, hreach.later_eq, Act.runWith_log]
  exact ⟨_, rfl⟩

/-- With a token that can be sent and is not past its end, and with a reply, fetching comes to what
is made of the reply. -/
theorem fetch_run {subreddit url : String} {rest : List (Outcome Reply)} (pageSize : Int)
    (hauth : c.auth = some a) (hfault : a.fault = none)
    (hvalid : a.expiresAt.isBefore? (.utc o.now) = some false)
    (hurl : resolve c.settings.apiHost ("r/" ++ subreddit ++ "/new") = .ok url)
    (hreplies : o.replies = .ok reply :: rest) :
    ∃ o' request, (fetch subreddit pageSize).runWith c o =
        (hear subreddit request reply).runWith c o' ∧
      request.url = url ∧ o'.files = o.files ∧ o'.now = o.now := by
  have hunexpired : isBefore a.expiresAt (.utc o.now) = .ok false := isBefore_eq_ok.2 hvalid
  have htoken : validToken.runWith c o = (.ok a.accessToken, c, o) := by
    rw [validToken, Act.runWith_bind_ok (Act.runWith_state c o), hauth]
    simp only [Act.runWith_bind, needsToken_run, hauth, authExpired, hunexpired, hfault]
    rfl
  have hask : (ask subreddit pageSize).runWith c o =
      (.ok (listingRequest c.settings url a.accessToken pageSize, reply), c,
        { o with
          requests := o.requests ++ [listingRequest c.settings url a.accessToken pageSize]
          replies := rest }) := by
    rw [ask, Act.runWith_bind_ok (Act.runWith_state c o)]
    simp only [Act.runWith_bind, Act.runWith_ofOutcome, hurl, htoken, Act.runWith_send,
      Outside.nextReply, hreplies, List.headD_cons, List.drop_one, List.tail_cons, Act.runWith_pure]
  rw [fetch_eq, Act.runWith_bind_ok hask]
  exact ⟨_, _, rfl, rfl, rfl, rfl⟩

theorem hear_misreport {e : Failure} {request : Request} (subreddit : String)
    (hauth : c.auth = some a) (hgood : reply.requireSuccess request.url = .ok ())
    (h : Misreport reply o.now a e a') :
    (hear subreddit request reply).runWith c o = (.error e, { c with auth := some a' }, o) := by
  rw [hear, hgood]
  exact Act.runWith_bind_error (keepQuota_misreport hauth h) _

/-- A report that is kept is saved, or the call fails because it cannot be. -/
theorem hear_kept {request : Request} (subreddit : String)
    (hauth : c.auth = some a) (hgood : reply.requireSuccess request.url = .ok ())
    (h : Kept reply o.now a a') :
    ∃ result o', (hear subreddit request reply).runWith c o =
        (result, { c with auth := some a' }, o') ∧
      (saved c.settings a' o.files = .ok o'.files ∨
        o'.files = prepared c.settings o.files ∧
          ∃ e, result = .error e ∧ saved c.settings a' o.files = .error e) := by
  obtain ⟨journal, hkeep⟩ := keepQuota_kept hauth h
  obtain ⟨journal', hsave⟩ := saveToken_run a' { c with auth := some a' } { o with journal }
  rw [hear, hgood, Act.runWith_bind_ok (Act.runWith_ofOutcome (.ok ()) c o)]
  cases hsaved : saved c.settings a' o.files with
  | error e =>
    simp only [hsaved] at hsave
    exact ⟨_, _, Act.runWith_bind_error (hkeep.trans hsave) _, .inr ⟨rfl, e, rfl, rfl⟩⟩
  | ok fs =>
    simp only [hsaved] at hsave
    rw [Act.runWith_bind_ok (hkeep.trans hsave), Act.runWith_bind, Act.runWith_ofOutcome]
    -- the listings are read after the token is saved, whether or not they can be
    cases (do listingsOf (← reply.document) : Outcome (List Listing)) with
    | error e => exact ⟨_, _, rfl, .inl rfl⟩
    | ok listings => exact ⟨_, _, rfl, .inl rfl⟩

end Steps

/-- **What fetching keeps of a report.** With a token that can be sent and is not past its end, and
after a reply with a good status: a header that is missing, no number or not finite makes the call
fail, and neither the token of the client nor any file changes. A renewal that is too far away to be
shown makes it fail too, and the files do not change, but the counts are in the token of the client.
Any other report is kept as a whole and saved, unless it cannot be saved. -/
theorem fetch_keeps_report {c : Client} {a : Auth} {o : Outside} {reply : Reply}
    {rest : List (Outcome Reply)} {subreddit url : String} (pageSize : Int)
    (hauth : c.auth = some a) (hfault : a.fault = none)
    (hvalid : a.expiresAt.isBefore? (.utc o.now) = some false)
    (hurl : resolve c.settings.apiHost ("r/" ++ subreddit ++ "/new") = .ok url)
    (hreplies : o.replies = .ok reply :: rest) (hgood : reply.requireSuccess url = .ok ()) :
    let run := (fetch subreddit pageSize).runWith c o
    (∀ e a', Misreport reply o.now a e a' →
      run.1 = .error e ∧ run.2.1 = { c with auth := some a' } ∧ run.2.2.files = o.files) ∧
    (∀ a', Kept reply o.now a a' → run.2.1 = { c with auth := some a' } ∧
      (saved c.settings a' o.files = .ok run.2.2.files ∨
        run.2.2.files = prepared c.settings o.files ∧
          ∃ e, run.1 = .error e ∧ saved c.settings a' o.files = .error e)) ∧
    ((∃ e a', Misreport reply o.now a e a') ∨ ∃ a', Kept reply o.now a a') := by
  intro run
  obtain ⟨o', request, hrun, rfl, hfiles, hnow⟩ :=
    fetch_run pageSize hauth hfault hvalid hurl hreplies
  refine ⟨fun e a' h => ?_, fun a' h => ?_, misreport_or_kept reply o.now a⟩
  · rw [← hnow] at h
    have hhear : run = (.error e, { c with auth := some a' }, o') :=
      hrun.trans (hear_misreport subreddit hauth hgood h)
    rw [hhear]
    exact ⟨rfl, rfl, hfiles⟩
  · rw [← hnow] at h
    obtain ⟨result, o'', hhear, hsaved⟩ := hear_kept subreddit hauth hgood h
    have hrun' : run = (result, { c with auth := some a' }, o'') := hrun.trans hhear
    rw [hrun', ← hfiles]
    exact ⟨rfl, hsaved⟩

/-- A renewal in three million years is not kept, but the counts beside it are. -/
theorem fetch_keeps_report_far :
    ∃ (c : Client) (o : Outside) (a : Auth), c.auth = some a ∧ a.used ≠ 1 ∧
      ((fetch "d" 1).runWith c o).1 = .error .timeOutOfRange ∧
      ((fetch "d" 1).runWith c o).2.1.auth = some { a with used := 1, remaining := 2 } ∧
      ((fetch "d" 1).runWith c o).2.2.files = o.files := by
  let a : Auth := ⟨"t", .utc 1, 0, 1, .utc 1, none⟩
  let c : Client := ⟨{}, some a⟩
  let reply : Reply := { headers := [("X-Ratelimit-Used", "1"), ("X-Ratelimit-Remaining", "2"),
    ("X-Ratelimit-Reset", "99999999999999")] }
  let o : Outside := { (default : Outside) with now := 0, replies := [.ok reply] }
  obtain ⟨url, hurl⟩ : ∃ url, resolve c.settings.apiHost ("r/" ++ "d" ++ "/new") = .ok url := by
    have hok : (resolve c.settings.apiHost ("r/" ++ "d" ++ "/new")).toOption.isSome = true := by
      decide +kernel
    cases hresolve : resolve c.settings.apiHost ("r/" ++ "d" ++ "/new") with
    | error e => rw [hresolve] at hok; cases hok
    | ok url => exact ⟨url, rfl⟩
  have hreports : Reports reply 1 2 99999999999999 :=
    ⟨by decide +kernel, by decide +kernel, by decide +kernel⟩
  obtain ⟨hfailed, -, -⟩ := fetch_keeps_report (c := c) (o := o) 1 rfl rfl (by decide) hurl rfl rfl
  obtain ⟨herror, hclient, hfiles⟩ := hfailed _ _ (.outOfRange hreports (by decide +kernel))
  exact ⟨c, o, a, rfl, by decide, herror, by rw [hclient], hfiles⟩

/-- Fetching may fail for a report and change the token of the client. -/
theorem fetch_not_atomic :
    ∃ (c : Client) (o : Outside),
      (((fetch "d" 1).runWith c o).1 matches .error .timeOutOfRange) = true ∧
      ((fetch "d" 1).runWith c o).2.1 ≠ c :=
  ⟨⟨{}, some ⟨"t", .utc 1, 0, 1, .utc 1, none⟩⟩,
    { (default : Outside) with
      now := 0
      replies := [.ok { headers := [("X-Ratelimit-Used", "1"), ("X-Ratelimit-Remaining", "2"),
        ("X-Ratelimit-Reset", "99999999999999")] }] },
    by decide +kernel, by decide +kernel⟩

end Feed

end DealWatch
