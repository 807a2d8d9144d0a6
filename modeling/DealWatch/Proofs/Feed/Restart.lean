import DealWatch.Proofs.Feed.Token

/-!
# Restarts

A client is called some times, and every time whatever is outside can be different: the clock, the
replies and the files. Then another client with the same settings takes its token from the file.

* `Feed.Call` is a call of a client, `Feed.Called` says which clients there are after some calls;
* `Feed.writable_of_called` says that every token of such a client can be written;
* `Feed.restores_what_was_saved` concludes that the other client has the token that the last call
  wrote, unless it is past its end.

Only the last call decides what the file holds, so most of the history does not matter. What does is
that no token of the client has a count that is too long to be read or a time that cannot be shown:
`Call.leaves` keeps that through one call, and an induction over the calls through all of them. The
last call then gives the file, and `Auth.Writable.ofJson_toJson` reads it back.

A call can make the directory for the token file and fail after that, if the token has halves of
surrogate pairs. That token is lost at a restart, as are those of other calls that fail.
-/

namespace DealWatch

namespace Feed

/-- A call: the client before, what was outside when the last part of the call began, whether the
call succeeded, the client after it and what is outside then. Time passes while a request is out. -/
inductive Call : Client → Outside → Bool → Client → Outside → Prop
  | authenticate {c c' : Client} {o o' : Outside} {x : Outcome Unit} :
      authenticate.runWith c o = (x, c', o') → Call c o x.isOk c' o'
  | refused {c c' : Client} {o o' : Outside} {subreddit : String} {pageSize : Int} {e : Failure} :
      (ask subreddit pageSize).runWith c o = (.error e, c', o') → Call c o false c' o'
  | fetch {c c₁ c' : Client} {o₀ o₁ o o' : Outside} {subreddit : String} {pageSize : Int}
      {request : Request} {reply : Reply} {x : Outcome (List Listing)} :
      (ask subreddit pageSize).runWith c o₀ = (.ok (request, reply), c₁, o₁) →
      (hear subreddit request reply).runWith c₁ o = (x, c', o') → Call c o x.isOk c' o'

/-- Fetching at one moment is such a call. -/
theorem call_of_fetch {c c' : Client} {o o' : Outside} {subreddit : String} {pageSize : Int}
    {x : Outcome (List Listing)} (h : (fetch subreddit pageSize).runWith c o = (x, c', o')) :
    ∃ o₁, o₁.files = o.files ∧ o₁.now = o.now ∧ Call c o₁ x.isOk c' o' := by
  rw [fetch_eq, Act.runWith_bind] at h
  obtain ⟨y, o₁, hask, hfiles, hnow, -⟩ := ask_run subreddit pageSize c o
  cases y with
  | error e =>
    rw [hask] at h
    cases h
    exact ⟨o, rfl, rfl, .refused hask⟩
  | ok rr =>
    rw [hask] at h
    exact ⟨o₁, hfiles, hnow, .fetch hask h⟩

/-- The clients with some settings after any number of calls. -/
inductive Called (s : FeedSettings) : Client → Prop
  | new : Called s ⟨s, none⟩
  | call {c c' : Client} {o o' : Outside} {succeeded : Bool} :
      Called s c → Call c o succeeded c' o' → Called s c'

variable {s : FeedSettings} {c c' : Client} {o o' : Outside} {succeeded : Bool}

/-- What a call leaves: the files as they were, or with the directory for the token file if the call
failed, or with the token that the client has then. -/
structure Leaves (c : Client) (o : Outside) (succeeded : Bool) (c' : Client) (o' : Outside) :
    Prop where
  settings : c'.settings = c.settings
  /-- Every token of the client can be written, if it could be before. -/
  writable : (∀ a, c.auth = some a → a.Writable) → ∀ a, c'.auth = some a → a.Writable
  files : succeeded = false ∧ (o'.files = o.files ∨ o'.files = prepared c.settings o.files) ∨
    ∃ a, c'.auth = some a ∧ saved c.settings a o.files = .ok o'.files

theorem Saves.leaves {α : Type} {P : Auth → Prop} {x : Outcome α}
    (hP : (∀ a, c.auth = some a → a.Writable) → ∀ a, P a → a.Writable)
    (h : Saves P c o.files (x, c', o')) : Leaves c o x.isOk c' o' := by
  cases h with
  | failed hunsaved hfiles =>
    obtain rfl | ⟨a, ha, rfl⟩ := hunsaved
    · exact ⟨rfl, id, .inl ⟨rfl, .inl hfiles⟩⟩
    · refine ⟨rfl, fun hc a' ha' => ?_, .inl ⟨rfl, .inl hfiles⟩⟩
      cases ha'
      exact hP hc a ha
  | @unsaved _ a _ ha _ hfiles =>
    refine ⟨rfl, fun hc a' ha' => ?_, .inl ⟨rfl, .inr hfiles⟩⟩
    cases ha'
    exact hP hc a ha
  | @saved _ a _ ha hsaved =>
    refine ⟨rfl, fun hc a' ha' => ?_, .inr ⟨a, rfl, hsaved⟩⟩
    cases ha'
    exact hP hc a ha

/-- **One call** that does not fail leaves the token that the client has then in its file. -/
theorem Call.leaves (h : Call c o succeeded c' o') : Leaves c o succeeded c' o' := by
  cases h with
  | authenticate hrun =>
    have hsaves := authenticate_saves c o
    rw [hrun] at hsaves
    exact hsaves.leaves fun _ a ha => Issued.writable ha
  -- without a request, or without a reply, nothing changes
  | @refused _ _ _ subreddit pageSize e hrun =>
    obtain ⟨x, o₁, hask, hfiles, -, -⟩ := ask_run subreddit pageSize c o
    rw [hrun] at hask
    cases hask
    exact ⟨rfl, id, .inl ⟨rfl, .inl hfiles⟩⟩
  | @fetch c₁ _ o₀ o₁ _ _ subreddit pageSize request reply x hask hhear =>
    obtain ⟨y, o₂, hask', -, -, hasks⟩ := ask_run subreddit pageSize c o₀
    rw [hask] at hask'
    cases hask'
    obtain ⟨⟨_, hfailed⟩, -⟩ | ⟨a₀, _, ha₀, -⟩ := hasks
    · cases hfailed
    have hsaves := hear_saves ha₀ subreddit request reply o
    rw [hhear] at hsaves
    exact hsaves.leaves fun hc a ha => Reported.writable ha (hc a₀ ha₀)

/-- **All calls** keep the settings, and every token can be written. -/
theorem writable_of_called (h : Called s c) :
    c.settings = s ∧ ∀ a, c.auth = some a → a.Writable := by
  induction h with
  | new => exact ⟨rfl, fun a ha => by cases ha⟩
  | call _ hcall ih =>
    have hleaves := hcall.leaves
    exact ⟨hleaves.settings.trans ih.1, hleaves.writable ih.2⟩

theorem tokenText_eq_ok {a : Auth} {text : String} :
    tokenText a = .ok text ↔ a.fault = none ∧ text = a.toJson := by
  unfold tokenText
  cases a.fault with
  | some fault => simp
  | none => simp [eq_comm]

/-- A token that was saved can be encoded and is in its file. -/
theorem readText_of_saved {a : Auth} {fs fs' : Files} (ha : a.Writable)
    (h : saved s a fs = .ok fs') : a.fault = none ∧
      fs'.contains s.tokenFile = true ∧ fs'.readText s.tokenFile = .ok a.toJson := by
  obtain ⟨fs₁, -, h⟩ := Outcome.bind_eq_ok.1 h
  obtain ⟨text, htext, hwrite⟩ := Outcome.bind_eq_ok.1 h
  obtain ⟨hfault, rfl⟩ := tokenText_eq_ok.1 htext
  refine ⟨hfault, Files.readText_of_writeText ?_ hwrite⟩
  rw [Auth.toJson_eq]
  exact Json.not_mem_write ha.plain

/-- **A token outlives a restart.** Whatever calls a client made, and whatever the replies, the
clock and the files were each time: the last call fails and leaves the files as they were, or with
no more than the directory for the token file, or it leaves the token that the client has then in
its file. Then a new client with the same settings has that token, if it takes it from the file
before the token is past its end, and otherwise none. -/
theorem restores_what_was_saved (hcalled : Called s c) (hcall : Call c o succeeded c' o') :
    succeeded = false ∧ (o'.files = o.files ∨ o'.files = prepared s o.files) ∨
      ∃ a expires, c'.auth = some a ∧ a.expiresAt.instant? = some expires ∧
        o'.files.readText s.tokenFile = .ok a.toJson ∧
        ∀ o₁, o₁.files = o'.files → ∃ o₂, restore.runWith ⟨s, none⟩ o₁ =
          (.ok (), ⟨s, if o₁.now < expires then some a else none⟩, o₂) := by
  obtain ⟨hsettings, hwritable⟩ := writable_of_called hcalled
  have hleaves := hcall.leaves
  obtain hfailed | ⟨a, hauth, hsaved⟩ := hleaves.files
  · exact .inl (hsettings ▸ hfailed)
  · -- the token that was saved can be read back, and so can its end
    have ha := hleaves.writable hwritable a hauth
    obtain ⟨micros, hshown, -⟩ := ha.expiresAt
    have hexpires : a.expiresAt.instant? = some micros := by
      rw [hshown]
      simp [Timestamp.utc, Timestamp.instant?]
    rw [hsettings] at hsaved
    obtain ⟨hfault, hthere, htext⟩ := readText_of_saved ha hsaved
    refine .inr ⟨a, micros, hauth, hexpires, htext, fun o₁ hfiles => ?_⟩
    rw [← hfiles] at hthere htext
    obtain ⟨o₂, hrun⟩ := restore_run (c := ⟨s, none⟩) ha hfault hthere htext hexpires
    refine ⟨o₂, ?_⟩
    rw [hrun]
    split <;> rfl

/-- Anyone who asks for a token, with a quote, a line end and a letter outside ASCII in it, and then
starts again has it for an hour. -/
theorem restores_what_was_saved_new :
    ∃ (s : FeedSettings) (o o' : Outside) (c' : Client) (a : Auth),
      authenticate.runWith ⟨s, none⟩ o = (.ok (), c', o') ∧ a.accessToken = "t\"\r\u00f6" ∧
      (∃ o₂, restore.runWith ⟨s, none⟩ { o' with now := 0 } = (.ok (), ⟨s, some a⟩, o₂)) ∧
      ∃ o₂, restore.runWith ⟨s, none⟩ { o' with now := 3600 * microsPerSecond } =
        (.ok (), ⟨s, none⟩, o₂) := by
  obtain ⟨a, ha⟩ : ∃ a : Auth, a = ⟨"t\"\r\u00f6", .utc (3600 * microsPerSecond), 0, 1,
    .utc (3600 * microsPerSecond), none⟩ := ⟨_, rfl⟩
  let s : FeedSettings := { tokenFile := Path.ofText "token.json" }
  let fs : Files := ⟨⟨"/", ["data"]⟩, []⟩
  let body : Datum := .dict
    [(.text "access_token", .text "t\"\r\u00f6"), (.text "expires_in", .int 3600)]
  let o : Outside :=
    { (default : Outside) with now := 0, files := fs, replies := [.ok { body := .document body }] }
  have htoken : tokenOf body (.utc 0) = .ok a := ha ▸ rfl
  obtain ⟨url, hurl⟩ : ∃ url, resolve s.authHost "access_token" = .ok url := by
    have hok : (resolve s.authHost "access_token").toOption.isSome = true := by decide +kernel
    cases hresolve : resolve s.authHost "access_token" with
    | error e => rw [hresolve] at hok; cases hok
    | ok url => exact ⟨url, rfl⟩
  -- nothing stands at the path yet, and its directory is there
  have hnul : s.tokenFile.hasNul = false := Path.hasNul_eq_false (by decide +kernel)
  have hnone : fs.find? s.tokenFile = none := by
    rw [Files.find?, hnul]
    rfl
  have htext : tokenText a = .ok a.toJson := tokenText_eq_ok.2 ⟨by rw [ha], rfl⟩
  have hsaved : saved s a fs = .ok (fs.put s.tokenFile (.file (utf8 a.toJson))) := by
    rw [saved, htext]
    exact Files.writeText_eq hnul hnone a.toJson
  obtain ⟨o₁, hbrought, hfiles⟩ :=
    authenticate_run (c := ⟨s, none⟩) (o := o) hurl rfl rfl rfl htoken
  obtain ⟨journal, hkept⟩ := saveToken_run a ⟨s, some a⟩ o₁
  have hfs : o₁.files = fs := hfiles
  simp only [hfs, hsaved] at hkept
  obtain ⟨o', hrun⟩ : ∃ o', authenticate.runWith ⟨s, none⟩ o = (.ok (), ⟨s, some a⟩, o') :=
    ⟨_, hbrought.trans hkept⟩
  obtain hfailed | ⟨a', expires, hauth, hexpires, -, hrestore⟩ :=
    restores_what_was_saved .new (.authenticate hrun)
  · cases hfailed.1
  · obtain rfl := Option.some.inj hauth
    have hend : expires = 3600 * microsPerSecond := by
      rw [ha] at hexpires
      exact (Option.some.inj hexpires).symm
    have hlater (now : Int) : ∃ o₂, restore.runWith ⟨s, none⟩ { o' with now } =
        (.ok (), ⟨s, if now < 3600 * microsPerSecond then some a else none⟩, o₂) :=
      hend ▸ hrestore { o' with now } rfl
    exact ⟨s, o, o', _, a, hrun, by rw [ha], hlater 0, hlater (3600 * microsPerSecond)⟩

end Feed

end DealWatch
