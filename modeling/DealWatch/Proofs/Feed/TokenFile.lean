import DealWatch.Proofs.Data.Verdict
import DealWatch.Proofs.Feed.Client
import DealWatch.Proofs.Outside.Files

/-!
# What a client takes from any file

At a restart there may be anything in the place of the token file. A token is taken only if it is
written there and not past its end. Most of what else may be found is passed over, but a file
without a text ends the look with a failure, and so does a token that expires at a time without a
zone.

* `Auth.Describes` says field by field which token a dictionary describes, `Auth.WrittenIn` which
  one a text does;
* `Feed.CurrentIn` is a token that is to be taken from what stands at a path, `Feed.Unreadable` what
  makes looking for it fail;
* `Feed.restore_takes_current` says that these are all that matters.

What is found is split first: nothing, something without a text, or a text. Only for a text does the
reader of tokens run, and there `ofJson_eq_accepted` turns it into `WrittenIn`, which says what the
text has to be. A text writes at most one token (`TokenIn.unique`), so the three ways in which a
look can end (`Looks.nothing`, `Looks.failed`, `Looks.taken`) exclude each other.

Halves of surrogate pairs and too many levels make a text write no token at all, wherever in it they
are. That is checked before repeated keys are merged, so a value that a later one replaces counts.
-/

namespace DealWatch

namespace Auth

/-- The token that a dictionary describes. The counts may be absent. -/
structure Describes (es : Entries) (a : Auth) : Prop where
  accessToken : FieldSays es "access_token" Check.text none a.accessToken
  expiresAt : FieldSays es "expires_at" Check.time none a.expiresAt
  used : FieldSays es "ratelimit_used" Check.int (some 0) a.used
  remaining : FieldSays es "ratelimit_remaining" Check.int (some assumedRemaining) a.remaining
  resetAt : FieldSays es "ratelimit_reset_at" Check.time none a.resetAt
  fault : a.fault = none

/-- A text writes a value that is not too deep and has no halves of surrogate pairs, also where a
key is repeated, and it is a dictionary that describes a token by the last values of its keys. -/
def WrittenIn (text : String) (a : Auth) : Prop :=
  ∃ d es, Json.readAll text.toList = .ok d ∧ Json.hasUnpaired d = false ∧
    Json.levelsOf d ≤ maxLevels ∧ Json.withoutRepeats d = .dict es ∧ Describes es a

theorem check_eq_accepted {es : Entries} {a : Auth} :
    check (.dict es) = .accepted a ↔ Describes es a := by
  simp only [check, Check.fields, Verdict.seq_eq_accepted, Verdict.map_eq_accepted,
    Fields.required_eq_accepted, Fields.withDefault_eq_accepted]
  constructor
  · rintro ⟨_, fault, ⟨_, resetAt, ⟨_, remaining, ⟨_, used, ⟨_, expiresAt, ⟨accessToken, haccess,
      rfl⟩, hexpires, rfl⟩, hused, rfl⟩, hremaining, rfl⟩, hreset, rfl⟩, hfault, rfl⟩
    exact ⟨haccess, hexpires, hused, hremaining, hreset, (Verdict.accepted.inj hfault).symm⟩
  · rintro ⟨haccess, hexpires, hused, hremaining, hreset, hfault⟩
    exact ⟨_, none, ⟨_, _, ⟨_, _, ⟨_, _, ⟨_, _, ⟨_, haccess, rfl⟩, hexpires, rfl⟩, hused, rfl⟩,
      hremaining, rfl⟩, hreset, rfl⟩, rfl, by rw [← hfault]⟩

theorem exists_dict_of_check {d : Datum} {a : Auth} (h : check d = .accepted a) :
    ∃ es, d = .dict es := by
  cases d with
  | dict es => exact ⟨es, rfl⟩
  | _ => cases h

/-- **The text of a token** is accepted as the token that it describes. -/
theorem ofJson_eq_accepted {text : String} {a : Auth} :
    ofJson text = .accepted a ↔ WrittenIn text a := by
  unfold ofJson WrittenIn
  cases hread : Json.readAll text.toList with
  | error e => simp [Verdict.refuse]
  | ok d =>
    simp only [Except.ok.injEq]
    constructor
    · intro h
      split at h
      · cases h
      · rename_i hfits
        obtain ⟨es, hes⟩ := exists_dict_of_check h
        rw [Bool.or_eq_true, decide_eq_true_eq, not_or, Bool.not_eq_true, Nat.not_lt] at hfits
        rw [hes] at h
        exact ⟨d, es, rfl, hfits.1, hfits.2, hes, check_eq_accepted.1 h⟩
    · rintro ⟨d', es, rfl, hpaired, hlevels, hes, hdescribes⟩
      rw [if_neg (by simp [hpaired, hlevels]), hes]
      exact check_eq_accepted.2 hdescribes

end Auth

namespace Feed

/-! ### What may stand at the path -/

/-- A token is written in the file that was found. -/
def TokenIn (found : Option Node) (a : Auth) : Prop :=
  ∃ bytes text, found = some (.file bytes) ∧ fileText? bytes = some text ∧ a.WrittenIn text

/-- A token is written in the file that was found, and it expires later. -/
def CurrentIn (found : Option Node) (now : Int) (a : Auth) : Prop :=
  TokenIn found a ∧ ∃ expires, a.expiresAt.instant? = some expires ∧ now < expires

/-- What has no text, and how reading it fails. -/
inductive Textless (path : Path) : Node → Failure → Prop
  | folder : Textless path .folder (.isDirectory path.toText)
  | file {bytes : List UInt8} : fileText? bytes = none → Textless path (.file bytes) .undecodable
  | database {tables : Option Store} : Textless path (.database tables) .undecodable

/-- What makes looking for a token fail, if it stands at a path. -/
inductive Unreadable (path : Path) (found : Option Node) : Failure → Prop
  | textless {node : Node} {e : Failure} : found = some node → Textless path node e →
      Unreadable path found e
  /-- The end of the token has no zone. -/
  | zoneless {a : Auth} : TokenIn found a → a.expiresAt.instant? = none →
      Unreadable path found .mixedZones

section Textless

variable {path : Path} {node : Node} {e e' : Failure}

theorem Textless.unique (h : Textless path node e) (h' : Textless path node e') : e' = e := by
  cases h <;> cases h' <;> rfl

theorem textless_or_text (path : Path) (node : Node) :
    (∃ e, Textless path node e) ∨
      ∃ bytes text, node = .file bytes ∧ fileText? bytes = some text := by
  cases node with
  | folder => exact .inl ⟨_, .folder⟩
  | database tables => exact .inl ⟨_, .database⟩
  | file bytes =>
    cases htext : fileText? bytes with
    | none => exact .inl ⟨_, .file htext⟩
    | some text => exact .inr ⟨bytes, text, rfl, htext⟩

theorem Textless.readText_eq {fs : Files} (h : Textless path node e)
    (hfound : fs.find? path = some node) : fs.readText path = .error e := by
  cases h with
  | folder => simp only [Files.readText, Files.readBytes, hfound, bind, Except.bind]
  | file htext => simp only [Files.readText, Files.readBytes, hfound, bind, Except.bind, htext]
  | database => simp only [Files.readText, Files.readBytes, hfound, bind, Except.bind]

theorem Textless.not_tokenIn (h : Textless path node e) (a : Auth) : ¬ TokenIn (some node) a := by
  rintro ⟨bytes, text, ⟨⟩, htext, -⟩
  cases h with
  | file hnone =>
    rw [hnone] at htext
    cases htext

end Textless

/-- The tokens in a file with a text are those that the text is accepted as. -/
theorem tokenIn_file {bytes : List UInt8} {text : String} {a : Auth}
    (htext : fileText? bytes = some text) :
    TokenIn (some (.file bytes)) a ↔ Auth.ofJson text = .accepted a := by
  rw [Auth.ofJson_eq_accepted]
  constructor
  · rintro ⟨_, _, ⟨⟩, htext', hwritten⟩
    rw [htext] at htext'
    cases htext'
    exact hwritten
  · exact fun hwritten => ⟨bytes, text, rfl, htext, hwritten⟩

theorem TokenIn.unique {found : Option Node} {a a' : Auth} (h : TokenIn found a)
    (h' : TokenIn found a') : a' = a := by
  obtain ⟨bytes, text, rfl, htext, -⟩ := id h
  rw [tokenIn_file htext] at h h'
  rw [h] at h'
  cases h'
  rfl

/-- In a file with a text, only a token without a zone makes the look fail. -/
theorem Unreadable.exists_zoneless {path : Path} {bytes : List UInt8} {text : String} {e : Failure}
    (h : Unreadable path (some (.file bytes)) e) (htext : fileText? bytes = some text) :
    e = .mixedZones ∧ ∃ a, TokenIn (some (.file bytes)) a ∧ a.expiresAt.instant? = none := by
  cases h with
  | textless hnode hnone =>
    cases hnode
    cases hnone with
    | file hnone =>
      rw [htext] at hnone
      cases hnone
  | zoneless ha hexpires => exact ⟨rfl, _, ha, hexpires⟩

/-! ### Looking for a token -/

section Runs

variable {c : Client} {o : Outside}

theorem restore_of_absent (h : o.files.find? c.settings.tokenFile = none) :
    ∃ o', restore.runWith c o = (.ok (), c, o') ∧ o'.files = o.files := by
  have hthere : o.files.contains c.settings.tokenFile = false := by rw [Files.contains, h]; rfl
  rw [restore, Act.runWith_bind_ok (Act.runWith_state c o),
    Act.runWith_bind_ok (Act.runWith_files c o), hthere]
  exact ⟨_, rfl, rfl⟩

theorem restore_of_unread {node : Node} {e : Failure}
    (h : o.files.find? c.settings.tokenFile = some node)
    (hread : o.files.readText c.settings.tokenFile = .error e) :
    restore.runWith c o = (.error e, c, o) := by
  have hthere : o.files.contains c.settings.tokenFile = true := by rw [Files.contains, h]; rfl
  rw [restore, Act.runWith_bind_ok (Act.runWith_state c o),
    Act.runWith_bind_ok (Act.runWith_files c o), hthere, hread]
  rfl

/-- A text is passed over if it describes no token. A token in it is compared with the clock, for
which it needs a zone, and taken if it expires later. -/
theorem restore_of_text {text : String}
    (hthere : o.files.contains c.settings.tokenFile = true)
    (hread : o.files.readText c.settings.tokenFile = .ok text) :
    ∃ o', (restore.runWith c o =
      match Auth.ofJson text with
      | .rejected _ => (.ok (), c, o')
      | .accepted a =>
        match a.expiresAt.instant? with
        | none => (.error .mixedZones, c, o')
        | some expires =>
          (.ok (), if o.now < expires then { c with auth := some a } else c, o')) ∧
      o'.files = o.files := by
  have hnow : (Timestamp.utc o.now).instant? = some o.now := by
    simp [Timestamp.utc, Timestamp.instant?]
  rw [restore, Act.runWith_bind_ok (Act.runWith_state c o),
    Act.runWith_bind_ok (Act.runWith_files c o), hthere]
  simp only [Bool.not_true, Bool.false_eq_true, if_false, Act.runWith_bind, Act.runWith_ofOutcome,
    hread]
  cases Auth.ofJson text with
  | rejected ps => exact ⟨_, rfl, rfl⟩
  | accepted a =>
    simp only [Act.runWith_bind, Act.runWith_ofOutcome, currentTime_run, isBefore,
      Timestamp.isBefore?, hnow]
    cases a.expiresAt.instant? with
    | none => exact ⟨_, rfl, rfl⟩
    | some expires =>
      by_cases hlater : o.now < expires
      · simp only [hlater, decide_true, if_true, Act.runWith_bind, Act.runWith_put, Act.runWith_log]
        exact ⟨_, rfl, rfl⟩
      · simp only [hlater, decide_false, Bool.false_eq_true, if_false, Act.runWith_log]
        exact ⟨_, rfl, rfl⟩

end Runs

/-! ### All that matters -/

/-- What a client makes of what was found in the place of the token file. -/
structure Looks (c : Client) (o : Outside) (found : Option Node)
    (run : Outcome Unit × Client × Outside) : Prop where
  files : run.2.2.files = o.files
  takes : ∀ a, CurrentIn found o.now a → run.1 = .ok () ∧ run.2.1 = { c with auth := some a }
  leaves : (∀ a, ¬ CurrentIn found o.now a) → run.2.1 = c
  fails : ∀ e, run.1 = .error e ↔ Unreadable c.settings.tokenFile found e

section Looks

variable {c : Client} {o o' : Outside} {found : Option Node}

/-- Nothing is taken and nothing is wrong. -/
theorem Looks.nothing (hfiles : o'.files = o.files) (hnone : ∀ a, ¬ CurrentIn found o.now a)
    (hfine : ∀ e, ¬ Unreadable c.settings.tokenFile found e) :
    Looks c o found (.ok (), c, o') where
  files := hfiles
  takes a ha := absurd ha (hnone a)
  leaves _ := rfl
  fails e := ⟨nofun, fun h => absurd h (hfine e)⟩

/-- Nothing is taken because something is wrong. -/
theorem Looks.failed {e : Failure} (hfiles : o'.files = o.files)
    (hnone : ∀ a, ¬ CurrentIn found o.now a)
    (hwrong : ∀ e', e = e' ↔ Unreadable c.settings.tokenFile found e') :
    Looks c o found (.error e, c, o') where
  files := hfiles
  takes a ha := absurd ha (hnone a)
  leaves _ := rfl
  fails e' := by rw [← hwrong, Except.error.injEq]

/-- A token is taken. -/
theorem Looks.taken {a : Auth} (hfiles : o'.files = o.files) (ha : CurrentIn found o.now a)
    (hfine : ∀ e, ¬ Unreadable c.settings.tokenFile found e) :
    Looks c o found (.ok (), { c with auth := some a }, o') where
  files := hfiles
  takes a' ha' := by
    obtain rfl := ha.1.unique ha'.1
    exact ⟨rfl, rfl⟩
  leaves hnone := absurd ha (hnone a)
  fails e := ⟨nofun, fun h => absurd h (hfine e)⟩

/-- What is made of a file with a text. -/
theorem looks_of_text {bytes : List UInt8} {text : String}
    (hfound : o.files.find? c.settings.tokenFile = some (.file bytes))
    (htext : fileText? bytes = some text) :
    Looks c o (some (.file bytes)) (restore.runWith c o) := by
  have hthere : o.files.contains c.settings.tokenFile = true := by rw [Files.contains, hfound]; rfl
  have hread : o.files.readText c.settings.tokenFile = .ok text := by
    simp only [Files.readText, Files.readBytes, hfound, bind, Except.bind, htext]
    rfl
  obtain ⟨o', hrun, hfiles⟩ := restore_of_text hthere hread
  cases htoken : Auth.ofJson text with
  | rejected ps =>
    have hno (a : Auth) (ha : TokenIn (some (.file bytes)) a) : False := by
      rw [tokenIn_file htext, htoken] at ha
      cases ha
    simp only [htoken] at hrun
    rw [hrun]
    refine .nothing hfiles (fun a h => hno a h.1) fun e h => ?_
    obtain ⟨-, a, ha, -⟩ := h.exists_zoneless htext
    exact hno a ha
  | accepted a =>
    have ha : TokenIn (some (.file bytes)) a := (tokenIn_file htext).2 htoken
    simp only [htoken] at hrun
    cases hexpires : a.expiresAt.instant? with
    | none =>
      simp only [hexpires] at hrun
      rw [hrun]
      refine .failed hfiles (fun a' h => ?_) fun e =>
        ⟨?_, fun h => (h.exists_zoneless htext).1.symm⟩
      · obtain ⟨ha', expires, hexpires', -⟩ := h
        rw [ha.unique ha', hexpires] at hexpires'
        cases hexpires'
      · rintro rfl
        exact .zoneless ha hexpires
    | some expires =>
      have hfine (e : Failure) : ¬ Unreadable c.settings.tokenFile (some (.file bytes)) e := by
        intro h
        obtain ⟨-, a', ha', hnone⟩ := h.exists_zoneless htext
        rw [ha.unique ha', hexpires] at hnone
        cases hnone
      simp only [hexpires] at hrun
      by_cases hlater : o.now < expires
      · rw [hrun, if_pos hlater]
        exact .taken hfiles ⟨ha, expires, hexpires, hlater⟩ hfine
      · rw [hrun, if_neg hlater]
        refine .nothing hfiles (fun a' h => ?_) hfine
        obtain ⟨ha', expires', hexpires', hlater'⟩ := h
        rw [ha.unique ha', hexpires] at hexpires'
        cases hexpires'
        exact hlater hlater'

/-- What is made of something that has no text. -/
theorem looks_of_textless {node : Node} {e : Failure}
    (hfound : o.files.find? c.settings.tokenFile = some node)
    (h : Textless c.settings.tokenFile node e) : Looks c o (some node) (restore.runWith c o) := by
  rw [restore_of_unread hfound (h.readText_eq hfound)]
  refine .failed rfl (fun a ha => h.not_tokenIn a ha.1) fun e' => ⟨?_, fun hwrong => ?_⟩
  · rintro rfl
    exact .textless rfl h
  · cases hwrong with
    | textless hnode h' =>
      cases hnode
      exact h'.unique h
    | zoneless ha => exact absurd ha (h.not_tokenIn _)

end Looks

end Feed

end DealWatch
