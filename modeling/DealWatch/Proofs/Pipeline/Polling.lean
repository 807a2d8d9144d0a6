import DealWatch.Pipeline.Ingestion
import DealWatch.Proofs.Feed.Token
import DealWatch.Proofs.Number.Rounding
import Mathlib.Logic.Relation

/-!
# Polling within the quota

The stage takes its token from the file, and then polls and waits in turn. Time passes all along, at
no known rate, and what is outside can be anything at each step.

* `Polling` is a run of the stage at one moment, `Polling.Step` what can happen next;
* `Polling.steps_of_start` and `Polling.steps_of_pollAndDeliver` say that the stage is such a run;
* `Polling.OutOfQuota` says that nothing of the quota is left and it is not renewed yet;
* `Polling.Heedful` is the invariant: after a wait the quota is renewed;
* `Polling.asks_within_quota` concludes that only the first request of a run, and one after a wait
  of centuries, can be sent out of quota, and that the first one is sent regardless.

The invariant says for each phase what is known of the quota there. A wait is as long as the time to
the renewal, rounded to seconds, and the rounding never loses a microsecond of a wait that is not
centuries long; so when it is over the quota is covered. A new token has requests left. Only after
the file is read, before the first poll, is nothing known, and that is where the request out of
quota comes from.
-/

namespace DealWatch

open Relation (ReflTransGen)

/-- What a run of the stage does next. -/
inductive PollingPhase where
  | starting
  | checking
  | asking
  | hearing (request : Request) (reply : Reply)
  | waiting
  | sleeping (seconds : Binary64)

/-- A run of the stage at one moment. -/
structure Polling where
  client : Feed.Client
  phase : PollingPhase
  /-- The microseconds since the start of 1970. -/
  now : Int
  /-- The requests for listings so far. -/
  asked : Nat
  /-- When the last wait began, or the run itself. -/
  since : Int

namespace Polling

/-- A run at its start. -/
def initial (c : Feed.Client) (now : Int) : Polling := ⟨c, .starting, now, 0, now⟩

/-- What can happen next in a run, as long as nothing fails. -/
inductive Step : Polling → Polling → Prop
  /-- Time passes. -/
  | tick {p : Polling} {t : Int} : p.now ≤ t → Step p { p with now := t }
  /-- The token is taken from the file. -/
  | restore {p : Polling} {o o' : Outside} {c : Feed.Client} : p.phase = .starting →
      o.now = p.now → Feed.restore.runWith p.client o = (.ok (), c, o') →
      Step p { p with client := c, phase := .checking }
  /-- The token is not past its end. -/
  | current {p : Polling} {o o' : Outside} {c : Feed.Client} : p.phase = .checking →
      o.now = p.now → Feed.needsToken.runWith p.client o = (.ok false, c, o') →
      Step p { p with client := c, phase := .asking }
  /-- There is no token or it is past its end, and a new one is brought. -/
  | renew {p : Polling} {o o' o₁ o₂ : Outside} {c c' : Feed.Client} : p.phase = .checking →
      o.now = p.now → Feed.needsToken.runWith p.client o = (.ok true, c, o') →
      p.now ≤ o₁.now → Feed.authenticate.runWith c o₁ = (.ok (), c', o₂) →
      Step p { p with client := c', phase := .asking, now := o₁.now }
  /-- Listings are asked for. -/
  | ask {p : Polling} {o o' : Outside} {c : Feed.Client} {subreddit : String} {pageSize : Int}
      {request : Request} {reply : Reply} : p.phase = .asking → o.now = p.now →
      (Feed.ask subreddit pageSize).runWith p.client o = (.ok (request, reply), c, o') →
      Step p { p with client := c, phase := .hearing request reply, asked := p.asked + 1 }
  /-- The reply brings listings and a report about the quota. -/
  | hear {p : Polling} {o o' : Outside} {c : Feed.Client} {subreddit : String} {request : Request}
      {reply : Reply} {listings : List Listing} : p.phase = .hearing request reply →
      o.now = p.now → (Feed.hear subreddit request reply).runWith p.client o =
        (.ok listings, c, o') →
      Step p { p with client := c, phase := .waiting }
  /-- A wait begins. -/
  | wait {p : Polling} {o o' : Outside} {c : Feed.Client} {seconds : Binary64} :
      p.phase = .waiting → o.now = p.now → Feed.waitTime.runWith p.client o =
        (.ok seconds, c, o') →
      Step p { p with client := c, phase := .sleeping seconds, since := p.now }
  /-- The wait is over, not before its end. -/
  | wake {p : Polling} {seconds : Binary64} : p.phase = .sleeping seconds →
      seconds.SecondsWithin (p.now - p.since) → Step p { p with phase := .checking }

/-- Nothing of the quota is left, and it is not renewed yet. -/
def OutOfQuota (p : Polling) : Prop :=
  ∃ a reset, p.client.auth = some a ∧ a.remaining ≤ 0 ∧ a.resetAt.instant? = some reset ∧
    p.now < reset

/-! ### The invariant -/

/-- The client is as it was after its token was taken from the file in this run. -/
def Restored (c : Feed.Client) (start : Int) (p : Polling) : Prop :=
  ∃ o o', start ≤ o.now ∧ o.now ≤ p.now ∧ Feed.restore.runWith c o = (.ok (), p.client, o')

/-- If nothing of the quota is left, it is renewed, or it was a long time until then when the last
wait began. -/
def Covered (p : Polling) : Prop :=
  ∀ a reset, p.client.auth = some a → a.remaining ≤ 0 → a.resetAt.instant? = some reset →
    reset ≤ p.now ∨ longWait ≤ reset - p.since

/-- If nothing of the quota is left, the wait is for the quota. -/
def WaitsForQuota (p : Polling) (seconds : Binary64) : Prop :=
  ∀ a reset, p.client.auth = some a → a.remaining ≤ 0 → a.resetAt.instant? = some reset →
    seconds = secondsOfMicros (max (reset - p.since) 0)

/-- What the quota may be, by what is done next. -/
def Provides (c : Feed.Client) (start : Int) (p : Polling) : Prop :=
  match p.phase with
  | .starting => p.client = c ∧ p.asked = 0
  | .checking | .asking => p.asked = 0 ∧ p.Restored c start ∨ p.Covered
  | .hearing _ _ | .waiting => True
  | .sleeping seconds => p.WaitsForQuota seconds

/-- The invariant of a run that starts with a client at some time. -/
structure Heedful (c : Feed.Client) (start : Int) (p : Polling) : Prop where
  since : start ≤ p.since
  now : p.since ≤ p.now
  quota : p.Provides c start

variable {c : Feed.Client} {start : Int} {p q : Polling}

theorem Covered.tick (h : p.Covered) {t : Int} (ht : p.now ≤ t) :
    Covered { p with now := t } := by
  intro a reset ha hnone hreset
  obtain hover | hlong := h a reset ha hnone hreset
  · exact .inl (Int.le_trans hover ht)
  · exact .inr hlong

theorem Restored.tick (h : p.Restored c start) {t : Int} (ht : p.now ≤ t) :
    Restored c start { p with now := t } := by
  obtain ⟨o, o', hstart, hnow, hrun⟩ := h
  exact ⟨o, o', hstart, Int.le_trans hnow ht, hrun⟩

/-- A new token comes with some quota. -/
theorem covered_of_issued {a : Auth} (hauth : p.client.auth = some a) (ha : Feed.Issued a) :
    p.Covered := by
  intro a' reset ha' hnone _
  rw [hauth] at ha'
  obtain rfl := Option.some.inj ha'
  rw [ha.remaining, Auth.assumedRemaining] at hnone
  exact absurd hnone (by decide)

/-- After a wait for the quota, it is renewed. -/
theorem WaitsForQuota.covered {seconds : Binary64} (h : p.WaitsForQuota seconds)
    (hover : seconds.SecondsWithin (p.now - p.since)) : p.Covered := by
  intro a reset ha hnone hreset
  rw [h a reset ha hnone hreset] at hover
  by_cases hlong : longWait ≤ reset - p.since
  · exact .inr hlong
  · -- a short wait is not cut short by rounding its length to seconds
    have hpos : 0 < longWait := by decide
    have hwait := le_of_secondsWithin (by omega) (by omega) hover
    exact .inl (by omega)

/-! ### Runs -/

theorem heedful_initial (c : Feed.Client) (start : Int) : Heedful c start (initial c start) :=
  ⟨Int.le_refl _, Int.le_refl _, rfl, rfl⟩

theorem Heedful.tick (h : Heedful c start p) {t : Int} (ht : p.now ≤ t) :
    Heedful c start { p with now := t } := by
  refine ⟨h.since, Int.le_trans h.now ht, ?_⟩
  have hquota := h.quota
  obtain ⟨client, phase, now, asked, since⟩ := p
  cases phase with
  | checking => exact hquota.imp (fun ⟨hasked, hrest⟩ => ⟨hasked, hrest.tick ht⟩) (·.tick ht)
  | asking => exact hquota.imp (fun ⟨hasked, hrest⟩ => ⟨hasked, hrest.tick ht⟩) (·.tick ht)
  | _ => exact hquota

/-- **One step** keeps the invariant. -/
theorem Heedful.step (h : Heedful c start p) (hstep : Step p q) : Heedful c start q := by
  cases hstep with
  | tick ht => exact h.tick ht
  | restore hphase hnow hrun =>
    have hquota := h.quota
    rw [Provides, hphase] at hquota
    obtain ⟨hclient, hasked⟩ := hquota
    rw [hclient] at hrun
    refine ⟨h.since, h.now, .inl ⟨hasked, _, _, ?_, Int.le_of_eq hnow, hrun⟩⟩
    rw [hnow]
    exact Int.le_trans h.since h.now
  | current hphase _ hrun =>
    have hquota := h.quota
    rw [Provides, hphase] at hquota
    rw [Feed.needsToken_run] at hrun
    obtain ⟨-, hclient, -⟩ : _ = Except.ok false ∧ p.client = _ ∧ _ = _ := by simpa using hrun
    subst hclient
    exact ⟨h.since, h.now, hquota⟩
  | @renew o o' o₁ o₂ c₁ c₂ _ _ _ hnow hrun =>
    have hsaves := Feed.authenticate_saves c₁ o₁
    rw [hrun] at hsaves
    cases hsaves with
    | saved ha _ => exact ⟨h.since, Int.le_trans h.now hnow, .inr (covered_of_issued rfl ha)⟩
  | ask _ _ _ => exact ⟨h.since, h.now, trivial⟩
  | hear _ _ _ => exact ⟨h.since, h.now, trivial⟩
  | wait _ hnow hrun =>
    obtain ⟨rfl, -, hwait⟩ := Feed.waitTime_run hrun
    refine ⟨Int.le_trans h.since h.now, Int.le_refl _, fun a reset ha hnone hreset => ?_⟩
    rw [hwait a reset ha hnone hreset, hnow]
  | wake hphase hover =>
    have hquota := h.quota
    rw [Provides, hphase] at hquota
    exact ⟨h.since, h.now, .inr (hquota.covered hover)⟩

/-- **All steps** keep the invariant. -/
theorem heedful_of_steps (h : ReflTransGen Step (initial c start) p) : Heedful c start p := by
  induction h with
  | refl => exact heedful_initial c start
  | tail _ hstep ih => exact ih.step hstep

/-! ### The stage -/

/-- Fetching is made of two steps. -/
theorem steps_of_fetch {c c' : Feed.Client} {o o' : Outside} {subreddit : String} {pageSize : Int}
    {listings : List Listing}
    (hrun : (Feed.fetch subreddit pageSize).runWith c o = (.ok listings, c', o')) (n : Nat)
    (since : Int) :
    ReflTransGen Step ⟨c, .asking, o.now, n, since⟩ ⟨c', .waiting, o'.now, n + 1, since⟩ := by
  rw [Feed.fetch_eq] at hrun
  obtain ⟨⟨request, reply⟩, c₁, o₁, hask, hhear⟩ := Act.of_runWith_bind hrun
  obtain ⟨x, o₂, hask', -, hnow, -⟩ := Feed.ask_run subreddit pageSize c o
  rw [hask] at hask'
  cases hask'
  rw [(Feed.hear_keepsClock subreddit request reply).now_eq hhear, hnow]
  exact .tail (.single (.ask rfl rfl hask)) (.hear rfl hnow hhear)

/-- **A poll** of the stage is made of steps, from the check of the token to the listings. -/
theorem steps_of_poll {c c' : Feed.Client} {o o' : Outside} {listings : List Listing}
    (hrun : Ingestion.poll.runWith c o = (.ok listings, c', o')) (n : Nat) (since : Int) :
    ReflTransGen Step ⟨c, .checking, o.now, n, since⟩ ⟨c', .waiting, o'.now, n + 1, since⟩ := by
  obtain ⟨needed, c₁, o₁, hneeds, hrest⟩ := Act.of_runWith_bind hrun
  have hneeds' := hneeds
  rw [Feed.needsToken_run] at hneeds'
  obtain ⟨rfl, rfl⟩ := Prod.mk.inj (Prod.mk.inj hneeds').2
  cases needed with
  | false =>
    simp only [Bool.false_eq_true, if_false] at hrest
    obtain ⟨_, _, _, hstate, hfetch⟩ := Act.of_runWith_bind hrest
    cases hstate
    exact .head (.current rfl rfl hneeds) (steps_of_fetch hfetch n since)
  | true =>
    simp only [if_true] at hrest
    obtain ⟨_, _, _, hlog, hrest⟩ := Act.of_runWith_bind hrest
    cases hlog
    obtain ⟨_, c₂, o₂, hauth, hrest⟩ := Act.of_runWith_bind hrest
    obtain ⟨_, _, _, hstate, hfetch⟩ := Act.of_runWith_bind hrest
    cases hstate
    have hsteps := steps_of_fetch hfetch n since
    rw [Feed.authenticate_keepsClock.now_eq hauth] at hsteps
    refine .head (.renew rfl rfl hneeds ?_ hauth) hsteps
    exact Int.le_refl _

/-- What a stage that polls again and again does next: it waits, or it is about to. -/
def phaseOf : IngestionPhase → PollingPhase
  | .sleeping seconds => .sleeping seconds
  | _ => .waiting

/-- A step of the client, as a step of the stage. -/
theorem of_onClient {α : Type} {act : Feed.ClientAct α} {a : α} {s s' : Ingestion}
    {o o' : Outside} (h : (Ingestion.onClient act).runWith s o = (.ok a, s', o')) :
    ∃ c, act.runWith s.client o = (.ok a, c, o') ∧ s' = { s with client := c } := by
  rw [Ingestion.onClient, Act.runWith_within] at h
  generalize act.runWith s.client o = run at h
  obtain ⟨result, c, o₁⟩ := run
  cases h
  exact ⟨_, rfl, rfl⟩

theorem steps_of_finish {s s' : Ingestion} {o o' : Outside} {count : Nat}
    (hforever : s.forever = true)
    (hrun : (Ingestion.finish count).runWith s o = (.ok (), s', o')) (n : Nat) (since : Int) :
    ∃ since', ReflTransGen Step ⟨s.client, .waiting, o.now, n, since⟩
      ⟨s'.client, phaseOf s'.phase, o'.now, n, since'⟩ := by
  obtain ⟨_, _, _, hstate, hwaits⟩ := Act.of_runWith_bind hrun
  cases hstate
  rw [if_pos hforever] at hwaits
  obtain ⟨wait, _, o₁, hwait, hsleeps⟩ := Act.of_runWith_bind hwaits
  obtain ⟨c, hclient, rfl⟩ := of_onClient hwait
  cases hsleeps
  have hsame := (Feed.waitTime_run hclient).2.1
  rw [hsame]
  exact ⟨o.now, .single (.wait rfl rfl hclient)⟩

/-- Putting listings takes no step but to begin the wait, when all of them are put. -/
theorem steps_of_deliver {s s' : Ingestion} {o o' : Outside} {rest : List Listing} {count : Nat}
    (hforever : s.forever = true)
    (hrun : (Ingestion.deliver rest count).runWith s o = (.ok (), s', o')) (n : Nat) (since : Int) :
    ∃ since', ReflTransGen Step ⟨s.client, .waiting, o.now, n, since⟩
      ⟨s'.client, phaseOf s'.phase, o'.now, n, since'⟩ := by
  obtain ⟨_, _, _, hstate, hrun⟩ := Act.of_runWith_bind hrun
  cases hstate
  generalize s.outbox.putAll rest = put at hrun
  obtain ⟨outbox, woken, left⟩ := put
  simp only at hrun
  split at hrun
  · obtain ⟨_, _, _, hput, hrun⟩ := Act.of_runWith_bind hrun
    cases hput
    refine steps_of_finish ?_ hrun n since
    exact hforever
  · cases hrun
    exact ⟨since, .refl⟩

/-- **Polling and putting** of the stage is made of steps, at its start as well as after a wait. -/
theorem steps_of_pollAndDeliver {s s' : Ingestion} {o o' : Outside} (hforever : s.forever = true)
    (hrun : Ingestion.pollAndDeliver.runWith s o = (.ok (), s', o')) (n : Nat) (since : Int) :
    ∃ since', ReflTransGen Step ⟨s.client, .checking, o.now, n, since⟩
      ⟨s'.client, phaseOf s'.phase, o'.now, n + 1, since'⟩ := by
  obtain ⟨listings, _, o₁, hpoll, hrun⟩ := Act.of_runWith_bind hrun
  obtain ⟨c, hclient, rfl⟩ := of_onClient hpoll
  have hpolled := steps_of_poll hclient n since
  obtain ⟨since', hdelivered⟩ := steps_of_deliver (by exact hforever) hrun (n + 1) since
  exact ⟨since', hpolled.trans hdelivered⟩

/-- The start of the stage is made of steps. -/
theorem steps_of_start {s s' : Ingestion} {o o' : Outside}
    (hrun : (Ingestion.start true).runWith s o = (.ok (), s', o')) :
    ∃ since, ReflTransGen Step (initial s.client o.now)
      ⟨s'.client, phaseOf s'.phase, o'.now, 1, since⟩ := by
  obtain ⟨_, _, _, hstate, hrun⟩ := Act.of_runWith_bind hrun
  cases hstate
  obtain ⟨_, _, _, hput, hrun⟩ := Act.of_runWith_bind hrun
  cases hput
  obtain ⟨_, _, o₁, hrestore, hrun⟩ := Act.of_runWith_bind hrun
  obtain ⟨c, hclient, rfl⟩ := of_onClient hrestore
  have hrestored : Feed.restore.runWith s.client o = (.ok (), c, o₁) := hclient
  obtain ⟨since, hsteps⟩ := steps_of_pollAndDeliver rfl hrun 0 o.now
  rw [Feed.restore_keepsClock.now_eq hrestored] at hsteps
  exact ⟨since, .head (.restore rfl rfl hrestored) hsteps⟩

/-! ### Requests -/

/-- A token that is taken from the file is used at once, unless it is past its end. -/
theorem asks_after_restore {o o' : Outside} {c' : Feed.Client}
    (hrun : Feed.restore.runWith c o = (.ok (), c', o'))
    (hvalid : Feed.authExpired c'.auth (.utc o.now) = .ok false) :
    ReflTransGen Step (initial c o.now) ⟨c', .asking, o.now, 0, o.now⟩ := by
  refine .tail (.single (.restore rfl rfl hrun)) ?_
  exact .current (o := o) rfl rfl (by rw [Feed.needsToken_run, hvalid])

/-- **Requests within the quota.** Whatever is in the token file, whatever the replies are and
however time passes, listings are asked for while nothing of the quota is left and it is not renewed
only by the first request of a run, with the token that was taken from the file, or if the quota was
renewed only centuries after the last wait began. That first request is sent, whatever the file says
about the quota, if the token in it is not past its end. -/
theorem asks_within_quota (c : Feed.Client) (start : Int) :
    (∀ p, ReflTransGen Step (initial c start) p → p.phase = .asking → p.OutOfQuota →
      p.asked = 0 ∧ p.Restored c start ∨
        ∃ a reset, p.client.auth = some a ∧ a.resetAt.instant? = some reset ∧
          longWait ≤ reset - p.since) ∧
    ∀ o c' o', o.now = start → Feed.restore.runWith c o = (.ok (), c', o') →
      Feed.authExpired c'.auth (.utc start) = .ok false →
      ReflTransGen Step (initial c start) ⟨c', .asking, start, 0, start⟩ := by
  refine ⟨fun p hsteps hphase hout => ?_, ?_⟩
  · obtain ⟨a, reset, ha, hnone, hreset, hearly⟩ := hout
    have hquota := (heedful_of_steps hsteps).quota
    rw [Provides, hphase] at hquota
    obtain hfirst | hcovered := hquota
    · exact .inl hfirst
    · have hlong := (hcovered a reset ha hnone hreset).resolve_left (Int.not_le.2 hearly)
      exact .inr ⟨a, reset, ha, hreset, hlong⟩
  · rintro o c' o' rfl hrun hvalid
    exact asks_after_restore hrun hvalid

/-- The quota is used up and renewed in two minutes, says a token that is good for an hour. A run
that starts with it asks for listings at once. -/
theorem asks_out_of_quota :
    ∃ (c : Feed.Client) (start : Int) (p : Polling), ReflTransGen Step (initial c start) p ∧
      p.phase = .asking ∧ p.OutOfQuota := by
  let a : Auth := ⟨"tok", .utc (3600 * microsPerSecond), 600, 0, .utc (120 * microsPerSecond),
    none⟩
  let c : Feed.Client := ⟨{ tokenFile := Path.ofText "token.json" }, none⟩
  let fs : Files := ⟨⟨"/", ["data"]⟩, []⟩
  have ha : a.Writable :=
    ⟨⟨_, rfl, by decide⟩, ⟨_, rfl, by decide⟩, by decide +kernel, by decide +kernel⟩
  have hnul : c.settings.tokenFile.hasNul = false := Path.hasNul_eq_false (by decide +kernel)
  have hnone : fs.find? c.settings.tokenFile = none := by
    rw [Files.find?, hnul]
    rfl
  have hwrite := Files.writeText_eq hnul hnone a.toJson
  obtain ⟨hthere, htext⟩ := Files.readText_of_writeText (Json.not_mem_write ha.plain) hwrite
  obtain ⟨o, hfiles, hnow⟩ : ∃ o : Outside,
      o.files = fs.put c.settings.tokenFile (.file (utf8 a.toJson)) ∧ o.now = 0 :=
    ⟨{ (default : Outside) with now := 0, files := _ }, rfl, rfl⟩
  rw [← hfiles] at hthere htext
  obtain ⟨o', hrun⟩ := Feed.restore_run (o := o) (c := c) ha rfl hthere htext rfl
  rw [hnow, if_pos (by decide)] at hrun
  refine ⟨c, o.now, _, asks_after_restore hrun ?_, rfl, a, 120 * microsPerSecond, rfl, ?_, rfl, ?_⟩
  · rw [hnow]
    rfl
  · decide
  · rw [hnow]
    decide

end Polling

end DealWatch
