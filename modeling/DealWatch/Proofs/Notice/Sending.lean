import DealWatch.Proofs.Notice.Answer

/-!
# Sending group by group

Every reply to a message may report how many requests are left. What the notifier knows of the quota
is the last report, whatever else was wrong with the reply; once that report is that nothing is
left, no message is sent any more. Nor is one after a reply that is bad.

* `lastQuota` is the last report among some replies;
* `Heeds` says of a run that it knows the last report and sends no message while it is zero;
  `Heeds.andThen` puts two runs together;
* `Faults` says what is wrong with a reply, `Stops` how sending ends after some replies;
* `Goes` says of a run that it sends the first of the planned messages, up to the first fault;
  `sendChunks_goes` is the induction over the groups.

In the induction the first group is sent by itself (`execute_heeds`). If that fails, its reply has a
fault and the run ends there; otherwise the rest goes on with what is known then, and `Goes.after`
puts the first message in front.
-/

namespace DealWatch

namespace Webhook

/-! ### Reports -/

/-- The number of requests left that a reply reports. -/
def quota? : Outcome Reply → Option Int
  | .ok reply => (reply.header? "X-RateLimit-Remaining").bind readInt?
  | .error _ => none

/-- The last report among some replies, or what was known before them. -/
def lastQuota (before : Option Int) (replies : List (Outcome Reply)) : Option Int :=
  (replies.filterMap quota?).getLast?.or before

theorem lastQuota_append (before : Option Int) (replies replies' : List (Outcome Reply)) :
    lastQuota before (replies ++ replies') = lastQuota (lastQuota before replies) replies' := by
  rw [lastQuota, lastQuota, lastQuota, List.filterMap_append, List.getLast?_append, Option.or_assoc]

theorem lastQuota_single (before : Option Int) (reply : Outcome Reply) :
    lastQuota before [reply] = (quota? reply).or before := by
  cases h : quota? reply <;> simp [lastQuota, h]

/-- Whether a reply can be read as far as the quota goes, and accepts the message. -/
def isGood : Outcome Reply → Bool
  | .ok reply =>
    (reply.header? "X-RateLimit-Remaining").all (fun raw => (readInt? raw).isSome) &&
      accepts (.ok reply)
  | .error _ => false

/-! ### Runs that heed the quota -/

/-- What some messages leave: each took one reply of the script, what is known is the last report
among these replies, and no message was sent while the last report before it was zero. -/
structure Heeds (w : Webhook) (o : Outside) (after : Webhook × Outside)
    (sent : List WebhookMessage) : Prop where
  settings : after.1.settings = w.settings
  messages : after.2.messages = o.messages ++ sent
  replies : after.2.webhookReplies = o.webhookReplies.drop sent.length
  remaining : after.1.remaining = lastQuota w.remaining (o.webhookReplies.take sent.length)
  checked : ∀ n < sent.length, lastQuota w.remaining (o.webhookReplies.take n) ≠ some 0

section Heeding

variable {w : Webhook} {o : Outside} {after after' : Webhook × Outside}
  {sent sent' : List WebhookMessage}

theorem Heeds.nothing (w : Webhook) (o : Outside) : Heeds w o (w, o) [] :=
  ⟨rfl, (List.append_nil _).symm, rfl, rfl, by simp⟩

/-- The reports after the first replies of a script are reports of the whole script. -/
theorem Heeds.lastQuota_take (h : Heeds w o after sent) (n : Nat) :
    lastQuota after.1.remaining (after.2.webhookReplies.take n) =
      lastQuota w.remaining (o.webhookReplies.take (sent.length + n)) := by
  rw [h.remaining, h.replies, List.take_add, lastQuota_append]

/-- **One run after another** heeds the quota if both do. -/
theorem Heeds.andThen (h : Heeds w o after sent) (h' : Heeds after.1 after.2 after' sent') :
    Heeds w o after' (sent ++ sent') where
  settings := h'.settings.trans h.settings
  messages := by rw [h'.messages, h.messages, List.append_assoc]
  replies := by rw [h'.replies, h.replies, List.drop_drop, List.length_append]
  remaining := by rw [h'.remaining, h.lastQuota_take, List.length_append]
  checked := by
    intro n hn
    rw [List.length_append] at hn
    by_cases hfirst : n < sent.length
    · exact h.checked n hfirst
    · have hsecond := h'.checked (n - sent.length) (by omega)
      rwa [h.lastQuota_take, Nat.add_sub_cancel' (Nat.le_of_not_lt hfirst)] at hsecond

/-! ### One message -/

/-- What a reply reports is kept, also if the reply is bad in another way. -/
theorem keepQuota_remaining (reply : Reply) (w : Webhook) (o : Outside) :
    ((keepQuota reply).runWith w o).2.1.remaining = (quota? (.ok reply)).or w.remaining ∧
      (isGood (.ok reply) = true → ((keepQuota reply).runWith w o).1 = .ok ()) := by
  unfold keepQuota
  cases hheader : reply.header? "X-RateLimit-Remaining" with
  | none => simp [quota?, hheader]
  | some raw => cases hraw : readInt? raw <;> simp [quota?, isGood, hheader, hraw, Act.runWith_bind]

theorem requireAccepted_of_accepts {reply : Reply} (h : accepts (.ok reply) = true) (w : Webhook)
    (o : Outside) : ((requireAccepted reply).runWith w o).1 = .ok () := by
  have hstatus : ¬ (reply.status != 200 && reply.status != 204) = true := by
    simpa [accepts, Decidable.imp_iff_not_or] using h
  rw [requireAccepted, if_neg hstatus]
  rfl

/-- What is done with a reply keeps its report, and does not fail if the reply is good. -/
theorem heeds_of_reply (reply : Reply) {m : WebhookMessage} (w : Webhook) (o o' : Outside)
    (hspent : w.remaining ≠ some 0) (hmessages : o'.messages = o.messages ++ [m])
    (hreplies : o'.webhookReplies = o.webhookReplies.drop 1)
    (hscript : lastQuota w.remaining (o.webhookReplies.take 1) =
      (quota? (.ok reply)).or w.remaining) :
    Heeds w o ((do keepQuota reply; requireAccepted reply : Act Webhook Unit).runWith w o').2 [m] ∧
      (isGood (.ok reply) = true →
        ((do keepQuota reply; requireAccepted reply : Act Webhook Unit).runWith w o').1 =
          .ok ()) := by
  have hquiet := keepQuota_quiet reply w o'
  have hsettings := (keepQuota_run reply w o').1
  obtain ⟨hremaining, hgood⟩ := keepQuota_remaining reply w o'
  rw [hmessages, hreplies] at hquiet
  rw [← hscript] at hremaining
  have hchecked : ∀ n < [m].length, lastQuota w.remaining (o.webhookReplies.take n) ≠ some 0 := by
    intro n hn
    obtain rfl : n = 0 := by simpa using hn
    exact hspent
  rw [Act.runWith_bind]
  generalize (keepQuota reply).runWith w o' = run at hquiet hsettings hremaining hgood ⊢
  obtain ⟨e | ⟨⟩, w', o''⟩ := run
  · exact ⟨⟨hsettings, hquiet.1, hquiet.2, hremaining, hchecked⟩, fun h => nomatch hgood h⟩
  · refine ⟨?_, fun h => requireAccepted_of_accepts ?_ w' o''⟩
    · simp only [requireAccepted_run]
      exact ⟨hsettings, hquiet.1, hquiet.2, hremaining, hchecked⟩
    · exact (Bool.and_eq_true_iff.1 h).2

/-- **A message that may be sent** takes the next reply of the script and keeps its report, whether
the reply is good or not. It fails only if the reply is bad. -/
theorem execute_heeds (m : WebhookMessage) (hspent : w.remaining ≠ some 0) (o : Outside) :
    Heeds w o ((execute m).runWith w o).2 [m] ∧
      ((∀ reply ∈ o.webhookReplies.take 1, isGood reply = true) →
        ((execute m).runWith w o).1 = .ok ()) := by
  rw [execute, Act.runWith_bind, Act.runWith_sendMessage]
  rcases hscript : o.webhookReplies with _ | ⟨e | reply, script⟩
  · -- beyond the end of the script a message is accepted without a report
    obtain ⟨hheeds, hgood⟩ := heeds_of_reply { status := 204, body := .text "" } w o
      { o with messages := o.messages ++ [m], webhookReplies := [] } hspent rfl
      (by rw [hscript]; rfl) (by rw [hscript]; rfl)
    exact ⟨hheeds, fun _ => hgood rfl⟩
  · refine ⟨⟨rfl, rfl, by simp [hscript], ?_, ?_⟩, fun hgood => ?_⟩
    · simp [hscript, lastQuota_single, quota?]
    · intro n hn
      obtain rfl : n = 0 := by simpa using hn
      exact hspent
    · cases hgood (.error e) (by simp)
  · obtain ⟨hheeds, hgood⟩ := heeds_of_reply reply w o
      { o with messages := o.messages ++ [m], webhookReplies := script } hspent rfl
      (by simp [hscript]) (by simp [hscript, lastQuota_single])
    exact ⟨hheeds, fun hall => hgood (hall _ (by simp))⟩

/-- Without quota a group is not sent, and nothing changes. -/
theorem sendGroup_spent (hspent : w.remaining = some 0) (content : Option String)
    (group : List Notice) (o : Outside) :
    (sendGroup content group).runWith w o = (.error .noRequestsLeft, w, o) := by
  simp [sendGroup, checkQuota, Act.runWith_bind, hspent]

theorem sendGroup_unspent (hspent : w.remaining ≠ some 0) (content : Option String)
    (group : List Notice) (o : Outside) :
    (sendGroup content group).runWith w o =
      (execute (message w.settings content group)).runWith w o := by
  simp [sendGroup, checkQuota, Act.runWith_bind, hspent]

end Heeding

/-! ### Messages for groups -/

/-- The messages for some groups. Only the first has a line above it. -/
def messagesOf (s : WebhookSettings) (content : Option String) :
    List (List Notice) → List WebhookMessage
  | [] => []
  | group :: groups => message s content group :: messagesOf s none groups

theorem map_notices_messagesOf (s : WebhookSettings) (content : Option String)
    (groups : List (List Notice)) : (messagesOf s content groups).map (·.notices) = groups := by
  induction groups generalizing content with
  | nil => rfl
  | cons group groups ih => rw [messagesOf, List.map_cons, ih, message]

theorem length_messagesOf (s : WebhookSettings) (content : Option String)
    (groups : List (List Notice)) : (messagesOf s content groups).length = groups.length := by
  rw [← List.length_map, map_notices_messagesOf]

/-! ### Faults -/

/-- What is wrong with a reply: there is none, the number of requests left is no number, or else the
message is not accepted. -/
inductive Faults : Outcome Reply → Failure → Prop
  | lost {e : Failure} : Faults (.error e) e
  | unreadable {reply : Reply} {raw : String} :
      reply.header? "X-RateLimit-Remaining" = some raw → readInt? raw = none →
      Faults (.ok reply) (.badInteger raw)
  | rejected {reply : Reply} :
      (∀ raw ∈ reply.header? "X-RateLimit-Remaining", (readInt? raw).isSome = true) →
      accepts (.ok reply) = false →
      Faults (.ok reply) (.rejectedNotice
        ("Discord webhook returned " ++ toString reply.status ++ ": " ++ bodyText reply.body))

theorem Faults.not_isGood {reply : Outcome Reply} {e : Failure} (h : Faults reply e) :
    isGood reply = false := by
  cases h with
  | lost => rfl
  | unreadable hheader hraw => simp [isGood, hheader, hraw]
  | rejected _ haccepts => simp [isGood, haccepts]

theorem requireAccepted_of_not_accepts {reply : Reply} (h : accepts (.ok reply) = false)
    (w : Webhook) (o : Outside) :
    ((requireAccepted reply).runWith w o).1 = .error (.rejectedNotice
      ("Discord webhook returned " ++ toString reply.status ++ ": " ++ bodyText reply.body)) := by
  have hstatus : (reply.status != 200 && reply.status != 204) = true := by
    simpa [accepts] using h
  rw [requireAccepted, if_pos hstatus]
  rfl

/-- A message fails with what is wrong with its reply. -/
theorem execute_faults {reply : Outcome Reply} {script : List (Outcome Reply)} {o : Outside}
    (hscript : o.webhookReplies = reply :: script) (hbad : isGood reply = false)
    (m : WebhookMessage) (w : Webhook) :
    ∃ e, Faults reply e ∧ ((execute m).runWith w o).1 = .error e := by
  rw [execute, Act.runWith_bind, Act.runWith_sendMessage, hscript]
  cases reply with
  | error e => exact ⟨e, .lost, rfl⟩
  | ok reply =>
    simp only [Act.runWith_bind]
    rw [isGood] at hbad
    cases hheader : reply.header? "X-RateLimit-Remaining" with
    | none =>
      have haccepts : accepts (.ok reply) = false := by simpa [hheader] using hbad
      refine ⟨_, .rejected (by simp [hheader]) haccepts, ?_⟩
      simp only [keepQuota, hheader, Act.runWith_pure]
      exact requireAccepted_of_not_accepts haccepts _ _
    | some raw =>
      cases hraw : readInt? raw with
      | none =>
        refine ⟨_, .unreadable hheader hraw, ?_⟩
        simp only [keepQuota, hheader, hraw, Act.runWith_fail]
      | some n =>
        have haccepts : accepts (.ok reply) = false := by simpa [hheader, hraw] using hbad
        refine ⟨_, .rejected (by simp [hheader, hraw]) haccepts, ?_⟩
        simp only [keepQuota, hheader, hraw, Act.runWith_bind, Act.runWith_state, Act.runWith_put,
          Act.runWith_log]
        exact requireAccepted_of_not_accepts haccepts _ _

/-! ### Runs up to the first fault -/

/-- How sending ends after some replies, with some messages left: all is sent and accepted, there
are no requests left for the next message, or the last reply is a bad one. -/
inductive Stops (known : Option Int) (replies : List (Outcome Reply)) (rest : List WebhookMessage) :
    Outcome Unit → Prop
  | done : rest = [] → (∀ reply ∈ replies, isGood reply = true) → Stops known replies rest (.ok ())
  | exhausted : rest ≠ [] → (∀ reply ∈ replies, isGood reply = true) →
      lastQuota known replies = some 0 → Stops known replies rest (.error .noRequestsLeft)
  | failed {reply : Outcome Reply} {e : Failure} : replies.getLast? = some reply →
      Faults reply e → Stops known replies rest (.error e)

/-- What a run does with the messages for some groups: it sends the first of them, all replies but
the last one to these are good, and it ends for a reason. -/
structure Goes (planned : List WebhookMessage) (w : Webhook) (o : Outside)
    (run : Outcome Unit × Webhook × Outside) (sent rest : List WebhookMessage) : Prop extends
    Heeds w o run.2 sent where
  inOrder : planned = sent ++ rest
  unfailed : ∀ n < sent.length, ∀ reply ∈ o.webhookReplies.take n, isGood reply = true
  ended : Stops w.remaining (o.webhookReplies.take sent.length) rest run.1

section Runs

variable {w : Webhook} {o : Outside}

/-- The reply to a message that fails is a bad one. -/
theorem exists_bad_of_execute {m : WebhookMessage} {e : Failure} (hspent : w.remaining ≠ some 0)
    (h : ((execute m).runWith w o).1 = .error e) :
    ∃ reply, (o.webhookReplies.take 1).getLast? = some reply ∧ Faults reply e := by
  obtain ⟨-, hgood⟩ := execute_heeds m hspent o
  cases hscript : o.webhookReplies with
  | nil =>
    rw [hgood (by simp [hscript])] at h
    cases h
  | cons reply script =>
    cases hreply : isGood reply with
    | true =>
      rw [hgood (by simpa [hscript] using hreply)] at h
      cases h
    | false =>
      obtain ⟨e', hfaults, hrun⟩ := execute_faults hscript hreply m w
      rw [h] at hrun
      cases hrun
      exact ⟨reply, rfl, hfaults⟩

/-- The reply to a message that does not fail is a good one. -/
theorem isGood_of_execute {m : WebhookMessage} (h : ((execute m).runWith w o).1 = .ok ()) :
    ∀ reply ∈ o.webhookReplies.take 1, isGood reply = true := by
  cases hscript : o.webhookReplies with
  | nil => simp
  | cons reply script =>
    cases hreply : isGood reply with
    | true => simpa using hreply
    | false =>
      obtain ⟨e, -, hrun⟩ := execute_faults hscript hreply m w
      rw [h] at hrun
      cases hrun

/-- **After a message that is accepted**, the others are sent as from there on. -/
theorem Goes.after {m : WebhookMessage} {planned sent rest : List WebhookMessage} {w' : Webhook}
    {o' : Outside} {run : Outcome Unit × Webhook × Outside} (hfirst : Heeds w o (w', o') [m])
    (hgood : ∀ reply ∈ o.webhookReplies.take 1, isGood reply = true)
    (hmore : Goes planned w' o' run sent rest) : Goes (m :: planned) w o run (m :: sent) rest := by
  have hreplies : o'.webhookReplies = o.webhookReplies.drop 1 := hfirst.replies
  have hsplit (n : Nat) : o.webhookReplies.take (n + 1) =
      o.webhookReplies.take 1 ++ o'.webhookReplies.take n := by
    rw [hreplies, Nat.add_comm, List.take_add]
  have hall {n : Nat} (h : ∀ reply ∈ o'.webhookReplies.take n, isGood reply = true) :
      ∀ reply ∈ o.webhookReplies.take (n + 1), isGood reply = true := by
    intro reply hmem
    rw [hsplit, List.mem_append] at hmem
    exact hmem.elim (hgood reply) (h reply)
  have hknown : lastQuota w'.remaining (o'.webhookReplies.take sent.length) =
      lastQuota w.remaining (o.webhookReplies.take (sent.length + 1)) := by
    rw [Nat.add_comm]
    exact hfirst.lastQuota_take sent.length
  refine ⟨hfirst.andThen hmore.toHeeds, by rw [hmore.inOrder, List.cons_append], ?_, ?_⟩
  · intro n hn
    cases n with
    | zero => simp
    | succ n => exact hall (hmore.unfailed n (Nat.lt_of_succ_lt_succ hn))
  · rw [List.length_cons]
    have hended := hmore.ended
    generalize run.1 = result at hended ⊢
    cases hended with
    | done hrest hreplies => exact .done hrest (hall hreplies)
    | exhausted hrest hreplies hzero => exact .exhausted hrest (hall hreplies) (hknown ▸ hzero)
    | failed hlast hfaults =>
      refine .failed ?_ hfaults
      rw [hsplit, List.getLast?_append, hlast, Option.some_or]

end Runs

/-- **The groups of a batch** go out one after the other, up to the first fault. -/
theorem sendChunks_goes (content : Option String) (groups : List (List Notice)) (w : Webhook)
    (o : Outside) :
    ∃ sent rest, Goes (messagesOf w.settings content groups) w o
      ((sendChunks content groups).runWith w o) sent rest := by
  induction groups generalizing content w o with
  | nil => exact ⟨[], [], .nothing w o, rfl, by simp, .done rfl (by simp)⟩
  | cons group groups ih =>
    rw [sendChunks_cons, Act.runWith_bind, messagesOf]
    by_cases hspent : w.remaining = some 0
    · rw [sendGroup_spent hspent]
      exact ⟨[], _, .nothing w o, rfl, by simp,
        .exhausted (List.cons_ne_nil _ _) (by simp) (by simpa [lastQuota] using hspent)⟩
    · rw [sendGroup_unspent hspent]
      obtain ⟨hfirst, -⟩ := execute_heeds (message w.settings content group) hspent o
      have hbad (e : Failure) := exists_bad_of_execute (e := e) hspent
        (m := message w.settings content group) (o := o)
      have hgood := isGood_of_execute (m := message w.settings content group) (w := w) (o := o)
      generalize (execute _).runWith w o = run at hfirst hbad hgood ⊢
      obtain ⟨e | ⟨⟩, w', o'⟩ := run
      · obtain ⟨reply, hlast, hfaults⟩ := hbad e rfl
        exact ⟨[_], _, hfirst, rfl, by simp, .failed hlast hfaults⟩
      · obtain ⟨sent, rest, hmore⟩ := ih none w' o'
        have hsettings : w'.settings = w.settings := hfirst.settings
        rw [hsettings] at hmore
        exact ⟨_, rest, hmore.after hfirst (hgood rfl)⟩

end Webhook

end DealWatch
