import DealWatch.Proofs.Notice.Answer
import DealWatch.Proofs.Pipeline.Delivery

/-!
# Matches that are kept until they are accepted

A batch can fail after some of its messages were accepted, and the stage may be driven on after
that. A match leaves the notifier only with a batch all of whose messages were accepted.

* `Notifier.Flushed` says what a flush does, `flush_flushed` that it does;
* `Notifier.Accounted` says where every match is that was handed over, `Accounted.call` and
  `Accounted.calls` that the calls keep to it, failed ones too;
* `kept_until_acknowledged` puts the two together.

`Accounted` divides the matches into those that were released and those that are still queued. A
flush that fails moves none of them, one that does not moves all, and a match that is handed over is
queued behind them. So the invariant is kept by each call, and the calls are an induction.

A match may be sent twice: once in a batch that fails behind it, and again later.
-/

namespace DealWatch

namespace Notifier

/-! ### One call -/

/-- What a flush does. If it fails or counts nothing, all that was kept is still kept. Otherwise it
counts what was kept and forgets it, and all of it was in messages that are accepted. -/
structure Flushed (n : Notifier) (o : Outside) (run : Outcome Nat × Notifier × Outside)
    (sent : List WebhookMessage) : Prop where
  messages : run.2.2.messages = o.messages ++ sent
  replies : run.2.2.webhookReplies = o.webhookReplies.drop sent.length
  failed : ∀ e, run.1 = .error e → run.2.1.queued = n.queued
  nothing : run.1 = .ok 0 → run.2.1.queued = n.queued
  counted : ∀ k, run.1 = .ok k → 0 < k → k = n.queued.length ∧ run.2.1.queued = [] ∧
    (Webhook.acknowledged o.webhookReplies sent).flatMap (·.notices) = n.queued.map noticeOf

/-- **A flush** keeps what was kept, or all of it was accepted. -/
theorem flush_flushed (n : Notifier) (o : Outside) :
    ∃ sent, Flushed n o (flush.runWith n o) sent := by
  by_cases hidle : n.queued = [] ∨ n.webhook.isEnabled = false
  · obtain ⟨journal, hrun⟩ := flush_idle hidle o
    rw [hrun]
    refine ⟨[], (List.append_nil _).symm, rfl, fun _ _ => rfl, fun _ => rfl, fun k hk hpos => ?_⟩
    cases hk
    exact absurd hpos (Nat.lt_irrefl 0)
  · obtain ⟨hqueued, henabled⟩ := not_or.1 hidle
    obtain ⟨journal, hrun⟩ := flush_sending hqueued (eq_true_of_ne_false henabled) o
    let line := some (Webhook.summary (n.queued.map noticeOf).length)
    let groups := Webhook.chunks (n.queued.map noticeOf)
    obtain ⟨sent, hsent⟩ := Webhook.sendChunks_answered line groups n.webhook { o with journal }
    obtain ⟨sent', hgroups⟩ :=
      Webhook.sendChunks_sendsGroups line groups n.webhook { o with journal }
    -- what was answered is what holds the groups of the batch
    obtain rfl : sent = sent' := List.append_cancel_left (hsent.messages.symm.trans hgroups.messages)
    rw [hrun]
    refine ⟨sent, ?_⟩
    generalize (Webhook.sendChunks _ _).runWith _ _ = run at hsent hgroups ⊢
    obtain ⟨e | ⟨⟩, w, o'⟩ := run
    · exact ⟨hsent.messages, hsent.replies, fun _ _ => rfl, nofun, nofun⟩
    · refine ⟨hsent.messages, hsent.replies, nofun, fun hzero => ?_, fun k hk _ => ?_⟩
      · exact absurd (List.length_eq_zero_iff.1 (Except.ok.inj hzero)) hqueued
      · have hall := hsent.accepted () rfl
        simp only at hall
        refine ⟨(Except.ok.inj hk).symm, rfl, ?_⟩
        rw [hall, Webhook.flatMap_notices (hgroups.all rfl)]

/-! ### Calls that may fail -/

/-- A call of the stage. -/
inductive Call where
  | handle (m : Notification)
  | flush
  deriving DecidableEq, Repr

/-- What a call does. -/
def Call.act : Call → Act Notifier Unit
  | .handle m => Notifier.handle m
  | .flush => discard Notifier.flush

/-- The match that a call hands over, if it is one. -/
def Call.post? : Call → Option MatchingPost
  | .handle m => m.post?
  | .flush => none

/-- The matches that some calls hand over. -/
def handed (calls : List Call) : List MatchingPost := calls.filterMap Call.post?

/-- The stage and what is outside after some calls. The next call is made whatever became of the one
before. -/
def afterCalls (calls : List Call) (n : Notifier) (o : Outside) : Notifier × Outside :=
  calls.foldl (fun s c => (c.act.runWith s.1 s.2).2) (n, o)

/-- Every match that was handed over is still kept, or it was in a message that is accepted. What is
kept is kept in the order in which it came. -/
structure Accounted (start : Outside) (posts : List MatchingPost) (n : Notifier) (o : Outside)
    (sent : List WebhookMessage) (released : List MatchingPost) : Prop where
  messages : o.messages = start.messages ++ sent
  replies : o.webhookReplies = start.webhookReplies.drop sent.length
  posts : posts = released ++ n.queued
  accepted : (released.map noticeOf).Sublist
    ((Webhook.acknowledged start.webhookReplies sent).flatMap (·.notices))

variable {start o : Outside} {posts released : List MatchingPost} {n : Notifier}
  {sent : List WebhookMessage}

/-- A match is kept when it comes. -/
theorem Accounted.hit (h : Accounted start posts n o sent released) (p : MatchingPost) :
    Accounted start (posts ++ [p]) { n with queued := n.queued ++ [p] } o sent released :=
  { h with posts := by rw [h.posts, List.append_assoc] }

/-- **A flush loses nothing**, whether it fails or not. -/
theorem Accounted.flush (h : Accounted start posts n o sent released) :
    ∃ sent released, Accounted start posts (flush.runWith n o).2.1 (flush.runWith n o).2.2
      sent released := by
  obtain ⟨more, hflush⟩ := flush_flushed n o
  generalize Notifier.flush.runWith n o = run at hflush ⊢
  have hmessages : run.2.2.messages = start.messages ++ (sent ++ more) := by
    rw [hflush.messages, h.messages, List.append_assoc]
  have hreplies : run.2.2.webhookReplies = start.webhookReplies.drop (sent ++ more).length := by
    rw [hflush.replies, h.replies, List.drop_drop, List.length_append]
  -- what the new messages add comes after what was accepted before
  have hsplit := Webhook.acknowledged_append start.webhookReplies sent more
  rw [← h.replies] at hsplit
  have hbefore : (released.map noticeOf).Sublist
      ((Webhook.acknowledged start.webhookReplies (sent ++ more)).flatMap (·.notices)) := by
    rw [hsplit, List.flatMap_append]
    exact h.accepted.trans (List.sublist_append_left _ _)
  obtain ⟨e | k, n', o'⟩ := run
  · have hkept := hflush.failed e rfl
    exact ⟨sent ++ more, released, hmessages, hreplies, by rw [hkept]; exact h.posts, hbefore⟩
  · rcases Nat.eq_zero_or_pos k with rfl | hpos
    · have hkept := hflush.nothing rfl
      exact ⟨sent ++ more, released, hmessages, hreplies, by rw [hkept]; exact h.posts, hbefore⟩
    · obtain ⟨-, hnil, haccepted⟩ := hflush.counted k rfl hpos
      refine ⟨sent ++ more, released ++ n.queued, hmessages, hreplies, ?_, ?_⟩
      · rw [hnil, List.append_nil]
        exact h.posts
      · rw [hsplit, List.flatMap_append, haccepted, List.map_append]
        exact h.accepted.append_right _

/-- **Every call** keeps the account. -/
theorem Accounted.call (h : Accounted start posts n o sent released) (c : Call) :
    ∃ sent released, Accounted start (posts ++ c.post?.toList) (c.act.runWith n o).2.1
      (c.act.runWith n o).2.2 sent released := by
  have hflush := h.flush
  match c with
  | .handle (.hit p) => exact ⟨sent, released, h.hit p⟩
  | .handle .tick =>
    rw [Call.act, handle, Act.runWith_discard]
    simpa [Call.post?, Notification.post?] using hflush
  | .flush =>
    rw [Call.act, Act.runWith_discard]
    simpa [Call.post?] using hflush

@[simp] theorem handed_cons (c : Call) (calls : List Call) :
    handed (c :: calls) = c.post?.toList ++ handed calls := by
  rw [handed, List.filterMap_cons, handed]
  cases c.post? <;> rfl

/-- **All calls**, also those after one that failed. -/
theorem Accounted.calls (h : Accounted start posts n o sent released) (calls : List Call) :
    ∃ sent released, Accounted start (posts ++ handed calls) (afterCalls calls n o).1
      (afterCalls calls n o).2 sent released := by
  induction calls generalizing posts n o sent released with
  | nil => exact ⟨sent, released, by simpa [handed, afterCalls] using h⟩
  | cons c calls ih =>
    obtain ⟨_, _, hcall⟩ := h.call c
    have hrest := ih hcall
    rw [List.append_assoc] at hrest
    rw [handed_cons]
    exact hrest

/-- **Matches are kept until they are acknowledged.** Whatever the calls and the replies are, and
also after calls that failed, every match that was handed over is still kept, or it was in a message
that is accepted. A flush that fails or counts nothing keeps all that was kept; any other flush
counts what was kept, all of it was accepted, and nothing is kept any more. -/
theorem kept_until_acknowledged (w : Webhook) (calls : List Call) (o : Outside) :
    (∃ sent released, Accounted o (handed calls) (afterCalls calls ⟨w, []⟩ o).1
      (afterCalls calls ⟨w, []⟩ o).2 sent released) ∧
    ∃ sent, Flushed (afterCalls calls ⟨w, []⟩ o).1 (afterCalls calls ⟨w, []⟩ o).2
      (flush.runWith (afterCalls calls ⟨w, []⟩ o).1 (afterCalls calls ⟨w, []⟩ o).2) sent := by
  have hstart : Accounted o [] ⟨w, []⟩ o [] [] :=
    ⟨(List.append_nil _).symm, rfl, rfl, List.nil_sublist _⟩
  exact ⟨hstart.calls calls, flush_flushed _ _⟩

/-- The second of two messages is rejected, so that all eleven matches are sent again. -/
theorem kept_until_acknowledged_rejected :
    ∃ (w : Webhook) (p : MatchingPost) (o : Outside) (sent : List WebhookMessage),
      let calls := List.replicate 11 (Call.handle (.hit p)) ++ [.flush]
      (afterCalls calls ⟨w, []⟩ o).1.queued = List.replicate 11 p ∧
      (afterCalls calls ⟨w, []⟩ o).2.messages.length = 2 ∧
      Flushed (afterCalls calls ⟨w, []⟩ o).1 (afterCalls calls ⟨w, []⟩ o).2
        (flush.runWith (afterCalls calls ⟨w, []⟩ o).1 (afterCalls calls ⟨w, []⟩ o).2) sent ∧
      (afterCalls (calls ++ [.flush]) ⟨w, []⟩ o).1.queued = [] ∧
      (afterCalls (calls ++ [.flush]) ⟨w, []⟩ o).2.messages.length = 4 := by
  let w : Webhook := ⟨{ (default : WebhookSettings) with enabled := true, url := "u" }, none⟩
  let p : MatchingPost := ⟨⟨some "p", none, none, none, none, none, none⟩, default, default⟩
  let o : Outside :=
    { (default : Outside) with
      webhookReplies := [.ok { status := 204 }, .ok { status := 400 }] }
  let calls := List.replicate 11 (Call.handle (.hit p)) ++ [.flush]
  obtain ⟨-, sent, hflush⟩ := kept_until_acknowledged w calls o
  exact ⟨w, p, o, sent, by decide +kernel, by decide +kernel, hflush, by decide +kernel,
    by decide +kernel⟩

end Notifier

end DealWatch
