import DealWatch.Proofs.Notice.Sending

/-!
# Sending within the quota

Once a reply reports that no requests are left, the notifier stays silent: for the rest of the batch
and for all batches after it.

* `Breaks` says why a batch breaks off, `sendChunks_breaks` says that every batch is sent so;
* `afterBatches` sends batches one after the other, `afterBatches_heeds` is about all of them,
  `afterBatches_spent` about those after the quota is used up;
* `silent_without_quota` puts these together.

Before each message the notifier looks at the last report, so a report of zero is the end of a
batch. It is also kept, as nothing but a reply to a message changes it: that the later batches send
nothing is by induction on them, and each leaves the notifier as it was.

That a quota comes back is not said, because no time passes for the notifier.
-/

namespace DealWatch

namespace Webhook

variable {w : Webhook} {o : Outside} {after : Webhook × Outside} {sent : List WebhookMessage}

/-! ### One batch -/

/-- How a batch of some groups is sent: within the quota, and if all replies are good and groups are
left over, then for lack of it. -/
structure Breaks {α : Type} (groups : List (List Notice)) (w : Webhook) (o : Outside)
    (run : Outcome α × Webhook × Outside) (sent : List WebhookMessage) : Prop extends
    Heeds w o run.2 sent where
  stopped : sent.length < groups.length →
    (∀ reply ∈ o.webhookReplies.take sent.length, isGood reply = true) →
    run.1 = .error .noRequestsLeft

/-- **A batch** is sent within the quota, which is looked at before each of its groups. -/
theorem sendChunks_breaks (content : Option String) (groups : List (List Notice)) (w : Webhook)
    (o : Outside) : ∃ sent, Breaks groups w o ((sendChunks content groups).runWith w o) sent := by
  obtain ⟨sent, rest, hgoes⟩ := sendChunks_goes content groups w o
  refine ⟨sent, hgoes.toHeeds, fun hleft hall => ?_⟩
  have hended := hgoes.ended
  generalize ((sendChunks content groups).runWith w o).1 = result at hended ⊢
  cases hended with
  | done hrest _ =>
    -- all messages were sent, one for each group
    have hplanned := hgoes.inOrder
    rw [hrest, List.append_nil] at hplanned
    rw [← hplanned, length_messagesOf] at hleft
    exact absurd hleft (Nat.lt_irrefl _)
  | exhausted => rfl
  | failed hlast hfaults =>
    have hgood := hall _ (List.mem_of_getLast? hlast)
    rw [hfaults.not_isGood] at hgood
    cases hgood

/-- An entry of the journal tells nothing about the quota. -/
theorem Heeds.of_journal {journal : List JournalEntry}
    (h : Heeds w { o with journal } after sent) : Heeds w o after sent :=
  ⟨h.settings, h.messages, h.replies, h.remaining, h.checked⟩

theorem sendBatch_breaks (henabled : w.isEnabled = true) (notices : List Notice) (o : Outside) :
    ∃ sent, Breaks (chunks notices) w o ((sendBatch notices).runWith w o) sent := by
  obtain ⟨journal, hrun⟩ := sendBatch_enabled henabled notices o
  obtain ⟨sent, hsent⟩ := sendChunks_breaks (some (summary notices.length)) (chunks notices) w
    { o with journal }
  rw [hrun]
  generalize (sendChunks _ _).runWith _ _ = run at hsent ⊢
  obtain ⟨e | ⟨⟩, w', o'⟩ := run
  · refine ⟨sent, hsent.toHeeds.of_journal, fun hleft hall => ?_⟩
    cases hsent.stopped hleft hall
    rfl
  · exact ⟨sent, hsent.toHeeds.of_journal, fun hleft hall => nomatch hsent.stopped hleft hall⟩

/-- What becomes of a batch when the quota is used up. -/
def refusal (notices : List Notice) : Outcome Bool :=
  if notices.isEmpty then .ok true else .error .noRequestsLeft

/-- **Without quota** a batch is refused unless it is empty, and only the journal changes. -/
theorem sendBatch_spent (henabled : w.isEnabled = true) (hspent : w.remaining = some 0)
    (notices : List Notice) (o : Outside) :
    ∃ journal, (sendBatch notices).runWith w o = (refusal notices, w, { o with journal }) := by
  obtain ⟨journal, hrun⟩ := sendBatch_enabled henabled notices o
  rw [hrun]
  cases notices with
  | nil => exact ⟨journal, by rw [chunks]; rfl⟩
  | cons n ns =>
    rw [chunks, sendChunks_cons, Act.runWith_bind, sendGroup_spent hspent]
    exact ⟨journal, rfl⟩

/-! ### Several batches -/

/-- The notifier and what is outside after some batches. The next batch is sent whatever became of
the one before. -/
def afterBatches (batches : List (List Notice)) (start : Webhook × Outside) : Webhook × Outside :=
  batches.foldl (fun s notices => ((sendBatch notices).runWith s.1 s.2).2) start

/-- **All batches** are sent within the quota. -/
theorem afterBatches_heeds (batches : List (List Notice)) (henabled : w.isEnabled = true)
    (o : Outside) : ∃ sent, Heeds w o (afterBatches batches (w, o)) sent := by
  induction batches generalizing w o with
  | nil => exact ⟨[], .nothing w o⟩
  | cons notices batches ih =>
    obtain ⟨sent, hsent⟩ := sendBatch_breaks henabled notices o
    have hstill : ((sendBatch notices).runWith w o).2.1.isEnabled = true := by
      rw [isEnabled, hsent.settings]
      exact henabled
    obtain ⟨more, hmore⟩ := ih hstill ((sendBatch notices).runWith w o).2.2
    exact ⟨_, hsent.toHeeds.andThen hmore⟩

/-- When the quota is used up, only the journal changes. -/
theorem afterBatches_spent (batches : List (List Notice)) (henabled : w.isEnabled = true)
    (hspent : w.remaining = some 0) (o : Outside) :
    ∃ journal, afterBatches batches (w, o) = (w, { o with journal }) := by
  induction batches generalizing o with
  | nil => exact ⟨o.journal, rfl⟩
  | cons notices batches ih =>
    obtain ⟨journal, hrun⟩ := sendBatch_spent henabled hspent notices o
    rw [afterBatches, List.foldl_cons, hrun]
    exact ih _

/-- **Silence without quota.** Whatever the batches and the replies are, no message is sent while
the last report about the quota is that nothing is left, be it in the middle of a batch, in a later
one, or after a reply that was bad. When the quota is used up, nothing is sent any more and the
report stays the last one, and every batch is refused unless it is empty. A batch that breaks off
although all its replies are good does so for lack of quota. -/
theorem silent_without_quota (w : Webhook) (henabled : w.isEnabled = true)
    (batches : List (List Notice)) (o : Outside) :
    let s := afterBatches batches (w, o)
    (∃ sent, Heeds w o s sent) ∧
      (s.1.remaining = some 0 → ∀ more,
        (afterBatches more s).1 = s.1 ∧ (afterBatches more s).2.messages = s.2.messages ∧
          ∀ notices, ((sendBatch notices).runWith (afterBatches more s).1
            (afterBatches more s).2).1 = refusal notices) ∧
      ∀ notices, ∃ sent,
        Breaks (chunks notices) s.1 s.2 ((sendBatch notices).runWith s.1 s.2) sent := by
  intro s
  obtain ⟨sent, hsent⟩ := afterBatches_heeds batches henabled o
  have hstill : s.1.isEnabled = true := by
    rw [isEnabled, hsent.settings]
    exact henabled
  refine ⟨⟨sent, hsent⟩, fun hspent more => ?_, fun notices => sendBatch_breaks hstill notices s.2⟩
  obtain ⟨journal, hmore⟩ := afterBatches_spent more hstill hspent s.2
  rw [hmore]
  refine ⟨rfl, rfl, fun notices => ?_⟩
  obtain ⟨_, hrun⟩ := sendBatch_spent hstill hspent notices { s.2 with journal }
  rw [hrun]

/-- Of eleven notices the first ten are sent; the reply is bad but reports that nothing is left, so
the next batch is refused. -/
theorem silent_without_quota_rejected :
    ∃ (w : Webhook) (o : Outside) (n : Notice) (sent : List WebhookMessage),
      w.isEnabled = true ∧
      let s := afterBatches [List.replicate 11 n] (w, o)
      Heeds w o s sent ∧ s.2.messages.length = 1 ∧ s.1.remaining = some 0 ∧
        ((sendBatch [n]).runWith s.1 s.2).1 = .error .noRequestsLeft ∧
        ((sendBatch []).runWith s.1 s.2).1 = .ok true := by
  let w : Webhook := ⟨{ (default : WebhookSettings) with enabled := true, url := "u" }, none⟩
  let o : Outside :=
    { (default : Outside) with
      webhookReplies := [.ok { status := 400, headers := [("x-ratelimit-remaining", "0")] }] }
  let n : Notice := ⟨"t", "b", "l"⟩
  obtain ⟨⟨sent, hsent⟩, hspent, -⟩ := silent_without_quota w rfl [List.replicate 11 n] o
  have hzero : (afterBatches [List.replicate 11 n] (w, o)).1.remaining = some 0 := by
    decide +kernel
  obtain ⟨-, -, hrefused⟩ := hspent hzero []
  exact ⟨w, o, n, sent, rfl, hsent, by decide +kernel, hzero, hrefused [n], hrefused []⟩

end Webhook

end DealWatch
