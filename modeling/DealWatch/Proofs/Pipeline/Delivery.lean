import DealWatch.Pipeline.Run
import DealWatch.Proofs.Notice.Webhook

/-!
# What the notifier sends

Whatever the messages to the notifier and the replies to its own messages are, the notices that it
sends are those of the matches that it took, in order and from the first on.

* `hits` are the matches among some messages, `Notifier.consume` takes messages one by one;
* `flush_idle` and `flush_sending` say what a tick does;
* `Delivers` says how what is sent and what is kept go on from what was kept before:
  `flush_delivers` and `handle_delivers` are the steps, `consume_delivers` the run;
* `handleNotices_consume` says that the pipeline takes what is in its channel in this way;
* `sent_in_order` is about runs from the start.

A run ends with its first failure, so what was sent then is only the beginning of what was taken. A
run that goes on has the notices it sent and those of the matches it keeps, together those of all it
took; that is what lets the next step go on from there.

Nothing is said of a run that is driven on after a failure, where matches are sent again.
-/

namespace DealWatch

/-- The match in a message, if it is no tick. -/
def Notification.post? : Notification → Option MatchingPost
  | .hit p => some p
  | .tick => none

/-- The matches among some messages. -/
def hits (ms : List Notification) : List MatchingPost := ms.filterMap Notification.post?

@[simp] theorem hits_nil : hits [] = [] := rfl

@[simp] theorem hits_append (ms ms' : List Notification) : hits (ms ++ ms') = hits ms ++ hits ms' :=
  List.filterMap_append

@[simp] theorem hits_hit (p : MatchingPost) (ms : List Notification) :
    hits (.hit p :: ms) = p :: hits ms := rfl

@[simp] theorem hits_tick (ms : List Notification) : hits (.tick :: ms) = hits ms := rfl

namespace Notifier

/-- Takes messages one after the other, up to the first failure. -/
def consume : List Notification → Act Notifier Unit
  | [] => return
  | m :: ms => do
    handle m
    consume ms

/-- What taking some messages does. The notices that are sent are the next ones of the matches that
were kept before or are among the messages. If nothing fails the others are kept. -/
structure Delivers {α : Type} (ms : List Notification) (n : Notifier) (o : Outside)
    (run : Outcome α × Notifier × Outside) (sent : List WebhookMessage) : Prop where
  settings : run.2.1.webhook.settings = n.webhook.settings
  messages : run.2.2.messages = o.messages ++ sent
  inOrder : sent.flatMap (·.notices) <+: (n.queued ++ hits ms).map noticeOf
  kept : ∀ a, run.1 = .ok a →
    sent.flatMap (·.notices) ++ run.2.1.queued.map noticeOf = (n.queued ++ hits ms).map noticeOf

/-! ### One message -/

/-- Nothing is done if there is nothing to send or the webhook cannot send. -/
theorem flush_idle {n : Notifier} (h : n.queued = [] ∨ n.webhook.isEnabled = false) (o : Outside) :
    ∃ journal, flush.runWith n o = (.ok 0, n, { o with journal }) := by
  simp only [flush, Act.runWith_bind, Act.runWith_state]
  by_cases hempty : n.queued.isEmpty
  · rw [if_pos hempty]
    exact ⟨_, rfl⟩
  · have hdisabled := h.resolve_left fun hnil => hempty (List.isEmpty_iff.2 hnil)
    obtain ⟨journal, hsend⟩ := Webhook.sendBatch_disabled hdisabled (n.queued.map noticeOf) o
    rw [if_neg hempty]
    simp only [onWebhook, Act.runWith_bind, Act.runWith_within, hsend]
    exact ⟨_, rfl⟩

/-- Otherwise the notices of what is kept are sent in groups, and if that does not fail nothing is
kept any more. -/
theorem flush_sending {n : Notifier} (hqueued : n.queued ≠ [])
    (henabled : n.webhook.isEnabled = true) (o : Outside) :
    ∃ journal,
      flush.runWith n o =
        match (Webhook.sendChunks (some (Webhook.summary (n.queued.map noticeOf).length))
            (Webhook.chunks (n.queued.map noticeOf))).runWith n.webhook { o with journal } with
        | (.ok (), w, o'') => (.ok n.queued.length, ⟨w, []⟩, o'')
        | (.error e, w, o'') => (.error e, { n with webhook := w }, o'') := by
  obtain ⟨journal, hsend⟩ := Webhook.sendBatch_enabled henabled (n.queued.map noticeOf) o
  refine ⟨journal, ?_⟩
  have hempty : ¬ n.queued.isEmpty := fun h => hqueued (List.isEmpty_iff.1 h)
  simp only [flush, Act.runWith_bind, Act.runWith_state]
  rw [if_neg hempty]
  simp only [onWebhook, Act.runWith_bind, Act.runWith_within, hsend]
  generalize (Webhook.sendChunks _ _).runWith _ _ = run
  obtain ⟨_ | _, w, o''⟩ := run <;> rfl

/-- **Sending what was collected** keeps nothing back if the webhook can send and nothing fails. -/
theorem flush_delivers (n : Notifier) (o : Outside) :
    ∃ sent, Delivers [] n o (flush.runWith n o) sent ∧
      (n.webhook.isEnabled → ∀ a, (flush.runWith n o).1 = .ok a →
        (flush.runWith n o).2.1.queued = []) := by
  by_cases hidle : n.queued = [] ∨ n.webhook.isEnabled = false
  · obtain ⟨journal, hrun⟩ := flush_idle hidle o
    rw [hrun]
    refine ⟨[], ⟨rfl, (List.append_nil _).symm, List.nil_prefix, fun _ _ => by simp⟩, ?_⟩
    intro henabled _ _
    exact hidle.resolve_right fun hdisabled => by simp [hdisabled] at henabled
  · obtain ⟨hqueued, henabled⟩ := not_or.1 hidle
    obtain ⟨journal, hrun⟩ := flush_sending hqueued (eq_true_of_ne_false henabled) o
    obtain ⟨sent, h⟩ := Webhook.sendChunks_sendsGroups
      (some (Webhook.summary (n.queued.map noticeOf).length))
      (Webhook.chunks (n.queued.map noticeOf)) n.webhook { o with journal }
    have hnil : (n.queued ++ hits []).map noticeOf = n.queued.map noticeOf := by
      rw [hits_nil, List.append_nil]
    have hinOrder := Webhook.flatMap_notices_prefix h.inOrder
    rw [hrun]
    refine ⟨sent, ?_⟩
    generalize (Webhook.sendChunks _ _).runWith _ _ = run at h ⊢
    obtain ⟨e | ⟨⟩, w, o''⟩ := run
    · exact ⟨⟨h.settings, h.messages, hnil ▸ hinOrder, nofun⟩, nofun⟩
    · refine ⟨⟨h.settings, h.messages, hnil ▸ hinOrder, ?_⟩,
        fun _ _ _ => rfl⟩
      intro _ _
      rw [hnil, Webhook.flatMap_notices (h.all rfl)]
      exact List.append_nil _

/-- **One message.** A tick sends what was collected, a match is kept. -/
theorem handle_delivers (m : Notification) (n : Notifier) (o : Outside) :
    ∃ sent, Delivers [m] n o ((handle m).runWith n o) sent := by
  cases m with
  | hit p =>
    refine ⟨[], rfl, (List.append_nil _).symm, List.nil_prefix, fun _ _ => ?_⟩
    simp [handle, Act.runWith_bind]
  | tick =>
    obtain ⟨sent, h, -⟩ := flush_delivers n o
    rw [handle, Act.runWith_discard]
    generalize flush.runWith n o = run at h ⊢
    obtain ⟨_ | k, n', o'⟩ := run
    · exact ⟨sent, h.settings, h.messages, h.inOrder, nofun⟩
    · exact ⟨sent, h.settings, h.messages, h.inOrder, fun _ _ => h.kept k rfl⟩

/-! ### Several messages -/

/-- **All messages**, one after the other. -/
theorem consume_delivers (ms : List Notification) (n : Notifier) (o : Outside) :
    ∃ sent, Delivers ms n o ((consume ms).runWith n o) sent := by
  induction ms generalizing n o with
  | nil => exact ⟨[], rfl, (List.append_nil _).symm, List.nil_prefix, fun _ _ => by simp [consume]⟩
  | cons m ms ih =>
    obtain ⟨sent, h⟩ := handle_delivers m n o
    have hsplit : (n.queued ++ hits (m :: ms)).map noticeOf =
        (n.queued ++ hits [m]).map noticeOf ++ (hits ms).map noticeOf := by
      rw [← List.singleton_append, hits_append, ← List.append_assoc, List.map_append]
    rw [consume, Act.runWith_bind]
    generalize (handle m).runWith n o = run at h ⊢
    obtain ⟨e | ⟨⟩, n', o'⟩ := run
    · -- nothing is sent after a failure, so what was sent before it is all
      refine ⟨sent, h.settings, h.messages, ?_, nofun⟩
      rw [hsplit]
      exact h.inOrder.trans (List.prefix_append _ _)
    · -- the next messages go on from what this one kept
      obtain ⟨more, hmore⟩ := ih n' o'
      refine ⟨sent ++ more, hmore.settings.trans h.settings, ?_, ?_, fun a ha => ?_⟩
      · rw [hmore.messages, h.messages, List.append_assoc]
      · rw [hsplit, ← h.kept () rfl, List.flatMap_append, List.append_assoc, ← List.map_append]
        exact (List.prefix_append_right_inj _).2 hmore.inOrder
      · rw [hsplit, ← h.kept () rfl, List.flatMap_append, List.append_assoc, hmore.kept a ha,
          List.map_append, List.append_assoc]

theorem consume_append (ms ms' : List Notification) :
    consume (ms ++ ms') = (do consume ms; consume ms') := by
  induction ms with
  | nil => rw [List.nil_append, consume, pure_bind]
  | cons m ms ih => rw [List.cons_append, consume, consume, ih, bind_assoc]

theorem isEnabled_congr {w w' : Webhook} (h : w'.settings = w.settings) :
    w'.isEnabled = w.isEnabled := by
  rw [Webhook.isEnabled, Webhook.isEnabled, h]

/-- After a tick nothing is kept, if the webhook can send and nothing failed. -/
theorem queued_after_tick {before : List Notification} {n : Notifier} {o : Outside}
    (henabled : n.webhook.isEnabled)
    (hok : ((consume (before ++ [.tick])).runWith n o).1 = .ok ()) :
    ((consume (before ++ [.tick])).runWith n o).2.1.queued = [] := by
  obtain ⟨_, hbefore⟩ := consume_delivers before n o
  rw [consume_append, Act.runWith_bind] at hok ⊢
  generalize (consume before).runWith n o = run at hbefore hok ⊢
  obtain ⟨e | ⟨⟩, n', o'⟩ := run
  · cases hok
  · -- whether the webhook can send is a matter of its settings, which the messages before kept
    obtain ⟨-, -, hflush⟩ := flush_delivers n' o'
    have hone : consume [.tick] = discard flush := bind_pure _
    rw [← isEnabled_congr hbefore.settings] at henabled
    simp only [hone, Act.runWith_discard] at hok ⊢
    generalize flush.runWith n' o' = run at hok hflush ⊢
    obtain ⟨e | k, n'', o''⟩ := run
    · cases hok
    · exact hflush henabled k rfl

/-- **What is sent in a run.** Whatever the messages and the replies are, the notices that are sent
are those of the matches among the messages, in order and from the first on. After a tick, if the
webhook can send and nothing has failed, those of all matches before it are sent. -/
theorem sent_in_order (w : Webhook) (ms : List Notification) (o : Outside) :
    ∃ sent : List WebhookMessage,
      ((consume ms).runWith ⟨w, []⟩ o).2.2.messages = o.messages ++ sent ∧
      sent.flatMap (·.notices) <+: (hits ms).map noticeOf ∧
      ∀ before after, ms = before ++ .tick :: after → w.isEnabled →
        ((consume (before ++ [.tick])).runWith ⟨w, []⟩ o).1 = .ok () →
        ∃ sofar, sofar <+: sent ∧
          ((consume (before ++ [.tick])).runWith ⟨w, []⟩ o).2.2.messages = o.messages ++ sofar ∧
          sofar.flatMap (·.notices) = (hits before).map noticeOf := by
  obtain ⟨sent, h⟩ := consume_delivers ms ⟨w, []⟩ o
  refine ⟨sent, h.messages, h.inOrder, fun before after hms henabled hok => ?_⟩
  obtain ⟨sofar, htick⟩ := consume_delivers (before ++ [.tick]) ⟨w, []⟩ o
  refine ⟨sofar, ?_, htick.messages, ?_⟩
  · -- the run goes on from what was sent up to the tick
    have hsplit : ms = (before ++ [.tick]) ++ after := by
      rw [hms, List.append_assoc, List.singleton_append]
    have hmessages := h.messages
    rw [hsplit, consume_append, Act.runWith_bind] at hmessages
    have hsofar := htick.messages
    generalize (consume (before ++ [.tick])).runWith ⟨w, []⟩ o = run at hok hsofar hmessages
    obtain ⟨_ | _, n, o'⟩ := run
    · cases hok
    · obtain ⟨more, hmore⟩ := consume_delivers after n o'
      rw [hmore.messages, hsofar, List.append_assoc] at hmessages
      exact ⟨more, List.append_cancel_left hmessages⟩
  · have hkept := htick.kept () hok
    rw [queued_after_tick henabled hok] at hkept
    simpa using hkept

/-- The reply to the first batch says that no requests are left: the match before the first tick is
sent, and the run fails at the second one. -/
theorem sent_in_order_of_exhausted :
    ∃ (w : Webhook) (p q : MatchingPost) (o : Outside) (sent : List WebhookMessage),
      ((consume [.hit p, .tick, .hit q, .tick]).runWith ⟨w, []⟩ o).1.toOption = none ∧
      ((consume [.hit p, .tick, .hit q, .tick]).runWith ⟨w, []⟩ o).2.2.messages =
        o.messages ++ sent ∧
      sent.flatMap (·.notices) <+: [noticeOf p, noticeOf q] ∧
      ∃ sofar, sofar <+: sent ∧ sofar.flatMap (·.notices) = [noticeOf p] := by
  let w : Webhook := ⟨{ (default : WebhookSettings) with enabled := true, url := "u" }, none⟩
  let hit (name : String) : MatchingPost :=
    ⟨⟨some name, none, none, none, none, none, none⟩, default, default⟩
  let o : Outside :=
    { (default : Outside) with
      webhookReplies := [.ok { headers := [("X-RateLimit-Remaining", "0")] }] }
  have hfails : ((consume [.hit (hit "p"), .tick, .hit (hit "q"), .tick]).runWith
      ⟨w, []⟩ o).1.toOption = none := by decide +kernel
  have hfirst : ((consume [.hit (hit "p"), .tick]).runWith ⟨w, []⟩ o).1.toOption = some () := by
    decide +kernel
  have hok : ((consume [.hit (hit "p"), .tick]).runWith ⟨w, []⟩ o).1 = .ok () := by
    generalize ((consume [.hit (hit "p"), .tick]).runWith ⟨w, []⟩ o).1 = result at hfirst ⊢
    cases result with
    | error e => cases hfirst
    | ok => rfl
  obtain ⟨sent, hsent, hinOrder, hticks⟩ :=
    sent_in_order w [.hit (hit "p"), .tick, .hit (hit "q"), .tick] o
  obtain ⟨sofar, hsofar, -, hall⟩ :=
    hticks [.hit (hit "p")] [.hit (hit "q"), .tick] rfl rfl hok
  exact ⟨w, hit "p", hit "q", o, sent, hfails, hsent, hinOrder, sofar, hsofar, hall⟩

end Notifier

namespace Pipeline

theorem takeNotice_run (p : Pipeline) (o : Outside) :
    takeNotice.runWith p o =
      match p.notices.take? with
      | some (n, notices, woken) =>
        (.ok (some n), { p with notices, ready := p.ready ++ woken.toList }, o)
      | none => (.ok none, { p with notices := p.notices.awaitItem .notify }, o) := by
  simp only [takeNotice, Act.runWith_bind, Act.runWith_state]
  rcases p.notices.take? with _ | ⟨n, notices, woken⟩ <;> rfl

/-- The pipeline takes the messages in its channel one after the other. -/
theorem handleNotices_consume {count : Nat} {p : Pipeline} (h : p.notices.items.length < count)
    (o : Outside) :
    ((handleNotices count).runWith p o).1 =
        ((Notifier.consume p.notices.items).runWith p.notifier o).1 ∧
      ((handleNotices count).runWith p o).2.1.notifier =
        ((Notifier.consume p.notices.items).runWith p.notifier o).2.1 ∧
      ((handleNotices count).runWith p o).2.2 =
        ((Notifier.consume p.notices.items).runWith p.notifier o).2.2 := by
  induction count generalizing p o with
  | zero => exact absurd h (Nat.not_lt_zero _)
  | succ count ih =>
    rw [handleNotices, Act.runWith_bind, takeNotice_run, Channel.take?]
    rcases hitems : p.notices.items with _ | ⟨m, ms⟩
    · exact ⟨rfl, rfl, rfl⟩
    · rw [hitems, List.length_cons] at h
      simp only [onNotifier, Notifier.consume, Act.runWith_bind, Act.runWith_within]
      generalize (Notifier.handle m).runWith p.notifier o = run
      obtain ⟨_ | _, n, o'⟩ := run
      · exact ⟨rfl, rfl, rfl⟩
      · exact ih (Nat.lt_of_succ_lt_succ h) o'

end Pipeline

end DealWatch
