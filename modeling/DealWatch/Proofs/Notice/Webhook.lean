import DealWatch.Notice.Webhook
import DealWatch.Proofs.Outside.Act

/-!
# What sending a batch does

A batch goes out group by group. Whatever the replies are, the messages that are sent hold the
groups from the first on, and all of them if nothing fails.

* `sendGroup` sends one group, `sendChunks_cons` says that a batch is sent with it;
* `SendsGroups` says what sending some groups leaves, `sendChunks_sendsGroups` that it does;
* `sendBatch_disabled` and `sendBatch_enabled` say what becomes of a batch.

The proof is by induction on the groups. A group can fail before its message is sent or after, and
in both cases no other group follows.
-/

namespace DealWatch

namespace Webhook

/-! ### Groups -/

theorem flatten_chunks (notices : List Notice) : (chunks notices).flatten = notices := by
  induction notices using chunks.induct with
  | case1 => rw [chunks, List.flatten_nil]
  | case2 n ns ih => rw [chunks, List.flatten_cons, ih, List.take_append_drop]

/-! ### One message -/

/-- Sends one group of notices, if there are requests left. -/
def sendGroup (content : Option String) (group : List Notice) : Act Webhook Unit := do
  checkQuota
  execute (message (← Act.state).settings content group)

theorem sendChunks_cons (content : Option String) (group : List Notice)
    (rest : List (List Notice)) :
    sendChunks content (group :: rest) = (do sendGroup content group; sendChunks none rest) := by
  rw [sendChunks, sendGroup]
  simp only [bind_assoc]

/-- What a reply says about the quota changes neither the settings nor what was sent. -/
theorem keepQuota_run (reply : Reply) (w : Webhook) (o : Outside) :
    ((keepQuota reply).runWith w o).2.1.settings = w.settings ∧
      ((keepQuota reply).runWith w o).2.2.messages = o.messages := by
  unfold keepQuota
  split
  · exact ⟨rfl, rfl⟩
  · split
    · exact ⟨rfl, rfl⟩
    · simp [Act.runWith_bind]

/-- Accepting a reply changes nothing. -/
theorem requireAccepted_run (reply : Reply) (w : Webhook) (o : Outside) :
    ((requireAccepted reply).runWith w o).2 = (w, o) := by
  unfold requireAccepted
  split <;> rfl

/-- A message that is sent is one more, also if the reply is bad. -/
theorem execute_run (m : WebhookMessage) (w : Webhook) (o : Outside) :
    ((execute m).runWith w o).2.1.settings = w.settings ∧
      ((execute m).runWith w o).2.2.messages = o.messages ++ [m] := by
  have hrest (reply : Reply) (o : Outside) :
      ((do keepQuota reply; requireAccepted reply : Act Webhook Unit).runWith w o).2.1.settings =
          w.settings ∧
        ((do keepQuota reply; requireAccepted reply : Act Webhook Unit).runWith w o).2.2.messages =
          o.messages := by
    have hkeep := keepQuota_run reply w o
    rw [Act.runWith_bind]
    generalize (keepQuota reply).runWith w o = run at hkeep ⊢
    obtain ⟨_ | _, w', o'⟩ := run
    · exact hkeep
    · simp only [requireAccepted_run]
      exact hkeep
  rw [execute, Act.runWith_bind, Act.runWith_sendMessage]
  rcases o.webhookReplies with _ | ⟨_ | reply, rest⟩
  · exact hrest _ _
  · exact ⟨rfl, rfl⟩
  · exact hrest _ _

/-- Sending a group keeps the settings, and sends its notices in one message or nothing at all; if
nothing fails it sends them. -/
theorem sendGroup_run (content : Option String) (group : List Notice) (w : Webhook) (o : Outside) :
    ((sendGroup content group).runWith w o).2.1.settings = w.settings ∧
      (((sendGroup content group).runWith w o).2.2.messages =
          o.messages ++ [message w.settings content group] ∨
        ((sendGroup content group).runWith w o).1 = .error .noRequestsLeft ∧
          ((sendGroup content group).runWith w o).2.2.messages = o.messages) := by
  simp only [sendGroup, checkQuota, Act.runWith_bind, Act.runWith_state]
  by_cases hquota : w.remaining == some 0
  · rw [if_pos hquota, Act.runWith_fail]
    exact ⟨rfl, .inr ⟨rfl, rfl⟩⟩
  · rw [if_neg hquota, Act.runWith_pure]
    obtain ⟨hsettings, hmessages⟩ := execute_run (message w.settings content group) w o
    exact ⟨hsettings, .inl hmessages⟩

/-! ### A batch -/

/-- What sending groups leaves: the settings are the same, the messages hold the groups from the
first on, and all of them if nothing fails. -/
structure SendsGroups (groups : List (List Notice)) (w : Webhook) (o : Outside)
    (run : Outcome Unit × Webhook × Outside) (sent : List WebhookMessage) : Prop where
  settings : run.2.1.settings = w.settings
  messages : run.2.2.messages = o.messages ++ sent
  inOrder : sent.map (·.notices) <+: groups
  all : run.1 = .ok () → sent.map (·.notices) = groups

/-- **Sending groups** sends them in order, up to the first failure. -/
theorem sendChunks_sendsGroups (content : Option String) (groups : List (List Notice))
    (w : Webhook) (o : Outside) :
    ∃ sent, SendsGroups groups w o ((sendChunks content groups).runWith w o) sent := by
  induction groups generalizing content w o with
  | nil => exact ⟨[], rfl, (List.append_nil _).symm, List.prefix_rfl, fun _ => rfl⟩
  | cons group groups ih =>
    rw [sendChunks_cons, Act.runWith_bind]
    obtain ⟨hsettings, hsent⟩ := sendGroup_run content group w o
    generalize (sendGroup content group).runWith w o = run at hsettings hsent ⊢
    obtain ⟨e | ⟨⟩, w', o'⟩ := run
    · -- the message may have been sent although the group failed
      obtain hsent | ⟨-, hsent⟩ := hsent
      · refine ⟨_, hsettings, hsent, ?_, fun h => by cases h⟩
        exact List.prefix_cons_inj _ |>.2 List.nil_prefix
      · exact ⟨[], hsettings, by simpa using hsent, List.nil_prefix, fun h => by cases h⟩
    · obtain hsent | ⟨hfail, -⟩ := hsent
      · obtain ⟨sent, hmore⟩ := ih none w' o'
        refine ⟨message w.settings content group :: sent,
          hmore.settings.trans hsettings, ?_, ?_, ?_⟩
        · rw [hmore.messages]
          simp only at hsent
          rw [hsent, List.append_assoc, List.singleton_append]
        · exact (List.prefix_cons_inj _).2 hmore.inOrder
        · exact fun h => congrArg _ (hmore.all h)
      · cases hfail

/-- The notices of messages that hold the groups of a batch are the notices of the batch. -/
theorem flatMap_notices {notices : List Notice} {sent : List WebhookMessage}
    (h : sent.map (·.notices) = chunks notices) : sent.flatMap (·.notices) = notices := by
  rw [List.flatMap_def, h, flatten_chunks]

/-- The notices of messages that hold the first groups of a batch are its first notices. -/
theorem flatMap_notices_prefix {notices : List Notice} {sent : List WebhookMessage}
    (h : sent.map (·.notices) <+: chunks notices) : sent.flatMap (·.notices) <+: notices := by
  obtain ⟨rest, hrest⟩ := h
  refine ⟨rest.flatten, ?_⟩
  rw [List.flatMap_def, ← List.flatten_append, hrest, flatten_chunks]

/-- A notifier that cannot send says so in the journal and does nothing else. -/
theorem sendBatch_disabled {w : Webhook} (h : w.isEnabled = false) (notices : List Notice)
    (o : Outside) :
    ∃ journal, (sendBatch notices).runWith w o = (.ok false, w, { o with journal }) := by
  simp only [sendBatch, Act.runWith_bind, Act.runWith_state, h, Bool.not_false, if_true,
    Act.runWith_log, Act.runWith_pure]
  exact ⟨_, rfl⟩

/-- A notifier that can send does so group by group. -/
theorem sendBatch_enabled {w : Webhook} (h : w.isEnabled = true) (notices : List Notice)
    (o : Outside) :
    ∃ journal,
      (sendBatch notices).runWith w o =
        match (sendChunks (some (summary notices.length)) (chunks notices)).runWith w
            { o with journal } with
        | (.ok (), w', o'') => (.ok true, w', o'')
        | (.error e, w', o'') => (.error e, w', o'') := by
  simp only [sendBatch, Act.runWith_bind, Act.runWith_state, h, Bool.not_true, Bool.false_eq_true,
    if_false, Act.runWith_log, Act.runWith_pure]
  refine ⟨o.journal ++ [⟨.info, "Sending matches", [("count", .nat notices.length)], o.stage⟩], ?_⟩
  generalize (sendChunks _ _).runWith _ _ = run
  obtain ⟨_ | _, w', o'⟩ := run <;> rfl

end Webhook

end DealWatch
