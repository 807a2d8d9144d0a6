import DealWatch.Proofs.Notice.Webhook

/-!
# Messages and the replies to them

Every message that is sent takes the next reply of a script. A batch that does not fail is accepted
as a whole.

* `accepts` says which replies accept a message, `acknowledged` are the messages among those sent
  that their replies accept;
* `Answered` says what a step sends and which replies it uses up, `sendChunks_answered` that a batch
  that does not fail is accepted as a whole.

The induction is on the groups of the batch. A message whose reply is wrong in any way is followed
by no other, so only the failing batch can hold a message that was not accepted.
-/

namespace DealWatch

namespace Webhook

/-! ### Accepted messages -/

/-- Whether a reply accepts the message that it answers. -/
def accepts : Outcome Reply → Bool
  | .ok reply => reply.status == 200 || reply.status == 204
  | .error _ => false

/-- The messages that are accepted if a script answers them one by one. A message beyond the end of
the script is accepted. -/
def acknowledged : List (Outcome Reply) → List WebhookMessage → List WebhookMessage
  | [], ms => ms
  | _ :: _, [] => []
  | reply :: script, m :: ms =>
    if accepts reply then m :: acknowledged script ms else acknowledged script ms

@[simp] theorem acknowledged_nil (script : List (Outcome Reply)) : acknowledged script [] = [] := by
  cases script <;> rfl

theorem acknowledged_append (script : List (Outcome Reply)) (ms ms' : List WebhookMessage) :
    acknowledged script (ms ++ ms') =
      acknowledged script ms ++ acknowledged (script.drop ms.length) ms' := by
  induction ms generalizing script with
  | nil => simp
  | cons m ms ih =>
    cases script with
    | nil => simp [acknowledged]
    | cons reply script =>
      simp only [List.cons_append, acknowledged, List.length_cons, List.drop_succ_cons, ih]
      split <;> rfl

/-- What a step sends, and that it takes one reply of the script for each message. If it does not
fail, all of the messages are accepted. -/
structure Answered {α σ : Type} (o : Outside) (run : Outcome α × σ × Outside)
    (sent : List WebhookMessage) : Prop where
  messages : run.2.2.messages = o.messages ++ sent
  replies : run.2.2.webhookReplies = o.webhookReplies.drop sent.length
  accepted : ∀ a, run.1 = .ok a → acknowledged o.webhookReplies sent = sent

/-- Nothing need be accepted of what a step sends that fails. -/
theorem Answered.of_error {α σ : Type} {o : Outside} {run : Outcome α × σ × Outside}
    {sent : List WebhookMessage} {e : Failure} (herror : run.1 = .error e)
    (hmessages : run.2.2.messages = o.messages ++ sent)
    (hreplies : run.2.2.webhookReplies = o.webhookReplies.drop sent.length) :
    Answered o run sent := by
  refine ⟨hmessages, hreplies, fun a ha => ?_⟩
  rw [herror] at ha
  cases ha

theorem keepQuota_quiet (reply : Reply) (w : Webhook) (o : Outside) :
    ((keepQuota reply).runWith w o).2.2.messages = o.messages ∧
      ((keepQuota reply).runWith w o).2.2.webhookReplies = o.webhookReplies := by
  unfold keepQuota
  split
  · exact ⟨rfl, rfl⟩
  · split
    · exact ⟨rfl, rfl⟩
    · simp [Act.runWith_bind]

theorem accepts_of_requireAccepted {reply : Reply} {w : Webhook} {o : Outside}
    (h : ((requireAccepted reply).runWith w o).1 = .ok ()) : accepts (.ok reply) = true := by
  unfold requireAccepted at h
  split at h
  · cases h
  · rename_i hstatus
    simpa [accepts, Decidable.imp_iff_not_or] using hstatus

/-- What is done with the reply to a message sends nothing more, and fails unless the reply accepts
the message. -/
theorem answered_of_reply {reply : Reply} {m : WebhookMessage} {o o' : Outside} (w : Webhook)
    (hmessages : o'.messages = o.messages ++ [m])
    (hreplies : o'.webhookReplies = o.webhookReplies.drop 1)
    (hscript : accepts (.ok reply) = true → acknowledged o.webhookReplies [m] = [m]) :
    Answered o
      ((do keepQuota reply; requireAccepted reply : Act Webhook Unit).runWith w o') [m] := by
  have hquiet := keepQuota_quiet reply w o'
  rw [hmessages, hreplies] at hquiet
  rw [Act.runWith_bind]
  generalize (keepQuota reply).runWith w o' = run at hquiet ⊢
  obtain ⟨e | ⟨⟩, w', o''⟩ := run
  · exact .of_error rfl hquiet.1 hquiet.2
  · have hsame := requireAccepted_run reply w' o''
    exact ⟨by rw [hsame]; exact hquiet.1, by rw [hsame]; exact hquiet.2,
      fun _ hok => hscript (accepts_of_requireAccepted hok)⟩

/-- Sending a message takes the next reply of the script. -/
theorem execute_answered (m : WebhookMessage) (w : Webhook) (o : Outside) :
    Answered o ((execute m).runWith w o) [m] := by
  rw [execute, Act.runWith_bind, Act.runWith_sendMessage]
  rcases hscript : o.webhookReplies with _ | ⟨_ | reply, script⟩
  · exact answered_of_reply w rfl (by simp [hscript]) fun _ => by rw [hscript]; rfl
  · exact .of_error rfl rfl (by simp [hscript])
  · refine answered_of_reply w rfl (by simp [hscript]) fun haccepts => ?_
    rw [hscript, acknowledged, if_pos haccepts, acknowledged_nil]

/-- Sending a group sends one message at most. -/
theorem sendGroup_answered (content : Option String) (group : List Notice) (w : Webhook)
    (o : Outside) : ∃ sent, Answered o ((sendGroup content group).runWith w o) sent := by
  simp only [sendGroup, checkQuota, Act.runWith_bind, Act.runWith_state]
  by_cases hquota : w.remaining == some 0
  · rw [if_pos hquota, Act.runWith_fail]
    exact ⟨[], .of_error rfl (List.append_nil _).symm rfl⟩
  · rw [if_neg hquota, Act.runWith_pure]
    exact ⟨_, execute_answered (message w.settings content group) w o⟩

/-- **A batch that does not fail is accepted as a whole.** -/
theorem sendChunks_answered (content : Option String) (groups : List (List Notice)) (w : Webhook)
    (o : Outside) : ∃ sent, Answered o ((sendChunks content groups).runWith w o) sent := by
  induction groups generalizing content w o with
  | nil => exact ⟨[], (List.append_nil _).symm, rfl, fun _ _ => acknowledged_nil _⟩
  | cons group groups ih =>
    rw [sendChunks_cons, Act.runWith_bind]
    obtain ⟨first, hfirst⟩ := sendGroup_answered content group w o
    generalize (sendGroup content group).runWith w o = run at hfirst ⊢
    obtain ⟨e | ⟨⟩, w', o'⟩ := run
    · exact ⟨first, .of_error rfl hfirst.messages hfirst.replies⟩
    · obtain ⟨rest, hrest⟩ := ih none w' o'
      have hmessages := hfirst.messages
      have hreplies := hfirst.replies
      simp only at hmessages hreplies
      refine ⟨first ++ rest, ?_, ?_, fun a ha => ?_⟩
      · rw [hrest.messages, hmessages, List.append_assoc]
      · rw [hrest.replies, hreplies, List.drop_drop, List.length_append]
      · have haccepted := hrest.accepted a ha
        rw [hreplies] at haccepted
        rw [acknowledged_append, hfirst.accepted () rfl, haccepted]

end Webhook

end DealWatch
