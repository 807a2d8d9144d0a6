import DealWatch.Proofs.Notice.Sending

/-!
# Batches in messages

A batch is cut into groups of ten, the last of which may be smaller. The groups go out one by one,
and the first thing that goes wrong is the end of it.

* `length_of_chunk` says how large the groups are, `content_of_messagesOf` which message has a line
  above it;
* `sends_in_chunks` says what is sent of a batch and why it ends there.

How sending ends is known for any groups (`Goes`). What is added here is that the groups of a batch
hold its notices in order, and how large they are, by induction on how the batch is cut.
-/

namespace DealWatch

namespace Webhook

/-- Every group has a notice and at most ten of them; if another one follows, it has ten. -/
theorem length_of_chunk {notices : List Notice} {i : Nat} {group : List Notice}
    (h : (chunks notices)[i]? = some group) :
    1 ≤ group.length ∧ group.length ≤ maxNotices ∧
      (i + 1 < (chunks notices).length → group.length = maxNotices) := by
  induction notices using chunks.induct generalizing i with
  | case1 => simp [chunks] at h
  | case2 n ns ih =>
    rw [chunks] at h ⊢
    cases i with
    | zero =>
      obtain rfl : (n :: ns).take maxNotices = group := by simpa using h
      refine ⟨?_, List.length_take_le _ _, fun hmore => ?_⟩
      · rw [List.length_take, List.length_cons, maxNotices]
        omega
      · -- a second group is made only of notices beyond the first ten
        have hrest : (n :: ns).drop maxNotices ≠ [] := by
          intro hnil
          rw [hnil, chunks] at hmore
          simp at hmore
        rw [List.length_take]
        exact Nat.min_eq_left (Nat.le_of_lt (by simpa using hrest))
    | succ i =>
      obtain ⟨hone, hten, hfull⟩ := ih (by simpa using h)
      exact ⟨hone, hten, fun hmore => hfull (by simpa using hmore)⟩

theorem content_of_messagesOf {s : WebhookSettings} {content : Option String}
    {groups : List (List Notice)} {i : Nat} {m : WebhookMessage}
    (h : (messagesOf s content groups)[i]? = some m) :
    m.content = if i = 0 then content else none := by
  induction groups generalizing content i with
  | nil => simp [messagesOf] at h
  | cons group groups ih =>
    rw [messagesOf] at h
    cases i with
    | zero =>
      obtain rfl : message s content group = m := by simpa using h
      rfl
    | succ i =>
      rw [ih (by simpa using h), if_neg (Nat.succ_ne_zero i)]
      split <;> rfl

/-- **A batch in messages of ten.** Whatever the notices and the replies are, what is sent of a
batch is the first part of the messages that hold its notices in order: each of these has one to ten
notices, and ten if another one follows, and only the first says how many notices the batch has. All
of them are sent if the batch succeeds. No message follows a bad reply or a report that no requests
are left, so the batch ends with the first of these, or when all is sent and accepted. -/
theorem sends_in_chunks (w : Webhook) (henabled : w.isEnabled = true) (notices : List Notice)
    (o : Outside) :
    let run := (sendBatch notices).runWith w o
    ∃ sent rest : List WebhookMessage,
      run.2.2.messages = o.messages ++ sent ∧
      (sent ++ rest).flatMap (·.notices) = notices ∧
      (∀ i m, (sent ++ rest)[i]? = some m →
        1 ≤ m.notices.length ∧ m.notices.length ≤ 10 ∧
        (i + 1 < (sent ++ rest).length → m.notices.length = 10) ∧
        m.content =
          if i = 0 then some ("Found " ++ toString notices.length ++ " matches:") else none) ∧
      (run.1 = .ok true → rest = []) ∧
      (∀ n < sent.length, (∀ reply ∈ o.webhookReplies.take n, isGood reply = true) ∧
        lastQuota w.remaining (o.webhookReplies.take n) ≠ some 0) ∧
      ∃ result, Stops w.remaining (o.webhookReplies.take sent.length) rest result ∧
        run.1 = result.map fun _ => true := by
  intro run
  obtain ⟨journal, hrun⟩ := sendBatch_enabled henabled notices o
  obtain ⟨sent, rest, hgoes⟩ := sendChunks_goes (some (summary notices.length)) (chunks notices) w
    { o with journal }
  have hgroups : (sent ++ rest).map (·.notices) = chunks notices := by
    rw [← hgoes.inOrder, map_notices_messagesOf]
  have hends : run.2 = ((sendChunks (some (summary notices.length)) (chunks notices)).runWith w
        { o with journal }).2 ∧
      run.1 = ((sendChunks (some (summary notices.length)) (chunks notices)).runWith w
        { o with journal }).1.map fun _ => true := by
    simp only [run, hrun]
    generalize (sendChunks _ _).runWith _ _ = chunked
    obtain ⟨_ | _, w', o'⟩ := chunked <;> exact ⟨rfl, rfl⟩
  refine ⟨sent, rest, ?_, flatMap_notices hgroups, fun i m hm => ?_, fun hok => ?_,
    fun n hn => ⟨hgoes.unfailed n hn, hgoes.checked n hn⟩, _, hgoes.ended, hends.2⟩
  · rw [hends.1, hgoes.messages]
  · have hgroup : (chunks notices)[i]? = some m.notices := by
      rw [← hgroups, List.getElem?_map, hm, Option.map_some]
    obtain ⟨hone, hten, hfull⟩ := length_of_chunk hgroup
    refine ⟨hone, hten, fun hmore => hfull ?_, content_of_messagesOf (hgoes.inOrder ▸ hm)⟩
    rwa [← hgroups, List.length_map]
  · have hended := hgoes.ended
    rw [hends.2] at hok
    generalize ((sendChunks _ _).runWith _ _).1 = result at hok hended
    cases hended with
    | done hrest _ => exact hrest
    | exhausted => cases hok
    | failed => cases hok

/-- Of twenty-five notices the first twenty are sent, ten and ten. The reply to the second message
is a bad one, and the last five are left. -/
theorem sends_in_chunks_rejected :
    ∃ (w : Webhook) (o : Outside) (n : Notice) (sent rest : List WebhookMessage),
      w.isEnabled = true ∧ ((sendBatch (List.replicate 25 n)).runWith w o).2.2.messages = sent ∧
      (sent ++ rest).flatMap (·.notices) = List.replicate 25 n ∧
      sent.map (·.notices.length) = [10, 10] ∧ rest ≠ [] ∧
      sent.map (·.content) = [some "Found 25 matches:", none] ∧
      ((sendBatch (List.replicate 25 n)).runWith w o).1.toOption = none := by
  let w : Webhook := ⟨{ (default : WebhookSettings) with enabled := true, url := "u" }, none⟩
  let o : Outside :=
    { (default : Outside) with webhookReplies := [.ok { status := 204 }, .ok { status := 500 }] }
  let n : Notice := ⟨"t", "b", "l"⟩
  obtain ⟨sent, rest, hsent, hnotices, -, -, -, -⟩ :=
    sends_in_chunks w rfl (List.replicate 25 n) o
  have hsizes : ((sendBatch (List.replicate 25 n)).runWith w o).2.2.messages.map
      (·.notices.length) = [10, 10] := by decide +kernel
  have hcontents : ((sendBatch (List.replicate 25 n)).runWith w o).2.2.messages.map (·.content) =
      [some "Found 25 matches:", none] := by decide +kernel
  have hfailed : ((sendBatch (List.replicate 25 n)).runWith w o).1.toOption = none := by
    decide +kernel
  have hall : ((sendBatch (List.replicate 25 n)).runWith w o).2.2.messages = sent :=
    hsent.trans (List.nil_append sent)
  rw [hall] at hsizes hcontents
  refine ⟨w, o, n, sent, rest, rfl, hall, hnotices, hsizes, ?_, hcontents, hfailed⟩
  -- the messages that were sent hold twenty of the notices
  rintro rfl
  have hcount := congrArg List.length hnotices
  rw [List.append_nil, List.length_flatMap, hsizes] at hcount
  cases hcount

end Webhook

end DealWatch
