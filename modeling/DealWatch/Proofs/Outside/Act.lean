import DealWatch.Outside.Basic
import DealWatch.Proofs.Failure

/-!
# Running steps

What each way of making a step does to the state and to what is outside.

* `Act.runWith_bind` says how one step goes on after another; the other lemmas are about steps that
  do one thing;
* `Outside.nextReply` is the reply that the next request takes;
* `Act.Spares` says that a part of what is outside is the same after a step, `Act.KeepsClock` that
  no time passes during it.

A longer computation is run by rewriting with these lemmas from its first step on. Where only a part
of the outside matters, `Act.Spares.bind` is used instead: no step of the computation has to be run
then.
-/

namespace DealWatch

/-- The reply to the next request. Without one the connection fails. -/
def Outside.nextReply (o : Outside) : Outcome Reply :=
  o.replies.headD (.error (.transport .connection "no response"))

namespace Act

variable {σ α β : Type}

/-- A step that goes on after another one. If the first fails, what it did before stays done. -/
theorem runWith_bind (act : Act σ α) (next : α → Act σ β) (s : σ) (o : Outside) :
    (act >>= next).runWith s o =
      match act.runWith s o with
      | (.ok a, s', o') => (next a).runWith s' o'
      | (.error e, s', o') => (.error e, s', o') := by
  change ExceptT.bindCont next (act (s, o)).1 (act (s, o)).2 = _
  simp only [runWith, ExceptT.run, Id.run, ExceptT.bindCont]
  rcases act (s, o) with ⟨_ | _, s', o'⟩ <;> rfl

theorem runWith_bind_ok {act : Act σ α} {s s' : σ} {o o' : Outside} {a : α}
    (h : act.runWith s o = (.ok a, s', o')) (next : α → Act σ β) :
    (act >>= next).runWith s o = (next a).runWith s' o' := by
  rw [runWith_bind, h]

theorem runWith_bind_error {act : Act σ α} {s s' : σ} {o o' : Outside} {e : Failure}
    (h : act.runWith s o = (.error e, s', o')) (next : α → Act σ β) :
    (act >>= next).runWith s o = (.error e, s', o') := by
  rw [runWith_bind, h]

/-- A step that goes on after another one succeeds only if both do. -/
theorem of_runWith_bind {act : Act σ α} {next : α → Act σ β} {s s' : σ} {o o' : Outside} {b : β}
    (h : (act >>= next).runWith s o = (.ok b, s', o')) :
    ∃ a s₁ o₁, act.runWith s o = (.ok a, s₁, o₁) ∧ (next a).runWith s₁ o₁ = (.ok b, s', o') := by
  rw [runWith_bind] at h
  generalize act.runWith s o = run at h
  obtain ⟨e | a, s₁, o₁⟩ := run
  · cases h
  · exact ⟨a, s₁, o₁, rfl, h⟩

@[simp] theorem runWith_pure (a : α) (s : σ) (o : Outside) :
    (pure a : Act σ α).runWith s o = (.ok a, s, o) := rfl

@[simp] theorem runWith_fail (e : Failure) (s : σ) (o : Outside) :
    (fail e : Act σ α).runWith s o = (.error e, s, o) := rfl

@[simp] theorem runWith_ofOutcome (x : Outcome α) (s : σ) (o : Outside) :
    (ofOutcome x : Act σ α).runWith s o = (x, s, o) := by
  cases x <;> rfl

theorem ofOutcome_bind (x : Outcome α) (f : α → Outcome β) :
    (ofOutcome (x >>= f) : Act σ β) = ofOutcome x >>= fun a => ofOutcome (f a) := by
  cases x <;> rfl

@[simp] theorem runWith_state (s : σ) (o : Outside) :
    (state : Act σ σ).runWith s o = (.ok s, s, o) := rfl

@[simp] theorem runWith_put (s s' : σ) (o : Outside) :
    (put s' : Act σ Unit).runWith s o = (.ok (), s', o) := rfl

@[simp] theorem runWith_now (s : σ) (o : Outside) :
    (now : Act σ Int).runWith s o = (.ok o.now, s, o) := rfl

/-- An entry of the journal leaves the rest of what is outside alone. -/
@[simp] theorem runWith_log (severity : Severity) (event : String)
    (fields : List (String × Datum)) (s : σ) (o : Outside) :
    (log severity event fields : Act σ Unit).runWith s o =
      (.ok (), s, { o with journal := o.journal ++ [⟨severity, event, fields, o.stage⟩] }) := rfl

@[simp] theorem runWith_change (f : Outside → Outside) (s : σ) (o : Outside) :
    (change f : Act σ Unit).runWith s o = (.ok (), s, f o) := rfl

@[simp] theorem runWith_outside (s : σ) (o : Outside) :
    (outside : Act σ Outside).runWith s o = (.ok o, s, o) := rfl

@[simp] theorem runWith_map (f : α → β) (act : Act σ α) (s : σ) (o : Outside) :
    (f <$> act).runWith s o = ((act.runWith s o).1.map f, (act.runWith s o).2) := by
  rw [map_eq_pure_bind, runWith_bind]
  rcases act.runWith s o with ⟨_ | _, s', o'⟩ <;> rfl

/-- A step whose value does not matter. -/
theorem runWith_discard (act : Act σ α) (s : σ) (o : Outside) :
    (discard act : Act σ Unit).runWith s o =
      ((act.runWith s o).1.map fun _ => (), (act.runWith s o).2) := by
  rw [Functor.discard, LawfulFunctor.map_const]
  exact runWith_map _ act s o

/-- A step over a part of the state leaves the rest alone. -/
theorem runWith_within {τ : Type} (part : τ → σ) (replace : σ → τ → τ) (act : Act σ α) (t : τ)
    (o : Outside) :
    (within part replace act).runWith t o =
      ((act.runWith (part t) o).1, replace (act.runWith (part t) o).2.1 t,
        (act.runWith (part t) o).2.2) := rfl

/-- A step that is attempted does not end the step around it. -/
theorem runWith_attempt (act : Act σ α) (s : σ) (o : Outside) :
    act.attempt.runWith s o = (.ok (act.runWith s o).1, (act.runWith s o).2) := rfl

/-- A step in a stage leaves the stage again. -/
theorem runWith_inStage (stage : String) (act : Act σ α) (s : σ) (o : Outside) :
    (inStage stage act).runWith s o =
      ((act.runWith s { o with stage := some stage }).1,
        (act.runWith s { o with stage := some stage }).2.1,
        { (act.runWith s { o with stage := some stage }).2.2 with stage := o.stage }) := rfl

/-- A notification counts as sent, whatever the reply is. -/
theorem runWith_sendMessage (m : WebhookMessage) (s : σ) (o : Outside) :
    (sendMessage m : Act σ Reply).runWith s o =
      match o.webhookReplies with
      | [] => (.ok { status := 204, body := .text "" }, s, { o with messages := o.messages ++ [m] })
      | reply :: rest =>
        (reply, s, { o with messages := o.messages ++ [m], webhookReplies := rest }) := by
  unfold sendMessage
  simp only [runWith_bind, runWith_change, runWith_outside]
  rcases o.webhookReplies with _ | ⟨reply, rest⟩
  · rfl
  · simp only [runWith_bind, runWith_change, runWith_ofOutcome]

/-- Sending a request takes the reply that is to come. Neither the state nor the clock nor the files
change by it. -/
theorem runWith_send (r : Request) (s : σ) (o : Outside) :
    (send r : Act σ Reply).runWith s o =
      (o.nextReply, s,
        { o with requests := o.requests ++ [r], replies := o.replies.drop 1 }) := by
  unfold send
  simp only [runWith_bind, runWith_change, runWith_outside, Outside.nextReply]
  rcases o.replies with _ | ⟨reply, rest⟩
  · rfl
  · simp only [runWith_bind, runWith_change, runWith_ofOutcome]
    rfl

/-- What comes after a request goes on with the reply, if there is one. -/
theorem runWith_send_bind (r : Request) (next : Reply → Act σ β) (s : σ) (o : Outside) :
    (send r >>= next).runWith s o =
      (ofOutcome o.nextReply >>= next).runWith s
        { o with requests := o.requests ++ [r], replies := o.replies.drop 1 } := by
  rw [runWith_bind, runWith_bind, runWith_send, runWith_ofOutcome]

@[simp] theorem runWith_files (s : σ) (o : Outside) :
    (files : Act σ Files).runWith s o = (.ok o.files, s, o) := rfl

@[simp] theorem runWith_putFiles (fs : Files) (s : σ) (o : Outside) :
    (putFiles fs : Act σ Unit).runWith s o = (.ok (), s, { o with files := fs }) := rfl

/-! ### What a step leaves alone -/

/-- A part of what is outside is the same after a step. -/
def Spares {τ : Type} (part : Outside → τ) (act : Act σ α) : Prop :=
  ∀ s o, part (act.runWith s o).2.2 = part o

/-- A part of what is outside to which neither the journal nor the files belong. -/
structure Apart {τ : Type} (part : Outside → τ) : Prop where
  journal : ∀ o journal, part { o with journal } = part o
  files : ∀ o files, part { o with files } = part o

theorem apart_now : Apart (·.now) := ⟨fun _ _ => rfl, fun _ _ => rfl⟩

theorem apart_requests : Apart (·.requests) := ⟨fun _ _ => rfl, fun _ _ => rfl⟩

section Parts

variable {τ : Type} {part : Outside → τ}

theorem Spares.bind {act : Act σ α} {next : α → Act σ β} (h : act.Spares part)
    (hnext : ∀ a, (next a).Spares part) : (act >>= next).Spares part := by
  intro s o
  have hact := h s o
  rw [runWith_bind]
  generalize act.runWith s o = run at hact
  obtain ⟨e | a, s', o'⟩ := run
  · exact hact
  · exact (hnext a s' o').trans hact

theorem spares_pure (a : α) : (pure a : Act σ α).Spares part := fun _ _ => rfl

theorem spares_state : (state : Act σ σ).Spares part := fun _ _ => rfl

theorem spares_put (s : σ) : (put s : Act σ Unit).Spares part := fun _ _ => rfl

theorem spares_ofOutcome (x : Outcome α) : (ofOutcome x : Act σ α).Spares part := by
  intro s o
  rw [runWith_ofOutcome]

theorem spares_files : (files : Act σ Files).Spares part := fun _ _ => rfl

theorem spares_log (h : Apart part) (severity : Severity) (event : String)
    (fields : List (String × Datum)) : (log severity event fields : Act σ Unit).Spares part :=
  fun _ o => h.journal o _

theorem spares_putFiles (h : Apart part) (fs : Files) : (putFiles fs : Act σ Unit).Spares part :=
  fun _ o => h.files o fs

end Parts

theorem spares_send (r : Request) : (send r : Act σ Reply).Spares (·.now) := by
  intro s o
  rw [runWith_send]

/-- No time passes during a step. -/
def KeepsClock (act : Act σ α) : Prop := ∀ s o, (act.runWith s o).2.2.now = o.now

theorem KeepsClock.now_eq {act : Act σ α} (h : act.KeepsClock) {s s' : σ} {o o' : Outside}
    {x : Outcome α} (hrun : act.runWith s o = (x, s', o')) : o'.now = o.now := by
  have hact := h s o
  rwa [hrun] at hact

end Act

end DealWatch
