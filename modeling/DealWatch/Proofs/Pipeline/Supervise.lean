import DealWatch.Pipeline.Supervise
import DealWatch.Proofs.Outside.Act

/-!
# What a supervised stage leaves

Whatever is done about a failure of a stage, the state is the one that the stage left.

* `Act.Keeps` says that a step changes only what is outside;
* `supervise_run` is about a stage that is supervised.

Reporting a failure is made of steps that all keep the state, and `Act.Keeps.bind` puts them
together.
-/

namespace DealWatch

namespace Act

variable {σ α β : Type}

/-- A step that changes only what is outside. -/
def Keeps (act : Act σ α) : Prop := ∀ s o, (act.runWith s o).2.1 = s

theorem keeps_pure (a : α) : Keeps (pure a : Act σ α) := fun _ _ => rfl

theorem keeps_fail (e : Failure) : Keeps (fail e : Act σ α) := fun _ _ => rfl

theorem keeps_ofOutcome (x : Outcome α) : Keeps (ofOutcome x : Act σ α) := by
  intro s o
  rw [runWith_ofOutcome]

theorem keeps_change (f : Outside → Outside) : Keeps (change f : Act σ Unit) := fun _ _ => rfl

theorem keeps_outside : Keeps (outside : Act σ Outside) := fun _ _ => rfl

theorem keeps_log (severity : Severity) (event : String) (fields : List (String × Datum)) :
    Keeps (log severity event fields : Act σ Unit) := fun _ _ => rfl

theorem Keeps.bind {act : Act σ α} {next : α → Act σ β} (h : act.Keeps)
    (hnext : ∀ a, (next a).Keeps) : (act >>= next).Keeps := by
  intro s o
  have hs := h s o
  rw [runWith_bind]
  generalize act.runWith s o = run at hs ⊢
  obtain ⟨e | a, s', o'⟩ := run
  · exact hs
  · exact (hnext a s' o').trans hs

theorem Keeps.attempt {act : Act σ α} (h : act.Keeps) : act.attempt.Keeps := h

theorem keeps_send (r : Request) : Keeps (send r : Act σ Reply) := by
  refine (keeps_change _).bind fun _ => keeps_outside.bind fun o => ?_
  split
  · exact keeps_fail _
  · exact (keeps_change _).bind fun _ => keeps_ofOutcome _

end Act

variable {σ α : Type}

theorem Sms.keeps_send (s : SmsSettings) (body : String) :
    (send s body : Act σ Datum).Keeps := by
  refine (Act.keeps_ofOutcome _).bind fun url => (Act.keeps_send _).bind fun reply => ?_
  refine (Act.keeps_ofOutcome _).bind fun _ => (Act.keeps_ofOutcome _).bind fun uri => ?_
  exact (Act.keeps_log _ _ _).bind fun _ => Act.keeps_pure _

theorem Sms.keeps_alert (alerts : Option SmsSettings) (stage : String) (f : Failure) :
    (alert alerts stage f : Act σ Unit).Keeps := by
  unfold alert
  split
  · exact Act.keeps_pure _
  · split
    · exact Act.keeps_pure _
    · refine (keeps_send _ _).attempt.bind fun result => ?_
      split
      · exact Act.keeps_pure _
      · split
        · exact Act.keeps_log _ _ _
        · exact Act.keeps_fail _

/-- What is done about a failure changes only what is outside. -/
theorem keeps_reportFailure (alerts : Option SmsSettings) (stage : String) (f : Failure) :
    (reportFailure alerts stage f : Act σ Unit).Keeps := by
  unfold reportFailure
  split
  · exact Act.keeps_pure _
  · exact (Act.keeps_log _ _ _).bind fun _ => Sms.keeps_alert _ _ _

/-- **A supervised stage** leaves the state that it leaves on its own, and fails if it does so on
its own, though perhaps with another failure. -/
theorem supervise_run (stage : String) (alerts : Option SmsSettings) (act : Act σ α) (s : σ)
    (o : Outside) :
    ∃ result o', (supervise stage alerts act).runWith s o =
        (result, (act.runWith s { o with stage := some stage }).2.1, o') ∧
      result.toOption = (act.runWith s { o with stage := some stage }).1.toOption := by
  simp only [supervise, Act.runWith_inStage, Act.runWith_bind, Act.runWith_attempt]
  generalize act.runWith s { o with stage := some stage } = run
  obtain ⟨e | a, s', o'⟩ := run
  · -- if the report fails too, its failure takes the place of the first one
    have hreport := keeps_reportFailure alerts stage e s' o'
    simp only [Act.runWith_bind]
    generalize (reportFailure alerts stage e).runWith s' o' = report at hreport ⊢
    obtain ⟨_ | _, s'', o''⟩ := report
    · cases hreport
      exact ⟨_, _, rfl, rfl⟩
    · cases hreport
      exact ⟨_, _, rfl, rfl⟩
  · exact ⟨_, _, rfl, rfl⟩

end DealWatch
