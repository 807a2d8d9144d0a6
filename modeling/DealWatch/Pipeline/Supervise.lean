import DealWatch.Alert.Sms

/-!
# Supervised stages

* `supervise` runs a stage; if it fails, the failure is noted and the operator is told before it
  goes on.
-/

namespace DealWatch

variable {σ α : Type}

/-- What is done about a failure of a stage. A cancelled stage has not failed. -/
def reportFailure (alerts : Option SmsSettings) (stage : String) (f : Failure) : Act σ Unit := do
  if f.isCancelled then return
  else
    Act.log .failure "Stage failed" [("error", .text f.message)]
    Sms.alert alerts stage f

/-- Runs a stage under its name. -/
def supervise (stage : String) (alerts : Option SmsSettings) (act : Act σ α) : Act σ α :=
  Act.inStage stage do
    match ← Act.attempt act with
    | .ok a => return a
    | .error f =>
      reportFailure alerts stage f
      Act.fail f

end DealWatch
