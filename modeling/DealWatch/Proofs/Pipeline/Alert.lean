import DealWatch.Proofs.Pipeline.Supervise

/-!
# What a failing stage fails with

A supervised stage that fails should fail with its own failure, whatever becomes of the alert about
it. It does so unless the alert fails in a way that is no failure of a request: then it fails with
the failure of the alert.

* `Sms.Harmless` lists the alerts that leave the failure of the stage as it is;
* `Sms.Supplants` lists those that put their own in its place;
* `supervise_raises_iff` says what a stage fails with, `supervise_raises_other` is an answer without
  a receipt.

What an alert comes to depends on its settings and the next reply alone (`Sms.alertOutcome`). The
two lists give its value in each case, and `Sms.harmless_or_supplants` runs through the steps of
sending to see that one of them applies.
-/

namespace DealWatch

variable {σ α : Type}

namespace Sms

/-- The address to which the texts of an account are sent. -/
def address (s : SmsSettings) : Outcome String :=
  (Url.join s.apiUrl (s.accountSid ++ "/Messages.json")).mapError .badAddress

/-- What the answer to a text comes to: the address of its receipt, or a failure. -/
def receipt (s : SmsSettings) (reply : Outcome Reply) : Outcome Datum := do
  let url ← address s
  let r ← reply
  r.requireSuccess url
  (← r.document).index "uri"

/-- What an alert comes to: it fails only if sending its text does, and not as a request does. -/
def alertOutcome (alerts : Option SmsSettings) (reply : Outcome Reply) : Outcome Unit :=
  match alerts with
  | none => .ok ()
  | some s =>
    if isEnabled s = false then .ok ()
    else
      match receipt s reply with
      | .ok _ => .ok ()
      | .error e => if e.isTransport then .ok () else .error e

/-- The alerts that leave the failure of a stage as it is, by the reply to the text. -/
inductive Harmless : Option SmsSettings → Outcome Reply → Prop
  | absent {reply : Outcome Reply} : Harmless none reply
  | disabled {s : SmsSettings} {reply : Outcome Reply} : isEnabled s = false →
      Harmless (some s) reply
  | unanswered {s : SmsSettings} {url : String} {e : Failure} : address s = .ok url →
      e.isTransport = true → Harmless (some s) (.error e)
  /-- The status is a bad one. -/
  | rejected {s : SmsSettings} {url : String} {r : Reply} : address s = .ok url →
      400 ≤ r.status → r.status < 600 → Harmless (some s) (.ok r)
  /-- The body is no JSON. -/
  | unreadable {s : SmsSettings} {url message : String} {r : Reply} : address s = .ok url →
      r.document = .error (.badBody message) → Harmless (some s) (.ok r)
  | delivered {s : SmsSettings} {url : String} {r : Reply} {es : Entries} {uri : Datum} :
      address s = .ok url → r.document = .ok (.dict es) → Entries.get? es "uri" = some uri →
      Harmless (some s) (.ok r)

/-- The alerts that put a failure of their own in the place of that of a stage. -/
inductive Supplants : Option SmsSettings → Outcome Reply → Failure → Prop
  | misaddressed {s : SmsSettings} {reply : Outcome Reply} {fault : Host.Fault} :
      isEnabled s = true → address s = .error (.badAddress fault) →
      Supplants (some s) reply (.badAddress fault)
  /-- Sending the text fails, but not as a request does. -/
  | broken {s : SmsSettings} {url : String} {e : Failure} : isEnabled s = true →
      address s = .ok url → e.isTransport = false → Supplants (some s) (.error e) e
  /-- The status is good and the body is JSON, but beyond the limits of what is read. -/
  | excessive {s : SmsSettings} {url : String} {r : Reply} {e : Failure} : isEnabled s = true →
      address s = .ok url → ¬ (400 ≤ r.status ∧ r.status < 600) → r.document = .error e →
      e = .longInteger ∨ e = .endless → Supplants (some s) (.ok r) e
  /-- The status is good, but the body has no place for the address of the receipt. -/
  | unconfirmed {s : SmsSettings} {url : String} {r : Reply} {d : Datum} {e : Failure} :
      isEnabled s = true → address s = .ok url → ¬ (400 ≤ r.status ∧ r.status < 600) →
      r.document = .ok d → d.index "uri" = .error e → Supplants (some s) (.ok r) e

/-! ### The outcome of an alert -/

theorem send_result (s : SmsSettings) (body : String) (st : σ) (o : Outside) :
    ((send s body).runWith st o).1 = receipt s o.nextReply := by
  unfold send receipt address
  cases (Url.join s.apiUrl (s.accountSid ++ "/Messages.json")).mapError Failure.badAddress with
  | error e => rfl
  | ok url =>
    simp only [Act.runWith_bind, Act.runWith_ofOutcome, Act.runWith_send]
    cases o.nextReply with
    | error e => rfl
    | ok r =>
      change _ = (r.requireSuccess url >>= fun _ => r.document >>= (·.index "uri"))
      simp only [request]
      cases r.requireSuccess url with
      | error e => rfl
      | ok _ =>
        change _ = (r.document >>= (·.index "uri"))
        cases r.document >>= (·.index "uri") with
        | error e => rfl
        | ok uri => rfl

theorem alert_result (alerts : Option SmsSettings) (stage : String) (f : Failure) (st : σ)
    (o : Outside) :
    ((alert alerts stage f).runWith st o).1 = alertOutcome alerts o.nextReply := by
  cases alerts with
  | none => rfl
  | some s =>
    cases hs : isEnabled s with
    | false => simp [alert, alertOutcome, hs]
    | true =>
      have hsend := send_result s (alertText stage f) st o
      simp only [alert, alertOutcome, hs, Bool.not_true, Bool.false_eq_true, Bool.true_eq_false,
        if_false, Act.runWith_bind, Act.runWith_attempt, hsend]
      cases receipt s o.nextReply with
      | ok uri => rfl
      | error e => cases h : e.isTransport <;> simp [h]

/-- A status is good or makes the request fail. -/
theorem requireSuccess_cases (r : Reply) (url : String) :
    (r.requireSuccess url = .ok () ∧ ¬ (400 ≤ r.status ∧ r.status < 600)) ∨
      ∃ message, r.requireSuccess url = .error (.transport .badStatus message) ∧
        400 ≤ r.status ∧ r.status < 600 := by
  unfold Reply.requireSuccess Reply.statusFailure?
  grind

/-- A body that cannot be read is no JSON, or JSON beyond the limits. -/
theorem document_error {r : Reply} {e : Failure} (h : r.document = .error e) :
    (∃ message, e = .badBody message) ∨ e = .longInteger ∨ e = .endless := by
  unfold Reply.document at h
  split at h
  · cases h
  · simp only at h
    split at h
    · cases h
    · rename_i e' _
      obtain rfl := Except.error.inj h
      unfold Json.Error.limit?
      split
      · exact .inr (.inl rfl)
      · exact .inr (.inr rfl)
      · exact .inl ⟨_, rfl⟩

theorem receipt_misaddressed {s : SmsSettings} {e : Failure} (reply : Outcome Reply)
    (h : address s = .error e) : receipt s reply = .error e := by
  rw [receipt, h]
  rfl

theorem receipt_unanswered {s : SmsSettings} {url : String} {e : Failure}
    (h : address s = .ok url) : receipt s (.error e) = .error e := by
  rw [receipt, h]
  rfl

theorem receipt_rejected {s : SmsSettings} {url : String} {r : Reply} {e : Failure}
    (h : address s = .ok url) (hr : r.requireSuccess url = .error e) :
    receipt s (.ok r) = .error e := by
  rw [receipt, h]
  simp only [bind, Except.bind, hr]

theorem receipt_answered {s : SmsSettings} {url : String} {r : Reply} (h : address s = .ok url)
    (hr : r.requireSuccess url = .ok ()) :
    receipt s (.ok r) = r.document >>= (·.index "uri") := by
  rw [receipt, h]
  simp only [bind, Except.bind, hr]

theorem alertOutcome_ok {s : SmsSettings} {reply : Outcome Reply} {uri : Datum}
    (h : receipt s reply = .ok uri) : alertOutcome (some s) reply = .ok () := by
  simp [alertOutcome, h]

theorem alertOutcome_transport {s : SmsSettings} {reply : Outcome Reply} {e : Failure}
    (h : receipt s reply = .error e) (he : e.isTransport = true) :
    alertOutcome (some s) reply = .ok () := by
  simp [alertOutcome, h, he]

theorem alertOutcome_error {s : SmsSettings} {reply : Outcome Reply} {e : Failure}
    (hs : isEnabled s = true) (h : receipt s reply = .error e) (he : e.isTransport = false) :
    alertOutcome (some s) reply = .error e := by
  simp [alertOutcome, hs, h, he]

/-- A value that is no dictionary with the key has no value under it, and the failure that says so
is none of a request. -/
theorem index_cases (d : Datum) (key : String) :
    (∃ es v, d = .dict es ∧ Entries.get? es key = some v ∧ d.index key = .ok v) ∨
      ∃ e, d.index key = .error e ∧ e.isTransport = false := by
  unfold Datum.index
  split
  · rename_i es
    cases h : Entries.get? es key with
    | none => exact .inr ⟨_, rfl, rfl⟩
    | some v => exact .inl ⟨es, v, rfl, h, rfl⟩
  all_goals exact .inr ⟨_, rfl, rfl⟩

theorem Harmless.alertOutcome_eq {alerts : Option SmsSettings} {reply : Outcome Reply}
    (h : Harmless alerts reply) : alertOutcome alerts reply = .ok () := by
  cases h with
  | absent => rfl
  | disabled hs => simp [alertOutcome, hs]
  | unanswered ha he => exact alertOutcome_transport (receipt_unanswered ha) he
  | @rejected s url r ha hlow hhigh =>
    obtain ⟨-, hno⟩ | ⟨message, hr, -⟩ := requireSuccess_cases r url
    · exact absurd ⟨hlow, hhigh⟩ hno
    · exact alertOutcome_transport (receipt_rejected ha hr) rfl
  | @unreadable s url message r ha hd =>
    obtain ⟨hr, -⟩ | ⟨message', hr, -⟩ := requireSuccess_cases r url
    · have hreceipt := receipt_answered ha hr
      rw [hd] at hreceipt
      exact alertOutcome_transport hreceipt rfl
    · exact alertOutcome_transport (receipt_rejected ha hr) rfl
  | @delivered s url r es uri ha hd huri =>
    obtain ⟨hr, -⟩ | ⟨message, hr, -⟩ := requireSuccess_cases r url
    · have hreceipt : receipt s (.ok r) = .ok uri := by
        rw [receipt_answered ha hr, hd]
        simp [bind, Except.bind, Datum.index, huri]
      exact alertOutcome_ok hreceipt
    · exact alertOutcome_transport (receipt_rejected ha hr) rfl

theorem Supplants.alertOutcome_eq {alerts : Option SmsSettings} {reply : Outcome Reply}
    {e : Failure} (h : Supplants alerts reply e) : alertOutcome alerts reply = .error e := by
  cases h with
  | misaddressed hs ha => exact alertOutcome_error hs (receipt_misaddressed _ ha) rfl
  | broken hs ha he => exact alertOutcome_error hs (receipt_unanswered ha) he
  | @excessive s url r e hs ha hgood hd he =>
    obtain ⟨hr, -⟩ | ⟨message, -, hbad⟩ := requireSuccess_cases r url
    · have hreceipt := receipt_answered ha hr
      rw [hd] at hreceipt
      exact alertOutcome_error hs hreceipt (by obtain rfl | rfl := he <;> rfl)
    · exact absurd hbad hgood
  | @unconfirmed s url r d e hs ha hgood hd hindex =>
    obtain ⟨hr, -⟩ | ⟨message, -, hbad⟩ := requireSuccess_cases r url
    · have hreceipt := receipt_answered ha hr
      rw [hd] at hreceipt
      obtain ⟨es, v, -, -, hv⟩ | ⟨e', he', hkind⟩ := index_cases d "uri"
      · rw [hv] at hindex
        cases hindex
      · obtain rfl := Except.error.inj (he'.symm.trans hindex)
        exact alertOutcome_error hs (hreceipt.trans hindex) hkind
    · exact absurd hbad hgood

/-- **What an alert comes to** for any settings and any reply. -/
theorem harmless_or_supplants (alerts : Option SmsSettings) (reply : Outcome Reply) :
    Harmless alerts reply ∨ ∃ e, Supplants alerts reply e := by
  cases alerts with
  | none => exact .inl .absent
  | some s =>
    cases hs : isEnabled s with
    | false => exact .inl (.disabled hs)
    | true =>
      cases ha : Url.join s.apiUrl (s.accountSid ++ "/Messages.json") with
      | error fault =>
        replace ha : address s = .error (.badAddress fault) := by rw [address, ha]; rfl
        exact .inr ⟨_, .misaddressed hs ha⟩
      | ok url =>
        replace ha : address s = .ok url := by rw [address, ha]; rfl
        cases reply with
        | error e =>
          cases he : e.isTransport with
          | true => exact .inl (.unanswered ha he)
          | false => exact .inr ⟨e, .broken hs ha he⟩
        | ok r =>
          by_cases hgood : 400 ≤ r.status ∧ r.status < 600
          · exact .inl (.rejected ha hgood.1 hgood.2)
          cases hd : r.document with
          | error e =>
            obtain ⟨message, rfl⟩ | he := document_error hd
            · exact .inl (.unreadable ha hd)
            · exact .inr ⟨e, .excessive hs ha hgood hd he⟩
          | ok d =>
            obtain ⟨es, uri, rfl, huri, -⟩ | ⟨e, he, -⟩ := index_cases d "uri"
            · exact .inl (.delivered ha hd huri)
            · exact .inr ⟨e, .unconfirmed hs ha hgood hd he⟩

end Sms

/-! ### The failure of the stage -/

/-- A stage that fails, and was not cancelled, fails with what its alert makes of the failure. -/
theorem supervise_failed {stage : String} {act : Act σ α} {s s' : σ} {o o' : Outside} {f : Failure}
    (alerts : Option SmsSettings)
    (hact : act.runWith s { o with stage := some stage } = (.error f, s', o'))
    (hf : f.isCancelled = false) :
    ((supervise stage alerts act).runWith s o).1 =
      match Sms.alertOutcome alerts o'.nextReply with
      | .ok () => .error f
      | .error e => .error e := by
  have halert := Sms.alert_result alerts stage f s' { o' with journal := o'.journal ++
    [⟨.failure, "Stage failed", [("error", .text f.message)], o'.stage⟩] }
  simp only [supervise, Act.runWith_inStage, Act.runWith_bind, Act.runWith_attempt, hact,
    reportFailure, hf, Bool.false_eq_true, if_false, Act.runWith_log]
  generalize (Sms.alert alerts stage f).runWith s' _ = run at halert ⊢
  obtain ⟨result, s'', o''⟩ := run
  obtain rfl : result = Sms.alertOutcome alerts o'.nextReply := halert
  cases Sms.alertOutcome alerts o'.nextReply <;> rfl

/-- **What a failing stage fails with.**  A supervised stage that fails, and was not cancelled,
fails with its own failure exactly if the alert about it is harmless; it fails with any other
failure exactly if that is the one with which the alert supplants its own. -/
theorem supervise_raises_iff {stage : String} {act : Act σ α} {s s' : σ} {o o' : Outside}
    {f : Failure} (alerts : Option SmsSettings)
    (hact : act.runWith s { o with stage := some stage } = (.error f, s', o'))
    (hf : f.isCancelled = false) (g : Failure) :
    ((supervise stage alerts act).runWith s o).1 = .error g ↔
      (g = f ∧ Sms.Harmless alerts o'.nextReply) ∨ Sms.Supplants alerts o'.nextReply g := by
  rw [supervise_failed alerts hact hf]
  constructor
  · intro hresult
    obtain hharmless | ⟨e, hsupplants⟩ := Sms.harmless_or_supplants alerts o'.nextReply
    · rw [hharmless.alertOutcome_eq] at hresult
      exact .inl ⟨(Except.error.inj hresult).symm, hharmless⟩
    · rw [hsupplants.alertOutcome_eq] at hresult
      obtain rfl := Except.error.inj hresult
      exact .inr hsupplants
  · rintro (⟨rfl, hharmless⟩ | hsupplants)
    · rw [hharmless.alertOutcome_eq]
    · rw [hsupplants.alertOutcome_eq]

/-- An account that can send texts. -/
def Sms.sampleAccount : SmsSettings where
  enabled := true
  accountSid := "AC123"
  apiKey := "SKkey"
  apiKeySecret := "keysecret"
  sender := "+15550001111"
  recipient := "+15552223333"

theorem Sms.address_sampleAccount : ∃ url, address sampleAccount = .ok url := by
  have hsome : (address sampleAccount).toOption.isSome = true := by decide +kernel
  cases h : address sampleAccount with
  | error e =>
    rw [h] at hsome
    cases hsome
  | ok url => exact ⟨url, rfl⟩

/-- The service refuses the text, and the stage fails with its own failure. -/
theorem supervise_raises_own_of_refused :
    ∃ (o : Outside) (f : Failure),
      o.replies = [.ok { status := 401, reason := "Unauthorized" }] ∧
      Sms.isEnabled Sms.sampleAccount = true ∧
      (Act.fail f : Act Unit Unit).runWith () { o with stage := some "ingestion" } =
        (.error f, (), { o with stage := some "ingestion" }) ∧ f.isCancelled = false ∧
      ((supervise "ingestion" (some Sms.sampleAccount)
        (Act.fail f : Act Unit Unit)).runWith () o).1 = .error f := by
  let o : Outside :=
    { (default : Outside) with replies := [.ok { status := 401, reason := "Unauthorized" }] }
  let f : Failure := .other "RuntimeError" "boom"
  obtain ⟨url, haddress⟩ := Sms.address_sampleAccount
  refine ⟨o, f, rfl, by decide, rfl, rfl, ?_⟩
  exact (supervise_raises_iff (some Sms.sampleAccount) rfl rfl f).2
    (.inl ⟨rfl, .rejected haddress (by decide) (by decide)⟩)

/-- The service takes the text, but its answer has no receipt: the failure of the stage is lost. -/
theorem supervise_raises_other :
    let boom : Act Unit Unit := Act.fail (.other "RuntimeError" "boom")
    let o : Outside :=
      { (default : Outside) with replies := [.ok { body := .document (.dict []) }] }
    (boom.runWith () { o with stage := some "ingestion" }).1 =
        .error (.other "RuntimeError" "boom") ∧
      ((supervise "ingestion" (some Sms.sampleAccount) boom).runWith () o).1 =
        .error (.missingKey "uri") := by
  intro boom o
  obtain ⟨url, haddress⟩ := Sms.address_sampleAccount
  have hsupplants : Sms.Supplants (some Sms.sampleAccount)
      { o with stage := some "ingestion" }.nextReply (.missingKey "uri") :=
    .unconfirmed (by decide) haddress (by decide) rfl rfl
  have hfailed : ((supervise "ingestion" (some Sms.sampleAccount) boom).runWith () o).1 = _ :=
    supervise_failed (some Sms.sampleAccount) rfl rfl
  rw [hsupplants.alertOutcome_eq] at hfailed
  exact ⟨rfl, hfailed⟩

end DealWatch
