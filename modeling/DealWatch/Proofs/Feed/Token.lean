import DealWatch.Proofs.Calendar.Timestamp
import DealWatch.Proofs.Feed.TokenFile
import DealWatch.Proofs.Json.RoundTrip
import DealWatch.Proofs.Number.Bounds

/-!
# Tokens that outlive a restart

* `Auth.Writable` says which tokens outlive a restart, and `Auth.Writable.ofJson_toJson` reads one
  back;
* `Feed.Issued.writable` and `Feed.Reported.writable` say that the tokens of a client are such;
* `Feed.restore_run` says what a client makes of a file with such a token.

A token is written as a dictionary with five entries, which the reader of documents gives back
(`Json.readAll_write`) and the check of tokens reads field by field. What is left is that the fields
come back as they were. A time is written as text, and only a time that can be shown has one. A
count is written with all its digits, and only a count that is not too long is read: the headers
that counts come from are numbers of limited size, so theirs never are (`readable_of_counted`).
-/

namespace DealWatch

/-- A token whose times can be shown and whose counts are not too long to be read. Whether the token
itself can be encoded is another matter. -/
structure Auth.Writable (a : Auth) : Prop where
  expiresAt : Feed.Shown a.expiresAt
  resetAt : Feed.Shown a.resetAt
  used : Json.Readable a.used
  remaining : Json.Readable a.remaining

namespace Auth

variable {a : Auth}

/-- The entries of the token file. -/
def entries (a : Auth) : List (String × Scalar) := [
  ("access_token", .text a.accessToken),
  ("expires_at", .text a.expiresAt.compactText),
  ("ratelimit_used", .int a.used),
  ("ratelimit_remaining", .int a.remaining),
  ("ratelimit_reset_at", .text a.resetAt.compactText)]

theorem toJson_eq (a : Auth) :
    a.toJson = Json.write Json.compact (.dict (Json.textEntries a.entries)) := rfl

theorem Writable.plain (h : a.Writable) : ∀ e ∈ a.entries, Json.Plain e.2 := by
  simp only [entries, List.mem_cons, List.not_mem_nil, or_false]
  rintro e (rfl | rfl | rfl | rfl | rfl)
  · exact .text _
  · exact .text _
  · exact .int h.used
  · exact .int h.remaining
  · exact .text _

theorem time_compactText {t : Timestamp} (h : Feed.Shown t) :
    Check.time (.text t.compactText) = .accepted t := by
  obtain ⟨micros, rfl, hrange⟩ := h
  simp only [Check.time, Timestamp.ofText?_compactText hrange]

/-- The document of a token without halves of surrogate pairs is checked to be that token. -/
theorem Writable.check_entries (h : a.Writable) (hfault : a.fault = none) :
    Auth.check (.dict (Json.textEntries a.entries)) = .accepted a := by
  let es := Json.textEntries a.entries
  have haccess : Fields.required es "access_token" Check.text = .accepted a.accessToken := by
    simp [es, Fields.required, Entries.get?, Json.textEntries, entries, Check.text, Verdict.under]
  have hexpires : Fields.required es "expires_at" Check.time = .accepted a.expiresAt := by
    simp [es, Fields.required, Entries.get?, Json.textEntries, entries, Verdict.under,
      time_compactText h.expiresAt]
  have hused : Fields.withDefault es "ratelimit_used" 0 Check.int = .accepted a.used := by
    simp [es, Fields.withDefault, Entries.get?, Json.textEntries, entries, Check.int, Verdict.under]
  have hremaining : Fields.withDefault es "ratelimit_remaining" assumedRemaining Check.int =
      .accepted a.remaining := by
    simp [es, Fields.withDefault, Entries.get?, Json.textEntries, entries, Check.int, Verdict.under]
  have hreset : Fields.required es "ratelimit_reset_at" Check.time = .accepted a.resetAt := by
    simp [es, Fields.required, Entries.get?, Json.textEntries, entries, Verdict.under,
      time_compactText h.resetAt]
  simp only [Auth.check, Check.fields, es] at *
  rw [haccess, hexpires, hused, hremaining, hreset]
  show Verdict.accepted { a with fault := none } = .accepted a
  rw [← hfault]

/-- **A token** is read back as it was written. -/
theorem Writable.ofJson_toJson (h : a.Writable) (hfault : a.fault = none) :
    ofJson a.toJson = .accepted a := by
  have hes : a.entries ≠ [] := List.cons_ne_nil _ _
  have hread := Json.readAll_write hes h.plain
  have hkeys : (a.entries.map (·.1)).Nodup := by simp [entries]
  have hmerged := Json.withoutRepeats_textEntries hkeys
  have hpaired : Json.hasUnpaired (.dict (Json.textEntries a.entries)) = false := by
    simp [Json.hasUnpaired, Json.hasUnpaired.anyEntry, Json.isUnpaired, Json.textEntries, entries]
  have hlevels : Json.levelsOf (.dict (Json.textEntries a.entries)) = 1 := by
    simp [Json.levelsOf, Json.levelsOf.entryLevels, Json.textEntries, entries]
  rw [ofJson, toJson_eq, hread]
  simp only [hpaired, hlevels, hmerged]
  exact h.check_entries hfault

end Auth

namespace Feed

variable {a a₀ : Auth} {c c' : Client}

theorem readable_of_counted {n : Int} (h : Counted n) : Json.Readable n := by
  obtain ⟨reply, name, hcount⟩ := h
  unfold headerCount at hcount
  split at hcount
  · cases hcount
  · rename_i raw _
    split at hcount
    · cases hcount
    · cases hcount
    · rename_i x _ hread
      split at hcount
      · rename_i htruncate
        cases hcount
        have hlimit : twoTo 1026 ≤ Nat.pow 10 Json.maxDigits := by decide +kernel
        exact Nat.lt_of_lt_of_le ((bounded_of_readFloat? hread).natAbs_lt htruncate) hlimit
      · cases hcount

/-- A new token can be written. -/
theorem Issued.writable (h : Issued a) : a.Writable where
  expiresAt := h.expiresAt
  resetAt := h.resetAt
  used := h.used ▸ by decide +kernel
  remaining := h.remaining ▸ by decide +kernel

/-- A token with a report can be written, if it could be before. -/
theorem Reported.writable (h : Reported a₀ a) (h₀ : a₀.Writable) : a.Writable where
  expiresAt := h.expiresAt ▸ h₀.expiresAt
  resetAt := h.resetAt.elim (fun heq => heq ▸ h₀.resetAt) id
  used := readable_of_counted h.used
  remaining := readable_of_counted h.remaining

/-- **Taking a token from the file**: it is the one that was written, unless it is past its end. -/
theorem restore_run {o : Outside} (ha : a.Writable) (hfault : a.fault = none)
    (hthere : o.files.contains c.settings.tokenFile = true)
    (htext : o.files.readText c.settings.tokenFile = .ok a.toJson) {expires : Int}
    (hexpires : a.expiresAt.instant? = some expires) :
    ∃ o', restore.runWith c o =
      (.ok (), if o.now < expires then { c with auth := some a } else c, o') := by
  obtain ⟨o', hrun, -⟩ := restore_of_text hthere htext
  simp only [ha.ofJson_toJson hfault, hexpires] at hrun
  exact ⟨o', hrun⟩

end Feed

end DealWatch
