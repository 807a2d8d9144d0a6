import DealWatch.Bytes.Base64

/-!
# Base64 texts tell bytes apart

Four characters of a Base64 text hold the bits of three bytes.

* `base64_injective` says that as many bytes with the same text are the same bytes;
* `mem_base64` says of which characters a text is made.

The induction takes three bytes at a time, as the text is made. A character tells a number below 64
(`base64Char_inj`), and the four numbers of a step are enough to compute its bytes.
-/

namespace DealWatch

/-- The value of a character is what was written as it. -/
theorem base64Value?_base64Char (n : Nat) : base64Value? (base64Char n) = some (n % 64) := by
  have hall : ∀ i < 64, base64Value? (base64Alphabet.getD i '=') = some i := by decide +kernel
  exact hall (n % 64) (Nat.mod_lt n (by decide))

theorem base64Char_inj {m n : Nat} (h : base64Char m = base64Char n) : m % 64 = n % 64 := by
  have hvalue := congrArg base64Value? h
  rw [base64Value?_base64Char, base64Value?_base64Char] at hvalue
  exact Option.some.inj hvalue

theorem base64Chars_injective {u v : List UInt8} (hlen : u.length = v.length)
    (h : base64Chars u = base64Chars v) : u = v := by
  induction u using base64Chars.induct generalizing v with
  | case1 => exact (List.length_eq_zero_iff.1 hlen.symm).symm
  | case2 a =>
    match v, hlen with
    | [a'], _ =>
      obtain ⟨h1, h2, -⟩ := by simpa only [base64Chars, List.cons.injEq] using h
      have h1 := base64Char_inj h1
      have h2 := base64Char_inj h2
      have := a.toNat_lt
      have := a'.toNat_lt
      rw [UInt8.toNat_inj.1 (show a.toNat = a'.toNat by omega)]
  | case3 a b =>
    match v, hlen with
    | [a', b'], _ =>
      obtain ⟨h1, h2, h3, -⟩ := by simpa only [base64Chars, List.cons.injEq] using h
      have h1 := base64Char_inj h1
      have h2 := base64Char_inj h2
      have h3 := base64Char_inj h3
      have := a.toNat_lt
      have := a'.toNat_lt
      have := b.toNat_lt
      have := b'.toNat_lt
      rw [UInt8.toNat_inj.1 (show a.toNat = a'.toNat by omega),
        UInt8.toNat_inj.1 (show b.toNat = b'.toNat by omega)]
  | case4 a b c rest ih =>
    match v, hlen with
    | a' :: b' :: c' :: rest', hlen =>
      obtain ⟨h1, h2, h3, h4, hrest⟩ := by simpa only [base64Chars, List.cons.injEq] using h
      have h1 := base64Char_inj h1
      have h2 := base64Char_inj h2
      have h3 := base64Char_inj h3
      have h4 := base64Char_inj h4
      have := a.toNat_lt
      have := a'.toNat_lt
      have := b.toNat_lt
      have := b'.toNat_lt
      have := c.toNat_lt
      have := c'.toNat_lt
      rw [UInt8.toNat_inj.1 (show a.toNat = a'.toNat by omega),
        UInt8.toNat_inj.1 (show b.toNat = b'.toNat by omega),
        UInt8.toNat_inj.1 (show c.toNat = c'.toNat by omega), ih (by simpa using hlen) hrest]

theorem base64_injective {u v : List UInt8} (hlen : u.length = v.length)
    (h : base64 u = base64 v) : u = v :=
  base64Chars_injective hlen (String.ofList_injective h)

theorem base64Char_mem (n : Nat) : base64Char n ∈ base64Alphabet := by
  have hall : ∀ i < 64, base64Alphabet.getD i '=' ∈ base64Alphabet := by decide +kernel
  exact hall (n % 64) (Nat.mod_lt n (by decide))

theorem mem_base64Chars {bytes : List UInt8} {c : Char} (h : c ∈ base64Chars bytes) :
    c ∈ '=' :: base64Alphabet := by
  have hchar (n : Nat) : base64Char n ∈ '=' :: base64Alphabet :=
    List.mem_cons_of_mem _ (base64Char_mem n)
  fun_induction base64Chars bytes with
  | case1 => cases h
  | case2 | case3 =>
    simp only [List.mem_cons, List.not_mem_nil, or_false] at h
    rcases h with rfl | rfl | rfl | rfl
    all_goals first | exact hchar _ | exact List.mem_cons_self
  | case4 a b c rest n ih =>
    simp only [List.mem_cons] at h
    rcases h with rfl | rfl | rfl | rfl | h
    iterate 4 exact hchar _
    exact ih h

/-- A Base64 text is made of the sixty-four characters and the sign that fills it. -/
theorem mem_base64 {bytes : List UInt8} {c : Char} (h : c ∈ (base64 bytes).toList) :
    c ∈ '=' :: base64Alphabet := by
  rw [base64, String.toList_ofList] at h
  exact mem_base64Chars h

end DealWatch
