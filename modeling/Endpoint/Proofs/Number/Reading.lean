import Endpoint.Number.Reading

/-!
# The form of number texts

Whatever text is read as a number is a `Numeral`: perhaps a minus sign, then characters that are
neither hyphens nor marks of an exponent, and perhaps a mark with an exponent of the same form.
So a hyphen stands first in it or after the mark of an exponent and nowhere else.
-/

namespace Endpoint

/-! ## Integers -/

theorem digits?_eq_some_iff {s : List Char} {n : Nat} :
    digits? s = some n ↔ s ≠ [] ∧ (∀ c ∈ s, c.isDigit = true) ∧ digitsValue 0 s = n := by
  rw [digits?]
  by_cases hs : s = []
  · simp [hs]
  · rw [if_neg (by simpa using hs), ← List.all_eq_true]
    by_cases hall : s.all Char.isDigit = true
    · simp [hs, hall]
    · simp [hall]

theorem digits?_cons_minus (s : List Char) : digits? ('-' :: s) = none := by
  rw [digits?, if_neg (by simp), if_neg]
  intro hall
  exact absurd (List.all_eq_true.1 hall '-' List.mem_cons_self) (by decide)

/-- A text with a sign split off. -/
theorem splitSign_cases (s : List Char) :
    (∃ rest, s = '+' :: rest ∧ splitSign s = (false, rest)) ∨
      (∃ rest, s = '-' :: rest ∧ splitSign s = (true, rest)) ∨ splitSign s = (false, s) := by
  rw [splitSign.eq_def]
  split
  · rename_i rest
    exact .inl ⟨rest, rfl, rfl⟩
  · rename_i rest
    exact .inr (.inl ⟨rest, rfl, rfl⟩)
  · exact .inr (.inr rfl)

/-- Without a minus sign both readings of an integer agree. -/
theorem signedDigits?_of_splitSign {s rest : List Char} (h : splitSign s = (false, rest)) :
    signedDigits? s = (digits? rest).map Int.ofNat := by
  rw [signedDigits?, h]
  cases hn : digits? rest with
  | none => simp [hn]
  | some n => simp [hn]

theorem signedDigits?_cons_minus (s : List Char) :
    signedDigits? ('-' :: s) = (digits? s).map Int.negOfNat := by
  rw [signedDigits?, splitSign]
  cases hn : digits? s with
  | none => simp [hn]
  | some n => simp [hn, Int.negOfNat_eq]

theorem unsignedDigits?_of_splitSign {s rest : List Char} (h : splitSign s = (false, rest)) :
    unsignedDigits? s = digits? rest := by
  rcases splitSign_cases s with ⟨rest', rfl, hsplit⟩ | ⟨rest', rfl, hsplit⟩ | hsplit
  · obtain rfl : rest' = rest := by simpa [hsplit] using h
    rfl
  · simp [hsplit] at h
  · obtain rfl : s = rest := by simpa [hsplit] using h
    rw [unsignedDigits?.eq_def]
    split
    · rename_i rest' _
      simp [splitSign] at hsplit
    · rfl

/-- A positive integer is read in the same way with and without regard to signs. -/
theorem signedDigits?_eq_some_natCast_iff {s : List Char} {n : Nat} (hn : 0 < n) :
    signedDigits? s = some (n : Int) ↔ unsignedDigits? s = some n := by
  have hcast : ∀ rest, (digits? rest).map Int.ofNat = some (n : Int) ↔ digits? rest = some n := by
    intro rest
    cases digits? rest with
    | none => simp
    | some m =>
      simp only [Option.map_some, Option.some_inj, Int.ofNat_eq_natCast, Int.natCast_inj]
  rcases splitSign_cases s with ⟨rest, rfl, hsplit⟩ | ⟨rest, rfl, -⟩ | hsplit
  · rw [signedDigits?_of_splitSign hsplit, unsignedDigits?_of_splitSign hsplit]
    exact hcast rest
  · rw [signedDigits?_cons_minus]
    constructor
    · intro h
      obtain ⟨m, -, hm⟩ := Option.map_eq_some_iff.1 h
      rw [Int.negOfNat_eq] at hm
      simp only [Int.ofNat_eq_natCast] at hm
      omega
    · intro h
      have hnone : unsignedDigits? ('-' :: rest) = none := digits?_cons_minus rest
      rw [hnone] at h
      simp at h
  · rw [signedDigits?_of_splitSign hsplit, unsignedDigits?_of_splitSign hsplit]
    exact hcast s

/-! ## Numerals -/

/-- Characters among which a number is neither divided nor continued: no hyphens, no marks of an
    exponent, and no colons. -/
structure IsPlain (cs : List Char) : Prop where
  nonempty : cs ≠ []
  plain : ∀ c ∈ cs, c ≠ '-' ∧ c ≠ 'e' ∧ c ≠ 'E' ∧ c ≠ ':'

/-- A text of some form, perhaps after a minus sign. -/
def Signed (form : List Char → Prop) (cs : List Char) : Prop :=
  form cs ∨ ∃ rest, cs = '-' :: rest ∧ form rest

/-- A number without its sign: plain characters, and perhaps an exponent after its mark. -/
inductive Magnitude : List Char → Prop
  | plain {cs : List Char} : IsPlain cs → Magnitude cs
  | scientific {cs power : List Char} {mark : Char} : IsPlain cs → mark = 'e' ∨ mark = 'E' →
      Signed IsPlain power → Magnitude (cs ++ mark :: power)

/-- The form of every text that is read as a number. -/
abbrev Numeral (cs : List Char) : Prop := Signed Magnitude cs

theorem IsPlain.minus_notMem {cs : List Char} (h : IsPlain cs) : '-' ∉ cs :=
  fun hmem => (h.plain _ hmem).1 rfl

theorem IsPlain.ends {cs : List Char} (h : IsPlain cs) :
    ∃ c, cs.getLast? = some c ∧ c ≠ 'e' ∧ c ≠ 'E' ∧ c ≠ '-' := by
  have hlast := List.getLast?_eq_some_getLast h.nonempty
  obtain ⟨hminus, he, hE, -⟩ := h.plain _ (List.getLast_mem h.nonempty)
  exact ⟨_, hlast, he, hE, hminus⟩

theorem Signed.mono {form form' : List Char → Prop} {cs : List Char}
    (h : Signed form cs) (hform : ∀ cs, form cs → form' cs) : Signed form' cs := by
  rcases h with h | ⟨rest, rfl, h⟩
  · exact .inl (hform _ h)
  · exact .inr ⟨rest, rfl, hform _ h⟩

/-- What holds at the end of a text also holds at the end of it after a minus sign. -/
theorem Signed.ends {form : List Char → Prop} {p : Char → Prop} {cs : List Char}
    (h : Signed form cs) (hform : ∀ cs, form cs → ∃ c, cs.getLast? = some c ∧ p c) :
    ∃ c, cs.getLast? = some c ∧ p c := by
  rcases h with h | ⟨rest, rfl, h⟩
  · exact hform _ h
  · obtain ⟨c, hc, hp⟩ := hform _ h
    refine ⟨c, ?_, hp⟩
    rw [List.getLast?_cons, hc]
    rfl

theorem Magnitude.ends {cs : List Char} (h : Magnitude cs) :
    ∃ c, cs.getLast? = some c ∧ c ≠ 'e' ∧ c ≠ 'E' ∧ c ≠ '-' := by
  cases h with
  | plain h => exact h.ends
  | @scientific cs power mark _ _ hpower =>
    obtain ⟨c, hc, hends⟩ := hpower.ends fun _ => IsPlain.ends
    refine ⟨c, ?_, hends⟩
    rw [List.getLast?_append, List.getLast?_cons, hc]
    rfl

/-- A number ends neither in the mark of an exponent nor in a hyphen. -/
theorem Numeral.ends {cs : List Char} (h : Numeral cs) :
    ∃ c, cs.getLast? = some c ∧ c ≠ 'e' ∧ c ≠ 'E' ∧ c ≠ '-' :=
  Signed.ends h fun _ => Magnitude.ends

theorem IsPlain.colon_notMem {cs : List Char} (h : IsPlain cs) : ':' ∉ cs :=
  fun hmem => (h.plain _ hmem).2.2.2 rfl

theorem Signed.colon_notMem {form : List Char → Prop} {cs : List Char} (h : Signed form cs)
    (hform : ∀ cs, form cs → ':' ∉ cs) : ':' ∉ cs := by
  rcases h with h | ⟨rest, rfl, h⟩
  · exact hform _ h
  · simpa using hform _ h

theorem Magnitude.colon_notMem {cs : List Char} (h : Magnitude cs) : ':' ∉ cs := by
  cases h with
  | plain h => exact h.colon_notMem
  | scientific hcs hmark hpower =>
    rw [List.mem_append, List.mem_cons]
    rintro (hmem | hmem | hmem)
    · exact hcs.colon_notMem hmem
    · rcases hmark with rfl | rfl
      · simp at hmem
      · simp at hmem
    · exact hpower.colon_notMem (fun _ => IsPlain.colon_notMem) hmem

theorem Numeral.colon_notMem {cs : List Char} (h : Numeral cs) : ':' ∉ cs :=
  Signed.colon_notMem h fun _ => Magnitude.colon_notMem

/-- A hyphen in a text that starts without one stands in the rest of it. -/
theorem append_eq_append_minus {cs rest before after : List Char} (hcs : '-' ∉ cs)
    (h : cs ++ rest = before ++ '-' :: after) :
    ∃ before', before = cs ++ before' ∧ rest = before' ++ '-' :: after := by
  rcases List.append_eq_append_iff.1 h with ⟨before', hbefore, hrest⟩ | ⟨middle, hmiddle, hafter⟩
  · exact ⟨before', hbefore, hrest⟩
  · cases middle with
    | nil => exact ⟨[], by simpa using hmiddle.symm, by simpa using hafter.symm⟩
    | cons c middle =>
      rw [List.cons_append, List.cons.injEq] at hafter
      rw [hmiddle, ← hafter.1] at hcs
      simp at hcs

/-- In a number without its sign a hyphen stands only after the mark of an exponent. -/
theorem Magnitude.mark_before_minus {before after : List Char}
    (h : Magnitude (before ++ '-' :: after)) :
    ∃ c, before.getLast? = some c ∧ (c = 'e' ∨ c = 'E') := by
  generalize htext : before ++ '-' :: after = text at h
  cases h with
  | plain h => exact absurd (by simp [← htext]) h.minus_notMem
  | @scientific cs power mark hplain hmark hpower =>
    have hfree : '-' ∉ cs ++ [mark] := by
      rw [List.mem_append, List.mem_singleton]
      rintro (hmem | rfl)
      · exact hplain.minus_notMem hmem
      · simp at hmark
    have hsplit : (cs ++ [mark]) ++ power = before ++ '-' :: after := by simp [htext]
    obtain ⟨rest, rfl, hrest⟩ := append_eq_append_minus hfree hsplit
    -- the hyphen can only be the sign of the exponent
    have hnil : rest = [] := by
      rcases hpower with hpower | ⟨digits, hdigits, hplain⟩
      · exact absurd (by simp [hrest]) hpower.minus_notMem
      · cases rest with
        | nil => rfl
        | cons c rest =>
          rw [hdigits, List.cons_append, List.cons.injEq] at hrest
          exact absurd (by simp [hrest.2]) hplain.minus_notMem
    exact ⟨mark, by simp [hnil], hmark⟩

/-- In a number a hyphen stands first or after the mark of an exponent. -/
theorem Numeral.mark_before_minus {before after : List Char}
    (h : Numeral (before ++ '-' :: after)) :
    before = [] ∨ ∃ c, before.getLast? = some c ∧ (c = 'e' ∨ c = 'E') := by
  rcases h with h | ⟨rest, hrest, h⟩
  · exact .inr h.mark_before_minus
  · cases before with
    | nil => exact .inl rfl
    | cons c before =>
      rw [List.cons_append, List.cons.injEq] at hrest
      rw [← hrest.2] at h
      obtain ⟨c', hc', hmark⟩ := h.mark_before_minus
      refine .inr ⟨c', ?_, hmark⟩
      rw [List.getLast?_cons, hc']
      rfl

/-! ## What is read is a numeral -/

theorem isPlain_of_isDigit {cs : List Char} (hne : cs ≠ []) (h : ∀ c ∈ cs, c.isDigit = true) :
    IsPlain cs where
  nonempty := hne
  plain := by
    intro c hc
    have hdigit := h c hc
    refine ⟨?_, ?_, ?_, ?_⟩ <;> rintro rfl <;> simp at hdigit

theorem isPlain_of_digits? {s : List Char} {n : Nat} (h : digits? s = some n) : IsPlain s := by
  obtain ⟨hne, hdigits, -⟩ := digits?_eq_some_iff.1 h
  exact isPlain_of_isDigit hne hdigits

theorem IsPlain.cons_plus {cs : List Char} (h : IsPlain cs) : IsPlain ('+' :: cs) where
  nonempty := by simp
  plain := by
    intro c hc
    rcases List.mem_cons.1 hc with rfl | hc
    · decide
    · exact h.plain c hc

theorem Magnitude.cons_plus {cs : List Char} (h : Magnitude cs) : Magnitude ('+' :: cs) := by
  cases h with
  | plain h => exact .plain h.cons_plus
  | scientific hcs hmark hpower => exact .scientific hcs.cons_plus hmark hpower

/-- A text is of a form, perhaps after a minus sign, if the text without its sign is and plus
    signs do no harm. -/
theorem signed_of_splitSign {form : List Char → Prop} {s rest : List Char} {negative : Bool}
    (hplus : ∀ cs, form cs → form ('+' :: cs)) (hsplit : splitSign s = (negative, rest))
    (h : form rest) : Signed form s := by
  rcases splitSign_cases s with ⟨rest', rfl, hs⟩ | ⟨rest', rfl, hs⟩ | hs
  · obtain rfl : rest' = rest := by rw [hs] at hsplit; exact (Prod.mk.inj hsplit).2
    exact .inl (hplus _ h)
  · obtain rfl : rest' = rest := by rw [hs] at hsplit; exact (Prod.mk.inj hsplit).2
    exact .inr ⟨_, rfl, h⟩
  · obtain rfl : s = rest := by rw [hs] at hsplit; exact (Prod.mk.inj hsplit).2
    exact .inl h

theorem signed_isPlain_of_signedDigits? {s : List Char} {i : Int}
    (h : signedDigits? s = some i) : Signed IsPlain s := by
  have hplain : IsPlain (splitSign s).2 := by
    cases hn : digits? (splitSign s).2 with
    | none => simp [signedDigits?, hn] at h
    | some n => exact isPlain_of_digits? hn
  exact signed_of_splitSign (fun _ => IsPlain.cons_plus) rfl hplain

theorem isPlain_of_unsignedDigits? {s : List Char} {n : Nat} (h : unsignedDigits? s = some n) :
    IsPlain s := by
  rw [unsignedDigits?.eq_def] at h
  split at h
  · exact (isPlain_of_digits? h).cons_plus
  · exact isPlain_of_digits? h

theorem numeral_of_readSigned? {bits : Nat} {s : String} {i : Int}
    (h : readSigned? bits s = some i) : Numeral s.toList :=
  (signed_isPlain_of_signedDigits? (Option.filter_eq_some_iff.1 h).1).mono fun _ => .plain

theorem numeral_of_readUnsigned? {bits : Nat} {s : String} {n : Nat}
    (h : readUnsigned? bits s = some n) : Numeral s.toList :=
  .inl (.plain (isPlain_of_unsignedDigits? (Option.filter_eq_some_iff.1 h).1))

namespace Binary64

theorem isDigit_of_mem_takeWhile {cs : List Char} :
    ∀ c ∈ cs.takeWhile Char.isDigit, c.isDigit = true :=
  List.all_eq_true.1 List.all_takeWhile

/-- The digits of a decimal, with a point among them or not, are plain. -/
theorem isPlain_point (whole places : List Char) :
    IsPlain (whole.takeWhile Char.isDigit ++ '.' :: places.takeWhile Char.isDigit) where
  nonempty := by simp
  plain := by
    intro c hc
    have hdigits : ∀ cs : List Char, c ∈ cs.takeWhile Char.isDigit →
        c ≠ '-' ∧ c ≠ 'e' ∧ c ≠ 'E' ∧ c ≠ ':' := by
      intro cs hcs
      exact (isPlain_of_isDigit (List.ne_nil_of_mem hcs) isDigit_of_mem_takeWhile).plain c hcs
    rw [List.mem_append, List.mem_cons] at hc
    rcases hc with hc | rfl | hc
    · exact hdigits _ hc
    · decide
    · exact hdigits _ hc

/-- Plain characters, and perhaps an exponent after its mark, make a magnitude. -/
theorem magnitude_append {cs rest : List Char} {power : Int} (hcs : IsPlain cs)
    (h : (match rest with
      | [] => some 0
      | c :: r => if c = 'e' ∨ c = 'E' then exponent? r else none) = some power) :
    Magnitude (cs ++ rest) := by
  cases rest with
  | nil =>
    rw [List.append_nil]
    exact .plain hcs
  | cons mark rest =>
    simp only at h
    split at h
    · rename_i hmark
      exact .scientific hcs hmark (signed_isPlain_of_signedDigits? h)
    · simp at h

theorem magnitude_of_decimal? {s : List Char} {r : Nat × Int} (h : decimal? s = some r) :
    Magnitude s := by
  have hs : s.takeWhile Char.isDigit ++ s.dropWhile Char.isDigit = s :=
    List.takeWhile_append_dropWhile
  unfold decimal? at h
  simp only at h
  split at h
  · -- digits, a point, and digits
    rename_i places hpoint
    split at h
    · simp at h
    · obtain ⟨power, hpower, -⟩ := Option.map_eq_some_iff.1 h
      have hmagnitude := magnitude_append (isPlain_point s places) hpower
      rwa [List.append_assoc, List.cons_append, List.takeWhile_append_dropWhile, ← hpoint,
        hs] at hmagnitude
  · -- digits without a point
    split at h
    · simp at h
    · rename_i hne
      obtain ⟨power, hpower, -⟩ := Option.map_eq_some_iff.1 h
      have hdigits : s.takeWhile Char.isDigit ≠ [] := by simpa using hne
      have hmagnitude :=
        magnitude_append (isPlain_of_isDigit hdigits isDigit_of_mem_takeWhile) hpower
      rwa [hs] at hmagnitude

/-- A word is plain in any case if it is plain in lower case. -/
theorem isPlain_of_lower {cs : List Char} {word : String} (hword : IsPlain word.toList)
    (h : String.ofList (cs.map Char.toLower) = word) : IsPlain cs := by
  have hlower : cs.map Char.toLower = word.toList := by rw [← h, String.toList_ofList]
  refine ⟨?_, ?_⟩
  · rintro rfl
    exact hword.nonempty hlower.symm
  · intro c hc
    obtain ⟨hminus, he, -, hcolon⟩ := hword.plain c.toLower (hlower ▸ List.mem_map_of_mem hc)
    refine ⟨?_, ?_, ?_, ?_⟩
    · rintro rfl
      exact hminus rfl
    · rintro rfl
      exact he rfl
    · rintro rfl
      exact he rfl
    · rintro rfl
      exact hcolon rfl

theorem numeral_of_ofText? {grid : Precision} {s : String} {x : Binary64}
    (h : ofText? grid s = some x) : Numeral s.toList := by
  have hmagnitude : Magnitude (splitSign s.toList).2 := by
    rw [ofText?] at h
    simp only at h
    split at h
    · rename_i hword
      rw [Bool.or_eq_true, beq_iff_eq, beq_iff_eq] at hword
      rcases hword with hword | hword
      · exact .plain (isPlain_of_lower ⟨by simp, by simp⟩ hword)
      · exact .plain (isPlain_of_lower ⟨by simp, by simp⟩ hword)
    · split at h
      · rename_i hword
        exact .plain (isPlain_of_lower ⟨by simp, by simp⟩ (beq_iff_eq.1 hword))
      · obtain ⟨r, hr, -⟩ := Option.map_eq_some_iff.1 h
        exact magnitude_of_decimal? hr
  exact signed_of_splitSign (fun _ => Magnitude.cons_plus) rfl hmagnitude

end Binary64

end Endpoint
