import Endpoint.Proofs.Rule.Evaluation
import Endpoint.Proofs.Rule.Literal

/-!
# Bounds written as two literals

The hyphen between two bounds is also the sign of a number and of an exponent.  Between texts
that are read as numbers it is still found: in a number a hyphen stands first or after the mark
of an exponent, and no number ends in a hyphen or in such a mark.  A token made of two bounds
is therefore read as these bounds, unless they are inverted.
-/

namespace Endpoint

namespace Bounds

/-- The part before a dividing hyphen does not end in the mark of an exponent. -/
theorem Separates.not_mark {cs lo hi : List Char} {mark : Char} (h : Separates cs lo hi)
    (hlast : lo.getLast? = some mark) : ¬ (mark = 'e' ∨ mark = 'E') := by
  obtain ⟨c, hc, he, hE, -⟩ := h.before
  obtain rfl : mark = c := by simpa [hlast] using hc
  rintro (rfl | rfl)
  · exact he rfl
  · exact hE rfl

/-- Two texts with a hyphen between them, each empty or a number, are divided there. -/
theorem divides_append {lo hi : List Char} (hlo : lo ≠ [] → Numeral lo)
    (hhi : hi ≠ [] → Numeral hi) (hgiven : lo ≠ [] ∨ hi ≠ []) :
    Divides (lo ++ '-' :: hi) lo hi := by
  by_cases hlower : lo = []
  · -- a hyphen further on can only be the sign of an exponent of the upper bound
    subst hlower
    have hupper : hi ≠ [] := by simpa using hgiven
    refine .upper rfl hupper ?_
    intro lo' hi' hsep
    obtain ⟨before, rfl⟩ := hsep.head_eq
    have htext : hi = before ++ '-' :: hi' := by simpa using hsep.text
    rcases Numeral.mark_before_minus (htext ▸ hhi hupper) with rfl | ⟨mark, hmark, hexp⟩
    · obtain ⟨c, hc, -, -, hminus⟩ := hsep.before
      obtain rfl : '-' = c := by simpa using hc
      exact hminus rfl
    · exact hsep.not_mark (by rw [List.getLast?_cons, hmark]; rfl) hexp
  · have hnum := hlo hlower
    refine .separated ⟨rfl, hnum.ends⟩ ?_
    intro lo' hi' hsep
    by_contra hlt
    -- the hyphen would stand inside of the lower bound
    obtain ⟨rest, hrest⟩ : ∃ rest, lo = lo' ++ '-' :: rest := by
      rcases List.append_eq_append_iff.1 hsep.text with ⟨rest, h, -⟩ | ⟨rest, h, htail⟩
      · exact absurd (by simp [h]) hlt
      · cases rest with
        | nil => exact absurd (by simp [h]) hlt
        | cons c rest =>
          rw [List.cons_append, List.cons.injEq] at htail
          exact ⟨rest, by rw [h, ← htail.1]⟩
    rcases Numeral.mark_before_minus (hrest ▸ hnum) with hnil | ⟨mark, hmark, hexp⟩
    · exact hsep.ne_nil hnil
    · exact hsep.not_mark hmark hexp

/-- Where one text can be divided is determined. -/
theorem split_append {lo hi : String} (hlo : lo ≠ "" → Numeral lo.toList)
    (hhi : hi ≠ "" → Numeral hi.toList) (hgiven : lo ≠ "" ∨ hi ≠ "") :
    split (lo ++ "-" ++ hi) = some (lo, hi) := by
  have hempty : ∀ s : String, s.toList ≠ [] ↔ s ≠ "" := fun s => by simp
  have htext : (lo ++ "-" ++ hi).toList = lo.toList ++ '-' :: hi.toList := by simp
  rw [split_eq_some_iff, htext]
  exact divides_append (fun h => hlo ((hempty lo).1 h)) (fun h => hhi ((hempty hi).1 h))
    (by simpa [hempty] using hgiven)

end Bounds

namespace Rule

variable {α : Type} {s : TokenSettings} {lo hi : String} {written : Option String}

/-- The token of an opcode with two bounds, and perhaps a code. -/
def boundsToken (opcode : Opcode) (lo hi : String) (written : Option String) : String :=
  ":".intercalate (opcode.word :: (lo ++ "-" ++ hi) :: written.toList)

example : boundsToken .range "1" "5" (some "OUT") = "RANGE:1-5:OUT" := by decide

/-- A code that can be written in a token. -/
def IsCode (code : String) : Prop := code ≠ "" ∧ ':' ∉ code.toList

/-- Two bounds are inverted: both are given, and they are in the wrong order. -/
def Inverted (wrong : α → α → Prop) (least greatest : Option α) : Prop :=
  ∃ a b, least = some a ∧ greatest = some b ∧ wrong a b

theorem codeReads_getD {fallback : String} (h : ∀ code ∈ written, IsCode code) :
    CodeReads fallback written (written.getD fallback) := by
  cases written with
  | none => exact .absent
  | some code => exact .written (h code rfl).1

theorem colon_notMem_append (hlo : ':' ∉ lo.toList) (hhi : ':' ∉ hi.toList) :
    ':' ∉ (lo ++ "-" ++ hi).toList := by
  simp [hlo, hhi]

theorem splitsInto_boundsToken (opcode : Opcode) (hlo : ':' ∉ lo.toList) (hhi : ':' ∉ hi.toList)
    (hwritten : ∀ code ∈ written, IsCode code) :
    SplitsInto ':' (boundsToken opcode lo hi written)
      (opcode.word :: (lo ++ "-" ++ hi) :: written.toList) where
  nonempty := by simp
  free := by
    intro part hpart
    rcases List.mem_cons.1 hpart with rfl | hpart
    · cases opcode <;> decide
    · rcases List.mem_cons.1 hpart with rfl | hpart
      · exact colon_notMem_append hlo hhi
      · exact (hwritten part (by simpa using hpart)).2
  joined := rfl

/-- Reading a token is reading the operation of its opcode. -/
theorem readToken_of_splitsInto {token : String} {opcode : Opcode} {params : List String}
    (h : SplitsInto ':' token (opcode.word :: params))
    (hsupports : opcode.supports s.kind = true) :
    readToken s token = readOperation s token opcode params := by
  rw [readToken, pieces_eq_iff.2 h]
  simp [Opcode.ofWord?_word, hsupports]

/-- Bounds that are read and not inverted are the bounds of the text. -/
theorem boundsRead_append {reader : String → Option α} {wrong : α → α → Prop}
    {least greatest : Option α} (hsplit : Bounds.split (lo ++ "-" ++ hi) = some (lo, hi))
    (hleast : BoundReads reader lo least) (hgreatest : BoundReads reader hi greatest)
    (hnot : ¬ Inverted wrong least greatest) :
    BoundsRead reader wrong (lo ++ "-" ++ hi) least greatest :=
  .divided (Bounds.split_eq_some_iff.1 hsplit) hleast hgreatest
    fun a b ha hb hwrong => hnot ⟨a, b, ha, hb, hwrong⟩

/-- Bounds that are read but inverted are refused. -/
theorem readBounds_of_inverted {token : String} {kind : Kind} {reader : String → Option α}
    {inverted : α → α → Bool} {least greatest : Option α}
    (hsplit : Bounds.split (lo ++ "-" ++ hi) = some (lo, hi))
    (hleast : BoundReads reader lo least) (hgreatest : BoundReads reader hi greatest)
    (h : Inverted (fun a b => inverted a b = true) least greatest) :
    readBounds token kind reader inverted (lo ++ "-" ++ hi) = .error (.invalidBounds token) := by
  obtain ⟨a, b, rfl, rfl, hwrong⟩ := h
  rw [readBounds, hsplit]
  simp [readBound_eq_ok_iff.2 hleast, readBound_eq_ok_iff.2 hgreatest, hwrong, bind, Except.bind,
    throw, throwThe, MonadExceptOf.throw]

theorem checkCount_cons_toList (token text : String) (written : Option String) :
    checkCount token (text :: written.toList) 1 2 = .ok () :=
  checkCount_eq_ok_iff.2 (length_between_one_two_iff.2 ⟨text, written, rfl⟩)

/-- A token with two bounds is refused when they are inverted and read otherwise, whatever
    operation is made of them. -/
theorem readToken_bounds (opcode : Opcode) {reader : String → Option α} {inverted : α → α → Bool}
    {operation : Option α → Option α → String → Operation} {least greatest : Option α}
    (hop : ∀ token params, readOperation s token opcode params = do
      checkCount token params 1 2
      let bounds ← readBounds token s.kind reader inverted (params.headD "")
      let code ← readCode token params[1]? s.fallback
      pure (operation bounds.1 bounds.2 code))
    (hsupports : opcode.supports s.kind = true)
    (hlo : lo ≠ "" → Numeral lo.toList) (hhi : hi ≠ "" → Numeral hi.toList)
    (hgiven : lo ≠ "" ∨ hi ≠ "") (hwritten : ∀ code ∈ written, IsCode code)
    (hleast : BoundReads reader lo least) (hgreatest : BoundReads reader hi greatest) :
    (readToken s (boundsToken opcode lo hi written) =
        .error (.invalidBounds (boundsToken opcode lo hi written)) ↔
      Inverted (fun a b => inverted a b = true) least greatest) ∧
    (¬ Inverted (fun a b => inverted a b = true) least greatest →
      readToken s (boundsToken opcode lo hi written) =
        .ok (operation least greatest (written.getD s.fallback))) := by
  have hsplit := Bounds.split_append hlo hhi hgiven
  have hcolon : ∀ t : String, (t ≠ "" → Numeral t.toList) → ':' ∉ t.toList := by
    intro t ht
    by_cases hempty : t = ""
    · simp [hempty]
    · exact (ht hempty).colon_notMem
  have htoken := readToken_of_splitsInto (s := s)
    (splitsInto_boundsToken opcode (hcolon lo hlo) (hcolon hi hhi) hwritten) hsupports
  rw [hop, checkCount_cons_toList, List.headD_cons, getElem?_cons_toList_one,
    readCode_eq_ok_iff.2 (codeReads_getD hwritten)] at htoken
  by_cases hinv : Inverted (fun a b => inverted a b = true) least greatest
  · rw [readBounds_of_inverted hsplit hleast hgreatest hinv] at htoken
    exact ⟨iff_of_true htoken hinv, fun hnot => absurd hinv hnot⟩
  · rw [readBounds_eq_ok_iff.2 (boundsRead_append hsplit hleast hgreatest hinv)] at htoken
    refine ⟨iff_of_false ?_ hinv, fun _ => htoken⟩
    rw [htoken]
    exact fun h => nomatch h

theorem numeral_of_boundReads {reader : String → Option α} {text : String} {bound : Option α}
    (hreader : ∀ v, reader text = some v → Numeral text.toList) (h : BoundReads reader text bound)
    (hne : text ≠ "") : Numeral text.toList := by
  cases h with
  | absent => exact absurd rfl hne
  | given _ hv => exact hreader _ hv

theorem numeral_of_readLength? {text : String} {n : Nat} (htrim : trimText text = text)
    (h : readLength? text = some n) : Numeral text.toList := by
  rw [readLength?, htrim] at h
  exact numeral_of_readUnsigned? h

/-- An integer is at least, or at most, another in the order of values just when it is in that of
    the integers. -/
theorem within_iff {k : Kind} {value b : Scalar} {i : Int} (hkind : k.isInteger = true)
    (hvalue : k.holds value = true) (hb : k.holds b = true) (hi : value.toInt? = some i) :
    ((value.compare? b = some .gt ∨ value.compare? b = some .eq) ↔
      ∃ j, b.toInt? = some j ∧ j ≤ i) ∧
    ((value.compare? b = some .lt ∨ value.compare? b = some .eq) ↔
      ∃ j, b.toInt? = some j ∧ i ≤ j) := by
  obtain ⟨j, hj⟩ := Scalar.exists_toInt?_of_holds hkind hb
  rw [(Scalar.sameType_of_holds hvalue hb).compare?_of_toInt? hi hj]
  simp only [Option.some.injEq, Int.compare_eq_gt, Int.compare_eq_lt, Int.compare_eq_eq, hj,
    exists_eq_left']
  omega

/-- A range of integers accepts the integers within it. -/
theorem check_range_iff {k : Kind} {least greatest : Option Scalar} {code : String}
    {context : CheckContext} {value : Scalar} {i : Int} (hkind : k.isInteger = true)
    (hvalue : k.holds value = true) (hi : value.toInt? = some i)
    (hleast : ∀ b ∈ least, k.holds b = true) (hgreatest : ∀ b ∈ greatest, k.holds b = true) :
    ((Operation.range least greatest code).check context value).value = true ↔
      (∀ b ∈ least, ∃ j, b.toInt? = some j ∧ j ≤ i) ∧
        ∀ b ∈ greatest, ∃ j, b.toInt? = some j ∧ i ≤ j := by
  rw [Operation.check_value_iff]
  refine and_congr (forall₂_congr ?_) (forall₂_congr ?_)
  · intro b hb
    exact (within_iff hkind hvalue (hleast b hb) hi).1
  · intro b hb
    exact (within_iff hkind hvalue (hgreatest b hb) hi).2

/-- Two bounds with a hyphen between them are read as they were meant, wherever else a hyphen
    stands: as a sign, in an exponent, or before an upper bound that stands alone.  The token is
    refused only when both bounds are given and the lower one is the greater. -/
theorem boundsToken_reads (s : TokenSettings) (lo hi : String) (written : Option String)
    (hlo : trimText lo = lo) (hhi : trimText hi = hi) (hgiven : lo ≠ "" ∨ hi ≠ "")
    (hwritten : ∀ code ∈ written, IsCode code) :
    (∀ least greatest, s.kind.isNumeric = true →
      BoundReads (Scalar.ofLiteral? s.kind) lo least →
      BoundReads (Scalar.ofLiteral? s.kind) hi greatest →
      Bounds.split (lo ++ "-" ++ hi) = some (lo, hi) ∧
      (readToken s (boundsToken .range lo hi written) =
          .error (.invalidBounds (boundsToken .range lo hi written)) ↔
        Inverted (fun a b => a.compare? b = some .gt) least greatest) ∧
      (¬ Inverted (fun a b => a.compare? b = some .gt) least greatest →
        readToken s (boundsToken .range lo hi written) =
          .ok (.range least greatest (written.getD s.fallback))) ∧
      (s.kind.isInteger = true → ∀ context value, s.kind.holds value = true →
        ∃ i, value.toInt? = some i ∧
          (((Operation.range least greatest (written.getD s.fallback)).check context value).value =
              true ↔
            (∀ b ∈ least, ∃ j, b.toInt? = some j ∧ j ≤ i) ∧
              ∀ b ∈ greatest, ∃ j, b.toInt? = some j ∧ i ≤ j))) ∧
    (∀ least greatest, s.kind.isString = true →
      BoundReads readLength? lo least → BoundReads readLength? hi greatest →
      Bounds.split (lo ++ "-" ++ hi) = some (lo, hi) ∧
      (readToken s (boundsToken .length lo hi written) =
          .error (.invalidBounds (boundsToken .length lo hi written)) ↔
        Inverted (fun a b => b < a) least greatest) ∧
      (¬ Inverted (fun a b => b < a) least greatest →
        readToken s (boundsToken .length lo hi written) =
          .ok (.length least greatest (written.getD s.fallback))) ∧
      ∀ context (text : String),
        ((Operation.length least greatest (written.getD s.fallback)).check context
            (.text text)).value = true ↔
          (∀ n ∈ least, n ≤ text.length) ∧ ∀ n ∈ greatest, text.length ≤ n) := by
  constructor
  · intro least greatest hkind hleast hgreatest
    have hlower := numeral_of_boundReads (fun _ => Scalar.numeral_of_ofLiteral? hkind hlo) hleast
    have hupper :=
      numeral_of_boundReads (fun _ => Scalar.numeral_of_ofLiteral? hkind hhi) hgreatest
    have hread := readToken_bounds .range (fun _ _ => rfl) hkind hlower hupper hgiven
      hwritten hleast hgreatest
    simp only [beq_iff_eq] at hread
    refine ⟨Bounds.split_append hlower hupper hgiven, hread.1, hread.2, ?_⟩
    intro hinteger context value hvalue
    obtain ⟨i, hi⟩ := Scalar.exists_toInt?_of_holds hinteger hvalue
    exact ⟨i, hi, check_range_iff hinteger hvalue hi
      (fun _ hb => Scalar.holds_of_ofLiteral? (hleast.reader_eq hb))
      fun _ hb => Scalar.holds_of_ofLiteral? (hgreatest.reader_eq hb)⟩
  · intro least greatest hkind hleast hgreatest
    have hlower := numeral_of_boundReads (fun _ => numeral_of_readLength? hlo) hleast
    have hupper := numeral_of_boundReads (fun _ => numeral_of_readLength? hhi) hgreatest
    have hread := readToken_bounds .length (fun _ _ => rfl) hkind hlower hupper hgiven
      hwritten hleast hgreatest
    simp only [decide_eq_true_eq] at hread
    refine ⟨Bounds.split_append hlower hupper hgiven, hread.1, hread.2, ?_⟩
    intro context text
    rw [Operation.check_value_iff]
    constructor
    · rintro ⟨_, ⟨⟩, h⟩
      exact h
    · intro h
      exact ⟨text, rfl, h⟩

/-- Both bounds may be negative. -/
theorem boundsToken_reads_negative :
    readToken ⟨.int64, [], "INVALID", none⟩ "RANGE:-5--3:OUT" =
      .ok (.range (some (.int (-5))) (some (.int (-3))) "OUT") := by
  have htoken : boundsToken .range "-5" "-3" (some "OUT") = "RANGE:-5--3:OUT" := by decide
  have hread := (boundsToken_reads ⟨.int64, [], "INVALID", none⟩ "-5" "-3" (some "OUT")
    (by decide) (by decide) (.inl (by decide)) (by simp [IsCode])).1 (some (.int (-5)))
    (some (.int (-3))) rfl (.given (by decide) (by decide)) (.given (by decide) (by decide))
  rw [← htoken]
  refine hread.2.2.1 ?_
  rintro ⟨a, b, ⟨⟩, ⟨⟩, h⟩
  simp [Scalar.compare?] at h

end Rule

end Endpoint
