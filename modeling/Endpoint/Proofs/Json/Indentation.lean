import Endpoint.Proofs.Json.RoundTrip
import Endpoint.Text.Blank
import Mathlib

/-!
# Indents

An indent is copied into the text in front of every item and entry.  If it holds blanks of JSON the
text still stands for the value.  Any other white space in it, such as a no-break space, leaves no
JSON text of an array or object that is not empty.
-/

namespace Endpoint

namespace Json.Layout

theorem compact_addsBlanks : compact.AddsBlanks where
  lineBreak := fun _ => List.forall_mem_nil Json.IsBlank
  colon := ⟨[], rfl, List.forall_mem_nil Json.IsBlank⟩

theorem indented_addsBlanks {indent : String} (h : ∀ c ∈ indent.toList, Json.IsBlank c) :
    (indented indent).AddsBlanks where
  lineBreak := by
    intro level c hc
    rcases List.mem_cons.1 hc with rfl | hc
    · decide
    · obtain ⟨cs, hcs, hc⟩ := List.mem_flatten.1 hc
      rw [(List.mem_replicate.1 hcs).2] at hc
      exact h c hc
  colon := ⟨[' '], rfl, fun _ hc => .inl (List.mem_singleton.1 hc)⟩

end Json.Layout

/-- Arrays and objects that are not empty. -/
inductive Json.HasParts : Json → Prop
  | arr (item : Json) (items : List Json) : HasParts (.arr (item :: items))
  | obj (entry : String × Json) (entries : List (String × Json)) :
    HasParts (.obj (entry :: entries))

namespace Document

open Utf8 (bytes)

variable {l : Dialect} {fuel level : Nat} {b : UInt8} {s : List UInt8}

/-- A byte that starts no part of a JSON text: a vertical tab, a form feed, or a byte that is not
    ASCII. -/
def IsStray (b : UInt8) : Prop := b.toNat = 0x0B ∨ b.toNat = 0x0C ∨ 0x80 ≤ b.toNat

theorem IsStray.ne (h : IsStray b) (d : UInt8)
    (hd : d.toNat ≠ 0x0B ∧ d.toNat ≠ 0x0C ∧ d.toNat < 0x80) : b ≠ d := by
  rintro rfl
  unfold IsStray at h
  omega

theorem IsStray.not_blank (h : IsStray b) : isBlankByte b = false := by
  rw [Bool.eq_false_iff]
  intro hblank
  rcases isBlankByte_iff.1 hblank with ((hb | hb) | hb) | hb <;> exact h.ne _ (by decide) hb

theorem IsStray.not_digit (h : IsStray b) : isDigitByte b = false := by
  rw [Bool.eq_false_iff]
  intro hdigit
  rw [isDigitByte, Bool.and_eq_true, decide_eq_true_iff, decide_eq_true_iff, UInt8.le_iff_toNat_le,
    UInt8.le_iff_toNat_le] at hdigit
  have hlow : 48 ≤ b.toNat := hdigit.1
  have hhigh : b.toNat ≤ 57 := hdigit.2
  unfold IsStray at h
  omega

theorem readValue_stray (h : IsStray b) : readValue l fuel level (b :: s) = none := by
  cases fuel with
  | zero => rw [readValue]
  | succ fuel =>
    rw [readValue, skipBlanks_cons h.not_blank]
    dsimp only
    rw [if_neg (h.ne _ (by decide)), if_neg (h.ne _ (by decide)), if_neg (h.ne _ (by decide)),
      if_neg (h.ne _ (by decide)), h.not_digit, if_neg Bool.false_ne_true,
      if_neg (h.ne _ (by decide)), if_neg (h.ne _ (by decide)), if_neg (h.ne _ (by decide))]

theorem readItems_stray (h : IsStray b) : readItems l fuel level (b :: s) = none := by
  cases fuel with
  | zero => rw [readItems]
  | succ fuel => rw [readItems, readValue_stray h]

theorem readEntries_stray (h : IsStray b) : readEntries l fuel level (b :: s) = none := by
  cases fuel with
  | zero => rw [readEntries]
  | succ fuel =>
    rw [readEntries, skipBlanks_cons h.not_blank]
    split
    · rename_i heq
      exact absurd (List.cons.inj heq).1 (h.ne _ (by decide))
    · rfl

/-- White space that is no blank of JSON starts with a stray byte. -/
theorem isStray_of_isBlank {c : Char} (hspace : isBlank c = true) (hc : ¬ Json.IsBlank c) :
    ∃ b s, String.utf8EncodeChar c = b :: s ∧ IsStray b := by
  by_cases hascii : c.toNat < 0x80
  · refine ⟨UInt8.ofNat c.toNat, [], Utf8.utf8EncodeChar_ascii hascii, ?_⟩
    have hne : ∀ d : Char, Json.IsBlank d → c.toNat ≠ d.toNat := by
      intro d hd heq
      rw [Char.toNat_inj.1 heq] at hc
      exact hc hd
    have htab := hne '\t' (by decide)
    have hfeed := hne '\n' (by decide)
    have hreturn := hne '\r' (by decide)
    have hspace' := hne ' ' (by decide)
    simp only [isBlank, Bool.or_eq_true, Bool.and_eq_true, decide_eq_true_eq, beq_iff_eq] at hspace
    rw [IsStray, Utf8.toNat_ofNat_ascii hascii]
    have h9 : '\t'.toNat = 9 := rfl
    have h10 : '\n'.toNat = 10 := rfl
    have h13 : '\r'.toNat = 13 := rfl
    have h32 : ' '.toNat = 32 := rfl
    omega
  · cases hbytes : String.utf8EncodeChar c with
    | nil => exact absurd hbytes String.utf8EncodeChar_ne_nil
    | cons b s =>
      refine ⟨b, s, rfl, .inr (.inr ?_)⟩
      apply Utf8.high_of_mem_utf8EncodeChar (not_lt.1 hascii)
      rw [hbytes]
      exact List.mem_cons_self

/-- Past the blanks of an indent that holds other white space stands a stray byte. -/
theorem skipBlanks_stray {cs : List Char} (hspace : ∀ c ∈ cs, isBlank c = true)
    (hstray : ∃ c ∈ cs, ¬ Json.IsBlank c) (rest : List UInt8) :
    ∃ b s, skipBlanks (bytes cs ++ rest) = b :: s ∧ IsStray b := by
  induction cs with
  | nil =>
    obtain ⟨c, hc, -⟩ := hstray
    cases hc
  | cons c cs ih =>
    by_cases hc : Json.IsBlank c
    · have hblank : ∀ c' ∈ [c], Json.IsBlank c' := by
        intro c' hc'
        rwa [List.mem_singleton.1 hc']
      have hrest : ∃ c' ∈ cs, ¬ Json.IsBlank c' := by
        obtain ⟨c', hc', hnot⟩ := hstray
        rcases List.mem_cons.1 hc' with rfl | hc'
        · exact absurd hc hnot
        · exact ⟨c', hc', hnot⟩
      obtain ⟨b, s, hs, hb⟩ := ih (fun c' hc' => hspace c' (List.mem_cons_of_mem _ hc')) hrest
      refine ⟨b, s, ?_, hb⟩
      rw [← hs, ← List.singleton_append, Utf8.bytes_append, List.append_assoc]
      exact skipBlanks_blanks hblank _
    · obtain ⟨b, s, hs, hb⟩ := isStray_of_isBlank (hspace c List.mem_cons_self) hc
      refine ⟨b, s ++ (bytes cs ++ rest), ?_, hb⟩
      rw [Utf8.bytes_cons, hs, List.cons_append, List.cons_append, skipBlanks_cons hb.not_blank,
        List.append_assoc]

/-- The line break before the first part starts with the indent. -/
theorem lineBreak_one (indent : String) :
    (Json.Layout.indented indent).lineBreak 1 = '\n' :: indent.toList := by
  show '\n' :: (List.replicate 1 indent.toList).flatten = _
  rw [List.replicate_one, List.flatten_singleton]

/-- With white space other than blanks in the indent there is no JSON text. -/
theorem readAs?_indented_eq_none {indent : String} {j : Json} (hspace : isBlankText indent = true)
    (hstray : ∃ c ∈ indent.toList, ¬ Json.IsBlank c) (hj : j.HasParts) :
    readAs? l (Utf8.encode (j.write (.indented indent))) = none := by
  have hbreak : ∀ rest, ∃ b s,
      skipBlanks (bytes ((Json.Layout.indented indent).lineBreak 1) ++ rest) = b :: s ∧
        IsStray b := by
    intro rest
    rw [lineBreak_one]
    apply skipBlanks_stray
    · intro c hc
      rcases List.mem_cons.1 hc with rfl | hc
      · decide
      · exact List.all_eq_true.1 hspace c hc
    · obtain ⟨c, hc, hnot⟩ := hstray
      exact ⟨c, List.mem_cons_of_mem _ hc, hnot⟩
  have hnone : ∀ fuel, readValue l fuel 0 (bytes (Json.writeAt (.indented indent) 0 j)) = none := by
    intro fuel
    cases fuel with
    | zero => rw [readValue]
    | succ fuel =>
      cases hj with
      | arr item items =>
        have hopen : String.utf8EncodeChar '[' = [0x5B] := rfl
        simp only [Json.writeAt, Utf8.bytes_append, Utf8.bytes_cons, hopen, List.append_assoc,
          List.cons_append, List.nil_append]
        obtain ⟨b, s, hs, hb⟩ := hbreak _
        rw [readValue_array l hs (hb.ne _ (by decide)), readItems_stray hb, Option.map_none]
      | obj entry entries =>
        have hopen : String.utf8EncodeChar '\x7b' = [0x7B] := rfl
        simp only [Json.writeAt, Utf8.bytes_append, Utf8.bytes_cons, hopen, List.append_assoc,
          List.cons_append, List.nil_append]
        obtain ⟨b, s, hs, hb⟩ := hbreak _
        rw [readValue_object l hs (hb.ne _ (by decide)), readEntries_stray hb, Option.map_none]
  rw [Json.write, Utf8.encode_ofList, readAs?, hnone]

end Document

end Endpoint
