import Endpoint.Json.Syntax
import Endpoint.Json.Text
import Endpoint.Proofs.Text.Utf8
import Mathlib

/-!
# Strings and numbers in JSON text

A string that has been written is read as the same characters, whatever is escaped in it.  A number
whose parts are written in their form is split into the same parts, provided that nothing follows
that would continue it.
-/

namespace Endpoint

namespace Document

open Utf8 (bytes)

variable {rest : List UInt8}

/-! ## Strings -/

/-- How a character is written in a string: by a short escape, by its code, or as it is. -/
inductive Escape (c : Char) : Prop
  | short (b e : UInt8) : bytes (Json.escapeChar c) = [0x5C, e] → e ≠ 0x75 →
      shortEscape? e = some b → String.utf8EncodeChar c = [b] → Escape c
  | code (d₁ d₂ d₃ d₄ : UInt8) : bytes (Json.escapeChar c) = [0x5C, 0x75, d₁, d₂, d₃, d₄] →
      Hexadecimal.number? (byteChars [d₁, d₂, d₃, d₄]) = some c.toNat → c.toNat < 0x20 → Escape c
  | plain : Json.escapeChar c = [c] →
      (∀ b ∈ String.utf8EncodeChar c, b ≠ 0x22 ∧ b ≠ 0x5C ∧ ¬ b < 0x20) → Escape c

theorem escape_control : ∀ n < 0x20, Escape (Char.ofNat n) := by
  intro n hn
  interval_cases n
  case «8» => exact .short 0x08 0x62 rfl (by decide) rfl rfl
  case «9» => exact .short 0x09 0x74 rfl (by decide) rfl rfl
  case «10» => exact .short 0x0A 0x6E rfl (by decide) rfl rfl
  case «12» => exact .short 0x0C 0x66 rfl (by decide) rfl rfl
  case «13» => exact .short 0x0D 0x72 rfl (by decide) rfl rfl
  all_goals exact .code _ _ _ _ rfl rfl (by decide)

theorem escape (c : Char) : Escape c := by
  by_cases hcontrol : c.toNat < 0x20
  · rw [← Char.ofNat_toNat c]
    exact escape_control c.toNat hcontrol
  by_cases hquote : c = '"'
  · subst hquote
    exact .short 0x22 0x22 rfl (by decide) rfl rfl
  by_cases hslash : c = '\\'
  · subst hslash
    exact .short 0x5C 0x5C rfl (by decide) rfl rfl
  have hcode : ∀ n : Nat, n < 0x20 → c ≠ Char.ofNat n := by
    rintro n hn rfl
    apply hcontrol
    rwa [Char.toNat_ofNat, if_pos (Or.inl (by omega))]
  have hplain : Json.escapeChar c = [c] := by
    unfold Json.escapeChar
    split
    · exact absurd rfl hquote
    · exact absurd rfl hslash
    · exact absurd rfl (hcode 0x08 (by decide))
    · exact absurd rfl (hcode 0x0C (by decide))
    · exact absurd rfl (hcode 0x0A (by decide))
    · exact absurd rfl (hcode 0x0D (by decide))
    · exact absurd rfl (hcode 0x09 (by decide))
    · exact if_neg hcontrol
  refine .plain hplain fun b hb => ?_
  have hb' : b.toNat = c.toNat ∨ 0x80 ≤ b.toNat := by
    by_cases hascii : c.toNat < 0x80
    · rw [Utf8.utf8EncodeChar_ascii hascii, List.mem_singleton] at hb
      left
      rw [hb, Utf8.toNat_ofNat_ascii hascii]
    · exact .inr (Utf8.high_of_mem_utf8EncodeChar (by omega) hb)
  have hne : ∀ d : Char, d.toNat < 0x80 → c ≠ d → b.toNat ≠ d.toNat := by
    intro d hd hcd hbd
    rcases hb' with heq | hhigh
    · exact hcd (Char.toNat_inj.1 (heq.symm.trans hbd))
    · omega
  refine ⟨?_, ?_, ?_⟩
  · rintro rfl
    exact hne '"' (by decide) hquote rfl
  · rintro rfl
    exact hne '\\' (by decide) hslash rfl
  · intro hlt
    have hlt' : b.toNat < 0x20 := hlt
    omega

theorem lexString_plain {b : UInt8} (h : b ≠ 0x22 ∧ b ≠ 0x5C ∧ ¬ b < 0x20) (s : List UInt8) :
    lexString (b :: s) = (lexString s).map fun (ps, r) => (.byte b :: ps, r) := by
  obtain ⟨hquote, hslash, hcontrol⟩ := h
  rw [lexString.eq_def]
  dsimp only
  rw [if_neg hquote, if_neg hslash, if_neg hcontrol]

theorem lexString_plains {bs : List UInt8} (h : ∀ b ∈ bs, b ≠ 0x22 ∧ b ≠ 0x5C ∧ ¬ b < 0x20)
    (s : List UInt8) :
    lexString (bs ++ s) = (lexString s).map fun (ps, r) => (bs.map .byte ++ ps, r) := by
  induction bs with
  | nil => simp
  | cons b bs ih =>
    rw [List.cons_append, lexString_plain (h b List.mem_cons_self),
      ih fun b' hb' => h b' (List.mem_cons_of_mem _ hb')]
    cases lexString s with
    | none => rfl
    | some _ => rfl

theorem pieceBytes?_plains {ps : List Piece} {bs' : List UInt8} (bs : List UInt8)
    (h : pieceBytes? ps = some bs') : pieceBytes? (bs.map .byte ++ ps) = some (bs ++ bs') := by
  induction bs with
  | nil => exact h
  | cons b bs ih =>
    rw [List.map_cons, List.cons_append, pieceBytes?, ih]
    rfl

/-- A string that has been written is read as its characters. -/
theorem lexString_written (cs : List Char) (rest : List UInt8) :
    ∃ ps, lexString (bytes (cs.flatMap Json.escapeChar) ++ 0x22 :: rest) = some (ps, rest) ∧
      pieceBytes? ps = some (bytes cs) := by
  induction cs with
  | nil =>
    refine ⟨[], ?_, rfl⟩
    show lexString (0x22 :: rest) = _
    rw [lexString.eq_def]
    rfl
  | cons c cs ih =>
    obtain ⟨ps, hps, hbytes⟩ := ih
    rw [List.flatMap_cons, Utf8.bytes_append, List.append_assoc, Utf8.bytes_cons]
    cases escape c with
    | short b e htext hne hshort hchar =>
      refine ⟨.byte b :: ps, ?_, ?_⟩
      · rw [htext]
        show lexString (0x5C :: e :: _) = _
        rw [lexString.eq_def]
        simp [hne, hshort, hps]
      · rw [pieceBytes?, hbytes, hchar]
        rfl
    | code d₁ d₂ d₃ d₄ htext hnumber hsmall =>
      refine ⟨.unit c.toNat :: ps, ?_, ?_⟩
      · rw [htext]
        show lexString (0x5C :: 0x75 :: d₁ :: d₂ :: d₃ :: d₄ :: _) = _
        rw [lexString.eq_def]
        simp [hnumber, hps]
      · rw [pieceBytes?.eq_def]
        dsimp only
        rw [if_pos (Or.inl (by omega)), hbytes, encodePoint, if_pos (by omega),
          Utf8.utf8EncodeChar_ascii (by omega)]
        rfl
    | plain htext hplain =>
      refine ⟨(String.utf8EncodeChar c).map .byte ++ ps, ?_, pieceBytes?_plains _ hbytes⟩
      rw [htext, Utf8.bytes_cons, Utf8.bytes_nil, List.append_nil, lexString_plains hplain, hps]
      rfl

theorem pieceText?_of_bytes {ps : List Piece} {s : String}
    (h : pieceBytes? ps = some (bytes s.toList)) : pieceText? ps = some s := by
  rw [pieceText?, h, Option.bind_some, Utf8.fromUTF8?_bytes, String.ofList_toList]

/-! ## Numbers -/

/-- One or more digits. -/
def IsDigits (ds : List Char) : Prop := ds ≠ [] ∧ ∀ c ∈ ds, c.isDigit = true

/-- What comes next does not continue a number. -/
def EndsNumber (rest : List UInt8) : Prop :=
  ∀ b ∈ rest.head?, isDigitByte b = false ∧ b ≠ 0x2E ∧ b ≠ 0x65 ∧ b ≠ 0x45

theorem isDigit_iff {c : Char} : c.isDigit = true ↔ 48 ≤ c.toNat ∧ c.toNat ≤ 57 := by
  rw [Char.isDigit, Bool.and_eq_true, decide_eq_true_iff, decide_eq_true_iff]
  exact Iff.rfl

theorem IsDigits.ascii {ds : List Char} (h : IsDigits ds) : Utf8.IsAscii ds := by
  intro c hc
  have hdigit := isDigit_iff.1 (h.2 c hc)
  omega

theorem bytes_of_isAscii {cs : List Char} (h : Utf8.IsAscii cs) :
    bytes cs = cs.map fun c => UInt8.ofNat c.toNat := by
  induction cs with
  | nil => rfl
  | cons c cs ih =>
    rw [Utf8.bytes_cons, Utf8.utf8EncodeChar_ascii (h c List.mem_cons_self),
      ih fun d hd => h d (List.mem_cons_of_mem _ hd)]
    rfl

theorem byteChars_bytes {cs : List Char} (h : Utf8.IsAscii cs) : byteChars (bytes cs) = cs := by
  rw [bytes_of_isAscii h, byteChars, List.map_map]
  have hchar : ∀ c ∈ cs, ((fun b : UInt8 => Char.ofNat b.toNat) ∘ fun c => UInt8.ofNat c.toNat) c =
      id c := by
    intro c hc
    rw [Function.comp_apply, Utf8.toNat_ofNat_ascii (h c hc), Char.ofNat_toNat]
    rfl
  rw [List.map_congr_left hchar, List.map_id]

theorem isDigitByte_of_mem {ds : List Char} (h : IsDigits ds) {b : UInt8} (hb : b ∈ bytes ds) :
    isDigitByte b = true := by
  rw [bytes_of_isAscii h.ascii] at hb
  obtain ⟨c, hc, rfl⟩ := List.mem_map.1 hb
  have hdigit := isDigit_iff.1 (h.2 c hc)
  have hbyte := Utf8.toNat_ofNat_ascii (h.ascii c hc)
  rw [isDigitByte, Bool.and_eq_true, decide_eq_true_iff, decide_eq_true_iff, UInt8.le_iff_toNat_le,
    UInt8.le_iff_toNat_le, hbyte]
  exact hdigit

theorem lexDigits_written {ds : List Char} (h : IsDigits ds)
    (hrest : ∀ b ∈ rest.head?, isDigitByte b = false) :
    lexDigits (bytes ds ++ rest) = some (ds, rest) := by
  have htake : rest.takeWhile isDigitByte = [] := by
    cases rest with
    | nil => rfl
    | cons b rest => rw [List.takeWhile_cons_of_neg (by rw [hrest b rfl]; decide)]
  have hdrop : rest.dropWhile isDigitByte = rest := by
    cases rest with
    | nil => rfl
    | cons b rest => rw [List.dropWhile_cons_of_neg (by rw [hrest b rfl]; decide)]
  have hne : bytes ds ≠ [] := by
    rw [bytes_of_isAscii h.ascii]
    simpa using h.1
  rw [lexDigits, List.takeWhile_append_of_pos fun b hb => isDigitByte_of_mem h hb, htake,
    List.dropWhile_append_of_pos fun b hb => isDigitByte_of_mem h hb, hdrop, List.append_nil,
    if_neg (by simpa using hne), byteChars_bytes h.ascii]

namespace NumberText

variable {t : NumberText}

/-- The parts of a number have their form: no part lacks digits, and a zero does not lead other
    digits of the whole part. -/
structure IsFormed (t : NumberText) : Prop where
  whole : IsDigits t.whole
  lead : t.whole.head? = some '0' → t.whole.length = 1
  places : ∀ ds, t.places = some ds → IsDigits ds
  power : ∀ negative ds, t.power = some (negative, ds) → IsDigits ds

/-- The digits after the point. -/
def placesText (t : NumberText) : List Char := t.places.elim [] fun ds => '.' :: ds

/-- The exponent with its sign. -/
def powerText (t : NumberText) : List Char :=
  t.power.elim [] fun p => 'e' :: (if p.1 then '-' else '+') :: p.2

/-- The text of a number after its sign. -/
def text (t : NumberText) : List Char := t.whole ++ t.placesText ++ t.powerText

theorem lexWhole_written (h : t.IsFormed) (hrest : ∀ b ∈ rest.head?, isDigitByte b = false) :
    lexWhole (bytes t.whole ++ rest) = some (t.whole, rest) := by
  have hlead : ¬ (t.whole.head? = some '0' ∧ t.whole.length ≠ 1) := fun ⟨hzero, hne⟩ =>
    hne (h.lead hzero)
  rw [lexWhole, lexDigits_written h.whole hrest, Option.bind_some]
  dsimp only
  rw [if_neg hlead]

theorem lexPlaces_written (h : t.IsFormed)
    (hrest : ∀ b ∈ rest.head?, isDigitByte b = false ∧ b ≠ 0x2E) :
    lexPlaces (bytes t.placesText ++ rest) = some (t.places, rest) := by
  unfold placesText
  cases hplaces : t.places with
  | none =>
    cases rest with
    | nil => rfl
    | cons b rest =>
      obtain ⟨-, hpoint⟩ := hrest b rfl
      show lexPlaces (b :: rest) = _
      rw [lexPlaces.eq_def]
      split
      · rename_i heq
        exact absurd (List.cons.inj heq).1 hpoint
      · rfl
  | some ds =>
    show lexPlaces (0x2E :: (bytes ds ++ rest)) = _
    rw [lexPlaces, lexDigits_written (h.places ds hplaces) fun b hb => (hrest b hb).1]
    rfl

theorem lexPower_written (h : t.IsFormed) (hrest : EndsNumber rest) :
    lexPower (bytes t.powerText ++ rest) = some (t.power, rest) := by
  unfold powerText
  cases hpower : t.power with
  | none =>
    cases rest with
    | nil => rfl
    | cons b rest =>
      obtain ⟨-, -, he, hE⟩ := hrest b rfl
      show lexPower (b :: rest) = _
      rw [lexPower.eq_def]
      dsimp only
      rw [if_neg (by simp [he, hE])]
  | some p =>
    obtain ⟨negative, ds⟩ := p
    have hdigits := lexDigits_written (h.power negative ds hpower) fun b hb => (hrest b hb).1
    cases negative with
    | false =>
      show lexPower (0x65 :: 0x2B :: (bytes ds ++ rest)) = _
      rw [lexPower.eq_def]
      simp [hdigits]
    | true =>
      show lexPower (0x65 :: 0x2D :: (bytes ds ++ rest)) = _
      rw [lexPower.eq_def]
      simp [hdigits]

/-- A number that has been written is split into its parts. -/
theorem lexNumber_written (h : t.IsFormed) (hrest : EndsNumber rest) :
    lexNumber t.negative (bytes t.text ++ rest) = some (t, rest) := by
  have hpower : ∀ b ∈ (bytes t.powerText ++ rest).head?, isDigitByte b = false ∧ b ≠ 0x2E := by
    intro b hb
    unfold powerText at hb
    cases hpower : t.power with
    | none =>
      rw [hpower] at hb
      exact ⟨(hrest b hb).1, (hrest b hb).2.1⟩
    | some p =>
      rw [hpower] at hb
      obtain rfl : 0x65 = b := Option.some.inj hb
      decide
  have hplaces : ∀ b ∈ (bytes t.placesText ++ (bytes t.powerText ++ rest)).head?,
      isDigitByte b = false := by
    intro b hb
    unfold placesText at hb
    cases hplaces : t.places with
    | none =>
      rw [hplaces] at hb
      exact (hpower b hb).1
    | some ds =>
      rw [hplaces] at hb
      obtain rfl : 0x2E = b := Option.some.inj hb
      decide
  rw [text, Utf8.bytes_append, Utf8.bytes_append, List.append_assoc, List.append_assoc, lexNumber]
  simp only [lexWhole_written h hplaces, lexPlaces_written h hpower, lexPower_written h hrest,
    Option.bind_eq_bind, Option.bind_some]

end NumberText

end Document

end Endpoint
