import Endpoint.Proofs.Json.Decoding
import Endpoint.Proofs.Json.Numeral
import Endpoint.Proofs.Json.Overlay
import Mathlib

/-!
# Written values are read back

A layout that sets values apart by the four blanks of JSON and nothing else does not change what a
text stands for: the bytes of a value in such a layout are one JSON text, which is read as that
value.  The reading is without limits, of nesting and of the size and precision of numbers.
-/

namespace Endpoint

/-- A blank between the parts of a JSON text: a space, a tab, a line feed or a carriage return. -/
def Json.IsBlank (c : Char) : Prop := c = ' ' ∨ c = '\t' ∨ c = '\n' ∨ c = '\r'

instance (c : Char) : Decidable (Json.IsBlank c) :=
  inferInstanceAs (Decidable (c = ' ' ∨ c = '\t' ∨ c = '\n' ∨ c = '\r'))

/-- A layout adds nothing but blanks. -/
structure Json.Layout.AddsBlanks (l : Json.Layout) : Prop where
  lineBreak : ∀ level, ∀ c ∈ l.lineBreak level, Json.IsBlank c
  colon : ∃ blanks, l.colon = ':' :: blanks ∧ ∀ c ∈ blanks, Json.IsBlank c

namespace Document

open Utf8 (bytes)

/-- The reading of JSON without limits. -/
def Dialect.unlimited : Dialect := ⟨NumberText.meaning, fun _ => true⟩

variable {rest : List UInt8} {level fuel : Nat} {l : Json.Layout}

/-! ## Blanks -/

theorem skipBlanks_blanks {cs : List Char} (hcs : ∀ c ∈ cs, Json.IsBlank c) (s : List UInt8) :
    skipBlanks (bytes cs ++ s) = skipBlanks s := by
  induction cs with
  | nil => rfl
  | cons c cs ih =>
    have hblank : ∃ b, String.utf8EncodeChar c = [b] ∧ isBlankByte b = true := by
      rcases hcs c List.mem_cons_self with rfl | rfl | rfl | rfl <;> exact ⟨_, rfl, by decide⟩
    obtain ⟨b, hbytes, hb⟩ := hblank
    rw [Utf8.bytes_cons, hbytes, ← ih fun c' hc' => hcs c' (List.mem_cons_of_mem _ hc')]
    exact List.dropWhile_cons_of_pos hb

theorem skipBlanks_cons {b : UInt8} (hb : isBlankByte b = false) (s : List UInt8) :
    skipBlanks (b :: s) = b :: s :=
  List.dropWhile_cons_of_neg (by rw [hb]; decide)

/-- A value is read from its first byte that is not blank. -/
theorem readValue_blanks {cs : List Char} (hcs : ∀ c ∈ cs, Json.IsBlank c) (s : List UInt8) :
    readValue .unlimited fuel level (bytes cs ++ s) = readValue .unlimited fuel level s := by
  cases fuel with
  | zero => rw [readValue, readValue]
  | succ fuel => rw [readValue, readValue, skipBlanks_blanks hcs]

/-- What may come after a value: a blank, a comma or a closing bracket, or nothing. -/
def Follows (rest : List UInt8) : Prop :=
  ∀ b ∈ rest.head?, isBlankByte b = true ∨ b = 0x2C ∨ b = 0x5D ∨ b = 0x7D

theorem isBlankByte_iff {b : UInt8} :
    isBlankByte b = true ↔ ((b = 0x20 ∨ b = 0x0A) ∨ b = 0x0D) ∨ b = 0x09 := by
  simp only [isBlankByte, Bool.or_eq_true, beq_iff_eq]

theorem Follows.endsNumber (h : Follows rest) : EndsNumber rest := by
  intro b hb
  rcases h b hb with hblank | rfl | rfl | rfl
  · rcases isBlankByte_iff.1 hblank with ((rfl | rfl) | rfl) | rfl <;> decide
  all_goals decide

theorem follows_blanks {cs : List Char} (hcs : ∀ c ∈ cs, Json.IsBlank c) (h : Follows rest) :
    Follows (bytes cs ++ rest) := by
  cases cs with
  | nil => exact h
  | cons c cs =>
    intro b hb
    left
    rcases hcs c List.mem_cons_self with rfl | rfl | rfl | rfl <;>
      exact Option.some.inj hb ▸ by decide

/-! ## Single values -/

/-- A digit is neither blank nor a mark that starts another kind of value or ends an array. -/
theorem digit_distinct {b : UInt8} (h : isDigitByte b = true) :
    isBlankByte b = false ∧ b ≠ 0x22 ∧ b ≠ 0x7B ∧ b ≠ 0x5B ∧ b ≠ 0x2D ∧ b ≠ 0x5D := by
  have hne : ∀ d, isDigitByte d = false → b ≠ d := by
    rintro d hd rfl
    rw [h] at hd
    cases hd
  refine ⟨?_, hne _ (by decide), hne _ (by decide), hne _ (by decide), hne _ (by decide),
    hne _ (by decide)⟩
  rw [Bool.eq_false_iff]
  intro hblank
  rcases isBlankByte_iff.1 hblank with ((hb | hb) | hb) | hb <;> exact hne _ (by decide) hb

theorem NumberText.IsFormed.text_cons {t : NumberText} (h : t.IsFormed) :
    ∃ b s, bytes t.text = b :: s ∧ isDigitByte b = true := by
  have hdigits := h.whole
  unfold NumberText.text
  cases hwhole : t.whole with
  | nil => exact absurd hwhole hdigits.1
  | cons c ds =>
    rw [hwhole] at hdigits
    refine ⟨UInt8.ofNat c.toNat, bytes (ds ++ t.placesText ++ t.powerText), ?_, ?_⟩
    · rw [List.cons_append, List.cons_append, Utf8.bytes_cons,
        Utf8.utf8EncodeChar_ascii (hdigits.ascii c List.mem_cons_self)]
      rfl
    · apply isDigitByte_of_mem hdigits
      rw [Utf8.bytes_cons, Utf8.utf8EncodeChar_ascii (hdigits.ascii c List.mem_cons_self)]
      exact List.mem_cons_self

/-- A number is read as what it stands for. -/
theorem readValue_number {t : NumberText} (h : t.IsFormed) (hrest : Follows rest) :
    readValue .unlimited (fuel + 1) level (bytes t.signed ++ rest) = some (t.meaning, rest) := by
  have hnumber := NumberText.lexNumber_written h hrest.endsNumber
  unfold NumberText.signed
  cases hsign : t.negative with
  | true =>
    rw [hsign] at hnumber
    show readValue _ _ _ (0x2D :: (bytes t.text ++ rest)) = _
    rw [readValue, skipBlanks_cons (by decide)]
    simp [hnumber, Dialect.unlimited]
  | false =>
    obtain ⟨b, s, hbytes, hdigit⟩ := h.text_cons
    obtain ⟨hblank, hquote, hbrace, hbracket, hminus, -⟩ := digit_distinct hdigit
    rw [if_neg Bool.false_ne_true]
    rw [hsign, hbytes, List.cons_append] at hnumber
    rw [hbytes, List.cons_append, readValue, skipBlanks_cons hblank]
    dsimp only
    rw [if_neg hquote, if_neg hbrace, if_neg hbracket, if_neg hminus, if_pos hdigit, hnumber]
    rfl

theorem lexString_writeString (s : String) (rest : List UInt8) :
    ∃ ps, bytes (Json.writeString s) ++ rest =
        0x22 :: (bytes (s.toList.flatMap Json.escapeChar) ++ 0x22 :: rest) ∧
      lexString (bytes (s.toList.flatMap Json.escapeChar) ++ 0x22 :: rest) = some (ps, rest) ∧
      pieceText? ps = some s := by
  obtain ⟨ps, hps, hpieces⟩ := lexString_written s.toList rest
  refine ⟨ps, ?_, hps, pieceText?_of_bytes hpieces⟩
  rw [Json.writeString, Utf8.bytes_cons, Utf8.bytes_append, List.append_assoc, List.append_assoc]
  rfl

theorem readValue_string (s : String) (rest : List UInt8) :
    readValue .unlimited (fuel + 1) level (bytes (Json.writeString s) ++ rest) =
      some (.str s, rest) := by
  obtain ⟨ps, htext, hps, hpieces⟩ := lexString_writeString s rest
  rw [htext, readValue, skipBlanks_cons (by decide)]
  simp [hps, stringValue, hpieces]

/-- A float is written as a number that stands for it, or as null if it is not finite. -/
theorem writeFloat_cases (x : Binary64) :
    (∃ t : NumberText, t.IsFormed ∧ Json.writeFloat x = t.signed ∧ t.meaning = ofJson (.float x)) ∨
      (Json.writeFloat x = "null".toList ∧ ofJson (.float x) = .null) := by
  cases hfinite : x.isFinite with
  | true =>
    obtain ⟨t, ht, htext, hmeaning⟩ := NumberText.writeFloat_spec hfinite
    left
    refine ⟨t, ht, htext, ?_⟩
    rw [hmeaning, ofJson, if_pos hfinite]
  | false =>
    right
    have hlarge := of_decide_eq_false hfinite
    refine ⟨?_, by rw [ofJson, hfinite, if_neg Bool.false_ne_true]⟩
    rw [Json.writeFloat, FloatLayout.write]
    by_cases hnan : x.isNaN = true
    · rw [if_pos hnan]
      rfl
    · have hinfinite : x.isInfinite = true := by
        rw [Binary64.isNaN, decide_eq_true_iff] at hnan
        rw [Binary64.isInfinite, beq_iff_eq]
        omega
      rw [if_neg hnan, if_pos hinfinite]
      rfl

/-! ## Arrays and objects -/

/-- A value that is written starts with a byte that is neither blank nor a closing bracket. -/
theorem writeAt_cons (l : Json.Layout) (level : Nat) (j : Json) :
    ∃ b s, bytes (Json.writeAt l level j) = b :: s ∧ isBlankByte b = false ∧ b ≠ 0x5D := by
  have hsigned : ∀ t : NumberText, t.IsFormed →
      ∃ b s, bytes t.signed = b :: s ∧ isBlankByte b = false ∧ b ≠ 0x5D := by
    intro t ht
    unfold NumberText.signed
    split
    · exact ⟨0x2D, bytes t.text, rfl, by decide, by decide⟩
    · obtain ⟨b, s, hbytes, hdigit⟩ := ht.text_cons
      obtain ⟨hblank, -, -, -, -, hclosing⟩ := digit_distinct hdigit
      exact ⟨b, s, hbytes, hblank, hclosing⟩
  cases j with
  | null => exact ⟨_, _, rfl, by decide, by decide⟩
  | bool b => cases b <;> exact ⟨_, _, rfl, by decide, by decide⟩
  | int i =>
    obtain ⟨t, ht, htext, -⟩ := NumberText.writeInt_spec i
    rw [Json.writeAt, htext]
    exact hsigned t ht
  | float x =>
    rw [Json.writeAt]
    rcases writeFloat_cases x with ⟨t, ht, htext, -⟩ | ⟨htext, -⟩
    · rw [htext]
      exact hsigned t ht
    · rw [htext]
      exact ⟨0x6E, _, rfl, by decide, by decide⟩
  | str s => exact ⟨0x22, _, rfl, by decide, by decide⟩
  | arr items => cases items <;> exact ⟨0x5B, _, rfl, by decide, by decide⟩
  | obj entries => cases entries <;> exact ⟨0x7B, _, rfl, by decide, by decide⟩

/-- An array is read from its items. -/
theorem readValue_array (d : Dialect) {text : List UInt8} {b : UInt8} {s : List UInt8}
    (htext : skipBlanks text = b :: s) (hb : b ≠ 0x5D) :
    readValue d (fuel + 1) level (0x5B :: text) =
      (readItems d fuel (level + 1) (b :: s)).map fun (ds, r) =>
        (d.limited level (.arr ds), r) := by
  rw [readValue, skipBlanks_cons (by decide)]
  dsimp only
  rw [if_neg (by decide), if_neg (by decide), if_pos rfl, htext]
  split
  · rename_i heq
    exact absurd (List.cons.inj heq).1 hb
  · rfl

/-- An object is read from its entries. -/
theorem readValue_object (d : Dialect) {text : List UInt8} {b : UInt8} {s : List UInt8}
    (htext : skipBlanks text = b :: s) (hb : b ≠ 0x7D) :
    readValue d (fuel + 1) level (0x7B :: text) =
      (readEntries d fuel (level + 1) (b :: s)).map fun (es, r) =>
        (d.limited level (.obj es), r) := by
  rw [readValue, skipBlanks_cons (by decide)]
  dsimp only
  rw [if_neg (by decide), if_pos rfl, htext]
  split
  · rename_i heq
    exact absurd (List.cons.inj heq).1 hb
  · rfl

/-- A value that has been written in a layout is read back. -/
def ReadsBack (l : Json.Layout) (j : Json) : Prop :=
  ∀ (indent level fuel : Nat) (rest : List UInt8),
    (bytes (Json.writeAt l indent j)).length ≤ fuel → Follows rest →
    readValue .unlimited fuel level (bytes (Json.writeAt l indent j) ++ rest) =
      some (ofJson j, rest)

theorem ReadsBack.of_succ {j : Json}
    (h : ∀ (indent level fuel : Nat) (rest : List UInt8),
      (bytes (Json.writeAt l indent j)).length ≤ fuel + 1 → Follows rest →
      readValue .unlimited (fuel + 1) level (bytes (Json.writeAt l indent j) ++ rest) =
        some (ofJson j, rest)) : ReadsBack l j := by
  intro indent level fuel rest hfuel hrest
  obtain ⟨b, s, hbytes, -⟩ := writeAt_cons l indent j
  cases fuel with
  | zero =>
    rw [hbytes] at hfuel
    cases hfuel
  | succ fuel => exact h indent level fuel rest hfuel hrest

theorem readsBack_null : ReadsBack l .null := by
  apply ReadsBack.of_succ
  intro indent level fuel rest _ _
  show readValue _ _ _ (0x6E :: 0x75 :: 0x6C :: 0x6C :: rest) = _
  rw [readValue, skipBlanks_cons (by decide)]
  rfl

theorem readsBack_bool (b : Bool) : ReadsBack l (.bool b) := by
  apply ReadsBack.of_succ
  intro indent level fuel rest _ _
  cases b with
  | false =>
    show readValue _ _ _ (0x66 :: 0x61 :: 0x6C :: 0x73 :: 0x65 :: rest) = _
    rw [readValue, skipBlanks_cons (by decide)]
    rfl
  | true =>
    show readValue _ _ _ (0x74 :: 0x72 :: 0x75 :: 0x65 :: rest) = _
    rw [readValue, skipBlanks_cons (by decide)]
    rfl

theorem readsBack_int (i : Int) : ReadsBack l (.int i) := by
  apply ReadsBack.of_succ
  intro indent level fuel rest _ hrest
  obtain ⟨t, ht, htext, hmeaning⟩ := NumberText.writeInt_spec i
  rw [Json.writeAt, htext, readValue_number ht hrest, hmeaning, ofJson]

theorem readsBack_float (x : Binary64) : ReadsBack l (.float x) := by
  rcases writeFloat_cases x with ⟨t, ht, htext, hmeaning⟩ | ⟨htext, hnull⟩
  · apply ReadsBack.of_succ
    intro indent level fuel rest _ hrest
    rw [Json.writeAt, htext, readValue_number ht hrest, hmeaning]
  · intro indent level fuel rest hfuel hrest
    have hsame : Json.writeAt l indent (.float x) = Json.writeAt l indent .null := by
      rw [Json.writeAt, Json.writeAt]
      exact htext
    rw [hsame] at hfuel ⊢
    rw [hnull]
    exact readsBack_null indent level fuel rest hfuel hrest

theorem readsBack_str (s : String) : ReadsBack l (.str s) := by
  apply ReadsBack.of_succ
  intro indent level fuel rest _ _
  exact readValue_string s rest

theorem follows_cons {b : UInt8} (hb : b = 0x2C ∨ b = 0x5D ∨ b = 0x7D) (s : List UInt8) :
    Follows (b :: s) := by
  intro b' hb'
  obtain rfl : b = b' := Option.some.inj hb'
  exact .inr hb

section Layout

variable (hl : l.AddsBlanks)
include hl

/-- The items of an array are read back up to its closing bracket. -/
theorem readItems_writeItems {item : Json} {items : List Json}
    (hitems : ∀ j ∈ item :: items, ReadsBack l j) (indent level fuel : Nat)
    {before after : List Char} (rest : List UInt8) (hbefore : ∀ c ∈ before, Json.IsBlank c)
    (hafter : ∀ c ∈ after, Json.IsBlank c)
    (hfuel : (bytes (before ++ Json.writeAt l indent item ++ Json.writeItems l indent items ++
      after)).length < fuel) :
    readItems .unlimited fuel level (bytes (before ++ Json.writeAt l indent item ++
      Json.writeItems l indent items ++ after) ++ 0x5D :: rest) =
        some (ofItems (item :: items), rest) := by
  induction items generalizing item fuel before with
  | nil =>
    obtain ⟨fuel, rfl⟩ : ∃ k, fuel = k + 1 := ⟨fuel - 1, by omega⟩
    simp only [Json.writeItems, List.append_nil, Utf8.bytes_append, List.length_append,
      List.append_assoc] at hfuel ⊢
    have hfollows : Follows (bytes after ++ 0x5D :: rest) :=
      follows_blanks hafter (follows_cons (by decide) rest)
    rw [readItems, readValue_blanks hbefore,
      hitems item List.mem_cons_self indent level fuel _ (by omega) hfollows]
    dsimp only
    rw [skipBlanks_blanks hafter, skipBlanks_cons (by decide)]
    rfl
  | cons next items ih =>
    obtain ⟨fuel, rfl⟩ : ∃ k, fuel = k + 1 := ⟨fuel - 1, by omega⟩
    have hcomma : String.utf8EncodeChar ',' = [0x2C] := rfl
    have hnext := ih (fun j hj => hitems j (List.mem_cons_of_mem _ hj)) fuel (hl.lineBreak indent)
    simp only [Json.writeItems, Utf8.bytes_append, Utf8.bytes_cons, hcomma, List.length_append,
      List.append_assoc, List.cons_append, List.nil_append, List.length_cons] at hfuel hnext ⊢
    rw [readItems, readValue_blanks hbefore,
      hitems item List.mem_cons_self indent level fuel _ (by omega) (follows_cons (by decide) _)]
    dsimp only
    rw [skipBlanks_cons (by decide)]
    show (readItems _ _ _ _).map _ = _
    rw [hnext (by omega)]
    rfl

theorem readsBack_arr {items : List Json} (hitems : ∀ j ∈ items, ReadsBack l j) :
    ReadsBack l (.arr items) := by
  apply ReadsBack.of_succ
  intro indent level fuel rest hfuel _
  cases items with
  | nil =>
    show readValue _ _ _ (0x5B :: 0x5D :: rest) = _
    rw [readValue, skipBlanks_cons (by decide)]
    rfl
  | cons item items =>
    have hopen : String.utf8EncodeChar '[' = [0x5B] := rfl
    have hclose : String.utf8EncodeChar ']' = [0x5D] := rfl
    obtain ⟨b, s, hbytes, hblank, hb⟩ := writeAt_cons l (indent + 1) item
    have hread := readItems_writeItems hl hitems (indent + 1) (level + 1) fuel rest
      (List.forall_mem_nil Json.IsBlank) (hl.lineBreak indent)
    simp only [Json.writeAt, Utf8.bytes_append, Utf8.bytes_cons, Utf8.bytes_nil, hopen, hclose,
      List.length_append, List.append_assoc, List.cons_append, List.length_cons, List.length_nil,
      List.nil_append, hbytes] at hfuel hread ⊢
    rw [readValue_array _ ((skipBlanks_blanks (hl.lineBreak _) _).trans (skipBlanks_cons hblank _))
      hb, hread (by omega), ofJson]
    rfl

/-- The entries of an object are read back up to its closing brace. -/
theorem readEntries_writeEntries {entry : String × Json} {entries : List (String × Json)}
    (hentries : ∀ e ∈ entry :: entries, ReadsBack l e.2) (indent level fuel : Nat)
    {before after : List Char} (rest : List UInt8) (hbefore : ∀ c ∈ before, Json.IsBlank c)
    (hafter : ∀ c ∈ after, Json.IsBlank c)
    (hfuel : (bytes (before ++ Json.writeString entry.1 ++ l.colon ++
      Json.writeAt l indent entry.2 ++ Json.writeEntries l indent entries ++ after)).length <
        fuel) :
    readEntries .unlimited fuel level (bytes (before ++ Json.writeString entry.1 ++ l.colon ++
      Json.writeAt l indent entry.2 ++ Json.writeEntries l indent entries ++ after) ++
        0x7D :: rest) = some (ofEntries (entry :: entries), rest) := by
  obtain ⟨blanks, hcolon, hblanks⟩ := hl.colon
  have hmark : String.utf8EncodeChar ':' = [0x3A] := rfl
  induction entries generalizing entry fuel before with
  | nil =>
    obtain ⟨fuel, rfl⟩ : ∃ k, fuel = k + 1 := ⟨fuel - 1, by omega⟩
    simp only [Json.writeEntries, List.append_nil, Utf8.bytes_append, List.length_append,
      List.append_assoc, hcolon, Utf8.bytes_cons, hmark, List.cons_append, List.nil_append,
      List.length_cons] at hfuel ⊢
    have hfollows : Follows (bytes after ++ 0x7D :: rest) :=
      follows_blanks hafter (follows_cons (by decide) rest)
    obtain ⟨ps, htext, hps, hkey⟩ := lexString_writeString entry.1 (0x3A :: (bytes blanks ++
      (bytes (Json.writeAt l indent entry.2) ++ (bytes after ++ 0x7D :: rest))))
    rw [readEntries, skipBlanks_blanks hbefore, htext, skipBlanks_cons (by decide)]
    simp only [hps]
    rw [skipBlanks_cons (by decide)]
    simp only [readValue_blanks hblanks]
    rw [hentries entry List.mem_cons_self indent level fuel _ (by omega) hfollows]
    simp only
    rw [skipBlanks_blanks hafter, skipBlanks_cons (by decide)]
    simp only [hkey]
    rfl
  | cons next entries ih =>
    obtain ⟨fuel, rfl⟩ : ∃ k, fuel = k + 1 := ⟨fuel - 1, by omega⟩
    have hcomma : String.utf8EncodeChar ',' = [0x2C] := rfl
    have hnext := ih (fun e he => hentries e (List.mem_cons_of_mem _ he)) fuel (hl.lineBreak indent)
    simp only [Json.writeEntries, Utf8.bytes_append, List.length_append, List.append_assoc, hcolon,
      Utf8.bytes_cons, hmark, hcomma, List.cons_append, List.nil_append,
      List.length_cons] at hfuel hnext ⊢
    obtain ⟨ps, htext, hps, hkey⟩ := lexString_writeString entry.1 (0x3A :: (bytes blanks ++
      (bytes (Json.writeAt l indent entry.2) ++ 0x2C :: (bytes (l.lineBreak indent) ++
        (bytes (Json.writeString next.1) ++ 0x3A :: (bytes blanks ++
          (bytes (Json.writeAt l indent next.2) ++ (bytes (Json.writeEntries l indent entries) ++
            (bytes after ++ 0x7D :: rest)))))))))
    rw [readEntries, skipBlanks_blanks hbefore, htext, skipBlanks_cons (by decide)]
    simp only [hps]
    rw [skipBlanks_cons (by decide)]
    simp only [readValue_blanks hblanks]
    rw [hentries entry List.mem_cons_self indent level fuel _ (by omega)
      (follows_cons (by decide) _)]
    simp only
    rw [skipBlanks_cons (by decide)]
    simp only [hkey]
    rw [hnext (by omega)]
    rfl

theorem readsBack_obj {entries : List (String × Json)} (hentries : ∀ e ∈ entries, ReadsBack l e.2) :
    ReadsBack l (.obj entries) := by
  apply ReadsBack.of_succ
  intro indent level fuel rest hfuel _
  cases entries with
  | nil =>
    show readValue _ _ _ (0x7B :: 0x7D :: rest) = _
    rw [readValue, skipBlanks_cons (by decide)]
    rfl
  | cons entry entries =>
    have hopen : String.utf8EncodeChar '\x7b' = [0x7B] := rfl
    have hclose : String.utf8EncodeChar '\x7d' = [0x7D] := rfl
    have hquote : ∃ s, bytes (Json.writeString entry.1) = 0x22 :: s := ⟨_, rfl⟩
    obtain ⟨s, hbytes⟩ := hquote
    have hread := readEntries_writeEntries hl hentries (indent + 1) (level + 1) fuel rest
      (List.forall_mem_nil Json.IsBlank) (hl.lineBreak indent)
    simp only [Json.writeAt, Utf8.bytes_append, Utf8.bytes_cons, Utf8.bytes_nil, hopen, hclose,
      List.length_append, List.append_assoc, List.cons_append, List.length_cons, List.length_nil,
      List.nil_append, hbytes] at hfuel hread ⊢
    rw [readValue_object _ ((skipBlanks_blanks (hl.lineBreak _) _).trans (skipBlanks_cons rfl _))
      (by decide), hread (by omega), ofJson]
    rfl

theorem readsBack : ∀ j : Json, ReadsBack l j
  | .null => readsBack_null
  | .bool b => readsBack_bool b
  | .int i => readsBack_int i
  | .float x => readsBack_float x
  | .str s => readsBack_str s
  | .arr items => readsBack_arr hl fun j _ => readsBack j
  | .obj entries => readsBack_obj hl fun e _ => readsBack e.2
termination_by j => sizeOf j
decreasing_by
  · have hlt : sizeOf j < sizeOf items := List.sizeOf_lt_of_mem ‹_›
    rw [Json.arr.sizeOf_spec]
    omega
  · have hlt : sizeOf e < sizeOf entries := List.sizeOf_lt_of_mem ‹_›
    have hvalue : sizeOf e = 1 + sizeOf e.1 + sizeOf e.2 := rfl
    rw [Json.obj.sizeOf_spec]
    omega

/-- The text of a value in a layout of blanks is one JSON text, which stands for the value. -/
theorem readAs?_write (j : Json) :
    readAs? .unlimited (Utf8.encode (j.write l)) = some (ofJson j) := by
  have hread := readsBack hl j 0 0 ((bytes (Json.writeAt l 0 j)).length + 1) [] (by omega)
    (by intro b hb; cases hb)
  rw [List.append_nil] at hread
  rw [Json.write, Utf8.encode_ofList, readAs?, hread]
  rfl

end Layout

end Document

namespace Json

variable {j : Json}

/-- A value as programs hold it: the entries of objects are in order, and floats are finite. -/
inductive Canonical : Json → Prop
  | null : Canonical null
  | bool (b : Bool) : Canonical (bool b)
  | int (i : Int) : Canonical (int i)
  | float {x : Binary64} (hfinite : x.isFinite = true) : Canonical (float x)
  | str (s : String) : Canonical (str s)
  | arr {items : List Json} (hitems : ∀ j ∈ items, Canonical j) : Canonical (arr items)
  | obj {entries : Entries Json} (hentries : entries.Sorted)
    (hvalues : ∀ entry ∈ entries, Canonical entry.2) : Canonical (obj entries)

theorem Canonical.object {pairs : List (String × Json)} (h : ∀ entry ∈ pairs, entry.2.Canonical) :
    (Json.object pairs).Canonical :=
  .obj (Entries.sorted_ofList pairs) fun entry hentry => h entry (Entries.mem_ofList hentry)

/-- The value that bytes stand for, if they are one JSON text. -/
def meaning? (bytes : List UInt8) : Option Json :=
  (Document.readAs? .unlimited bytes).bind Document.toJson?

theorem itemsToJson?_ofItems {items : List Json}
    (hitems : ∀ j ∈ items, (Document.ofJson j).toJson? = some j) :
    Document.itemsToJson? (Document.ofItems items) = some items := by
  induction items with
  | nil => rfl
  | cons item items ih =>
    rw [Document.ofItems, Document.itemsToJson?, hitems item List.mem_cons_self,
      ih fun j hj => hitems j (List.mem_cons_of_mem _ hj)]

theorem entriesToJson?_ofEntries {entries : List (String × Json)}
    (hentries : ∀ entry ∈ entries, (Document.ofJson entry.2).toJson? = some entry.2) :
    Document.entriesToJson? (Document.ofEntries entries) = some entries := by
  induction entries with
  | nil => rfl
  | cons entry entries ih =>
    rw [Document.ofEntries, Document.entriesToJson?.eq_def]
    simp only [hentries entry List.mem_cons_self,
      ih fun e he => hentries e (List.mem_cons_of_mem _ he)]

theorem Canonical.toJson?_ofJson (h : j.Canonical) : (Document.ofJson j).toJson? = some j := by
  induction h with
  | null | bool | int | str => rfl
  | float hfinite =>
    rw [Document.ofJson, if_pos hfinite, Document.toJson?]
  | arr _ ih =>
    rw [Document.ofJson, Document.toJson?, itemsToJson?_ofItems ih, Option.map_some]
  | obj hsorted _ ih =>
    rw [Document.ofJson, Document.toJson?, entriesToJson?_ofEntries ih, Option.map_some,
      Json.object, hsorted.ofList_eq]

/-- The bytes of a value in a layout of blanks stand for that value. -/
theorem Canonical.meaning?_write {l : Layout} (hl : l.AddsBlanks) (h : j.Canonical) :
    meaning? (Utf8.encode (j.write l)) = some j := by
  rw [meaning?, Document.readAs?_write hl, Option.bind_some, h.toJson?_ofJson]

end Json

end Endpoint
