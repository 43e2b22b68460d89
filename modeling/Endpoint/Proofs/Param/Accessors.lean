import Endpoint.Proofs.List
import Endpoint.Proofs.Number.Integer
import Endpoint.Proofs.Param.Binding
import Mathlib

/-!
# Readers of single values and binding

A reader of integers reads a number of 64 bits and then compares it with limits that are computed in
words; binding reads a number of the size of the field at once.  Both find the same numbers, so that
a field takes the value that the reader gives.
-/

namespace Endpoint

namespace Params

variable {p : Params} {key raw : String} {bits : Nat}

/-- The last value supplied for a key. -/
def last? (p : Params) (key : String) : Option String := (p.valuesOf? key).bind List.getLast?

theorem read_eq_ok_iff {α : Type} {expected : String} {reader : String → Option α} {a : α} :
    p.read key expected reader = .ok a ↔ ∃ raw, p.last? key = some raw ∧ reader raw = some a := by
  rw [read, string, ← last?]
  cases hlast : p.last? key with
  | none => simp [bind, Except.bind]
  | some raw =>
    cases hread : reader raw with
    | none => simp [hread, bind, Except.bind, throw, throwThe, MonadExceptOf.throw]
    | some b => simp [hread, bind, Except.bind, pure, Except.pure]

/-! ## Limits computed in words -/

theorem isNarrow_iff : isNarrow bits = true ↔ 1 ≤ bits ∧ bits < 64 := by
  rw [isNarrow, Bool.and_eq_true, decide_eq_true_eq, decide_eq_true_eq]

theorem toInt_signWord (hpos : 1 ≤ bits) (hbits : bits < 64) :
    (signWord bits).toInt = 2 ^ (bits - 1) := by
  rw [signWord]
  change ((1#64) <<< (bits - 1)).toInt = _
  rw [← BitVec.twoPow_eq, BitVec.toInt_twoPow, if_neg (by omega), if_neg (by omega)]

theorem toNat_carryWord (hbits : bits < 64) : (carryWord bits).toNat = 2 ^ bits := by
  rw [carryWord]
  change ((1#64) <<< bits).toNat = _
  rw [← BitVec.twoPow_eq, BitVec.toNat_twoPow]
  exact Nat.mod_eq_of_lt (Nat.pow_lt_pow_right (by decide) hbits)

/-- The steps in which limits are computed: each of them has the result that it has for integers of
    any size. -/
structure LimitsExact (bits : Nat) : Prop where
  size : 1 ≤ bits
  sign_shift : bits - 1 < 64
  sign : (signWord bits).toInt = 2 ^ (bits - 1)
  least : (signWord bits).negOverflow = false
  greatest : (signWord bits).ssubOverflow 1 = false
  carry_shift : bits < 64
  carry : (carryWord bits).toNat = 2 ^ bits
  unsigned : (carryWord bits).usubOverflow 1 = false

theorem two_pow_le_word (hbits : bits ≤ 64) : (2 : Int) ^ (bits - 1) ≤ 2 ^ 63 :=
  pow_le_pow_right₀ (by decide) (by omega)

theorem limitsExact (hpos : 1 ≤ bits) (hbits : bits < 64) : LimitsExact bits := by
  have hsign := toInt_signWord hpos hbits
  have hcarry := toNat_carryWord hbits
  have hone : 0 < (2 : Int) ^ (bits - 1) := by positivity
  have hword := two_pow_le_word (Nat.le_of_lt hbits)
  refine ⟨hpos, by omega, hsign, ?_, ?_, hbits, hcarry, ?_⟩
  · rw [BitVec.negOverflow, hsign, beq_eq_false_iff_ne]
    omega
  · have hunit : (1 : BitVec 64).toInt = 1 := by decide
    rw [BitVec.ssubOverflow, hsign, hunit, Bool.or_eq_false_iff, decide_eq_false_iff_not,
      decide_eq_false_iff_not]
    omega
  · have hunit : (1 : BitVec 64).toNat = 1 := by decide
    rw [BitVec.usubOverflow, hcarry, hunit, decide_eq_false_iff_not, Nat.not_lt]
    exact Nat.one_le_two_pow

theorem toInt_intLimits (hpos : 1 ≤ bits) (hbits : bits < 64) :
    (intLimits bits).1.toInt = -2 ^ (bits - 1) ∧
      (intLimits bits).2.toInt = 2 ^ (bits - 1) - 1 := by
  have hexact := limitsExact hpos hbits
  constructor
  · rw [intLimits, BitVec.toInt_neg_of_not_negOverflow (Bool.eq_false_iff.1 hexact.least),
      hexact.sign]
  · rw [intLimits, BitVec.toInt_sub_of_not_ssubOverflow (Bool.eq_false_iff.1 hexact.greatest),
      hexact.sign]
    rfl

theorem toNat_uintLimit (hpos : 1 ≤ bits) (hbits : bits < 64) :
    (uintLimit bits).toNat = 2 ^ bits - 1 := by
  have hexact := limitsExact hpos hbits
  rw [uintLimit, BitVec.toNat_sub_of_not_usubOverflow (Bool.eq_false_iff.1 hexact.unsigned),
    hexact.carry]
  rfl

/-! ## What is read -/

/-- A limit that is left out for a number of bits is that of all words. -/
theorem filter_narrow_iff {α : Type} {o : Option α} {exceeds : α → Bool} {fits : Prop} {a : α}
    (h : 1 ≤ bits → bits < 64 → (exceeds a = true ↔ ¬ fits)) :
    (o.filter fun a => !(isNarrow bits && exceeds a)) = some a ↔
      o = some a ∧ (1 ≤ bits → bits < 64 → fits) := by
  rw [Option.filter_eq_some_iff, and_congr_right_iff]
  intro _
  by_cases hnarrow : 1 ≤ bits ∧ bits < 64
  · have hfits := h hnarrow.1 hnarrow.2
    simp [isNarrow_iff.2 hnarrow, hnarrow, Bool.eq_false_iff, hfits]
  · have hwide : isNarrow bits = false := by
      rw [Bool.eq_false_iff, Ne, isNarrow_iff]
      exact hnarrow
    simp only [hwide, Bool.false_and, Bool.not_false, true_iff]
    exact fun hpos hbits => absurd ⟨hpos, hbits⟩ hnarrow

/-- An integer is read if it is one of 64 bits, and of the narrower size that is asked for. -/
theorem int_eq_ok_iff {v : Int} :
    p.int key bits = .ok v ↔
      ∃ raw, p.last? key = some raw ∧ readSigned? 64 raw = some v ∧
        (1 ≤ bits → bits < 64 → -2 ^ (bits - 1) ≤ v ∧ v ≤ 2 ^ (bits - 1) - 1) := by
  rw [int, read_eq_ok_iff]
  refine exists_congr fun raw => and_congr_right fun _ => filter_narrow_iff fun hpos hbits => ?_
  obtain ⟨hleast, hgreatest⟩ := toInt_intLimits hpos hbits
  rw [Bool.or_eq_true, decide_eq_true_eq, decide_eq_true_eq, hleast, hgreatest]
  omega

theorem uint_eq_ok_iff {v : Nat} :
    p.uint key bits = .ok v ↔
      ∃ raw, p.last? key = some raw ∧ readUnsigned? 64 raw = some v ∧
        (1 ≤ bits → bits < 64 → v ≤ 2 ^ bits - 1) := by
  rw [uint, read_eq_ok_iff]
  refine exists_congr fun raw => and_congr_right fun _ => filter_narrow_iff fun hpos hbits => ?_
  rw [decide_eq_true_eq, toNat_uintLimit hpos hbits, Nat.not_le]

/-- Reading 64 bits and comparing is reading the bits that are asked for. -/
theorem int_eq_ok_iff_readSigned? {v : Int} (hpos : 1 ≤ bits) (hbits : bits ≤ 64) :
    p.int key bits = .ok v ↔ ∃ raw, p.last? key = some raw ∧ readSigned? bits raw = some v := by
  rw [int_eq_ok_iff]
  refine exists_congr fun raw => and_congr_right fun _ => ?_
  rw [readSigned?_eq_some_iff, readSigned?_eq_some_iff, and_assoc, and_congr_right_iff]
  intro _
  have hword := two_pow_le_word hbits
  constructor
  · rintro ⟨hrange, hnarrow⟩
    rcases Nat.lt_or_ge bits 64 with hlt | hge
    · exact hnarrow hpos hlt
    · obtain rfl : bits = 64 := Nat.le_antisymm hbits hge
      exact hrange
  · intro hrange
    exact ⟨by omega, fun _ _ => hrange⟩

theorem uint_eq_ok_iff_readUnsigned? {v : Nat} (hpos : 1 ≤ bits) (hbits : bits ≤ 64) :
    p.uint key bits = .ok v ↔ ∃ raw, p.last? key = some raw ∧ readUnsigned? bits raw = some v := by
  rw [uint_eq_ok_iff]
  refine exists_congr fun raw => and_congr_right fun _ => ?_
  rw [readUnsigned?_eq_some_iff, readUnsigned?_eq_some_iff, and_assoc, and_congr_right_iff]
  intro _
  have hword : 2 ^ bits ≤ 2 ^ 64 := Nat.pow_le_pow_right (by decide) hbits
  have hone : 1 ≤ 2 ^ bits := Nat.one_le_two_pow
  constructor
  · rintro ⟨hrange, hnarrow⟩
    rcases Nat.lt_or_ge bits 64 with hlt | hge
    · have := hnarrow hpos hlt
      omega
    · obtain rfl : bits = 64 := Nat.le_antisymm hbits hge
      exact hrange
  · intro hrange
    exact ⟨by omega, fun _ _ => by omega⟩

/-! ## Readers and fields -/

/-- The reader of single values for a scalar type. -/
def scalar (p : Params) (key : String) : ScalarType → Except ParamError Scalar
  | .bool => (p.bool key).map .bool
  | .signed bits => (p.int key bits).map .int
  | .unsigned bits => (p.uint key bits).map .uint
  | .single => (p.float key 32).map .float
  | .double => (p.float key 64).map .float
  | .text => (p.string key).map .text

end Params

/-- A type whose integers, if it has any, have 1 to 64 bits. -/
def ScalarType.FitsWord : ScalarType → Prop
  | .signed bits | .unsigned bits => 1 ≤ bits ∧ bits ≤ 64
  | _ => True

namespace Params

variable {p : Params} {key raw : String} {t : ScalarType} {v : Scalar}

theorem string_eq_ok_iff : p.string key = .ok raw ↔ p.last? key = some raw := by
  rw [string, ← last?]
  cases p.last? key <;> simp

/-- A value is read from the last text with a constructor as it is without. -/
theorem map_eq_ok_iff_last {α : Type} {x : Except ParamError α} {f : String → Option α}
    {c : α → Scalar} (h : ∀ a, x = .ok a ↔ ∃ raw, p.last? key = some raw ∧ f raw = some a) :
    x.map c = .ok v ↔ ∃ raw, p.last? key = some raw ∧ (f raw).map c = some v := by
  simp only [Except.map_eq_ok_iff, h, Option.map_eq_some_iff]
  constructor
  · rintro ⟨a, ⟨raw, hraw, ha⟩, rfl⟩
    exact ⟨raw, hraw, a, ha, rfl⟩
  · rintro ⟨raw, hraw, a, ha, rfl⟩
    exact ⟨a, ⟨raw, hraw, ha⟩, rfl⟩

/-- The reader for a type finds the value that binding finds in the last text. -/
theorem scalar_eq_ok_iff (ht : t.FitsWord) :
    p.scalar key t = .ok v ↔ ∃ raw, p.last? key = some raw ∧ t.read? raw = some v := by
  cases t with
  | bool => exact map_eq_ok_iff_last fun _ => read_eq_ok_iff
  | signed bits => exact map_eq_ok_iff_last fun _ => int_eq_ok_iff_readSigned? ht.1 ht.2
  | unsigned bits => exact map_eq_ok_iff_last fun _ => uint_eq_ok_iff_readUnsigned? ht.1 ht.2
  | single => exact map_eq_ok_iff_last fun _ => read_eq_ok_iff
  | double => exact map_eq_ok_iff_last fun _ => read_eq_ok_iff
  | text =>
    refine map_eq_ok_iff_last (f := some) fun _ => ?_
    simp [string_eq_ok_iff]

/-- A key supplied once gives a field of a single value what the reader for its type gives. -/
theorem bindScalar_once {arity : Arity} {d : Datum} (ht : t.FitsWord)
    (hraw : p.valuesOf? key = some [raw]) (harity : arity ≠ .many) :
    bindScalar t arity p key = .ok d ↔ ∃ v, p.scalar key t = .ok v ∧ d = .scalar v := by
  have hlast : p.last? key = some raw := by rw [last?, hraw]; rfl
  rw [bindScalar_single_eq_ok_iff harity hraw]
  simp only [scalar_eq_ok_iff ht, hlast]
  constructor
  · rintro ⟨_, v, ⟨⟩, hv, rfl⟩
    exact ⟨v, ⟨raw, rfl, hv⟩, rfl⟩
  · rintro ⟨v, ⟨_, ⟨⟩, hv⟩, rfl⟩
    exact ⟨raw, v, rfl, hv, rfl⟩

/-- A key supplied more than once is refused by a field of a single value. -/
theorem bindScalar_several {arity : Arity} {raws : List String}
    (hraws : p.valuesOf? key = some raws) (hlength : 1 < raws.length) (harity : arity ≠ .many) :
    bindScalar t arity p key = .error .notAList := by
  rw [bindScalar_of_ne_many harity hraws, if_pos hlength]

/-- A list takes all values of a key, the last of them what the reader for its type gives. -/
theorem bindScalar_many {raws : List String} {d : Datum} (ht : t.FitsWord)
    (hraws : p.valuesOf? key = some raws) (hne : raws ≠ [])
    (h : bindScalar t .many p key = .ok d) :
    ∃ vs, List.Forall₂ (fun raw v => t.read? raw = some v) raws vs ∧ d = .list (vs.map .scalar) ∧
      ∃ v, vs.getLast? = some v ∧ p.scalar key t = .ok v := by
  obtain ⟨vs, hvs, rfl⟩ := (bindScalar_many_eq_ok_iff hraws).1 h
  obtain ⟨raw, v, hraw, hv, hread⟩ := getLast?_of_forall₂ hvs hne
  refine ⟨vs, hvs, rfl, v, hv, (scalar_eq_ok_iff ht).2 ⟨raw, ?_, hread⟩⟩
  rw [last?, hraws, Option.bind_some, hraw]

/-- A list takes the values of a key if each of them can be read. -/
theorem exists_bindScalar_many_iff {raws : List String} (hraws : p.valuesOf? key = some raws) :
    (∃ d, bindScalar t .many p key = .ok d) ↔ ∀ raw ∈ raws, ∃ v, t.read? raw = some v := by
  simp only [bindScalar_many_eq_ok_iff hraws]
  rw [← exists_forall₂_iff]
  constructor
  · rintro ⟨_, vs, hvs, -⟩
    exact ⟨vs, hvs⟩
  · rintro ⟨vs, hvs⟩
    exact ⟨_, vs, hvs, rfl⟩

/-- Typed readers and fields agree.  A reader of integers of some number of bits accepts just the
    texts of integers in their range, and no step in computing the limits of the range overflows.
    A key supplied once gives a field the value that the reader for its type gives.  A key supplied
    more than once is refused by fields of a single value, and gives a list all of its values, the
    last of them the one that the reader gives. -/
theorem readers_agree_with_binding (p : Params) (key : String) :
    (∀ bits v, p.int key bits = .ok v ↔
      ∃ raw, p.last? key = some raw ∧ IntegerText raw.toList v ∧ -2 ^ 63 ≤ v ∧ v ≤ 2 ^ 63 - 1 ∧
        (1 ≤ bits → bits ≤ 63 → -2 ^ (bits - 1) ≤ v ∧ v ≤ 2 ^ (bits - 1) - 1)) ∧
    (∀ bits v, p.uint key bits = .ok v ↔
      ∃ raw, p.last? key = some raw ∧ NaturalText raw.toList v ∧ v ≤ 2 ^ 64 - 1 ∧
        (1 ≤ bits → bits ≤ 63 → v ≤ 2 ^ bits - 1)) ∧
    (∀ bits, 1 ≤ bits → bits ≤ 63 → LimitsExact bits) ∧
    (∀ t : ScalarType, t.FitsWord →
      (∀ raw, p.valuesOf? key = some [raw] → ∀ arity, arity ≠ .many →
        ∀ d, bindScalar t arity p key = .ok d ↔ ∃ v, p.scalar key t = .ok v ∧ d = .scalar v) ∧
      ∀ raws, p.valuesOf? key = some raws → 1 < raws.length →
        (∀ arity, arity ≠ .many → bindScalar t arity p key = .error .notAList) ∧
        ((∃ d, bindScalar t .many p key = .ok d) ↔ ∀ raw ∈ raws, ∃ v, t.read? raw = some v) ∧
        ∀ d, bindScalar t .many p key = .ok d →
          ∃ vs, List.Forall₂ (fun raw v => t.read? raw = some v) raws vs ∧
            d = .list (vs.map .scalar) ∧ ∃ v, vs.getLast? = some v ∧ p.scalar key t = .ok v) := by
  refine ⟨fun bits v => ?_, fun bits v => ?_, fun bits hpos hbits => ?_, fun t ht => ⟨?_, ?_⟩⟩
  · simp only [int_eq_ok_iff, readSigned?_eq_some_iff, and_assoc, Nat.lt_succ_iff]
  · have hword : 0 < 2 ^ 64 := by decide
    simp only [uint_eq_ok_iff, readUnsigned?_eq_some_iff, and_assoc, Nat.lt_succ_iff,
      Nat.le_sub_one_iff_lt hword]
  · exact limitsExact hpos (Nat.lt_succ_of_le hbits)
  · intro raw hraw arity harity d
    exact bindScalar_once ht hraw harity
  · intro raws hraws hlength
    have hne : raws ≠ [] := List.ne_nil_of_length_pos (by omega)
    exact ⟨fun arity harity => bindScalar_several hraws hlength harity,
      exists_bindScalar_many_iff hraws, fun d h => bindScalar_many ht hraws hne h⟩

/-- A sign and zeros in front do not matter, and both ends of a range belong to it. -/
theorem readers_agree_with_binding_bytes :
    ∃ p : Params, p = ofPairs [("n", "+007"), ("t", "127"), ("t", "-128")] ∧
      LimitsExact 8 ∧
      bindScalar (.signed 8) .optional p "n" = .ok (.scalar (.int 7)) ∧
      bindScalar (.signed 8) .one p "t" = .error .notAList ∧
      bindScalar (.signed 8) .many p "t" = .ok (.list [.scalar (.int 127), .scalar (.int (-128))]) ∧
      (∃ v, p.scalar "t" (.signed 8) = .ok v) ∧ p.int "t" 8 = .ok (-128) := by
  refine ⟨_, rfl, ?_⟩
  have hagree := readers_agree_with_binding (ofPairs [("n", "+007"), ("t", "127"), ("t", "-128")])
  have hbyte : (ScalarType.signed 8).FitsWord := ⟨by decide, by decide⟩
  obtain ⟨honce, -⟩ := (hagree "n").2.2.2 _ hbyte
  obtain ⟨hsingle, -, hlist⟩ := ((hagree "t").2.2.2 _ hbyte).2 ["127", "-128"] rfl (by decide)
  have hsome : bindScalar (.signed 8) .many
      (ofPairs [("n", "+007"), ("t", "127"), ("t", "-128")]) "t" =
        .ok (.list [.scalar (.int 127), .scalar (.int (-128))]) := rfl
  obtain ⟨_, -, -, v, -, hlast⟩ := hlist _ hsome
  have hdigits : DigitsFor ['1', '2', '8'] 128 := ⟨by simp, by simp, rfl⟩
  have htext : IntegerText "-128".toList (-128) := .minus hdigits
  refine ⟨(hagree "n").2.2.1 8 (by decide) (by decide),
    (honce "+007" rfl .optional (by decide) _).2 ⟨_, rfl, rfl⟩, hsingle .one (by decide), hsome,
    ⟨v, hlast⟩, ?_⟩
  refine ((hagree "t").1 8 (-128)).2 ⟨"-128", rfl, htext, ?_⟩
  norm_num

end Params

end Endpoint
