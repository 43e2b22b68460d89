import Endpoint.Error.Basic
import Mathlib.Data.List.Nodup

/-!
# Predefined errors by code

Each code of a catalogue has one definition, and the error that is found for a code is the one
that its definition gives.
-/

namespace Endpoint

namespace Catalogue

variable {c : Catalogue} {code : String} {e : ServiceError}

theorem definitions_of_ofDefinitions {ds : List ErrorDefinition} (h : ofDefinitions ds = .ok c) :
    c.definitions = ds := by
  unfold ofDefinitions at h
  split at h
  · exact congrArg definitions (Except.ok.inj h).symm
  · cases h

/-- Definitions of one code are the same. -/
theorem eq_of_code_eq {d d' : ErrorDefinition} (hd : d ∈ c.definitions) (hd' : d' ∈ c.definitions)
    (hcode : d.code = d'.code) : d = d' :=
  List.inj_on_of_nodup_map c.nodup hd hd' hcode

theorem find?_eq_some_iff :
    c.find? code = some e ↔ ∃ d ∈ c.definitions, d.code = code ∧ e = d.toError := by
  rw [find?, Option.map_eq_some_iff]
  constructor
  · rintro ⟨d, hfound, rfl⟩
    have hcode := List.find?_some hfound
    exact ⟨d, List.mem_of_find?_eq_some hfound, by simpa using hcode, rfl⟩
  · rintro ⟨d, hd, rfl, rfl⟩
    cases hfound : c.definitions.find? fun d' => d'.code == d.code with
    | none => simpa using List.find?_eq_none.1 hfound d hd
    | some d' =>
      have hcode := List.find?_some hfound
      have hsame : d' = d :=
        eq_of_code_eq (List.mem_of_find?_eq_some hfound) hd (by simpa using hcode)
      exact ⟨d', rfl, congrArg ErrorDefinition.toError hsame⟩

theorem find?_eq_none_iff : c.find? code = none ↔ ∀ d ∈ c.definitions, d.code ≠ code := by
  rw [find?, Option.map_eq_none_iff, List.find?_eq_none]
  simp

end Catalogue

end Endpoint
