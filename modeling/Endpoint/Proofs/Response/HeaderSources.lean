import Endpoint.Proofs.Response.Abnormal
import Mathlib

/-!
# Where the headers of a response come from

A name has in a response the value that its own headers give to it, else that of the common
headers, else that of the defaults; among several spellings of a name in one of them the last one
counts.  A sink rejects headers for their names or values, and each that it rejects is logged.
-/

namespace Endpoint

/-! ## Names in any case -/

namespace Header

theorem isTokenChar_toLower (c : Char) : isTokenChar c.toLower = isTokenChar c := by
  by_cases h : c.isUpper = true
  · have halpha : c.isAlpha = true := by simp [Char.isAlpha, h]
    simp [isTokenChar, Char.isAlphanum, halpha]
  · rw [Char.toLower_eq_of_not_isUpper h]

/-- Whether a text is a header name does not depend on the case of its letters. -/
theorem isName_asciiLower (s : String) : isName (asciiLower s) = isName s := by
  have hall : (s.toList.map Char.toLower).all isTokenChar = s.toList.all isTokenChar := by
    rw [List.all_map]
    exact congrArg s.toList.all (funext isTokenChar_toLower)
  have hlength : (asciiLower s).length = s.length := by simp [asciiLower, String.length_toList]
  have hempty : (asciiLower s).isEmpty = s.isEmpty := by
    rw [Bool.eq_iff_iff, String.isEmpty_iff, String.isEmpty_iff, asciiLower,
      ← String.toList_eq_nil_iff, String.toList_ofList, List.map_eq_nil_iff,
      String.toList_eq_nil_iff]
  rw [isName, isName, hlength, hempty, asciiLower, String.toList_ofList, hall]

end Header

/-- The value that headers give to a name in lower case: the last one under any spelling. -/
def headerOf? (name : String) (headers : Entries String) : Option String :=
  Entries.get? name (headers.map fun header => (asciiLower header.1, header.2)).reverse

variable {name value : String} {filed headers response defaults : Entries String}
  {common : Option (Entries String)}

theorem mem_of_headerOf? (h : headerOf? name headers = some value) :
    ∃ header ∈ headers, asciiLower header.1 = name ∧ header.2 = value := by
  have hmem := List.mem_reverse.1 (Entries.mem_of_get? h)
  obtain ⟨header, hheader, heq⟩ := List.mem_map.1 hmem
  obtain ⟨hname, hvalue⟩ := Prod.mk.inj heq
  exact ⟨header, hheader, hname, hvalue⟩

theorem headerOf?_append (name : String) (headers others : Entries String) :
    headerOf? name (headers ++ others) = (headerOf? name others <|> headerOf? name headers) := by
  rw [headerOf?, List.map_append, List.reverse_append, Entries.get?_append]
  rfl

theorem headerOf?_cons (name : String) (header : String × String) (headers : Entries String) :
    headerOf? name (header :: headers) =
      (headerOf? name headers <|> if asciiLower header.1 = name then some header.2 else none) := by
  rw [← List.singleton_append, headerOf?_append]
  rfl

theorem headerOf?_eq_none_iff :
    headerOf? name headers = none ↔ ∀ header ∈ headers, asciiLower header.1 ≠ name := by
  induction headers with
  | nil => exact iff_of_true rfl fun header hheader => absurd hheader List.not_mem_nil
  | cons header rest ih =>
    rw [headerOf?_cons, List.forall_mem_cons, ← ih]
    cases headerOf? name rest <;> simp

theorem get?_fileHeaders (name : String) (filed headers : Entries String) :
    Entries.get? name (fileHeaders filed headers) =
      (headerOf? name headers <|> Entries.get? name filed) := by
  rw [headerOf?, ← Entries.get?_foldl_insert, List.foldl_map]
  rfl

/-- Of the three sources of a header the first that has it counts. -/
theorem get?_mergeHeaders (name : String) (response : Entries String)
    (common : Option (Entries String)) (defaults : Entries String) :
    Entries.get? name (mergeHeaders response common defaults) =
      (headerOf? name response <|> (headerOf? name (common.getD []) <|>
        headerOf? name defaults)) := by
  rw [mergeHeaders, get?_fileHeaders, get?_fileHeaders, get?_fileHeaders]
  cases headerOf? name defaults <;> rfl

/-- A merged header that neither the response nor the common headers set is a default header. -/
theorem exists_default_of_merged
    (h : Entries.get? name (mergeHeaders response common defaults) = some value)
    (hresponse : headerOf? name response = none)
    (hcommon : headerOf? name (common.getD []) = none) :
    ∃ header ∈ defaults, asciiLower header.1 = name ∧ header.2 = value := by
  rw [get?_mergeHeaders, hresponse, hcommon] at h
  exact mem_of_headerOf? h

/-- Headers in order under names in lower case give to a name what they have for it. -/
theorem headerOf?_of_sorted (hsorted : headers.Sorted) (hlower : LowerNames headers) :
    headerOf? name headers = Entries.get? name headers := by
  have hfiled := get?_fileHeaders name [] headers
  rw [fileHeaders_nil_eq hsorted hlower] at hfiled
  rw [hfiled]
  cases headerOf? name headers <;> rfl

/-- The content type is set beside the headers that are there. -/
theorem get?_withContentType (h : Entries.get? name headers = some value) :
    Entries.get? name (withContentType headers) = some value := by
  rw [withContentType]
  split
  · exact h
  · rename_i hnone
    have hne : "content-type" ≠ name := by
      rintro rfl
      exact hnone (Option.isSome_of_eq_some h)
    rw [Entries.get?_insert, if_neg hne, h]

/-! ## Spellings -/

/-- Of the spellings of a name that have a value the one that comes last, with its value. -/
structure LastSpelling (given : String → Option String) (name spelling value : String) : Prop where
  spells : asciiLower spelling = name
  gives : given spelling = some value
  last : ∀ other, asciiLower other = name → given other ≠ none → other ≤ spelling

section Spelling

variable {name spelling value : String} {headers : Entries String}

theorem LastSpelling.value_unique {given : String → Option String} {spelling' value' : String}
    (h : LastSpelling given name spelling value)
    (h' : LastSpelling given name spelling' value') : value = value' := by
  have hle : spelling ≤ spelling' := h'.last spelling h.spells (by simp [h.gives])
  have hge : spelling' ≤ spelling := h.last spelling' h'.spells (by simp [h'.gives])
  obtain rfl := String.le_antisymm hle hge
  exact Option.some.inj (h.gives.symm.trans h'.gives)

/-- In headers in order the value of a name is that of its last spelling. -/
theorem lastSpelling_of_headerOf? (hsorted : headers.Sorted)
    (h : headerOf? name headers = some value) :
    ∃ spelling, LastSpelling (Entries.get? · headers) name spelling value := by
  induction headers with
  | nil => cases h
  | cons header rest ih =>
    obtain ⟨k, v⟩ := header
    obtain ⟨hk, hrest⟩ := List.pairwise_cons.1 hsorted
    have hget (other : String) (hne : k ≠ other) :
        Entries.get? other ((k, v) :: rest) = Entries.get? other rest := if_neg hne
    rw [headerOf?_cons] at h
    cases hlater : headerOf? name rest with
    | some value' =>
      rw [hlater] at h
      obtain rfl : value' = value := Option.some.inj h
      obtain ⟨spelling, hspells, hgiven, hlast⟩ := ih hrest hlater
      have hbelow : k < spelling := hk _ (Entries.mem_of_get? hgiven)
      refine ⟨spelling, hspells, ?_, fun other hother hne => ?_⟩
      · exact (hget spelling hbelow.ne).trans hgiven
      · by_cases hsame : k = other
        · exact hsame ▸ hbelow.le
        · exact hlast other hother (hget other hsame ▸ hne)
    | none =>
      rw [hlater] at h
      split at h
      · rename_i hspells
        obtain rfl : v = value := Option.some.inj h
        refine ⟨k, hspells, if_pos rfl, fun other hother hne => ?_⟩
        by_cases hsame : k = other
        · exact hsame ▸ String.le_refl k
        · -- Any other spelling would stand in the rest.
          obtain ⟨v', hv'⟩ := Option.ne_none_iff_exists'.1 (hget other hsame ▸ hne)
          exact absurd hother (headerOf?_eq_none_iff.1 hlater _ (Entries.mem_of_get? hv'))
      · cases h

theorem headerOf?_of_lastSpelling (hsorted : headers.Sorted)
    (h : LastSpelling (Entries.get? · headers) name spelling value) :
    headerOf? name headers = some value := by
  cases hvalue : headerOf? name headers with
  | none =>
    exact absurd h.spells (headerOf?_eq_none_iff.1 hvalue _ (Entries.mem_of_get? h.gives))
  | some value' =>
    obtain ⟨spelling', h'⟩ := lastSpelling_of_headerOf? hsorted hvalue
    rw [h.value_unique h']

/-- A name that has a value under some spelling has a last spelling. -/
theorem exists_lastSpelling (hsorted : headers.Sorted) (hspells : asciiLower spelling = name)
    (h : Entries.get? spelling headers ≠ none) :
    ∃ spelling value, LastSpelling (Entries.get? · headers) name spelling value := by
  cases hvalue : headerOf? name headers with
  | none =>
    obtain ⟨v, hv⟩ := Option.ne_none_iff_exists'.1 h
    exact absurd hspells (headerOf?_eq_none_iff.1 hvalue _ (Entries.mem_of_get? hv))
  | some value =>
    obtain ⟨spelling', h'⟩ := lastSpelling_of_headerOf? hsorted hvalue
    exact ⟨spelling', value, h'⟩

end Spelling

/-! ## What the sink holds and the log tells -/

namespace RenderingWriter

variable {w : RenderingWriter} {context : RequestContext} {state : ProcessState}
  {outcome : Outcome} {sink : Sink} {layout : Json.Layout} {built : Option (Entries String)}

/-- The headers that a writer merges for an outcome, with the common headers that were built. -/
def mergedFor (w : RenderingWriter) (state : ProcessState) (outcome : Outcome)
    (built : Option (Entries String)) : Entries String :=
  mergeHeaders (w.responseFor state outcome).headers built w.defaultHeaders

/-- An unused sink holds the valid ones of the merged headers, and maybe a content type. -/
theorem headers_write (outcome : Outcome) (hjson : w.marshal = writeJson layout)
    (hunsent : state.sink.dataSent = false) (hbuilt : w.common context state = .ok built) :
    let filed :=
      fileHeaders state.sink.headers (validHeaders (w.mergedFor state outcome built))
    let sink := (w.write context state outcome).value.1
    sink.headers = filed ∨ sink.headers = withContentType filed := by
  intro filed sink
  rw [show sink = (w.write context state outcome).value.1 from rfl, write_value hunsent hbuilt]
  simp only [Logged.value_bind, render, setHeaders_value, hjson]
  split
  · exact .inl rfl
  · rw [Logged.value_pure, writeJson_eq]
    exact .inr rfl

/-- A merged header that is valid is set on a sink, whatever the sink held before. -/
theorem header?_setHeaders
    (hget : Entries.get? name (mergeHeaders response common defaults) = some value)
    (hvalid : (Header.isName name && Header.isValue value) = true) :
    (setHeaders (mergeHeaders response common defaults) sink).value.header? name = some value := by
  let merged := mergeHeaders response common defaults
  have hmem : (name, value) ∈ validHeaders merged :=
    List.mem_filter.2 ⟨Entries.mem_of_get? hget, hvalid⟩
  have hsorted : (validHeaders merged).Sorted := sorted_mergeHeaders.filter _
  have hlower : LowerNames (validHeaders merged) := fun header hheader =>
    lowerNames_mergeHeaders header (List.mem_filter.1 hheader).1
  have hfiled :
      Entries.get? name (fileHeaders sink.headers (validHeaders merged)) = some value := by
    rw [get?_fileHeaders, headerOf?_of_sorted hsorted hlower, Entries.get?_of_mem hsorted hmem]
    rfl
  rw [setHeaders_value, Sink.header?, show asciiLower name = name from hlower _ hmem]
  exact hfiled

/-- A merged header that is valid is written to an unused sink. -/
theorem header?_write (hjson : w.marshal = writeJson layout)
    (hunsent : state.sink.dataSent = false) (hbuilt : w.common context state = .ok built)
    (hget : Entries.get? name (w.mergedFor state outcome built) = some value)
    (hvalid : (Header.isName name && Header.isValue value) = true) :
    (w.write context state outcome).value.1.header? name = some value := by
  have hset : (setHeaders (w.mergedFor state outcome built) state.sink).value.header? name =
      some value := header?_setHeaders hget hvalid
  rw [setHeaders_value, Sink.header?] at hset
  rw [Sink.header?]
  rcases headers_write outcome hjson hunsent hbuilt with h | h
  · rw [h]
    exact hset
  · rw [h]
    exact get?_withContentType hset

/-- What is logged of a header that a sink rejects. -/
def skipping (name : String) : LogEntry :=
  .event ⟨.warn, logTarget, "Skipping invalid response header", [("header", .text name)]⟩

theorem of_skipping_mem_setHeaders (h : skipping name ∈ (setHeaders headers sink).log) :
    ∃ value, (name, value) ∈ headers ∧ (Header.isName name && Header.isValue value) = false := by
  induction headers generalizing sink with
  | nil => cases h
  | cons header rest ih =>
    obtain ⟨n, v⟩ := header
    rw [setHeaders, Sink.setHeader] at h
    by_cases hvalid : (Header.isName n && Header.isValue v) = true
    · rw [if_pos hvalid] at h
      obtain ⟨value, hmem, hinvalid⟩ := ih h
      exact ⟨value, List.mem_cons_of_mem _ hmem, hinvalid⟩
    · rw [if_neg hvalid] at h
      rcases List.mem_append.1 h with h | h
      · have heq : skipping name = skipping n := List.mem_singleton.1 h
        have hname : name = n := by simpa [skipping] using heq
        exact ⟨v, hname ▸ List.mem_cons_self, hname ▸ Bool.eq_false_iff.2 hvalid⟩
      · obtain ⟨value, hmem, hinvalid⟩ := ih h
        exact ⟨value, List.mem_cons_of_mem _ hmem, hinvalid⟩

/-- Concealing errors logs errors only. -/
theorem skipping_notMem_conceal (w : RenderingWriter) (context : RequestContext)
    (r : ErrorRecord) : skipping name ∉ (w.conceal context r).log := by
  have hall : ∀ (general : String) (errors : List ServiceError),
      skipping name ∉ (concealErrors general context errors).log := by
    intro general errors
    induction errors with
    | nil => exact List.not_mem_nil
    | cons e rest ih =>
      simp only [concealErrors, Logged.log_bind, Logged.log_pure, List.append_nil, List.mem_append,
        not_or]
      refine ⟨?_, ih⟩
      rw [concealError]
      split <;> simp [skipping, Logged.event]
  simpa only [conceal, Logged.log_bind, Logged.log_pure, List.append_nil] using hall _ _

theorem skipping_notMem_determineStatus (r : Response) :
    skipping name ∉ r.determineStatus.log := by
  have hcode (code : String) : skipping name ∉ (Status.ofErrorCode code).log := by
    rw [Status.ofErrorCode]
    split <;> simp [skipping, logTarget, Logged.event]
  rw [Response.determineStatus]
  split
  · exact List.not_mem_nil
  · exact List.not_mem_nil
  · split
    · rw [ErrorRecord.statusOfError]
      split
      · exact List.not_mem_nil
      · exact hcode _
      all_goals exact List.not_mem_nil
    · exact List.not_mem_nil

/-- A header that is skipped is a merged header whose name or value is invalid. -/
theorem of_skipping_mem_write (hstatus : w.statusOf = Response.determineStatus)
    (h : skipping name ∈ (w.write context state outcome).log) :
    ∃ built value, w.common context state = .ok built ∧
      (name, value) ∈ w.mergedFor state outcome built ∧
      (Header.isName name && Header.isValue value) = false := by
  rw [write] at h
  split at h
  · simp [skipping, Logged.event] at h
  split at h
  · cases h
  · rename_i built hbuilt
    simp only [render, hstatus, Logged.log_bind, List.mem_append] at h
    rcases h with (h | h | h | h) | h
    · obtain ⟨value, hmem, hinvalid⟩ := of_skipping_mem_setHeaders h
      exact ⟨built, value, hbuilt, hmem, hinvalid⟩
    · exact absurd h (skipping_notMem_determineStatus _)
    · exact absurd h (skipping_notMem_conceal w context _)
    · split at h <;> cases h
    · simp [skipping, Logged.event] at h

end RenderingWriter

end Endpoint
