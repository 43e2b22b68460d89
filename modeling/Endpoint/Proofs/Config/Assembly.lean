import Endpoint.Proofs.Config.Facility
import Endpoint.Proofs.Error.Catalogue
import Endpoint.Proofs.Response.HeaderSources
import Mathlib

/-!
# What is configured is what is used

The checks of a configuration decide whether a facility can be made: the steps that come after them
find nothing more to refuse.  A facility that is made has the errors, the wordings and the default
headers of its configuration, and its writer never drops one of these headers.
-/

namespace Endpoint

/-! ## The checks and the steps after them -/

theorem checkHeaders_eq_ok_iff {headers : Entries String} :
    checkHeaders headers = .ok () ↔
      ∀ header ∈ headers, (Header.isName header.1 && Header.isValue header.2) = true := by
  induction headers with
  | nil => exact iff_of_true rfl fun header hheader => by cases hheader
  | cons header rest ih =>
    obtain ⟨name, value⟩ := header
    rw [checkHeaders, List.forall_mem_cons, ← ih]
    cases Header.isName name <;> cases Header.isValue value <;> simp

variable {c : Configuration} {f : Facility}

theorem Configuration.checkHeaders_of_validate (h : c.validate = .ok ()) :
    checkHeaders c.writer.defaultHeaders = .ok () := by
  unfold validate at h
  obtain ⟨_, hheaders, -⟩ := Except.bind_eq_ok_iff.1 h
  exact hheaders

namespace Facility

theorem value_ofConfiguration (c : Configuration) :
    (ofConfiguration c).value = c.validate.bind fun _ => assemble c := by
  rw [ofConfiguration]
  split
  · rename_i h
    exact h.symm
  · rename_i h
    exact h.symm

theorem value_of_validate (h : c.validate = .ok ()) :
    (ofConfiguration c).value = assemble c := by
  rw [value_ofConfiguration, h]
  rfl

/-- Nothing is refused after the checks. -/
theorem exists_assemble (h : c.validate = .ok ()) : ∃ f, assemble c = .ok f := by
  obtain ⟨-, f, book, hf, -⟩ := exists_of_validate h
  exact ⟨f, value_of_validate h ▸ hf⟩

theorem value_eq_error_iff {e : ConfigError} :
    (ofConfiguration c).value = .error e ↔ c.validate = .error e := by
  cases h : c.validate with
  | ok u =>
    obtain ⟨f, hf⟩ := exists_assemble h
    rw [value_of_validate h, hf]
    simp
  | error e' =>
    rw [value_ofConfiguration, h]
    simp [Except.bind]

theorem exists_value_iff : (∃ f, (ofConfiguration c).value = .ok f) ↔ c.validate = .ok () := by
  constructor
  · rintro ⟨f, hf⟩
    cases h : c.validate with
    | ok u => rfl
    | error e =>
      rw [value_eq_error_iff.2 h] at hf
      cases hf
  · intro h
    rw [value_of_validate h]
    exact exists_assemble h

theorem validate_of_value (h : (ofConfiguration c).value = .ok f) : c.validate = .ok () :=
  exists_value_iff.1 ⟨f, h⟩

/-- The parts of a facility that is made. -/
theorem of_value (h : (ofConfiguration c).value = .ok f) :
    f.catalogue.definitions = c.serviceErrors ∧
      ∃ statuses, f.book = c.faults.book statuses ∧ f.writer = RenderingWriter.jsonWith f.book
        c.writer.wrapping c.writer.marshal.layout c.writer.defaultHeaders none := by
  rw [value_of_validate (validate_of_value h), assemble] at h
  split at h
  · cases h
  · rename_i catalogue hcatalogue
    obtain ⟨statuses, -, rfl⟩ := Except.map_eq_ok_iff.1 h
    exact ⟨Catalogue.definitions_of_ofDefinitions hcatalogue, statuses, rfl, rfl⟩

end Facility

/-! ## Wordings -/

namespace FaultSection

variable {s : FaultSection} {event : FaultEvent} {w : Wording}

/-- The wordings of a section stand before the built-in ones, the last one first. -/
theorem wordings_book (s : FaultSection) (statuses : List (Status × String)) :
    (s.book statuses).wordings = s.messages.reverse ++ MessageBook.builtin.wordings := by
  have hstatuses : ∀ (statuses : List (Status × String)) (b : MessageBook),
      (statuses.foldl (fun b status => b.withHttpMessage status.1 status.2) b).wordings =
        b.wordings := by
    intro statuses
    induction statuses with
    | nil => exact fun b => rfl
    | cons status rest ih => exact fun b => ih _
  have hmessages : ∀ (messages : List (FaultEvent × Wording)) (b : MessageBook),
      (messages.foldl (fun b message => b.withWording message.1 message.2) b).wordings =
        messages.reverse ++ b.wordings := by
    intro messages
    induction messages with
    | nil => exact fun b => rfl
    | cons message rest ih =>
      intro b
      rw [List.foldl_cons, ih, List.reverse_cons, List.append_assoc]
      rfl
  exact (hstatuses statuses _).trans (hmessages s.messages .builtin)

/-- A wording of the section is used. -/
theorem wording?_book_of_mem (hevents : (s.messages.map Prod.fst).Nodup)
    (h : (event, w) ∈ s.messages) (statuses : List (Status × String)) :
    (s.book statuses).wording? event = some w := by
  rw [MessageBook.wording?, wordings_book, List.find?_append]
  cases hfound : s.messages.reverse.find? fun m => m.1 == event with
  | none =>
    have hnone := List.find?_eq_none.1 hfound (event, w) (List.mem_reverse.2 h)
    exact absurd (beq_self_eq_true event) hnone
  | some m =>
    have hmem : m ∈ s.messages := List.mem_reverse.1 (List.mem_of_find?_eq_some hfound)
    have hevent := List.find?_some hfound
    obtain rfl : m = (event, w) :=
      List.inj_on_of_nodup_map hevents hmem h (eq_of_beq hevent)
    rfl

/-- An event without a wording in the section has the built-in one. -/
theorem wording?_book_of_notMem (h : ∀ w, (event, w) ∉ s.messages)
    (statuses : List (Status × String)) :
    (s.book statuses).wording? event = some (.builtin event) := by
  have hnone : s.messages.reverse.find? (fun m => m.1 == event) = none := by
    refine List.find?_eq_none.2 fun m hm heq => h m.2 ?_
    obtain rfl := eq_of_beq heq
    exact List.mem_reverse.1 hm
  rw [MessageBook.wording?, wordings_book, List.find?_append, hnone]
  cases event <;> rfl

end FaultSection

/-! ## Default headers -/

namespace Facility

/-- The writer of a facility with other common headers. -/
def writerWith (f : Facility)
    (common : Option (RequestContext → ProcessState → Entries String)) : RenderingWriter :=
  f.writer.withCommon common

/-- Neither the response nor the common headers give anything to a name. -/
structure LeavesToDefaults (f : Facility)
    (common : Option (RequestContext → ProcessState → Entries String)) (context : RequestContext)
    (state : ProcessState) (outcome : Outcome) (name : String) : Prop where
  response : headerOf? name ((f.writerWith common).responseFor state outcome).headers = none
  common : headerOf? name ((common.map fun build => build context state).getD []) = none

/-- Everything that is configured is what is used. -/
structure Uses (f : Facility) (c : Configuration) : Prop where
  /-- the predefined errors are those of the configuration -/
  errors : ∀ code e, f.catalogue.find? code = some e ↔
    ∃ d ∈ c.serviceErrors, d.code = code ∧ e = ⟨d.category, d.code, d.message, none⟩
  /-- an event is worded as configured -/
  wordings : ∀ event w, (event, w) ∈ c.faults.messages → ∀ args,
    f.book.messageAndCode event args = pure (Wording.fill w.template args, w.code)
  /-- any other event is worded as usual -/
  builtin : ∀ event, (∀ w, (event, w) ∉ c.faults.messages) → ∀ args,
    f.book.messageAndCode event args =
      pure (Wording.fill (Wording.builtin event).template args, (Wording.builtin event).code)
  /-- a default header that nothing else replaces is written and never skipped -/
  headers : ∀ common context state outcome name,
    f.LeavesToDefaults common context state outcome name →
    let written := (f.writerWith common).write context state outcome
    RenderingWriter.skipping name ∉ written.log ∧
      (state.sink.dataSent = false → ∀ value,
        headerOf? name c.writer.defaultHeaders = some value →
        written.value.1.header? name = some value)

variable {common : Option (RequestContext → ProcessState → Entries String)}
  {context : RequestContext} {state : ProcessState} {outcome : Outcome} {name value : String}

theorem writer_of_value (h : (ofConfiguration c).value = .ok f) :
    f.writer = f.writerWith none ∧ f.writer.defaultHeaders = c.writer.defaultHeaders ∧
      f.writer.statusOf = Response.determineStatus ∧
      f.writer.marshal = writeJson c.writer.marshal.layout := by
  obtain ⟨-, statuses, -, hwriter⟩ := of_value h
  rw [writerWith, hwriter]
  exact ⟨rfl, rfl, rfl, rfl⟩

namespace LeavesToDefaults

/-- A merged header that is left to the defaults is valid. -/
theorem valid (hleft : f.LeavesToDefaults common context state outcome name)
    (hmade : (ofConfiguration c).value = .ok f)
    (hget : Entries.get? name ((f.writerWith common).mergedFor state outcome
      (common.map fun build => build context state)) = some value) :
    (Header.isName name && Header.isValue value) = true := by
  obtain ⟨header, hheader, rfl, rfl⟩ := exists_default_of_merged hget hleft.response hleft.common
  have hdefault : header ∈ c.writer.defaultHeaders := (writer_of_value hmade).2.1 ▸ hheader
  have hchecked := Configuration.checkHeaders_of_validate (validate_of_value hmade)
  rw [Header.isName_asciiLower]
  exact checkHeaders_eq_ok_iff.1 hchecked header hdefault

/-- A header that is left to the defaults is written to an unused sink. -/
theorem header?_write (hleft : f.LeavesToDefaults common context state outcome name)
    (hmade : (ofConfiguration c).value = .ok f) (hunsent : state.sink.dataSent = false)
    (hdefault : headerOf? name c.writer.defaultHeaders = some value) :
    ((f.writerWith common).write context state outcome).value.1.header? name = some value := by
  obtain ⟨-, hdefaults, -, hjson⟩ := writer_of_value hmade
  have hget : Entries.get? name ((f.writerWith common).mergedFor state outcome
      (common.map fun build => build context state)) = some value := by
    rw [RenderingWriter.mergedFor, get?_mergeHeaders, hleft.response, hleft.common]
    rw [show (f.writerWith common).defaultHeaders = f.writer.defaultHeaders from rfl, hdefaults]
    exact hdefault
  exact RenderingWriter.header?_write hjson hunsent
    (f.writer.common_withCommon common context state) hget (hleft.valid hmade hget)

/-- A header that is left to the defaults is not skipped. -/
theorem skipping_notMem (hleft : f.LeavesToDefaults common context state outcome name)
    (hmade : (ofConfiguration c).value = .ok f) :
    RenderingWriter.skipping name ∉ ((f.writerWith common).write context state outcome).log := by
  obtain ⟨-, -, hstatus, -⟩ := writer_of_value hmade
  have hstatus : (f.writerWith common).statusOf = Response.determineStatus := hstatus
  intro hmem
  obtain ⟨built, value, hbuilt, hmerged, hinvalid⟩ :=
    RenderingWriter.of_skipping_mem_write hstatus hmem
  obtain rfl := Except.ok.inj
    (hbuilt.symm.trans (f.writer.common_withCommon common context state))
  have hget := Entries.get?_of_mem sorted_mergeHeaders hmerged
  rw [hleft.valid hmade hget] at hinvalid
  cases hinvalid

end LeavesToDefaults

/-- The checks of a configuration decide whether a facility can be made, and why not; nothing is
    refused after them.  A facility that is made uses what is configured.  (The wordings are a map:
    no event has two.) -/
theorem ofConfiguration_uses (c : Configuration)
    (hevents : (c.faults.messages.map Prod.fst).Nodup) :
    (∀ e, (ofConfiguration c).value = .error e ↔ c.validate = .error e) ∧
    ((∃ f, (ofConfiguration c).value = .ok f) ↔ c.validate = .ok ()) ∧
    (c.validate = .ok () → ∃ f, assemble c = .ok f) ∧
    ∀ f, (ofConfiguration c).value = .ok f → f.Uses c := by
  refine ⟨fun e => value_eq_error_iff, exists_value_iff, exists_assemble, fun f hf => ?_⟩
  obtain ⟨hdefinitions, statuses, hbook, -⟩ := of_value hf
  refine ⟨fun code e => ?_, fun event w hmem args => ?_, fun event hnone args => ?_,
    fun common context state outcome name hleft => ⟨?_, fun hunsent value hdefault => ?_⟩⟩
  · rw [Catalogue.find?_eq_some_iff, hdefinitions]
    rfl
  · rw [MessageBook.messageAndCode, hbook, FaultSection.wording?_book_of_mem hevents hmem]
  · rw [MessageBook.messageAndCode, hbook, FaultSection.wording?_book_of_notMem hnone]
  · exact hleft.skipping_notMem hf
  · exact hleft.header?_write hf hunsent hdefault

/-- A header, a wording and an error of one's own. -/
def ownWords : Configuration :=
  { Configuration.standard with
    writer := { WriterSection.standard with defaultHeaders := [("X-A", "1")] }
    faults := { FaultSection.standard with
      messages := [(.queryWrongType, ⟨"TYPE", "\x7b\x7d is no \x7b\x7d"⟩)] }
    serviceErrors := [⟨.client, "SOLD_OUT", "Come back tomorrow"⟩] }

theorem ofConfiguration_uses_ownWords :
    (ownWords.faults.messages.map Prod.fst).Nodup ∧ ∃ f, (ofConfiguration ownWords).value = .ok f ∧
      f.catalogue.find? "SOLD_OUT" = some ⟨.client, "SOLD_OUT", "Come back tomorrow", none⟩ ∧
      f.book.messageAndCode .queryWrongType ["page", "number"] =
        pure ("page is no number", "TYPE") ∧
      ((f.writerWith none).write (.new .nil) RenderingWriter.listState .normal).value.1.header?
        "x-a" = some "1" := by
  have hevents : (ownWords.faults.messages.map Prod.fst).Nodup := by decide
  obtain ⟨-, hmade, -, huses⟩ := ofConfiguration_uses ownWords hevents
  obtain ⟨f, hf⟩ := hmade.2 rfl
  obtain ⟨herrors, hwordings, -, hheaders⟩ := huses f hf
  have hleft : f.LeavesToDefaults none (.new .nil) RenderingWriter.listState .normal "x-a" :=
    ⟨rfl, rfl⟩
  refine ⟨hevents, f, hf, ?_, ?_, ?_⟩
  · exact (herrors _ _).2 ⟨_, List.mem_cons_self, rfl, rfl⟩
  · rw [hwordings .queryWrongType _ List.mem_cons_self]
    rfl
  · exact (hheaders none _ _ _ _ hleft).2 rfl "1" (by decide)

end Facility

end Endpoint
