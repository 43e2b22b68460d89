import Endpoint.Config.Facility
import Endpoint.Proofs.Except
import Endpoint.Proofs.Json.Indentation
import Endpoint.Proofs.Response.Report
import Mathlib

/-!
# What the writer of a facility writes

A configuration that passes its checks makes a facility.  The check of the indent accepts all white
space, while only the four blanks of JSON may stand between the parts of a JSON text.  So the writer
of the facility writes JSON exactly if it does not indent or its indent holds such blanks only.
-/

namespace Endpoint

/-! ## Written values -/

theorem ErrorRecord.canonical_format {r : ErrorRecord} {report : Json}
    (h : r.format = some report) : report.Canonical := by
  have hentries : ∀ es : List ServiceError, (Json.arr (es.map ServiceError.entry)).Canonical := by
    intro es
    refine .arr fun j hj => ?_
    obtain ⟨e, -, rfl⟩ := List.mem_map.1 hj
    refine .object fun pair hpair => ?_
    rcases List.mem_pair.1 hpair with rfl | rfl <;> exact .str _
  have hfields : (Json.obj (Entries.mapValues (fun es => Json.arr (es.map ServiceError.entry))
      r.byField)).Canonical := by
    refine .obj (Entries.Sorted.mapValues (Entries.sorted_ofList _) _) fun entry hentry => ?_
    obtain ⟨pair, -, rfl⟩ := List.mem_map.1 hentry
    exact hentries pair.2
  rw [format] at h
  split at h
  · cases h
  · rw [← Option.some.inj h]
    refine .object fun pair hpair => ?_
    rcases List.mem_append.1 hpair with hpair | hpair
    · split at hpair
      · cases hpair
      · rw [List.mem_singleton.1 hpair]
        exact hentries r.general
    · split at hpair
      · cases hpair
      · rw [List.mem_singleton.1 hpair]
        exact hfields

theorem Wrapping.canonical_apply (w : Wrapping) {body errors : Option Json}
    (hbody : ∀ j, body = some j → j.Canonical) (herrors : ∀ j, errors = some j → j.Canonical) :
    (w.apply body errors).Canonical := by
  cases w with
  | fields bodyField errorsField =>
    refine .object fun pair hpair => ?_
    rcases List.mem_append.1 hpair with hpair | hpair
    · cases body with
      | none => cases hpair
      | some j =>
        rw [List.mem_singleton.1 hpair]
        exact hbody j rfl
    · cases errors with
      | none => cases hpair
      | some j =>
        rw [List.mem_singleton.1 hpair]
        exact herrors j rfl
  | bodyOrErrors =>
    cases errors with
    | some j => exact herrors j rfl
    | none =>
      cases body with
      | some j => exact hbody j rfl
      | none => exact .null

namespace RenderingWriter

variable {book : MessageBook} {wrapping : Wrapping} {layout : Json.Layout}
  {defaults : Entries String} {w : RenderingWriter}

/-- The value that is written for a response: its body and its errors, concealed, in one. -/
def valueFor (w : RenderingWriter) (context : RequestContext) (response : Response) : Json :=
  w.wrap response.body (w.formatErrors (w.conceal context response.errors).value)

/-- Every response is written as one JSON text that stands for its value, or as nothing if it has
    neither body nor errors. -/
def WritesJson (w : RenderingWriter) : Prop :=
  ∀ (context : RequestContext) (state : ProcessState) (outcome : Outcome),
    state.sink.Reachable → state.sink.dataSent = false →
    (∀ body, state.response.body = some body → body.Canonical) →
    let response := w.responseFor state outcome
    let answer := (w.write context state outcome).value
    answer.2 = .ok (.ok ()) ∧
      if response.body = none ∧ response.errors.errors = [] then answer.1.body = []
      else Json.meaning? answer.1.body = some (w.valueFor context response)

/-- What is written to an unused sink, by the outcome. -/
theorem json_write_value (hw : w = jsonWith book wrapping layout defaults none)
    (context : RequestContext) (state : ProcessState) (outcome : Outcome)
    (hsink : state.sink.Reachable) (hunsent : state.sink.dataSent = false) :
    let response := w.responseFor state outcome
    let answer := (w.write context state outcome).value
    answer.2 = .ok (.ok ()) ∧ answer.1.body =
      if response.body = none ∧ response.errors.errors = [] then []
      else Utf8.encode ((w.valueFor context response).write layout) := by
  intro response answer
  obtain ⟨hok, -, hbody⟩ := json_render_value hw context response hsink hunsent none
  have hbuilt : w.common context state = .ok none := hw ▸ common_jsonWith context state
  have hanswer : answer = ((w.render context response none state.sink).value.1,
      .ok (w.render context response none state.sink).value.2) :=
    write_value hunsent hbuilt
  have hvalue : w.valueFor context response =
      wrapping.apply response.body (w.conceal context response.errors).value.format := by
    rw [hw]
    rfl
  have hempty : (w.conceal context response.errors).value.isEmpty = true ↔
      response.errors.errors = [] := by
    show (concealErrors _ context response.errors.errors).value.isEmpty = true ↔ _
    rw [concealErrors_value, List.isEmpty_iff, List.map_eq_nil_iff]
  rw [hanswer]
  refine ⟨congrArg Except.ok hok, ?_⟩
  show (w.render context response none state.sink).value.1.body = _
  rw [hbody, hvalue]
  by_cases hnothing : response.body = none ∧ response.errors.errors = []
  · rw [if_pos hnothing, if_pos]
    rw [hempty.2 hnothing.2, hnothing.1]
    rfl
  · rw [if_neg hnothing, if_neg]
    intro hboth
    rw [Bool.and_eq_true, Option.isNone_iff_eq_none, hempty] at hboth
    exact hnothing hboth

/-- A layout of blanks writes JSON. -/
theorem writesJson_of_addsBlanks (hw : w = jsonWith book wrapping layout defaults none)
    (hl : layout.AddsBlanks) : w.WritesJson := by
  intro context state outcome hsink hunsent hcanonical response answer
  obtain ⟨hok, hbody⟩ := json_write_value hw context state outcome hsink hunsent
  have hresponse : ∀ body, response.body = some body → body.Canonical := by
    intro body hsome
    cases outcome with
    | normal => exact hcanonical body hsome
    | error => cases hsome
    | abnormal => cases hsome
  have hvalue : (w.valueFor context response).Canonical := by
    rw [hw]
    exact wrapping.canonical_apply hresponse fun _ => ErrorRecord.canonical_format
  refine ⟨hok, ?_⟩
  by_cases hnothing : response.body = none ∧ response.errors.errors = []
  · rw [if_pos hnothing] at hbody ⊢
    exact hbody
  · rw [if_neg hnothing] at hbody ⊢
    rw [show answer.1.body = _ from hbody]
    exact hvalue.meaning?_write hl

/-- A response with a list as its body, before anything is written. -/
def listState : ProcessState :=
  .ofResponse .empty { Response.empty none with body := some (.arr [.null]) }

/-- An indent with white space other than blanks does not write JSON. -/
theorem not_writesJson_of_stray {indent : String}
    (hw : w = jsonWith book wrapping (.indented indent) defaults none)
    (hspace : isBlankText indent = true) (hstray : ∃ c ∈ indent.toList, ¬ Json.IsBlank c) :
    ¬ w.WritesJson := by
  intro hwrites
  let context : RequestContext := .new .nil
  have hcanonical : ∀ body, listState.response.body = some body → body.Canonical := by
    intro body hbody
    rw [← Option.some.inj hbody]
    exact .arr fun j hj => List.mem_singleton.1 hj ▸ .null
  have hread := (hwrites context listState .normal .empty rfl hcanonical).2
  have hbody := (json_write_value hw context listState .normal .empty rfl).2
  have hsome : ¬ ((w.responseFor listState .normal).body = none ∧
      (w.responseFor listState .normal).errors.errors = []) := by
    rintro ⟨hnone, -⟩
    cases hnone
  have hparts : (w.valueFor context (w.responseFor listState .normal)).HasParts := by
    rw [hw]
    cases wrapping with
    | fields bodyField errorsField => exact .obj (bodyField, .arr [.null]) []
    | bodyOrErrors => exact .arr .null []
  rw [if_neg hsome] at hread hbody
  rw [hbody, Json.meaning?, Document.readAs?_indented_eq_none hspace hstray hparts] at hread
  cases hread

end RenderingWriter

/-! ## Configurations that pass their checks -/

theorem repeated?_of_checkCodes {ds : List ErrorDefinition} {seen : List String}
    (h : checkCodes seen ds = .ok ()) : Catalogue.repeated? seen ds = none := by
  induction ds generalizing seen with
  | nil => rfl
  | cons d rest ih =>
    rw [checkCodes] at h
    split at h
    · cases h
    · split at h
      · cases h
      · rename_i hseen
        rw [Catalogue.repeated?, if_neg hseen]
        exact ih h

theorem Catalogue.exists_of_repeated? {ds : List ErrorDefinition} (h : repeated? [] ds = none) :
    ∃ catalogue, ofDefinitions ds = .ok catalogue := by
  unfold ofDefinitions
  split
  · exact ⟨_, rfl⟩
  · rename_i hsome
    rw [h] at hsome
    cases hsome

theorem MarshalSection.isBlankText_of_check {s : MarshalSection} (h : s.check = .ok ()) :
    isBlankText s.indent = true := by
  rw [check] at h
  split at h
  · assumption
  · cases h

variable {c : Configuration}

/-- A configuration that passes its checks makes a facility with the writer of its section. -/
theorem Facility.exists_of_validate (h : c.validate = .ok ()) :
    isBlankText c.writer.marshal.indent = true ∧
      ∃ f book, (ofConfiguration c).value = .ok f ∧ f.writer = RenderingWriter.jsonWith book
        c.writer.wrapping c.writer.marshal.layout c.writer.defaultHeaders none := by
  have hsteps := h
  unfold Configuration.validate at hsteps
  obtain ⟨_, _, hsteps⟩ := Except.bind_eq_ok_iff.1 hsteps
  obtain ⟨_, _, hsteps⟩ := Except.bind_eq_ok_iff.1 hsteps
  obtain ⟨_, hmarshal, hsteps⟩ := Except.bind_eq_ok_iff.1 hsteps
  obtain ⟨statuses, hstatuses, hsteps⟩ := Except.bind_eq_ok_iff.1 hsteps
  obtain ⟨_, hcodes, _⟩ := Except.bind_eq_ok_iff.1 hsteps
  obtain ⟨catalogue, hcatalogue⟩ :=
    Catalogue.exists_of_repeated? (repeated?_of_checkCodes hcodes)
  refine ⟨MarshalSection.isBlankText_of_check hmarshal, ?_⟩
  let book := c.faults.book statuses
  let f : Facility := ⟨catalogue, book, c.writer.writer book, c.handler⟩
  have hassemble : c.validate.bind (fun _ => assemble c) = .ok f := by
    rw [h]
    show assemble c = _
    rw [assemble, hcatalogue, hstatuses]
    rfl
  refine ⟨f, book, ?_, rfl⟩
  unfold ofConfiguration
  rw [hassemble]
  rfl

/-- The writer of a facility writes JSON exactly if it does not indent, or if its indent holds
    blanks of JSON only. -/
theorem Facility.writesJson_iff_indent (h : c.validate = .ok ()) :
    ∃ f, (ofConfiguration c).value = .ok f ∧
      (f.writer.WritesJson ↔ (c.writer.marshal.prettyPrint = true →
        ∀ ch ∈ c.writer.marshal.indent.toList, Json.IsBlank ch)) := by
  obtain ⟨hspace, f, book, hf, hwriter⟩ := exists_of_validate h
  refine ⟨f, hf, ?_⟩
  cases hpretty : c.writer.marshal.prettyPrint with
  | false =>
    have hlayout : c.writer.marshal.layout = .compact := by
      rw [MarshalSection.layout, hpretty, if_neg Bool.false_ne_true]
    rw [hlayout] at hwriter
    have hwrites := RenderingWriter.writesJson_of_addsBlanks hwriter Json.Layout.compact_addsBlanks
    exact iff_of_true hwrites fun hfalse => (Bool.false_ne_true hfalse).elim
  | true =>
    have hlayout : c.writer.marshal.layout = .indented c.writer.marshal.indent := by
      rw [MarshalSection.layout, hpretty, if_pos rfl]
    rw [hlayout] at hwriter
    constructor
    · intro hwrites _
      by_contra hnot
      push Not at hnot
      exact RenderingWriter.not_writesJson_of_stray hwriter hspace hnot hwrites
    · intro hblanks
      exact RenderingWriter.writesJson_of_addsBlanks hwriter
        (Json.Layout.indented_addsBlanks (hblanks rfl))

/-- Responses over several lines, with an indent. -/
def Configuration.indentedBy (indent : String) : Configuration :=
  { standard with writer := { WriterSection.standard with marshal := ⟨true, indent⟩ } }

theorem Facility.writesJson_iff_indent_tab :
    (Configuration.indentedBy "\t ").validate = .ok () ∧
      ∃ f, (ofConfiguration (.indentedBy "\t ")).value = .ok f ∧ f.writer.WritesJson := by
  have hvalid : (Configuration.indentedBy "\t ").validate = .ok () := rfl
  obtain ⟨f, hf, hiff⟩ := writesJson_iff_indent hvalid
  refine ⟨hvalid, f, hf, hiff.2 fun _ c hc => ?_⟩
  have hc' : c ∈ ['\t', ' '] := hc
  rcases List.mem_pair.1 hc' with rfl | rfl <;> decide

/-- A no-break space passes the check of the indent, and is no blank of JSON. -/
theorem Facility.accepts_stray_indent :
    (Configuration.indentedBy "\u00a0").validate = .ok () ∧
      ∃ f, (ofConfiguration (.indentedBy "\u00a0")).value = .ok f ∧
        (f.writer.write (.new .nil) RenderingWriter.listState .normal).value.1.body = Utf8.encode
          "\x7b\n\u00a0\"response\": [\n\u00a0\u00a0null\n\u00a0]\n\x7d" ∧
        Json.meaning? (f.writer.write (.new .nil) RenderingWriter.listState .normal).value.1.body =
          none := by
  refine ⟨rfl, _, rfl, by decide +kernel, by decide +kernel⟩

end Endpoint
