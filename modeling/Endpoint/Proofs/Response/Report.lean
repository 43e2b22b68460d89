import Endpoint.Proofs.Response.Abnormal
import Endpoint.Proofs.Response.Concealment
import Endpoint.Proofs.Response.Status
import Mathlib

/-!
# What a caller is told of errors

A written value lists the errors about no field and those about each field.  Within each of these
lists the errors stand in the order in which they were recorded, and each of them stands in one
list, once.
-/

namespace Endpoint

/-- What a caller is told of an error.  Of an unexpected one it is the message for status 500. -/
def ServiceError.told (book : MessageBook) (e : ServiceError) : Json :=
  .object [("code", .str e.displayCode),
    ("message", .str (if e.category = .unexpected then (book.httpError Status.serverError).message
      else e.message))]

namespace Json

/-- The items of a list; anything else has none. -/
def items : Option Json → List Json
  | some (.arr items) => items
  | _ => []

/-- The errors that a report lists about a field, or about none. -/
def listed (report : Json) : Option String → List Json
  | none => items (report.get? "general")
  | some field => items ((report.get? "by_field").bind (get? field))

/-- A report lists errors: each of them in the list of its field, in order, and nothing else. -/
structure Lists (report : Json) (book : MessageBook) (errors : List ServiceError) : Prop where
  told : ∀ field, report.listed field =
    (errors.filter fun e => e.field = field).map (ServiceError.told book)
  sections : ∀ key, report.get? key ≠ none → key = "general" ∨ key = "by_field"
  fields : ∀ section?, report.get? "by_field" = some section? → ∀ key, section?.get? key ≠ none →
    ∃ e ∈ errors, e.field = some key

end Json

/-- The part of a written value that reports errors. -/
def Wrapping.errorsIn (w : Wrapping) (written : Json) : Option Json :=
  match w with
  | .fields _ errorsField => written.get? errorsField
  | .bodyOrErrors => some written

theorem Wrapping.errorsIn_apply (w : Wrapping) (body : Option Json) (report : Json) :
    w.errorsIn (w.apply body (some report)) = some report := by
  cases w with
  | bodyOrErrors => rfl
  | fields bodyField errorsField =>
    unfold errorsIn apply Json.object
    -- Errors are set last, so they win over a body of the same name.
    show Entries.get? errorsField (Entries.ofList _) = some report
    rw [Entries.get?_ofList]
    simp [Entries.get?]

namespace ErrorRecord

variable {r : ErrorRecord} {report : Json}

theorem get?_byField (field : String) :
    Entries.get? field r.byField = if r.about field = [] then none else some (r.about field) := by
  have hpair : ∀ pairs : List String,
      Entries.get? field (pairs.map fun f => (f, r.about f)) =
        if field ∈ pairs then some (r.about field) else none := by
    intro pairs
    induction pairs with
    | nil => rfl
    | cons f rest ih =>
      rw [List.map_cons, Entries.get?]
      by_cases hf : f = field
      · subst hf
        simp
      · rw [if_neg hf, ih]
        simp [Ne.symm hf]
  have hmem : field ∈ (r.errors.filterMap ServiceError.field).reverse ↔ r.about field ≠ [] := by
    simp [about, List.filter_eq_nil_iff]
  rw [byField, Entries.get?_ofList, ← List.map_reverse, hpair]
  by_cases habout : r.about field = []
  · rw [if_pos habout, if_neg (by rw [hmem]; exact not_not.2 habout)]
  · rw [if_neg habout, if_pos (hmem.2 habout)]

/-- The sections of a report: the errors about no field, and those of each field. -/
theorem get?_format (h : r.format = some report) (key : String) :
    report.get? key =
      if "general" = key ∧ r.general ≠ [] then some (.arr (r.general.map ServiceError.entry))
      else if "by_field" = key ∧ r.byField ≠ [] then
        some (.obj (Entries.mapValues (fun es => .arr (es.map ServiceError.entry)) r.byField))
      else none := by
  rw [format] at h
  split at h
  · cases h
  · rw [← Option.some.inj h]
    show Entries.get? key (Entries.ofList _) = _
    rw [Entries.get?_ofList]
    by_cases hgeneral : r.general = []
    · by_cases hfields : r.byField = []
      · simp [hgeneral, hfields, Entries.get?]
      · simp [hgeneral, hfields, Entries.get?]
    · by_cases hfields : r.byField = []
      · simp [hgeneral, hfields, Entries.get?]
      · by_cases hkey : "by_field" = key
        · subst hkey
          simp [hgeneral, hfields, Entries.get?]
        · simp [hgeneral, hfields, Entries.get?, hkey]

theorem listed_format (h : r.format = some report) (field : Option String) :
    report.listed field =
      (r.errors.filter fun e => e.field = field).map ServiceError.entry := by
  cases field with
  | none =>
    have hgeneral : r.general = r.errors.filter fun e => e.field = none :=
      List.filter_congr fun e _ => Bool.eq_iff_iff.2 (by simp)
    rw [Json.listed, get?_format h, ← hgeneral]
    by_cases hnil : r.general = []
    · simp [hnil, Json.items]
    · simp [hnil, Json.items]
  | some field =>
    have habout : r.about field = r.errors.filter fun e => e.field = some field :=
      List.filter_congr fun e _ => Bool.eq_iff_iff.2 (by simp)
    rw [Json.listed, get?_format h, ← habout, if_neg (by simp)]
    by_cases hnil : r.byField = []
    · have hnone : Entries.get? field r.byField = none := by rw [hnil]; rfl
      rw [get?_byField] at hnone
      have hempty : r.about field = [] := by simpa using hnone
      simp [hnil, hempty, Json.items]
    · rw [if_pos ⟨rfl, hnil⟩, Option.bind_some]
      show Json.items (Entries.get? field (Entries.mapValues _ r.byField)) = _
      rw [Entries.get?_mapValues, get?_byField]
      by_cases hempty : r.about field = []
      · simp [hempty, Json.items]
      · simp [hempty, Json.items]

end ErrorRecord

namespace RenderingWriter

variable {context : RequestContext} {book : MessageBook} {wrapping : Wrapping}
  {layout : Json.Layout} {defaults : Entries String} {state : ProcessState}
  {common : Option (RequestContext → ProcessState → Entries String)}

/-- Concealing errors replaces messages and nothing else. -/
theorem concealErrors_value (general : String) (context : RequestContext)
    (es : List ServiceError) :
    (concealErrors general context es).value = es.map (ServiceError.reword fun _ => general) := by
  induction es with
  | nil => rfl
  | cons e rest ih =>
    rw [concealErrors, List.map_cons, ← ih]
    simp only [Logged.value_bind, Logged.value_pure]
    unfold concealError ServiceError.reword
    split <;> rfl

theorem entry_reword (e : ServiceError) :
    (e.reword fun _ => (book.httpError Status.serverError).message).entry = e.told book := by
  unfold ServiceError.reword ServiceError.entry ServiceError.told
  by_cases hcategory : e.category = .unexpected
  · rw [if_pos hcategory, if_pos hcategory]
    rfl
  · rw [if_neg hcategory, if_neg hcategory]

/-- Errors that are recorded are reported after they have been concealed. -/
theorem format_conceal (w : RenderingWriter) (context : RequestContext) {r : ErrorRecord}
    (hne : r.errors ≠ []) :
    ∃ report, (w.conceal context r).value.format = some report ∧
      report.Lists w.book r.errors := by
  have herrors : (w.conceal context r).value.errors =
      r.errors.map (ServiceError.reword fun _ => (w.book.httpError Status.serverError).message) :=
    concealErrors_value _ context r.errors
  have hfield : ∀ e : ServiceError, ∀ f : String → String, (e.reword f).field = e.field := by
    intro e f
    unfold ServiceError.reword
    split <;> rfl
  obtain ⟨report, hreport⟩ : ∃ report, (w.conceal context r).value.format = some report := by
    rw [ErrorRecord.format, ErrorRecord.isEmpty, herrors]
    simp [hne]
  refine ⟨report, hreport, ?_, ?_, ?_⟩
  · intro field
    rw [ErrorRecord.listed_format hreport, herrors, List.filter_map, List.map_map]
    simp [Function.comp_def, hfield, entry_reword]
  · intro key hkey
    rw [ErrorRecord.get?_format hreport] at hkey
    by_cases hgeneral : "general" = key
    · exact .inl hgeneral.symm
    · by_cases hfields : "by_field" = key
      · exact .inr hfields.symm
      · simp [hgeneral, hfields] at hkey
  · intro fields hfields key hkey
    rw [ErrorRecord.get?_format hreport, if_neg (by simp)] at hfields
    split at hfields
    · rw [← Option.some.inj hfields] at hkey
      have hfound : Entries.get? key (w.conceal context r).value.byField ≠ none := by
        intro hnone
        apply hkey
        show Entries.get? key (Entries.mapValues _ _) = none
        rw [Entries.get?_mapValues, hnone]
        rfl
      rw [ErrorRecord.get?_byField, ErrorRecord.about, herrors] at hfound
      simpa [List.filter_eq_nil_iff, hfield] using hfound
    · cases hfields

/-- What is written on an unused sink when a response has a body or errors. -/
theorem json_render_value {w : RenderingWriter}
    (hw : w = jsonWith book wrapping layout defaults common) (context : RequestContext)
    (response : Response) {sink : Sink} (hsink : sink.Reachable) (hunsent : sink.dataSent = false)
    (built : Option (Entries String)) :
    let rendered := (w.render context response built sink).value
    let errors := (w.conceal context response.errors).value
    rendered.2 = .ok () ∧ rendered.1.status = some response.determineStatus.value ∧
      rendered.1.body =
        if response.body.isNone && errors.isEmpty then []
        else Utf8.encode ((wrapping.apply response.body errors.format).write layout) := by
  intro rendered errors
  have hstatus : (w.statusOf response).value = response.determineStatus.value := by
    rw [hw]
    rfl
  have hmarshal : w.marshal = writeJson layout := by
    rw [hw]
    rfl
  have hwrap : w.wrap response.body (w.formatErrors errors) =
      wrapping.apply response.body errors.format := by
    rw [hw]
    rfl
  rw [show rendered = (w.render context response built sink).value from rfl, render]
  simp only [Logged.value_bind, setHeaders_value, hstatus]
  split
  · refine ⟨rfl, ?_, ?_⟩
    · simp [Sink.writeStatus, hsink.status_eq_none hunsent]
    · simp [Sink.writeStatus, hsink.body_eq_nil hunsent]
  · rw [Logged.value_pure, hmarshal, writeJson_eq]
    refine ⟨rfl, ?_, ?_⟩
    · simp [Sink.writeStatus, Sink.write, hsink.status_eq_none hunsent]
    · simp only [Sink.writeStatus, Sink.write, hsink.body_eq_nil hunsent, List.nil_append]
      rw [← hwrap]

/-- A request that ends in errors is answered by a report of them. -/
theorem json_write_error {w : RenderingWriter}
    (hw : w = jsonWith book wrapping layout defaults common) (context : RequestContext)
    (hsink : state.sink.Reachable) (hunsent : state.sink.dataSent = false)
    (hne : state.effectiveErrors.errors ≠ []) :
    let answer := (w.write context state .error).value
    answer.2 = .ok (.ok ()) ∧
      answer.1.status = some (errorResponse state).determineStatus.value ∧
      ∃ written report, answer.1.body = Utf8.encode (written.write layout) ∧
        wrapping.errorsIn written = some report ∧
        report.Lists book state.effectiveErrors.errors := by
  intro answer
  let built := common.map fun build => build context state
  obtain ⟨hok, hstatus, hbody⟩ :=
    json_render_value hw context (errorResponse state) hsink hunsent built
  obtain ⟨report, hreport, hlists⟩ := format_conceal w context hne
  have hbuilt : w.common context state = .ok built := hw ▸ common_jsonWith context state
  have hanswer : answer = ((w.render context (errorResponse state) built state.sink).value.1,
      .ok (w.render context (errorResponse state) built state.sink).value.2) :=
    write_value hunsent hbuilt
  have hreport' : (w.conceal context (errorResponse state).errors).value.format = some report :=
    hreport
  have hfull : (w.conceal context (errorResponse state).errors).value.isEmpty = false := by
    rw [Bool.eq_false_iff]
    intro hempty
    rw [ErrorRecord.format, if_pos hempty] at hreport'
    cases hreport'
  have hbook : w.book = book := by
    rw [hw]
    rfl
  rw [hanswer]
  refine ⟨congrArg Except.ok hok, hstatus, wrapping.apply none (some report), report, ?_,
    wrapping.errorsIn_apply none report, hbook ▸ hlists⟩
  show (w.render context (errorResponse state) built state.sink).value.1.body = _
  rw [hbody, hfull, Bool.and_false, if_neg Bool.false_ne_true, hreport']
  rfl

end RenderingWriter

end Endpoint
