import Endpoint.Proofs.Response.Report

/-!
# Errors grouped by field

A report of errors can be put together in one pass: each error is filed behind those about the same
field that came before it.  No error is lost on the way and none is made up, so the errors about
each field can be read back from the report, in the order in which they were recorded.
-/

namespace Endpoint

namespace ServiceError

/-- The error about a field, or about none, that an entry of a report shows. -/
def shown? (field : Option String) (entry : Json) : Option ServiceError :=
  match entry.get? "code", entry.get? "message" with
  | some (.str code), some (.str message) =>
    match code.toList with
    | letter :: '-' :: code =>
      (Category.all.find? fun c => c.letter = letter).map fun c =>
        ⟨c, String.ofList code, message, field⟩
    | _ => none
  | _, _ => none

theorem shown?_entry (e : ServiceError) : shown? e.field e.entry = some e := by
  have hcode : e.displayCode.toList = e.category.letter :: '-' :: e.code.toList := by
    simp [displayCode]
  have hcategory :
      (Category.all.find? fun c => c.letter = e.category.letter) = some e.category := by
    cases e.category <;> rfl
  have hentry : shown? e.field (.obj [("code", .str e.displayCode), ("message", .str e.message)])
      = some e := by
    simp [shown?, Json.get?, Entries.get?, hcode, hcategory]
  exact hentry

/-- The entries of the errors about a field, or about none, in order. -/
def entriesAbout (errors : List ServiceError) (field : Option String) : List Json :=
  (errors.filter fun e => e.field = field).map entry

theorem entriesAbout_concat (errors : List ServiceError) (e : ServiceError)
    (field : Option String) :
    entriesAbout (errors ++ [e]) field =
      entriesAbout errors field ++ if e.field = field then [e.entry] else [] := by
  by_cases hfield : e.field = field
  · simp [entriesAbout, hfield]
  · simp [entriesAbout, hfield]

theorem entriesAbout_eq_nil_iff {errors : List ServiceError} {field : Option String} :
    entriesAbout errors field = [] ↔ ¬ ∃ e ∈ errors, e.field = field := by
  simp [entriesAbout, List.filter_eq_nil_iff]

end ServiceError

open ServiceError (entriesAbout entriesAbout_concat entriesAbout_eq_nil_iff)

namespace Json

/-- The lists of an object; anything else has none. -/
def lists : Option Json → Entries Json
  | some (.obj lists) => lists
  | _ => []

/-- How many entries a report has, over all of its lists. -/
def entryCount (report : Json) : Nat :=
  (items (report.get? "general")).length
    + ((lists (report.get? "by_field")).map fun list => (items (some list.2)).length).sum

/-- The errors about a field, or about none, that are read back from a report. -/
def reported (report : Json) (field : Option String) : List ServiceError :=
  (report.listed field).filterMap (ServiceError.shown? field)

/-- A report groups errors: those about no field make up one list, and those about each field
    one under its name, all in order.  Of the two sections it has those that are not empty. -/
structure Groups (report : Json) (errors : List ServiceError) : Prop where
  sections : ∃ entries : Entries Json, report = .obj entries ∧ entries.Sorted ∧
    ∀ key ∈ entries.keys, key = "general" ∨ key = "by_field"
  general : report.get? "general" =
    if ∃ e ∈ errors, e.field = none then some (.arr (entriesAbout errors none)) else none
  byField :
    if ∃ e ∈ errors, e.field ≠ none then
      ∃ lists : Entries Json, report.get? "by_field" = some (.obj lists) ∧ lists.Sorted ∧
        ∀ field, Entries.get? field lists =
          if ∃ e ∈ errors, e.field = some field then some (.arr (entriesAbout errors field))
          else none
    else report.get? "by_field" = none

end Json

/-- The lists of a report while it is put together. -/
structure ErrorGroups where
  general : List Json
  byField : Entries (List Json)

namespace ErrorGroups

def empty : ErrorGroups := ⟨[], []⟩

/-- Files an error behind the others about its field, or behind the others about none. -/
def add (g : ErrorGroups) (e : ServiceError) : ErrorGroups :=
  match e.field with
  | none => { g with general := g.general ++ [e.entry] }
  | some field =>
    { g with
      byField := g.byField.insert field ((Entries.get? field g.byField).getD [] ++ [e.entry]) }

/-- Files errors one after another. -/
def ofErrors (errors : List ServiceError) : ErrorGroups := errors.foldl add empty

/-- How many entries there are in the lists of all fields. -/
def total (groups : Entries (List Json)) : Nat := (groups.map fun group => group.2.length).sum

/-- The report with these lists; a section without any is left out. -/
def report (g : ErrorGroups) : Json :=
  .object (
    (if g.general.isEmpty then [] else [("general", .arr g.general)])
      ++ (if g.byField.isEmpty then []
        else [("by_field", .obj (Entries.mapValues .arr g.byField))]))

/-- The lists hold errors: each of them in the list of its field, in order, and nothing else. -/
structure Holds (g : ErrorGroups) (errors : List ServiceError) : Prop where
  general : g.general = entriesAbout errors none
  sorted : g.byField.Sorted
  byField : ∀ field, Entries.get? field g.byField =
    if ∃ e ∈ errors, e.field = some field then some (entriesAbout errors field) else none
  size : g.general.length + total g.byField = errors.length

variable {g : ErrorGroups} {errors : List ServiceError}

theorem total_cons (field : String) (list : List Json) (groups : Entries (List Json)) :
    total ((field, list) :: groups) = list.length + total groups := by
  rw [total, List.map_cons, List.sum_cons]
  rfl

/-- Setting the list of a field exchanges its old entries for the new ones. -/
theorem total_insert {groups : Entries (List Json)} (hsorted : groups.Sorted) (field : String)
    (list : List Json) :
    total (groups.insert field list) + ((Entries.get? field groups).getD []).length =
      total groups + list.length := by
  induction groups with
  | nil => simp [total, Entries.insert, Entries.get?]
  | cons group rest ih =>
    obtain ⟨k, other⟩ := group
    obtain ⟨hk, hrest⟩ := List.pairwise_cons.1 hsorted
    rw [Entries.insert]
    by_cases hfield : k = field
    · rw [if_pos hfield, Entries.get?, if_pos hfield, total_cons, total_cons, Option.getD_some]
      omega
    · rw [if_neg hfield]
      by_cases hlt : field < k
      · have hnone : Entries.get? field ((k, other) :: rest) = none := by
          refine Entries.get?_eq_none_of_lt fun entry hentry => ?_
          rcases List.mem_cons.1 hentry with rfl | hentry
          · exact hlt
          · exact String.lt_trans hlt (hk entry hentry)
        rw [if_pos hlt, hnone, total_cons, Option.getD_none, List.length_nil]
        omega
      · have hstep := ih hrest
        rw [if_neg hlt, Entries.get?, if_neg hfield, total_cons, total_cons]
        omega

theorem holds_empty : Holds empty [] where
  general := rfl
  sorted := Entries.sorted_nil
  byField := fun _ => rfl
  size := rfl

theorem Holds.getD_byField (h : Holds g errors) (field : String) :
    (Entries.get? field g.byField).getD [] = entriesAbout errors field := by
  rw [h.byField]
  split
  · rfl
  · rename_i hnone
    exact (entriesAbout_eq_nil_iff.2 hnone).symm

theorem Holds.add (h : Holds g errors) (e : ServiceError) : Holds (g.add e) (errors ++ [e]) := by
  have hsize := h.size
  cases hfield : e.field with
  | none =>
    have hadd : g.add e = { g with general := g.general ++ [e.entry] } := by
      rw [ErrorGroups.add, hfield]
    rw [hadd]
    refine ⟨?_, h.sorted, fun field => ?_, ?_⟩
    · rw [entriesAbout_concat, if_pos hfield, h.general]
    · simp [entriesAbout_concat, h.byField, hfield]
    · simp only [List.length_append, List.length_singleton]
      omega
  | some field =>
    have hadd : g.add e =
        { g with byField := g.byField.insert field (entriesAbout errors field ++ [e.entry]) } := by
      rw [ErrorGroups.add, hfield, ← h.getD_byField]
    rw [hadd]
    refine ⟨?_, h.sorted.insert, fun other => ?_, ?_⟩
    · simp [entriesAbout_concat, h.general, hfield]
    · show Entries.get? other (g.byField.insert field _) = _
      rw [Entries.get?_insert, entriesAbout_concat]
      by_cases hother : field = other
      · simp [hother, hfield]
      · simp [hother, hfield, h.byField]
    · have hinsert := total_insert h.sorted field (entriesAbout errors field ++ [e.entry])
      rw [h.getD_byField, List.length_append, List.length_singleton] at hinsert
      show g.general.length + total (g.byField.insert field _) = _
      rw [List.length_append, List.length_singleton]
      omega

theorem Holds.foldl (h : Holds g errors) (more : List ServiceError) :
    Holds (more.foldl ErrorGroups.add g) (errors ++ more) := by
  induction more generalizing g errors with
  | nil => simpa using h
  | cons e rest ih => simpa using ih (h.add e)

theorem holds_ofErrors (errors : List ServiceError) : Holds (ofErrors errors) errors := by
  have hrun := holds_empty.foldl errors
  rwa [List.nil_append] at hrun

theorem Holds.general_eq_nil_iff (h : Holds g errors) :
    g.general = [] ↔ ¬ ∃ e ∈ errors, e.field = none := by
  rw [h.general, entriesAbout_eq_nil_iff]

theorem Holds.byField_eq_nil_iff (h : Holds g errors) :
    g.byField = [] ↔ ¬ ∃ e ∈ errors, e.field ≠ none := by
  constructor
  · rintro hnil ⟨e, he, hfield⟩
    obtain ⟨field, hfield⟩ := Option.ne_none_iff_exists'.1 hfield
    have hget := h.byField field
    rw [hnil, if_pos ⟨e, he, hfield⟩] at hget
    cases hget
  · intro hnone
    refine h.sorted.ext Entries.sorted_nil fun field => ?_
    rw [h.byField, if_neg]
    · rfl
    · rintro ⟨e, he, hfield⟩
      exact hnone ⟨e, he, by simp [hfield]⟩

end ErrorGroups

namespace ErrorRecord

open ErrorGroups (ofErrors holds_ofErrors)

variable {r : ErrorRecord} {report : Json}

theorem general_ofErrors (r : ErrorRecord) :
    (ofErrors r.errors).general = r.general.map ServiceError.entry := by
  rw [(holds_ofErrors r.errors).general, general, entriesAbout]
  exact congrArg _ (List.filter_congr fun e _ => Bool.eq_iff_iff.2 (by simp))

theorem byField_ofErrors (r : ErrorRecord) :
    (ofErrors r.errors).byField = Entries.mapValues (List.map ServiceError.entry) r.byField := by
  have hsorted : r.byField.Sorted := Entries.sorted_ofList _
  refine (holds_ofErrors r.errors).sorted.ext (hsorted.mapValues _) fun field => ?_
  have habout : (r.about field).map ServiceError.entry = entriesAbout r.errors field :=
    congrArg _ (List.filter_congr fun e _ => Bool.eq_iff_iff.2 (by simp))
  have hnil : r.about field = [] ↔ ¬ ∃ e ∈ r.errors, e.field = some field := by
    rw [← entriesAbout_eq_nil_iff, ← habout, List.map_eq_nil_iff]
  rw [Entries.get?_mapValues, get?_byField, (holds_ofErrors r.errors).byField]
  by_cases hany : r.about field = []
  · rw [if_pos hany, if_neg (hnil.1 hany), Option.map_none]
  · rw [if_neg hany, if_pos (not_not.1 (mt hnil.2 hany)), Option.map_some, habout]

/-- The report of recorded errors is the one that filing them in one pass gives. -/
theorem format_eq_report (r : ErrorRecord) :
    r.format = if r.errors = [] then none else some (ofErrors r.errors).report := by
  rw [format, isEmpty, ErrorGroups.report, general_ofErrors, byField_ofErrors]
  simp [Entries.mapValues, Function.comp_def]

/-- The sections of a report are the lists that filing the errors in one pass gives. -/
theorem get?_format_ofErrors (h : r.format = some report) (key : String) :
    report.get? key =
      if "general" = key ∧ (ofErrors r.errors).general ≠ [] then
        some (.arr (ofErrors r.errors).general)
      else if "by_field" = key ∧ (ofErrors r.errors).byField ≠ [] then
        some (.obj (Entries.mapValues .arr (ofErrors r.errors).byField))
      else none := by
  rw [get?_format h, general_ofErrors, byField_ofErrors]
  simp [Entries.mapValues, Function.comp_def]

theorem groups_format (h : r.format = some report) : report.Groups r.errors := by
  have hholds := holds_ofErrors r.errors
  refine ⟨?_, ?_, ?_⟩
  · obtain ⟨entries, hreport, hsorted⟩ : ∃ entries : Entries Json,
        report = .obj entries ∧ entries.Sorted := by
      rw [format] at h
      split at h
      · cases h
      · exact ⟨_, (Option.some.inj h).symm, Entries.sorted_ofList _⟩
    refine ⟨entries, hreport, hsorted, fun key hkey => ?_⟩
    by_contra hother
    rw [not_or] at hother
    have hnone : report.get? key = none := by
      rw [get?_format h, if_neg fun hgeneral => hother.1 hgeneral.1.symm,
        if_neg fun hfields => hother.2 hfields.1.symm]
    rw [hreport] at hnone
    exact Entries.get?_eq_none_iff.1 hnone hkey
  · rw [get?_format_ofErrors h, ← hholds.general]
    by_cases hnil : (ofErrors r.errors).general = []
    · rw [if_neg fun hgeneral => hgeneral.2 hnil, if_neg (by simp),
        if_neg (hholds.general_eq_nil_iff.1 hnil)]
    · rw [if_pos ⟨rfl, hnil⟩, if_pos (not_not.1 (mt hholds.general_eq_nil_iff.2 hnil))]
  · by_cases hnil : (ofErrors r.errors).byField = []
    · rw [if_neg (hholds.byField_eq_nil_iff.1 hnil), get?_format_ofErrors h, if_neg (by simp),
        if_neg fun hfields => hfields.2 hnil]
    · rw [if_pos (not_not.1 (mt hholds.byField_eq_nil_iff.2 hnil)), get?_format_ofErrors h,
        if_neg (by simp), if_pos ⟨rfl, hnil⟩]
      refine ⟨_, rfl, hholds.sorted.mapValues _, fun field => ?_⟩
      rw [Entries.get?_mapValues, hholds.byField]
      split
      · rfl
      · rfl

theorem entryCount_format (h : r.format = some report) :
    report.entryCount = r.errors.length := by
  have hgeneral : Json.items (report.get? "general") = (ofErrors r.errors).general := by
    rw [get?_format_ofErrors h]
    by_cases hnil : (ofErrors r.errors).general = []
    · simp [hnil, Json.items]
    · simp [hnil, Json.items]
  have hfields : Json.lists (report.get? "by_field") =
      Entries.mapValues .arr (ofErrors r.errors).byField := by
    rw [get?_format_ofErrors h, if_neg (by simp)]
    by_cases hnil : (ofErrors r.errors).byField = []
    · simp [hnil, Json.lists, Entries.mapValues]
    · simp [hnil, Json.lists]
  rw [Json.entryCount, hgeneral, hfields, Entries.mapValues, List.map_map,
    ← (holds_ofErrors r.errors).size]
  rfl

/-- The errors about a field are read back as they were recorded. -/
theorem reported_format (h : r.format = some report) (field : Option String) :
    report.reported field = r.errors.filter fun e => e.field = field := by
  rw [Json.reported, listed_format h, List.filterMap_map]
  have hread : ∀ e ∈ r.errors.filter fun e => e.field = field,
      (ServiceError.shown? field ∘ ServiceError.entry) e = some e := by
    intro e he
    have hfield : e.field = field := by simpa using (List.mem_filter.1 he).2
    rw [← hfield]
    exact e.shown?_entry
  rw [List.filterMap_congr hread, List.filterMap_some]

/-- Errors are reported under their fields, and none is lost or made up: there is no report if
    there are no errors, and otherwise it groups them, has as many entries as there are errors, and
    shows of each field the errors about it as they were recorded. -/
theorem format_groups_by_field (r : ErrorRecord) :
    if r.errors = [] then r.format = none
    else ∃ report, r.format = some report ∧ report.Groups r.errors ∧
      report.entryCount = r.errors.length ∧
      (∀ e ∈ r.errors, e.entry = .obj
        [("code", .str (String.ofList [e.category.letter] ++ "-" ++ e.code)),
          ("message", .str e.message)]) ∧
      ∀ field, report.reported field = r.errors.filter fun e => e.field = field := by
  split
  · rename_i hnil
    rw [format_eq_report, if_pos hnil]
  · rename_i hne
    have hformat : r.format = some (ofErrors r.errors).report := by
      rw [format_eq_report, if_neg hne]
    refine ⟨_, hformat, groups_format hformat, entryCount_format hformat, fun e _ => ?_,
      reported_format hformat⟩
    have hcode : e.displayCode = String.ofList [e.category.letter] ++ "-" ++ e.code := by
      rw [← String.toList_inj]
      simp [ServiceError.displayCode]
    rw [← hcode]
    rfl

end ErrorRecord

end Endpoint
