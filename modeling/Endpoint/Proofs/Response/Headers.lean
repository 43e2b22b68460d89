import Endpoint.Proofs.Json.Entries
import Endpoint.Proofs.Text.Case
import Endpoint.Response.Writer

/-!
# The headers of a response

Merged headers stand in order under names in lower case.  Of them a sink takes those that are
valid, and no others.
-/

namespace Endpoint

/-! ## Merging -/

section Merging

variable {filed headers response defaults : Entries String} {common : Option (Entries String)}

/-- All names are in lower case. -/
def LowerNames (headers : Entries String) : Prop :=
  ∀ header ∈ headers, asciiLower header.1 = header.1

theorem LowerNames.insert {name value : String} (h : LowerNames filed) :
    LowerNames (Entries.insert (asciiLower name) value filed) := by
  intro header hheader
  rcases Entries.mem_insert hheader with rfl | hheader
  · exact asciiLower_asciiLower name
  · exact h header hheader

theorem LowerNames.fileHeaders (h : LowerNames filed) : LowerNames (fileHeaders filed headers) := by
  rw [Endpoint.fileHeaders]
  induction headers generalizing filed with
  | nil => exact h
  | cons header rest ih => exact ih h.insert

theorem sorted_fileHeaders (h : filed.Sorted) : (fileHeaders filed headers).Sorted := by
  rw [fileHeaders]
  induction headers generalizing filed with
  | nil => exact h
  | cons header rest ih => exact ih h.insert

theorem lowerNames_mergeHeaders : LowerNames (mergeHeaders response common defaults) := by
  have hnil : LowerNames [] := by simp [LowerNames]
  exact hnil.fileHeaders.fileHeaders.fileHeaders

theorem sorted_mergeHeaders : (mergeHeaders response common defaults).Sorted :=
  sorted_fileHeaders (sorted_fileHeaders (sorted_fileHeaders Entries.sorted_nil))

/-- Names in lower case are filed as they are. -/
theorem fileHeaders_of_lowerNames (h : LowerNames headers) :
    fileHeaders filed headers =
      headers.foldl (fun filed (name, value) => filed.insert name value) filed := by
  induction headers generalizing filed with
  | nil => rfl
  | cons header rest ih =>
    obtain ⟨name, value⟩ := header
    obtain ⟨hhead, hrest⟩ := List.forall_mem_cons.1 h
    rw [fileHeaders, List.foldl_cons, List.foldl_cons]
    simp only [hhead]
    exact ih hrest

/-- Headers in order under names in lower case are the map of themselves. -/
theorem fileHeaders_nil_eq (hsorted : headers.Sorted) (hlower : LowerNames headers) :
    fileHeaders [] headers = headers := by
  rw [fileHeaders_of_lowerNames hlower]
  exact hsorted.ofList_eq

end Merging

/-! ## Setting headers -/

/-- The headers whose names and values are valid. -/
def validHeaders (headers : Entries String) : Entries String :=
  headers.filter fun (name, value) => Header.isName name && Header.isValue value

namespace RenderingWriter

variable {headers : Entries String} {sink : Sink}

/-- The valid headers are filed in turn, and the others are left out. -/
theorem setHeaders_value :
    (setHeaders headers sink).value =
      { sink with headers := fileHeaders sink.headers (validHeaders headers) } := by
  induction headers generalizing sink with
  | nil => rfl
  | cons header rest ih =>
    obtain ⟨name, value⟩ := header
    rw [setHeaders, Sink.setHeader]
    by_cases hvalid : (Header.isName name && Header.isValue value) = true
    · have hrest : validHeaders ((name, value) :: rest) = (name, value) :: validHeaders rest :=
        List.filter_cons_of_pos hvalid
      rw [if_pos hvalid, hrest]
      exact ih
    · have hrest : validHeaders ((name, value) :: rest) = validHeaders rest :=
        List.filter_cons_of_neg hvalid
      rw [if_neg hvalid, hrest]
      exact ih

/-- Of merged headers a sink without headers takes just the valid ones. -/
theorem setHeaders_value_of_merged (hnone : sink.headers = [])
    {response defaults : Entries String} {common : Option (Entries String)} :
    (setHeaders (mergeHeaders response common defaults) sink).value =
      { sink with headers := validHeaders (mergeHeaders response common defaults) } := by
  have hsorted : (validHeaders (mergeHeaders response common defaults)).Sorted :=
    sorted_mergeHeaders.filter _
  have hlower : LowerNames (validHeaders (mergeHeaders response common defaults)) :=
    fun header hheader => lowerNames_mergeHeaders header (List.mem_filter.1 hheader).1
  rw [setHeaders_value, hnone, fileHeaders_nil_eq hsorted hlower]

end RenderingWriter

end Endpoint
