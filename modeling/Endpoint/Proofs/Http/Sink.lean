import Endpoint.Http.Sink
import Endpoint.Proofs.Json.Entries

/-!
# Sinks that are written to

A sink that has only been written to has sent data as soon as it has a status, and it has no
body before.  What is done to it later neither replaces its status nor takes back any of its
body.
-/

namespace Endpoint

namespace Sink

variable {s : Sink}

/-- What comes of a sink when headers, statuses and parts of the body are written to it. -/
inductive Reachable : Sink → Prop
  | empty : Reachable .empty
  | setHeader {s : Sink} (name value : String) : Reachable s → Reachable (s.setHeader name value).2
  | writeStatus {s : Sink} (status : Status) : Reachable s → Reachable (s.writeStatus status)
  | write {s : Sink} (data : List UInt8) : Reachable s → Reachable (s.write data)

/-- Setting a header leaves all but the headers alone. -/
theorem setHeader_frame (s : Sink) (name value : String) :
    (s.setHeader name value).2 = { s with headers := (s.setHeader name value).2.headers } := by
  rw [setHeader]
  split <;> rfl

theorem Reachable.dataSent_eq (h : s.Reachable) : s.dataSent = s.status.isSome := by
  induction h with
  | empty => rfl
  | setHeader name value _ ih =>
    rw [setHeader_frame]
    exact ih
  | @writeStatus s status _ _ =>
    rw [Sink.writeStatus]
    cases s.status <;> rfl
  | @write s data _ _ =>
    rw [Sink.write]
    cases s.status <;> rfl

theorem Reachable.body_eq_nil (h : s.Reachable) (hunsent : s.dataSent = false) : s.body = [] := by
  induction h with
  | empty => rfl
  | setHeader name value _ ih =>
    rw [setHeader_frame] at hunsent ⊢
    exact ih hunsent
  | writeStatus _ _ _ => cases hunsent
  | write _ _ _ => cases hunsent

theorem Reachable.status_eq_none (h : s.Reachable) (hunsent : s.dataSent = false) :
    s.status = none := by
  rw [h.dataSent_eq] at hunsent
  simpa using hunsent

theorem Reachable.sorted_headers (h : s.Reachable) : s.headers.Sorted := by
  induction h with
  | empty => exact Entries.sorted_nil
  | @setHeader s name value _ ih =>
    rw [Sink.setHeader]
    split
    · exact ih.insert
    · exact ih
  | writeStatus _ _ ih => exact ih
  | write _ _ ih => exact ih

/-! ## Headers one by one -/

/-- Setting a header either files it in place of what had its name before, and leaves the
    others and all else alone, or it leaves everything alone. -/
theorem Reachable.setHeader_cases (h : s.Reachable) (name value : String) :
    ((s.setHeader name value).1 = true ∧
      (s.setHeader name value).2 = { s with headers := (s.setHeader name value).2.headers } ∧
      (s.setHeader name value).2.headers.filter (·.1 = asciiLower name) =
        [(asciiLower name, value)] ∧
      (s.setHeader name value).2.headers.filter (·.1 ≠ asciiLower name) =
        s.headers.filter (·.1 ≠ asciiLower name)) ∨
    ((s.setHeader name value).1 = false ∧ (s.setHeader name value).2 = s) := by
  have hframe := setHeader_frame s name value
  by_cases hvalid : (Header.isName name && Header.isValue value) = true
  · left
    have hset : s.setHeader name value =
        (true, { s with headers := Entries.insert (asciiLower name) value s.headers }) :=
      if_pos hvalid
    refine ⟨by rw [hset], hframe, ?_, ?_⟩
    · rw [hset]
      have hfiled : Entries.get? (asciiLower name)
          (Entries.insert (asciiLower name) value s.headers) = some value := by
        rw [Entries.get?_insert, if_pos rfl]
      exact h.sorted_headers.insert.filter_key hfiled
    · rw [hset]
      have hdropped : ∀ v : String, decide ((asciiLower name, v).1 ≠ asciiLower name) = false := by
        intro v
        simp
      exact Entries.filter_insert_of_dropped hdropped value s.headers
  · right
    have hset : s.setHeader name value = (false, s) := if_neg hvalid
    rw [hset]
    exact ⟨rfl, rfl⟩

/-! ## Runs of operations -/

/-- What can be done to a sink. -/
inductive Operation where
  | setHeader (name value : String)
  | writeStatus (status : Status)
  | write (data : List UInt8)

/-- The sink after an operation. -/
def after (s : Sink) : Operation → Sink
  | .setHeader name value => (s.setHeader name value).2
  | .writeStatus status => s.writeStatus status
  | .write data => s.write data

/-- The sink after several operations, one upon the other. -/
def run (s : Sink) (operations : List Operation) : Sink := operations.foldl after s

theorem Reachable.after (h : s.Reachable) (operation : Operation) :
    (s.after operation).Reachable := by
  cases operation with
  | setHeader name value => exact h.setHeader name value
  | writeStatus status => exact h.writeStatus status
  | write data => exact h.write data

theorem Reachable.run (h : s.Reachable) (operations : List Operation) :
    (s.run operations).Reachable := by
  rw [Sink.run]
  induction operations generalizing s with
  | nil => exact h
  | cons operation rest ih => exact ih (h.after operation)

theorem after_status {status : Status} (h : s.status = some status) (operation : Operation) :
    (s.after operation).status = some status := by
  cases operation with
  | setHeader name value =>
    rw [after, setHeader_frame]
    exact h
  | writeStatus status' =>
    rw [after, writeStatus, h]
    rfl
  | write data =>
    rw [after, write, h]
    rfl

theorem body_after (s : Sink) (operation : Operation) : s.body <+: (s.after operation).body := by
  cases operation with
  | setHeader name value =>
    have hsame : (s.setHeader name value).2.body = s.body := by rw [setHeader_frame]
    show s.body <+: (s.setHeader name value).2.body
    exact hsame ▸ List.prefix_rfl
  | writeStatus status => exact List.prefix_rfl
  | write data => exact List.prefix_append s.body data

/-- The first status stays. -/
theorem run_status {status : Status} (h : s.status = some status) (operations : List Operation) :
    (s.run operations).status = some status := by
  rw [run]
  induction operations generalizing s with
  | nil => exact h
  | cons operation rest ih => exact ih (after_status h operation)

/-- A body only grows, and only at its end. -/
theorem body_run (s : Sink) (operations : List Operation) : s.body <+: (s.run operations).body := by
  rw [run]
  induction operations generalizing s with
  | nil => exact List.prefix_rfl
  | cons operation rest ih => exact (body_after s operation).trans (ih (s.after operation))

end Sink

end Endpoint
