import Endpoint.Proofs.Handler.Containment
import Endpoint.Proofs.Handler.Recording
import Endpoint.Proofs.Response.HeaderSources

/-!
# Headers that the logic sets

The logic may set a header several times, under one spelling or under several.  A response files
each spelling apart, so of one name it keeps the last value for each spelling; it sends the one
whose spelling comes last.
-/

namespace Endpoint

/-- A response after headers have been set one after another. -/
def Response.setHeaders (r : Response) (calls : List (String × String)) : Response :=
  calls.foldl (fun r call => r.setHeader call.1 call.2) r

/-- The value that the last call with a spelling gives to it. -/
def lastSet? (calls : List (String × String)) (spelling : String) : Option String :=
  Entries.get? spelling calls.reverse

theorem Response.headers_setHeaders (r : Response) (calls : List (String × String)) :
    (r.setHeaders calls).headers =
      calls.foldl (fun headers (name, value) => Entries.insert name value headers) r.headers := by
  rw [setHeaders]
  induction calls generalizing r with
  | nil => rfl
  | cons call rest ih => exact ih (r.setHeader call.1 call.2)

section LastSet

variable {calls before after : List (String × String)} {name spelling value : String}

theorem get?_ofList_eq_lastSet? (calls : List (String × String)) :
    (Entries.get? · (Entries.ofList calls)) = lastSet? calls :=
  funext fun spelling => Entries.get?_ofList spelling calls

theorem headerOf?_of_lastSet (h : LastSpelling (lastSet? calls) name spelling value) :
    headerOf? name (Entries.ofList calls) = some value := by
  rw [← get?_ofList_eq_lastSet?] at h
  exact headerOf?_of_lastSpelling (Entries.sorted_ofList calls) h

/-- A name that is set has a spelling that comes last. -/
theorem exists_lastSpelling_of_set (h : ∃ call ∈ calls, asciiLower call.1 = name) :
    ∃ spelling value, LastSpelling (lastSet? calls) name spelling value := by
  obtain ⟨call, hcall, hspells⟩ := h
  rw [← get?_ofList_eq_lastSet?]
  refine exists_lastSpelling (Entries.sorted_ofList calls) hspells ?_
  rw [Entries.get?_ofList]
  intro hnone
  exact Entries.get?_eq_none_iff.1 hnone
    (List.mem_map.2 ⟨call, List.mem_reverse.2 hcall, rfl⟩)

/-- The last call that sets a name counts if no earlier one used a spelling that comes after. -/
theorem lastSpelling_of_last (hcalls : calls = before ++ (spelling, value) :: after)
    (hspells : asciiLower spelling = name)
    (hafter : ∀ call ∈ after, asciiLower call.1 ≠ name)
    (hbefore : ∀ call ∈ before, asciiLower call.1 = name → call.1 ≤ spelling) :
    LastSpelling (lastSet? calls) name spelling value := by
  have hlater : Entries.get? spelling after.reverse = none :=
    Entries.get?_eq_none fun call hcall heq =>
      hafter call (List.mem_reverse.1 hcall) (heq ▸ hspells)
  refine ⟨hspells, ?_, fun other hother hset => ?_⟩
  · rw [lastSet?, hcalls, List.reverse_append, List.reverse_cons, Entries.get?_append,
      Entries.get?_append, hlater, Entries.get?, if_pos rfl]
    rfl
  · have hkey : other ∈ calls.reverse.map Prod.fst := by
      by_contra hnot
      exact hset (Entries.get?_eq_none_iff.2 hnot)
    obtain ⟨call, hcall, rfl⟩ := List.mem_map.1 hkey
    rw [List.mem_reverse, hcalls, List.mem_append, List.mem_cons] at hcall
    rcases hcall with hcall | rfl | hcall
    · exact hbefore call hcall hother
    · exact String.le_refl _
    · exact absurd hother (hafter call hcall)

end LastSet

/-! ## The calls of a run -/

namespace Handler

variable {β : Type} {h : Handler β} {context : RequestContext} {start p p' q : Progress β}
  {stage : Stage} {todo : List Stage} {calls : List (String × String)} {sink : Sink}
  {head : RequestHead} {rawBody : List UInt8} {nanoseconds : Nat}

/-- The headers that the logic sets in a run, in order: those it sets when it processes a request
    and when it finishes the response.  An invalid request is not processed, and of one that is
    stopped before its validation no hook gets to see the response. -/
inductive SetsHeaders (h : Handler β) (context : RequestContext) (start : Progress β) :
    List (String × String) → Prop
  | processed {p : Progress β} {made finished : Response} {own last : List (String × String)} :
      h.Arrives context start .process p →
      (h.logic.process context p.request p.response).value.2 = .ok made →
      made.headers = (p.response.setHeaders own).headers →
      h.Finishes context (h.logic.process context p.request p.response).value.1 made finished →
      finished.headers = (made.setHeaders last).headers → SetsHeaders h context start (own ++ last)
  | invalid {p : Progress β} {finished : Response} {last : List (String × String)} :
      h.Arrives context start .rejectInvalid p → p.errors.errors ≠ [] →
      h.Finishes context p.request p.response finished →
      finished.headers = (p.response.setHeaders last).headers → SetsHeaders h context start last
  | stopped {stage : Stage} {p : Progress β} :
      h.Arrives context start stage p → h.Stops context p stage → SetsHeaders h context start []

theorem Finishes.not_panics {finished : Response}
    (hfinished : h.Finishes context p.request p.response finished) :
    ¬ h.FinishPanics context p := by
  rintro ⟨hook, panic, hhook, hpanic⟩
  unfold Finishes at hfinished
  simp only [hhook] at hfinished
  cases hpanic.symm.trans hfinished

/-- A request that is stopped before its validation keeps the response that it started with. -/
theorem Arrives.response_of_stops (hp : h.Arrives context start stage p)
    (hstops : h.Stops context p stage) (hleaves : h.Leaves context stage p q) :
    q.response = start.response := by
  cases stage with
  | rejectInvalid | process | postProcess => exact absurd hstops id
  | _ => exact Eq.trans hleaves.response (Reaches.response_eq hp (by decide))

/-- A request that is processed goes through all stages, with the response as it is finished. -/
theorem Arrives.completes_of_finishes {made finished : Response}
    (hp : h.Arrives context start .process p)
    (hmade : (h.logic.process context p.request p.response).value.2 = .ok made)
    (hfinished : h.Finishes context (h.logic.process context p.request p.response).value.1 made
      finished) :
    ∃ q, h.Completes context start q ∧ q.response = finished := by
  have hfinish : ∀ q, h.Arrives context start .postProcess q → ¬ h.FinishPanics context q := by
    intro q hq
    obtain ⟨p', hp', hprocess⟩ := hq.exists_previous .process rfl
    obtain rfl := hp.unique hp'
    obtain rfl : made = q.response := Except.ok.inj (hmade.symm.trans hprocess.response)
    have hrequest : (h.logic.process context p.request p.response).value.1 = q.request :=
      hprocess.request
    rw [hrequest] at hfinished
    exact hfinished.not_panics
  obtain ⟨q, hq, hfinished'⟩ := hp.completes_of_process hmade hfinish
  exact ⟨q, hq, hfinished'.unique hfinished⟩

/-- The headers that the logic sets are those of the response in the end, whether the request is
    rejected or not. -/
theorem SetsHeaders.run (hsets : h.SetsHeaders context start calls)
    (hstart : start.response.headers = []) :
    ∃ p stop?, (h.runStages context Stage.all start).value = (p, stop?) ∧
      (stop? = none ∨ stop? = some .rejected) ∧ p.response.headers = Entries.ofList calls := by
  cases hsets with
  | @processed p made finished own last hp hmade hown hfinished hlast =>
    obtain ⟨q, hq, rfl⟩ := hp.completes_of_finishes hmade hfinished
    refine ⟨q, none, hq.run, .inl rfl, ?_⟩
    rw [hlast, Response.headers_setHeaders, hown, Response.headers_setHeaders,
      Reaches.response_eq hp List.mem_cons_self, hstart, ← List.foldl_append]
    rfl
  | @invalid p finished last hp hne hfinished hlast =>
    obtain ⟨q, hstop, -, hfinished'⟩ := rejectInvalid_finishes hne hfinished.not_panics
    obtain rfl := hfinished'.unique hfinished
    refine ⟨q, _, hp.run_of_stop hstop, .inr rfl, ?_⟩
    rw [hlast, Response.headers_setHeaders, Reaches.response_eq hp (by decide), hstart]
    rfl
  | @stopped stage p hp hstops =>
    obtain ⟨q, hstop, hleaves⟩ := hstops.rejects.leaves
    refine ⟨q, _, hp.run_of_stop hstop, .inr rfl, ?_⟩
    rw [hp.response_of_stops hstops hleaves, hstart]
    rfl

end Handler

/-! ## What is sent -/

namespace RenderingWriter

variable {w : RenderingWriter} {context : RequestContext} {state : ProcessState}
  {outcome : Outcome} {name value : String} {built : Option (Entries String)}

/-- Marshalling leaves the headers that are set as they are. -/
def KeepsHeaders (w : RenderingWriter) : Prop :=
  ∀ data sink name value, sink.header? name = some value →
    (w.marshal data sink).1.header? name = some value

theorem keepsHeaders_of_json {layout : Json.Layout} (hjson : w.marshal = writeJson layout) :
    w.KeepsHeaders := by
  intro data sink name value h
  rw [hjson, writeJson_eq]
  exact get?_withContentType h

theorem headers_responseFor (hnot : outcome ≠ .abnormal) :
    (w.responseFor state outcome).headers = state.response.headers := by
  cases outcome with
  | normal => rfl
  | error => rfl
  | abnormal => exact absurd rfl hnot

/-- A merged header that is valid is written to an unused sink, if marshalling leaves it alone. -/
theorem header?_write_of_keeps (hkeeps : w.KeepsHeaders) (hunsent : state.sink.dataSent = false)
    (hbuilt : w.common context state = .ok built)
    (hget : Entries.get? name (w.mergedFor state outcome built) = some value)
    (hvalid : (Header.isName name && Header.isValue value) = true) :
    (w.write context state outcome).value.1.header? name = some value := by
  have hset : (setHeaders (w.mergedFor state outcome built) state.sink).value.header? name =
      some value := header?_setHeaders hget hvalid
  rw [write_value hunsent hbuilt]
  simp only [Logged.value_bind, render]
  split
  · exact hset
  · exact hkeeps _ _ _ _ hset

end RenderingWriter

namespace Handler

variable {β : Type} {h : Handler β} {w : RenderingWriter} {context : RequestContext} {sink : Sink}
  {head : RequestHead} {rawBody : List UInt8} {nanoseconds : Nat} {calls : List (String × String)}
  {name spelling value : String}

theorem SetsHeaders.serve_outcome
    (hsets : h.SetsHeaders (h.named context) (h.start head rawBody) calls) :
    (h.serve context sink head rawBody nanoseconds).value.outcome ≠ .abnormal := by
  obtain ⟨p, stop?, hrun, hstop, -⟩ := hsets.run rfl
  rw [Handler.serve_outcome, hrun]
  rcases hstop with rfl | rfl
  · rw [outcomeOf]
    split <;> decide
  · show Outcome.error ≠ .abnormal
    decide

/-- The value of the last spelling that the logic uses goes all the way to the sink. -/
theorem SetsHeaders.serve_header? (hwriter : h.writer = w.write) (hbuilds : w.Builds)
    (hkeeps : w.KeepsHeaders) (hunsent : sink.dataSent = false)
    (hsets : h.SetsHeaders (h.named context) (h.start head rawBody) calls)
    (hname : Header.isName name = true)
    (hlast : LastSpelling (lastSet? calls) (asciiLower name) spelling value)
    (hvalue : Header.isValue value = true) :
    (h.serve context sink head rawBody nanoseconds).value.sink.header? name = some value := by
  have hnot : (h.serve context sink head rawBody nanoseconds).value.outcome ≠ .abnormal :=
    hsets.serve_outcome
  obtain ⟨p, stop?, hrun, hstop, hheaders⟩ := hsets.run rfl
  rw [Handler.serve_outcome, hrun] at hnot
  have hresponse : (h.stateOf p sink stop?).response = p.response := by
    rcases hstop with rfl | rfl <;> rfl
  obtain ⟨built, hbuilt⟩ := hbuilds (h.named context) (h.stateOf p sink stop?)
  have hget : Entries.get? (asciiLower name) (w.mergedFor (h.stateOf p sink stop?)
      (outcomeOf p stop?) built) = some value := by
    rw [RenderingWriter.mergedFor, get?_mergeHeaders, RenderingWriter.headers_responseFor hnot,
      hresponse, hheaders, headerOf?_of_lastSet hlast]
    rfl
  have hvalid : (Header.isName (asciiLower name) && Header.isValue value) = true := by
    rw [Header.isName_asciiLower, hname, hvalue]
    rfl
  have hfree : (h.stateOf p sink stop?).sink.dataSent = false := by rwa [stateOf_sink]
  have hsink := RenderingWriter.header?_write_of_keeps hkeeps hfree hbuilt hget hvalid
  have hserved := serve_sink_result h context sink head rawBody nanoseconds
  simp only [hrun, hwriter] at hserved
  rw [← hserved, Sink.header?, asciiLower_asciiLower] at hsink
  exact hsink

/-- Of the headers that the logic sets in a request the response carries, under each valid name, the
    last value of the spelling that comes last among those used, if that value is valid.  So it
    carries the value of the last call, unless an earlier call used a spelling of the name that
    comes after. -/
theorem serve_sends_last_spelling (h : Handler β) (w : RenderingWriter) (context : RequestContext)
    (sink : Sink) (head : RequestHead) (rawBody : List UInt8) (nanoseconds : Nat)
    (calls : List (String × String)) (name : String) (hwriter : h.writer = w.write)
    (hbuilds : w.Builds) (hkeeps : w.KeepsHeaders) (hunsent : sink.dataSent = false)
    (hsets : h.SetsHeaders (h.named context) (h.start head rawBody) calls)
    (hname : Header.isName name = true) :
    let served := (h.serve context sink head rawBody nanoseconds).value
    served.outcome ≠ .abnormal ∧
    ((∃ call ∈ calls, asciiLower call.1 = asciiLower name) →
      ∃ spelling value, LastSpelling (lastSet? calls) (asciiLower name) spelling value) ∧
    (∀ spelling value, LastSpelling (lastSet? calls) (asciiLower name) spelling value →
      Header.isValue value = true → served.sink.header? name = some value) ∧
    ∀ before after spelling value, calls = before ++ (spelling, value) :: after →
      asciiLower spelling = asciiLower name →
      (∀ call ∈ after, asciiLower call.1 ≠ asciiLower name) →
      (∀ call ∈ before, asciiLower call.1 = asciiLower name → call.1 ≤ spelling) →
      Header.isValue value = true → served.sink.header? name = some value := by
  intro served
  refine ⟨hsets.serve_outcome, exists_lastSpelling_of_set, ?_, ?_⟩
  · intro spelling value hlast hvalue
    exact hsets.serve_header? hwriter hbuilds hkeeps hunsent hname hlast hvalue
  · intro before after spelling value hcalls hspells hafter hbefore hvalue
    exact hsets.serve_header? hwriter hbuilds hkeeps hunsent hname
      (lastSpelling_of_last hcalls hspells hafter hbefore) hvalue

/-- A service that sets headers when it processes a request, and others when it finishes the
    response. -/
def headed (own last : List (String × String)) : Handler Unit where
  name := "headed"
  logic :=
    { process := fun _ request response => pure (request, .ok (response.setHeaders own))
      unmarshalTarget := none
      preValidate := none
      validate := none
      postProcess := some fun _ _ _ response => pure (.ok (response.setHeaders last)) }
  writer := (RenderingWriter.json .empty .standard .compact).write
  reader := none
  book := .empty
  catalogue := none
  identifier := none
  accessChecker := none
  requireAuthentication := false
  path := none
  query := none
  subjectCheck := none

theorem setsHeaders_headed {own last : List (String × String)} {context : RequestContext}
    {start : Progress Unit} (hend : (headed own last).endOf context start = .normal) :
    (headed own last).SetsHeaders context start (own ++ last) := by
  obtain ⟨p, hp, -⟩ := endOf_eq_normal_iff.1 hend
  obtain ⟨q, -, hq, -⟩ := hp.arrives .process
  exact .processed hq rfl rfl rfl rfl

/-- The last call counts where it uses the last spelling, also when the response is finished. -/
theorem serve_sends_last_spelling_lower :
    let h := headed [("X-A", "1"), ("x-b", "3")] [("x-a", "2")]
    let calls := [("X-A", "1"), ("x-b", "3"), ("x-a", "2")]
    let context := RequestContext.new .nil
    let head : RequestHead := ⟨"GET", ⟨"/", none⟩, []⟩
    h.SetsHeaders (h.named context) (h.start head []) calls ∧ Header.isName "X-a" = true ∧
      (h.serve context .empty head [] 0).value.sink.header? "X-a" = some "2" := by
  intro h calls context head
  have hsets : h.SetsHeaders (h.named context) (h.start head []) calls := setsHeaders_headed rfl
  have hname : Header.isName "X-a" = true := by decide
  obtain ⟨-, -, -, hlast⟩ := serve_sends_last_spelling h (.json .empty .standard .compact) context
    .empty head [] 0 calls "X-a" rfl (RenderingWriter.builds_of_none rfl)
    (RenderingWriter.keepsHeaders_of_json rfl) rfl hsets hname
  refine ⟨hsets, hname, hlast [("X-A", "1"), ("x-b", "3")] [] "x-a" "2" rfl (by decide) ?_ ?_ ?_⟩
  · simp
  · decide
  · decide

/-- The last call does not count where an earlier one used a spelling that comes after, even if it
    is made when the response is finished. -/
theorem serve_sends_earlier_call :
    let h := headed [("x-a", "1")] [("X-A", "2")]
    let context := RequestContext.new .nil
    let head : RequestHead := ⟨"GET", ⟨"/", none⟩, []⟩
    let served := (h.serve context .empty head [] 0).value
    h.SetsHeaders (h.named context) (h.start head []) ([("x-a", "1")] ++ [("X-A", "2")]) ∧
      Header.isName "x-a" = true ∧ asciiLower "X-A" = asciiLower "x-a" ∧
      Header.isValue "2" = true ∧ served.outcome = .normal ∧
      served.sink.header? "x-a" = some "1" := by
  intro h context head served
  exact ⟨setsHeaders_headed rfl, by decide, by decide, by decide, rfl, rfl⟩

end Handler

end Endpoint
