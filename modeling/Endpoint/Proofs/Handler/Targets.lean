import Endpoint.Proofs.Handler.FieldSources
import Endpoint.Proofs.Param.Attempt
import Mathlib

/-!
# The targets of a handler

When a handler is built, its targets are checked against the fields of the body and against the
pattern of the path.  After that every target is for a field that can be bound, and every target of
a path has a text of its own.  So the wording for a parameter that is for no field is never looked
up: a handler serves its requests as it would with any other.
-/

namespace Endpoint

namespace HandlerSettings

variable {β : Type} {s : HandlerSettings β} {h : Handler β}

/-! ## What is refused -/

/-- The settings ask for something that cannot be bound. -/
inductive Unbindable (s : HandlerSettings β) : Prop
  | unknownField {field : String} :
      field ∈ s.pathTargets ++ s.queryTargets.map Prod.fst → field ∉ s.bindableFields →
      Unbindable s
  | withoutPattern : s.pathTargets ≠ [] → s.pathPattern = none → Unbindable s
  | tooManyTargets {pattern : String} {program : Program} :
      s.pathPattern = some pattern → Program.ofText? pattern = some program →
      program.groups < s.pathTargets.length → Unbindable s

theorem mem_bindableFields_of_build (hbuild : s.build.value = .ok h) {field : String}
    (hfield : field ∈ s.pathTargets ++ s.queryTargets.map Prod.fst) :
    field ∈ s.bindableFields := by
  obtain ⟨-, hunknown, -⟩ := build_eq_ok_iff.1 hbuild
  rw [unknownTarget?, List.find?_eq_none] at hunknown
  simpa using hunknown field hfield

theorem not_unbindable_of_build (hbuild : s.build.value = .ok h) : ¬ s.Unbindable := by
  obtain ⟨-, -, binding, hbinding, -⟩ := build_eq_ok_iff.1 hbuild
  have hcases := pathBinding_cases hbinding
  rintro (⟨hmem, hnot⟩ | ⟨htargets, hpattern⟩ | ⟨hpattern, hprogram, hless⟩)
  · exact hnot (mem_bindableFields_of_build hbuild hmem)
  · rcases hcases with ⟨-, -, hnil⟩ | ⟨p, -, hsome, -⟩
    · exact htargets hnil
    · rw [hpattern] at hsome
      cases hsome
  · rcases hcases with ⟨-, hnone, -⟩ | ⟨p, -, hsome, hprogram', -, hle, -⟩
    · rw [hpattern] at hnone
      cases hnone
    · obtain rfl := Option.some.inj (hpattern.symm.trans hsome)
      obtain rfl := Option.some.inj (hprogram.symm.trans hprogram')
      exact Nat.not_lt.2 hle hless

/-- Settings that ask for something that cannot be bound are refused. -/
theorem Unbindable.refused (hs : s.Unbindable) : ∃ e, s.build.value = .error e := by
  cases hbuild : s.build.value with
  | error e => exact ⟨e, rfl⟩
  | ok h => exact absurd hs (not_unbindable_of_build hbuild)

/-- Every target of a query in effect is for a bindable field. -/
theorem mem_bindableFields_of_effective (hbuild : s.build.value = .ok h)
    {target : String × String} (htarget : target ∈ s.effectiveQueryTargets) :
    target.1 ∈ s.bindableFields := by
  obtain ⟨added, hadded, heq⟩ := s.effectiveQueryTargets_eq
  rw [heq, List.mem_append] at htarget
  rcases htarget with hgiven | hname
  · exact mem_bindableFields_of_build hbuild
      (List.mem_append_right _ (List.mem_map_of_mem hgiven))
  · obtain ⟨field, hfield, rfl⟩ := List.mem_map.1 hname
    exact hadded.sublist.subset hfield

/-- A target of a path that matches has the text captured by the group at its position. -/
theorem pathTarget_spec {binding : Option (PathBinding β)} {path name : String} {i : Nat}
    {groups : List (Option String)} (hbuild : s.pathBinding = .ok binding)
    (hgroups : s.captures? path = some groups) (hname : s.pathTargets[i]? = some name) :
    ∃ group, groups[i]? = some group ∧ (s.pathKeys path)[i]? = some (name, toString i) ∧
      (s.pathParams path).valuesOf? (toString i) = some [group.getD ""] := by
  obtain ⟨hi, -⟩ := List.getElem?_eq_some_iff.1 hname
  have hle := length_le_of_captures hbuild hgroups
  obtain ⟨group, hgroup⟩ : ∃ group, groups[i]? = some group :=
    ⟨_, List.getElem?_eq_getElem (Nat.lt_of_lt_of_le hi hle)⟩
  refine ⟨group, hgroup, ?_, ?_⟩
  · rw [pathKeys_of_captures hbuild hgroups]
    simp [hname]
  · simp only [pathParams, hgroups]
    rw [Params.valuesOf?_ofPath, List.getElem?_take, if_pos hi, List.getElem?_map, hgroup]
    rfl

/-- Fields of records can be bound if there is a binding. -/
theorem bindableFields_subset {s : HandlerSettings Datum} {t : RecordType}
    (hbinding : ∀ b, s.binding = some b → b = t.bodyBinding) {field : String}
    (hfield : field ∈ s.bindableFields) :
    s.binding = some t.bodyBinding ∧ field ∈ t.paramFields := by
  rw [bindableFields] at hfield
  cases hb : s.binding with
  | none => simp [hb] at hfield
  | some b =>
    obtain rfl := hbinding b hb
    rw [hb] at hfield
    exact ⟨rfl, hfield⟩

end HandlerSettings

/-! ## The wording that is never looked up -/

namespace MessageBook

theorem messageAndCode_withWording {event other : FaultEvent} (hne : event ≠ other) (w : Wording)
    (book : MessageBook) (args : List String) :
    (book.withWording event w).messageAndCode other args = book.messageAndCode other args := by
  have hwording : (book.withWording event w).wording? other = book.wording? other := by
    rw [wording?, withWording, List.find?_cons_of_neg (by simpa using hne)]
    rfl
  rw [messageAndCode, hwording]
  rfl

end MessageBook

namespace BodyBinding

variable {β : Type} {b : BodyBinding β}

theorem bindPath_withWording (b : BodyBinding β) (book : MessageBook) (w : Wording)
    (params : Params) (body : β) :
    b.bindPath (book.withWording .queryWithoutTarget w) params body =
      b.bindPath book params body := by
  have hwording := book.messageAndCode_withWording
    (show FaultEvent.queryWithoutTarget ≠ .pathWrongType by decide) w
  have hfrom : ∀ fields body position,
      b.bindPathFrom (book.withWording .queryWithoutTarget w) params body position fields =
        b.bindPathFrom book params body position fields := by
    intro fields
    induction fields with
    | nil => exact fun _ _ => rfl
    | cons field rest ih =>
      intro body position
      simp only [bindPathFrom, pathFault, hwording, ih]
  exact hfrom _ _ _

end BodyBinding

namespace RecordType

/-- No failure to bind a bindable field is worded as one for want of a field. -/
theorem queryFaultEvent?_of_bind {t : RecordType} {params : Params} {d : Datum} {e : BindError}
    {event : FaultEvent} {args : List String} {name param : String} (hname : name ∈ t.paramFields)
    (hbind : t.bind d name params param = .error e)
    (hevent : BodyBinding.queryFaultEvent? param e = some (event, args)) :
    FaultEvent.queryWithoutTarget ≠ event := by
  rintro rfl
  cases e with
  | noSuchField other =>
    exact assignment_ne_noSuchField hname other
      (attempt_eq_error_iff.1 (bind_eq_error_iff_attempt.1 hbind)).1
  | missing => cases hevent
  | notAList => cases hevent
  | wrongType _ _ => cases hevent

theorem bindQuery_withWording {t : RecordType} {targets : List (String × String)}
    (htargets : ∀ target ∈ targets, target.1 ∈ t.paramFields) (book : MessageBook) (w : Wording)
    (params : Params) (d : Datum) :
    t.bodyBinding.bindQuery (book.withWording .queryWithoutTarget w) params d targets =
      t.bodyBinding.bindQuery book params d targets := by
  induction targets generalizing d with
  | nil => rfl
  | cons target rest ih =>
    obtain ⟨name, param⟩ := target
    obtain ⟨hname, hrest⟩ := List.forall_mem_cons.1 htargets
    rw [BodyBinding.bindQuery, BodyBinding.bindQuery]
    cases hbind : t.bodyBinding.bind d name params param with
    | ok d' => simp only [ih hrest]
    | error e =>
      cases hevent : BodyBinding.queryFaultEvent? param e with
      | none => simp only [hevent, ih hrest]
      | some event =>
        obtain ⟨event, args⟩ := event
        have hwording := book.messageAndCode_withWording
          (queryFaultEvent?_of_bind hname hbind hevent) w
        simp only [hevent, BodyBinding.queryFault, hwording, ih hrest]

end RecordType

namespace Handler

variable {β : Type}

/-- The handler with another wording for parameters that are for no field. -/
def rewording (h : Handler β) (w : Wording) : Handler β :=
  { h with book := h.book.withWording .queryWithoutTarget w }

theorem rejectFaults_rewording (h : Handler β) (w : Wording) :
    (h.rewording w).rejectFaults = h.rejectFaults := by
  have hlog : ∀ faults, (h.rewording w).logFaults faults = h.logFaults faults := by
    intro faults
    induction faults with
    | nil => rfl
    | cons fault rest ih =>
      rw [logFaults, logFaults, ih]
      rfl
  funext p faults
  rw [rejectFaults, rejectFaults, hlog]
  rfl

theorem stage_rewording (h : Handler β) (w : Wording) (context : RequestContext) (stage : Stage) :
    (h.rewording w).stage context stage = h.stage context stage := by
  cases stage with
  | unmarshal =>
    have hwording := h.book.messageAndCode_withWording
      (show FaultEvent.queryWithoutTarget ≠ .unreadableRequest by decide) w
    funext p
    simp only [Handler.stage, Handler.unmarshal, rewording, hwording]
    rfl
  | bindPath =>
    funext p
    simp only [Handler.stage, Handler.bindPath, bindParams, rejectFaults_rewording]
    rfl
  | bindQuery =>
    funext p
    simp only [Handler.stage, Handler.bindQuery, bindParams, rejectFaults_rewording]
    rfl
  | _ => rfl

theorem runStages_rewording (h : Handler β) (w : Wording) (context : RequestContext)
    (stages : List Stage) :
    (h.rewording w).runStages context stages = h.runStages context stages := by
  induction stages with
  | nil => rfl
  | cons stage rest ih => rw [runStages, runStages, stage_rewording, ih]

/-- Serving a request, whatever it logs and writes, does not depend on this wording. -/
theorem serve_rewording (h : Handler β) (w : Wording) : (h.rewording w).serve = h.serve := by
  funext context sink head rawBody nanoseconds
  rw [serve, serve]
  simp only [runStages_rewording]
  rfl

end Handler

namespace HandlerSettings

variable {β : Type} {s : HandlerSettings Datum} {t : RecordType}

/-- The settings with another wording for parameters that are for no field. -/
def rewording (s : HandlerSettings β) (w : Wording) : HandlerSettings β :=
  { s with book := some (s.effectiveBook.withWording .queryWithoutTarget w) }

theorem pathBinding_rewording (s : HandlerSettings β) (w : Wording) :
    (s.rewording w).pathBinding = s.pathBinding := by
  have hbook : (s.rewording w).effectiveBook =
      s.effectiveBook.withWording .queryWithoutTarget w := rfl
  simp only [pathBinding, hbook, BodyBinding.bindPath_withWording]
  rfl

theorem queryBinding_rewording (hbinding : ∀ b, s.binding = some b → b = t.bodyBinding)
    (htargets : ∀ target ∈ s.effectiveQueryTargets, target.1 ∈ s.bindableFields) (w : Wording) :
    (s.rewording w).queryBinding = s.queryBinding := by
  have hbook : (s.rewording w).effectiveBook =
      s.effectiveBook.withWording .queryWithoutTarget w := rfl
  have hbinding' : (s.rewording w).binding = s.binding := rfl
  have heffective : (s.rewording w).effectiveQueryTargets = s.effectiveQueryTargets := rfl
  rw [queryBinding, queryBinding, hbinding', heffective, hbook]
  cases hb : s.binding with
  | none => rfl
  | some b =>
    obtain rfl := hbinding b hb
    simp only [RecordType.bindQuery_withWording fun target htarget =>
      (bindableFields_subset hbinding (htargets target htarget)).2]

/-- A handler that is built serves every request as it would with any other wording for parameters
    that are for no field. -/
theorem build_rewording {h : Handler Datum} (hbuild : s.build.value = .ok h)
    (hbinding : ∀ b, s.binding = some b → b = t.bodyBinding) (w : Wording) :
    (s.rewording w).build.value = .ok (h.rewording w) := by
  have htargets : ∀ target ∈ s.effectiveQueryTargets, target.1 ∈ s.bindableFields :=
    fun _ => mem_bindableFields_of_effective hbuild
  have hquery := queryBinding_rewording hbinding htargets w
  obtain ⟨hname, hunknown, binding, hpath, rfl⟩ := build_eq_ok_iff.1 hbuild
  refine build_eq_ok_iff.2 ⟨hname, hunknown, binding, ?_, ?_⟩
  · rw [pathBinding_rewording, hpath]
  · show _ = { (s.assemble binding).rewording w with query := (s.rewording w).queryBinding }
    rw [hquery]
    rfl

end HandlerSettings

end Endpoint
