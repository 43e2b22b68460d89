import Endpoint.Proofs.Handler.Recording
import Endpoint.Proofs.Handler.Targets
import Endpoint.Proofs.Request.Attempts
import Mathlib

/-!
# Why binding fails

The targets of a handler that is built are for fields that can be bound, and those of a path have a
text each.  So binding can fail for one reason only: what was supplied does not convert to the type
of the field, be it that a text cannot be read or that there are several for a field that takes one.
-/

namespace Endpoint

namespace RecordType

variable {t : RecordType} {params : Params} {book : MessageBook}
  {report report' : String × String → BindError → Fault → Prop} {attempts : List (String × String)}
  {target : String × String} {d d' bound : Datum} {faults : List Fault} {fault : Fault}
  {e : BindError}

/-- A text of a path that cannot be bound does not convert; its fault tells the field, the position
    and the text. -/
inductive PathConversion (t : RecordType) (book : MessageBook) (params : Params) :
    String × String → BindError → Fault → Prop
  | wrongType {f : Field} {name text expected : String} {i : Nat} :
      t.paramField? name = some f → params.valuesOf? (toString i) = some [text] →
      f.Refuses [text] (.wrongType text expected) →
      PathConversion t book params (name, toString i) (.wrongType text expected)
        ⟨.pathBind, none, some name,
          (book.messageAndCode .pathWrongType [name, expected]).value.1, some text, some i,
          (book.messageAndCode .pathWrongType [name, expected]).value.2⟩

/-- A query parameter that cannot be bound does not convert: one of its values does not, or there
    are several of them. -/
inductive QueryConversion (t : RecordType) (book : MessageBook) (params : Params) :
    String × String → BindError → Fault → Prop
  | wrongType {f : Field} {name param raw expected : String} {raws : List String} :
      t.paramField? name = some f → params.valuesOf? param = some raws →
      f.Refuses raws (.wrongType raw expected) →
      QueryConversion t book params (name, param) (.wrongType raw expected)
        ⟨.queryBind, some param, some name,
          (book.messageAndCode .queryWrongType [param, expected]).value.1,
          some (",".intercalate raws), none,
          (book.messageAndCode .queryWrongType [param, expected]).value.2⟩
  | notAList {f : Field} {name param : String} {raws : List String} :
      t.paramField? name = some f → params.valuesOf? param = some raws →
      f.Refuses raws .notAList →
      QueryConversion t book params (name, param) .notAList
        ⟨.queryBind, some param, some name,
          (book.messageAndCode .queryTargetNotList [param]).value.1,
          some (",".intercalate raws), none,
          (book.messageAndCode .queryTargetNotList [param]).value.2⟩

/-- Failures may be reported in any way that follows from how they are reported. -/
theorem Attempts.imp (h : t.Attempts params report attempts d bound faults)
    (himp : ∀ target ∈ attempts, ∀ d e fault,
      t.attempt d target.1 params target.2 = (.error e, d) → report target e fault →
      report' target e fault) :
    t.Attempts params report' attempts d bound faults := by
  induction h with
  | nil => exact .nil
  | succeed hfirst _ ih =>
    exact .succeed hfirst (ih fun target htarget => himp target (List.mem_cons_of_mem _ htarget))
  | fail hfirst hreport _ ih =>
    exact .fail hfirst (himp _ List.mem_cons_self _ _ _ hfirst hreport)
      (ih fun target htarget => himp target (List.mem_cons_of_mem _ htarget))

/-- The one parameter that cannot be bound is the one that is reported. -/
theorem Attempts.exists_of_error (h : t.Attempts params report [target] d bound faults)
    (herror : t.assignment target.1 params target.2 = .error e) :
    ∃ fault, faults = [fault] ∧ report target e fault := by
  have hattempt := attempt_of_error herror d
  cases h with
  | succeed hfirst _ =>
    rw [hattempt] at hfirst
    cases hfirst
  | fail hfirst hreport hrest =>
    rw [hattempt] at hfirst
    cases hfirst
    cases hrest
    exact ⟨_, rfl, hreport⟩

/-- A single text that does not convert has the wrong type. -/
theorem PathConversion.of_report {i : Nat} {name text : String} (hname : name ∈ t.paramFields)
    (htext : params.valuesOf? (toString i) = some [text])
    (hattempt : t.attempt d name params (toString i) = (.error e, d))
    (hreport : PathReport book params (name, toString i) e fault) :
    t.PathConversion book params (name, toString i) e fault := by
  obtain ⟨j, hj, hfault⟩ := hreport
  obtain rfl : i = j := Nat.repr_inj.1 hj
  obtain ⟨f, hf, hrefuses⟩ := refuses_of_assignment hname htext (List.cons_ne_nil _ _)
    (attempt_eq_error_iff.1 hattempt).1
  have hstring : params.string (toString i) = .ok text := by
    rw [Params.string, htext]
    rfl
  cases hrefuses with
  | notAList _ _ hmany => exact absurd hmany (by simp)
  | @wrongType type _ raw htype hraw hread =>
    obtain rfl := List.mem_singleton.1 hraw
    simp only [BodyBinding.pathFault, Logged.value_bind, Logged.value_pure, hstring] at hfault
    rw [← hfault]
    exact .wrongType hf htext (.wrongType htype hraw hread)

theorem PathConversion.fields (h : t.PathConversion book params target e fault) :
    fault.phase = .pathBind ∧ fault.targetField = some target.1 ∧ ∃ i text,
      target.2 = toString i ∧ params.valuesOf? target.2 = some [text] ∧ fault.value = some text ∧
      fault.position = some i := by
  cases h with
  | wrongType _ htext _ => exact ⟨rfl, rfl, _, _, rfl, htext, rfl, rfl⟩

theorem QueryConversion.of_report {name param : String} (hmade : params.Made)
    (hname : name ∈ t.paramFields) (hgiven : params.contains param = true)
    (hattempt : t.attempt d name params param = (.error e, d))
    (hreport : QueryReport book params (name, param) e fault) :
    t.QueryConversion book params (name, param) e fault := by
  obtain ⟨event, args, hevent, hfault⟩ := hreport
  obtain ⟨raws, hraws⟩ := Option.isSome_iff_exists.1 hgiven
  obtain ⟨f, hf, hrefuses⟩ := refuses_of_assignment hname hraws (hmade.ne_nil hraws)
    (attempt_eq_error_iff.1 hattempt).1
  simp only [BodyBinding.queryFault, Logged.value_bind, Logged.value_pure, hraws] at hfault
  cases hrefuses with
  | wrongType htype hraw hread =>
    obtain ⟨rfl, rfl⟩ := Prod.mk.inj (Option.some.inj hevent)
    rw [← hfault]
    exact .wrongType hf hraws (.wrongType htype hraw hread)
  | notAList htype harity hmany =>
    obtain ⟨rfl, rfl⟩ := Prod.mk.inj (Option.some.inj hevent)
    rw [← hfault]
    exact .notAList hf hraws (.notAList htype harity hmany)

end RecordType

namespace Handler

/-! ## What the stages do -/

/-- A stage binds parameters to the body of a request, if it has one: every failure is reported,
    and the request is rejected if there are any. -/
structure BindsBody (h : Handler Datum) (t : RecordType) (params : Params)
    (report : String × String → BindError → Fault → Prop) (targets : List (String × String))
    (p : Progress Datum) (result : Progress Datum × Option Stop) : Prop where
  bodiless : p.request.body = none → result.2 = none ∧ result.1.request.body = none
  bound : ∀ d, p.request.body = some d → ∃ bound faults,
    t.Attempts params report targets d bound faults ∧ result.1.request.body = some bound ∧
      ((faults = [] ∧ result.2 = none) ∨ (faults ≠ [] ∧ h.RecordsFaults p faults result))

theorem BindsBody.of_nil {h : Handler Datum} {t : RecordType} {params : Params}
    {report : String × String → BindError → Fault → Prop} {p q : Progress Datum}
    (hbody : q.request.body = p.request.body) : h.BindsBody t params report [] p (q, none) where
  bodiless := fun hnone => ⟨rfl, hbody.trans hnone⟩
  bound := fun d hd => ⟨d, [], .nil, hbody.trans hd, .inl ⟨rfl, rfl⟩⟩

variable {β : Type} {h : Handler β} {p q : Progress β} {bind : ParamBinder β} {params : Params}
  {body bound : β} {faults : List Fault}

theorem bindParams_of_value (hvalue : (bind params body).value = .ok (bound, faults))
    (hresponse : q.response = p.response) :
    (h.bindParams bind params body q).value.1.request.body = some bound ∧
      ((faults = [] ∧ (h.bindParams bind params body q).value.2 = none) ∨
        (faults ≠ [] ∧ h.RecordsFaults p faults (h.bindParams bind params body q).value)) := by
  have hbind : (h.bindParams bind params body q).value =
      (h.rejectFaults (q.setBody bound) faults).value := by
    rw [bindParams]
    simp only [Logged.value_bind, hvalue]
  rw [hbind]
  by_cases hnil : faults = []
  · subst hnil
    exact ⟨rfl, .inl ⟨rfl, rfl⟩⟩
  · refine ⟨?_, .inr ⟨hnil, rejectFaults_records hnil hresponse⟩⟩
    rw [rejectFaults_of_ne hnil]
    rfl

theorem bindPath_of_none (context : RequestContext)
    (hnone : h.path.bind PathBinding.bind = none ∨ p.request.body = none) :
    ∃ q, q.request.body = p.request.body ∧ (h.stage context .bindPath p).value = (q, none) := by
  rw [Handler.stage, bindPath]
  cases hpath : h.path with
  | none => exact ⟨p, rfl, rfl⟩
  | some path =>
    simp only
    rw [hpath, Option.bind_some] at hnone
    split
    · rename_i bind body hbind hbody
      rcases hnone with hnone | hnone
      · rw [hbind] at hnone
        cases hnone
      · rw [hbody] at hnone
        cases hnone
    · refine ⟨_, ?_, rfl⟩
      rfl

theorem bindPath_of_some (context : RequestContext) {path : PathBinding β}
    (hpath : h.path = some path) (hbind : path.bind = some bind)
    (hbody : p.request.body = some body) :
    ∃ q, q.response = p.response ∧ (h.stage context .bindPath p).value =
      (h.bindParams bind (PathBinding.params path p.request.head.uri.path) body q).value := by
  rw [Handler.stage, bindPath]
  simp only [hpath, hbind, hbody]
  refine ⟨_, ?_, rfl⟩
  rfl

theorem bindQuery_of_none (context : RequestContext)
    (hnone : h.query = none ∨ p.request.body = none) :
    ∃ q, q.request.body = p.request.body ∧ (h.stage context .bindQuery p).value = (q, none) := by
  rw [Handler.stage, bindQuery]
  simp only
  split
  · refine ⟨_, ?_, rfl⟩
    rfl
  · rename_i bind hquery
    rcases hnone with hnone | hnone
    · rw [hquery] at hnone
      cases hnone
    · simp only [Progress.enter_request, hnone]
      refine ⟨_, ?_, rfl⟩
      rfl

theorem bindQuery_of_some (context : RequestContext) (hquery : h.query = some bind)
    (hbody : p.request.body = some body) :
    ∃ q, q.response = p.response ∧ (h.stage context .bindQuery p).value =
      (h.bindParams bind p.request.head.queryParams body q).value := by
  rw [Handler.stage, bindQuery]
  simp only [hquery, Progress.enter_request, hbody]
  refine ⟨_, ?_, rfl⟩
  rfl

end Handler

namespace HandlerSettings

variable {s : HandlerSettings Datum} {t : RecordType} {h : Handler Datum}
  {context : RequestContext} {p : Progress Datum}

/-- Texts of a path that cannot be bound do not convert. -/
theorem attempts_path (hbuild : s.build.value = .ok h)
    (hbinding : ∀ b, s.binding = some b → b = t.bodyBinding) (book : MessageBook) (path : String)
    (d : Datum) :
    t.Attempts (s.pathParams path) (t.PathConversion book (s.pathParams path)) (s.pathKeys path) d
      (t.bodyBinding.bindPath book (s.pathParams path) d).value.1
      (t.bodyBinding.bindPath book (s.pathParams path) d).value.2 := by
  obtain ⟨-, -, binding, hpath, -⟩ := build_eq_ok_iff.1 hbuild
  refine RecordType.Attempts.imp (RecordType.attempts_bindPathFrom d 0 (s.pathParams path).names)
    fun target htarget d e fault hattempt hreport => ?_
  obtain ⟨⟨name, i⟩, hmem, rfl⟩ := List.mem_map.1 htarget
  cases hgroups : s.captures? path with
  | none => simp [pathParams, hgroups, Params.empty] at hmem
  | some groups =>
    have hkey : (name, toString i) ∈ s.pathKeys path := htarget
    rw [pathKeys_of_captures hpath hgroups] at hkey
    obtain ⟨⟨other, j⟩, hother, heq⟩ := List.mem_map.1 hkey
    obtain ⟨rfl, hj⟩ := Prod.mk.inj heq
    obtain rfl : j = i := Nat.repr_inj.1 hj
    have hname : s.pathTargets[j]? = some other := List.mk_mem_zipIdx_iff_getElem?.1 hother
    obtain ⟨group, -, -, htext⟩ := pathTarget_spec hpath hgroups hname
    have hfield := mem_bindableFields_of_build hbuild
      (List.mem_append_left _ (List.mem_of_getElem? hname))
    exact .of_report (bindableFields_subset hbinding hfield).2 htext hattempt hreport

/-- The stage at which the path is bound meets failures to convert only. -/
theorem bindPath_bindsBody (hbuild : s.build.value = .ok h)
    (hbinding : ∀ b, s.binding = some b → b = t.bodyBinding) :
    h.BindsBody t (s.pathParams p.request.head.uri.path)
      (t.PathConversion h.book (s.pathParams p.request.head.uri.path))
      (s.pathKeys p.request.head.uri.path) p (h.stage context .bindPath p).value := by
  have hattempts := attempts_path hbuild hbinding h.book p.request.head.uri.path
  have hfields : ∀ field, field ∈ s.pathTargets ++ s.queryTargets.map Prod.fst →
      field ∈ s.bindableFields := fun _ => mem_bindableFields_of_build hbuild
  obtain ⟨-, -, binding, hpath, rfl⟩ := build_eq_ok_iff.1 hbuild
  have hnothing : s.pathTargets = [] → (s.assemble binding).path.bind PathBinding.bind = none := by
    intro hnil
    rcases pathBinding_cases hpath with ⟨rfl, -, -⟩ | ⟨b, rfl, -, -, -, -, hbind⟩
    · rfl
    · rw [if_pos (by simp [hnil])] at hbind
      exact hbind
  by_cases hnil : s.pathTargets = []
  · obtain ⟨q, hbody, hstep⟩ := Handler.bindPath_of_none (p := p) context
      (.inl (hnothing hnil))
    rw [pathKeys_of_no_targets hnil, hstep]
    exact .of_nil hbody
  · obtain ⟨field, hfield⟩ := List.exists_mem_of_ne_nil _ hnil
    have hrecord := bindableFields_subset hbinding (hfields field (List.mem_append_left _ hfield))
    rcases pathBinding_cases hpath with
      ⟨-, -, htargets⟩ | ⟨b, rfl, hpattern, hprogram, htargets, -, hbind⟩
    · exact absurd htargets hnil
    · rw [if_neg (by simpa using hnil), hrecord.1, Option.map_some] at hbind
      refine ⟨fun hnone => ?_, fun d hd => ?_⟩
      · obtain ⟨q, hbody, hstep⟩ := Handler.bindPath_of_none (h := s.assemble (some b))
          context (.inr hnone)
        rw [hstep]
        exact ⟨rfl, hbody.trans hnone⟩
      · obtain ⟨q, hresponse, hstep⟩ := Handler.bindPath_of_some (h := s.assemble (some b))
          context rfl hbind hd
        rw [hstep, params_eq_pathParams hpattern hprogram htargets]
        exact ⟨_, _, hattempts d, Handler.bindParams_of_value rfl hresponse⟩

/-- Query parameters that cannot be bound do not convert. -/
theorem attempts_query (hbuild : s.build.value = .ok h)
    (hbinding : ∀ b, s.binding = some b → b = t.bodyBinding) (book : MessageBook)
    (head : RequestHead) (d : Datum) :
    t.Attempts head.queryParams (t.QueryConversion book head.queryParams) (s.givenTargets head) d
      (t.bodyBinding.bindQuery book head.queryParams d s.effectiveQueryTargets).value.1
      (t.bodyBinding.bindQuery book head.queryParams d s.effectiveQueryTargets).value.2 := by
  have hmade : head.queryParams.Made := .pairs _
  refine RecordType.Attempts.imp (RecordType.attempts_bindQuery hmade d s.effectiveQueryTargets)
    fun target htarget d e fault hattempt hreport => ?_
  obtain ⟨heffective, hgiven⟩ := List.mem_filter.1 htarget
  have hfield := mem_bindableFields_of_effective hbuild heffective
  exact .of_report hmade (bindableFields_subset hbinding hfield).2 hgiven hattempt hreport

/-- The stage at which the query is bound meets failures to convert only. -/
theorem bindQuery_bindsBody (hbuild : s.build.value = .ok h)
    (hbinding : ∀ b, s.binding = some b → b = t.bodyBinding) :
    h.BindsBody t p.request.head.queryParams
      (t.QueryConversion h.book p.request.head.queryParams) (s.givenTargets p.request.head) p
      (h.stage context .bindQuery p).value := by
  have hattempts := attempts_query hbuild hbinding h.book p.request.head
  have hfields : ∀ target ∈ s.effectiveQueryTargets, target.1 ∈ s.bindableFields :=
    fun _ => mem_bindableFields_of_effective hbuild
  obtain ⟨-, -, binding, hpath, rfl⟩ := build_eq_ok_iff.1 hbuild
  by_cases hnil : s.effectiveQueryTargets = []
  · have hquery : s.queryBinding = none := by
      rw [queryBinding]
      cases s.binding <;> simp [hnil]
    obtain ⟨q, hbody, hstep⟩ := Handler.bindQuery_of_none (h := s.assemble binding) (p := p)
      context (.inl hquery)
    rw [givenTargets, hnil, hstep]
    exact .of_nil hbody
  · obtain ⟨target, htarget⟩ := List.exists_mem_of_ne_nil _ hnil
    have hrecord := bindableFields_subset hbinding (hfields target htarget)
    obtain ⟨hempty, -⟩ | hquery := queryBinding_cases hrecord.1
    · exact absurd hempty hnil
    · refine ⟨fun hnone => ?_, fun d hd => ?_⟩
      · obtain ⟨q, hbody, hstep⟩ := Handler.bindQuery_of_none (h := s.assemble binding)
          context (.inr hnone)
        rw [hstep]
        exact ⟨rfl, hbody.trans hnone⟩
      · obtain ⟨q, hresponse, hstep⟩ := Handler.bindQuery_of_some (h := s.assemble binding)
          context hquery hd
        rw [hstep]
        exact ⟨_, _, hattempts d, Handler.bindParams_of_value rfl hresponse⟩

/-- Settings that ask for something that cannot be bound are refused.  In a handler that is built
    every target of a path that matches has the text captured by the group at its own position, and
    what cannot be bound, from a path or from a query, does not convert to the type of its field.
    So the wording for parameters that are for no field makes no difference to any request. -/
theorem build_binds_by_conversion :
    (∀ (β : Type) (s : HandlerSettings β), s.Unbindable → ∃ e, s.build.value = .error e) ∧
    ∀ (s : HandlerSettings Datum) (t : RecordType) (h : Handler Datum),
      (∀ b, s.binding = some b → b = t.bodyBinding) → s.build.value = .ok h →
      (∀ (path : String) (groups : List (Option String)), s.captures? path = some groups →
        (s.pathKeys path).length = s.pathTargets.length ∧
        ∀ (i : Nat) (name : String), s.pathTargets[i]? = some name →
          ∃ group : Option String, groups[i]? = some group ∧
            (s.pathKeys path)[i]? = some (name, toString i) ∧
            (s.pathParams path).valuesOf? (toString i) = some [group.getD ""]) ∧
      (∀ context p, h.BindsBody t (s.pathParams p.request.head.uri.path)
        (t.PathConversion h.book (s.pathParams p.request.head.uri.path))
        (s.pathKeys p.request.head.uri.path) p (h.stage context .bindPath p).value) ∧
      (∀ context p, h.BindsBody t p.request.head.queryParams
        (t.QueryConversion h.book p.request.head.queryParams) (s.givenTargets p.request.head) p
        (h.stage context .bindQuery p).value) ∧
      ∀ w, (s.rewording w).build.value = .ok (h.rewording w) ∧ (h.rewording w).serve = h.serve := by
  refine ⟨fun _ _ hs => hs.refused, fun s t h hbinding hbuild => ⟨fun path groups hgroups => ?_,
    fun context p => bindPath_bindsBody hbuild hbinding,
    fun context p => bindQuery_bindsBody hbuild hbinding,
    fun w => ⟨build_rewording hbuild hbinding w, h.serve_rewording w⟩⟩⟩
  obtain ⟨-, -, binding, hpath, -⟩ := build_eq_ok_iff.1 hbuild
  refine ⟨?_, fun i name hname => pathTarget_spec hpath hgroups hname⟩
  rw [pathKeys_of_captures hpath hgroups]
  simp

/-- A request for a list of items with a limit that is no number. -/
def wordLimit : Progress Datum :=
  (listingHandler.start ⟨"GET", ⟨"/items/x", none⟩, []⟩ []).setBody blankItem

/-- A note cannot be bound, and a limit that is no number is reported as such. -/
theorem build_binds_by_conversion_listing :
    (∃ e, ({ listing with pathTargets := ["note"] } : HandlerSettings Datum).build.value =
      .error e) ∧
    ∃ fault : Fault, fault.phase = .pathBind ∧ fault.targetField = some "limit" ∧
      fault.value = some "x" ∧ fault.position = some 0 ∧
      listingHandler.RecordsFaults wordLimit [fault]
        (listingHandler.stage (.new .nil) .bindPath wordLimit).value := by
  have hbinding : ∀ b, listing.binding = some b → b = item.bodyBinding :=
    fun b hb => (Option.some.inj hb).symm
  obtain ⟨hrefused, haccepted⟩ := build_binds_by_conversion
  obtain ⟨htexts, hpath, -, -⟩ := haccepted listing item _ hbinding build_listing
  refine ⟨hrefused _ _ (.unknownField (List.mem_append_left _ List.mem_cons_self) (by decide)), ?_⟩
  have hgroups : listing.captures? "/items/x" = some [some "x"] := by cbv
  obtain ⟨hlength, hnames⟩ := htexts _ _ hgroups
  obtain ⟨_, hgroup, hkey, htext⟩ := hnames 0 "limit" rfl
  obtain rfl := Option.some.inj hgroup
  obtain ⟨key, hkeys⟩ := List.length_eq_one_iff.1 hlength
  obtain rfl : key = ("limit", toString 0) := by simpa [hkeys] using hkey
  obtain ⟨bound, faults, hattempts, -, hresult⟩ := (hpath (.new .nil) wordLimit).bound blankItem rfl
  rw [show wordLimit.request.head.uri.path = "/items/x" from rfl, hkeys] at hattempts
  have hfails : item.assignment "limit" (listing.pathParams "/items/x") (toString 0) =
      .error (.wrongType "x" "an integer") := by cbv
  obtain ⟨fault, rfl, hreport⟩ := hattempts.exists_of_error hfails
  obtain ⟨hphase, htarget, i, text, hi, htext', hvalue, hposition⟩ := hreport.fields
  obtain rfl : 0 = i := Nat.repr_inj.1 hi
  obtain rfl := List.singleton_inj.1 (Option.some.inj (htext.symm.trans htext'))
  refine ⟨fault, hphase, htarget, hvalue, hposition, ?_⟩
  rcases hresult with ⟨hnil, -⟩ | ⟨-, hrecords⟩
  · cases hnil
  · exact hrecords

end HandlerSettings

end Endpoint
