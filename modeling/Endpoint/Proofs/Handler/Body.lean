import Endpoint.Proofs.Handler.Outcome

/-!
# What becomes of the body of a request

A request is read and bound in the stages before its validation.  Each of these stages changes
the body in one way only, if the request goes on from it at all.
-/

namespace Endpoint

namespace Handler

variable {β : Type} {h : Handler β} {context : RequestContext} {start p p' q : Progress β}

/-! ## The stages one by one -/

/-- Nothing of a request is changed but the caller it comes from. -/
theorem Passes.identified (hpasses : h.Passes context .identify p p') :
    ∃ identity, p'.request = { p.request with identity := identity } := by
  have hrequest := hpasses.request
  simp only [GivesRequest] at hrequest
  split at hrequest
  · exact ⟨p.request.identity, hrequest⟩
  · obtain ⟨identity, -, hidentity⟩ := hrequest
    exact ⟨identity, hidentity⟩

/-- The body is the target that the logic makes. -/
theorem Passes.target {make : RequestContext → Logged (Except Panic β)}
    (hmake : h.logic.unmarshalTarget = some make) (hpasses : h.Passes context .makeTarget p p') :
    ∃ target, (make context).value = .ok target ∧
      p'.request = { p.request with body := some target } := by
  have hrequest := hpasses.request
  simpa only [GivesRequest, hmake] using hrequest

/-- The body is what is read into the target. -/
theorem Passes.read {reader : Unmarshaller β} {target : β} (hreader : h.reader = some reader)
    (hbody : p.request.body = some target) (hpasses : h.Passes context .unmarshal p p') :
    ∃ body, (reader context p.request.rawBody target).value = .ok (.ok body) ∧
      p'.request = { p.request with body := some body } := by
  have hrequest := hpasses.request
  simpa only [GivesRequest, hreader, hbody] using hrequest

/-- Binding gives a body again, the one before if there is no binder. -/
theorem Binds.exists_bound {bind : Option (ParamBinder β)} {params : Params} {body : β}
    {bound : Option β} (hbinds : Binds bind params (some body) bound) :
    ∃ value, bound = some value ∧
      (∀ f, bind = some f → (f params body).value = .ok (value, [])) ∧
      (bind = none → value = body) := by
  unfold Binds at hbinds
  cases bind with
  | none => exact ⟨body, hbinds, by simp, fun _ => rfl⟩
  | some f =>
    obtain ⟨value, hvalue, rfl⟩ := hbinds
    refine ⟨value, rfl, ?_, by simp⟩
    rintro _ ⟨⟩
    exact hvalue

/-- The texts captured from the path are bound to the body, if there are targets for them. -/
theorem Passes.boundPath {body : β} (hbody : p.request.body = some body)
    (hpasses : h.Passes context .bindPath p p') :
    ∃ bound, p'.request.body = some bound ∧ p'.request.head = p.request.head ∧
      (∀ path bind, h.path = some path → path.bind = some bind →
        (bind (PathBinding.params path p.request.head.uri.path) body).value = .ok (bound, [])) ∧
      (h.path.bind PathBinding.bind = none → bound = body) := by
  have hrequest := hpasses.request
  simp only [GivesRequest] at hrequest
  cases hpath : h.path with
  | none =>
    simp only [hpath] at hrequest
    exact ⟨body, hrequest ▸ hbody, by rw [hrequest], by simp, fun _ => rfl⟩
  | some path =>
    simp only [hpath, hbody] at hrequest
    obtain ⟨bound, hbinds, hrequest⟩ := hrequest
    obtain ⟨value, rfl, hsome, hnone⟩ := hbinds.exists_bound
    refine ⟨value, by rw [hrequest], by rw [hrequest], ?_, hnone⟩
    rintro _ bind ⟨⟩ hbind
    exact hsome bind hbind

/-- The parameters of the query are bound to the body, if there are targets for them. -/
theorem Passes.boundQuery {body : β} (hbody : p.request.body = some body)
    (hpasses : h.Passes context .bindQuery p p') :
    ∃ bound, p'.request.body = some bound ∧
      (∀ bind, h.query = some bind →
        (bind (.ofQuery (p.request.head.uri.query.getD "")) body).value = .ok (bound, [])) ∧
      (h.query = none → bound = body) := by
  obtain ⟨bound, hbinds, hrequest⟩ := hpasses.request
  rw [hbody] at hbinds
  obtain ⟨value, rfl, hsome, hnone⟩ := hbinds.exists_bound
  exact ⟨value, by rw [hrequest], hsome, hnone⟩

/-! ## From stage to stage -/

/-- A request that is not stopped comes to every stage. -/
theorem exists_arrives_of_run (hrun : (h.runStages context Stage.all start).value.2 = none)
    (stage : Stage) : ∃ p, h.Arrives context start stage p := by
  have hfirst : h.Reaches context start Stage.all start := .start
  rcases hfirst.ends with ⟨p, hp⟩ | ⟨_, p, p', stop, hp, hstop⟩
  · obtain ⟨q, -, hq, -⟩ := hp.passed (by simp : stage ∉ [])
    exact ⟨q, hq⟩
  · simp [hp.run_of_stop hstop] at hrun

/-- When a request comes to its bindings, its body has been read into the target. -/
theorem Arrives.body_read {make : RequestContext → Logged (Except Panic β)}
    {reader : Unmarshaller β} (hmake : h.logic.unmarshalTarget = some make)
    (hreader : h.reader = some reader) (hp : h.Arrives context start .bindPath p) :
    ∃ target body, (make context).value = .ok target ∧
      (reader context start.request.rawBody target).value = .ok (.ok body) ∧
      p.request.body = some body ∧ p.request.head = start.request.head := by
  obtain ⟨p₅, hp₅, hunmarshal⟩ := hp.exists_previous .unmarshal rfl
  obtain ⟨p₄, hp₄, htarget⟩ := hp₅.exists_previous .makeTarget rfl
  obtain ⟨p₃, hp₃, haccess⟩ := hp₄.exists_previous .access rfl
  obtain ⟨p₂, hp₂, hauthenticate⟩ := hp₃.exists_previous .authenticate rfl
  obtain ⟨p₁, hp₁, hidentify⟩ := hp₂.exists_previous .identify rfl
  obtain rfl : p₁ = start := hp₁.unique .start
  obtain ⟨identity, hidentity⟩ := hidentify.identified
  have hrequest : p₃.request = p₂.request := hauthenticate.request
  have hrequest' : p₄.request = p₃.request := haccess.request
  obtain ⟨target, hmade, hset⟩ := htarget.target hmake
  obtain ⟨body, hread, hbody⟩ := hunmarshal.read hreader (by rw [hset])
  rw [hrequest', hrequest, hidentity] at hset
  refine ⟨target, body, hmade, ?_, by rw [hbody], ?_⟩
  · rwa [hset] at hread
  · rw [hbody, hset]

/-- When a request comes to its validation, the parameters of the path and then those of the
    query have been bound to its body. -/
theorem Arrives.body_bound {make : RequestContext → Logged (Except Panic β)}
    {reader : Unmarshaller β} (hmake : h.logic.unmarshalTarget = some make)
    (hreader : h.reader = some reader) (hp : h.Arrives context start .preValidate p) :
    ∃ target base middle bound, (make context).value = .ok target ∧
      (reader context start.request.rawBody target).value = .ok (.ok base) ∧
      (∀ path bind, h.path = some path → path.bind = some bind →
        (bind (PathBinding.params path start.request.head.uri.path) base).value =
          .ok (middle, [])) ∧
      (h.path.bind PathBinding.bind = none → middle = base) ∧
      (∀ bind, h.query = some bind →
        (bind (.ofQuery (start.request.head.uri.query.getD "")) middle).value =
          .ok (bound, [])) ∧
      (h.query = none → bound = middle) ∧ p.request.body = some bound := by
  obtain ⟨p₂, hp₂, hquery⟩ := hp.exists_previous .bindQuery rfl
  obtain ⟨p₁, hp₁, hpath⟩ := hp₂.exists_previous .bindPath rfl
  obtain ⟨target, base, hmade, hread, hbase, hhead⟩ := hp₁.body_read hmake hreader
  obtain ⟨middle, hmiddle, hhead', hbindPath, hnoPath⟩ := hpath.boundPath hbase
  obtain ⟨bound, hbound, hbindQuery, hnoQuery⟩ := hquery.boundQuery hmiddle
  rw [hhead] at hbindPath
  rw [hhead', hhead] at hbindQuery
  exact ⟨target, base, middle, bound, hmade, hread, hbindPath, hnoPath, hbindQuery, hnoQuery,
    hbound⟩

end Handler

end Endpoint
