import Endpoint.Handler.Builder
import Endpoint.Proofs.Handler.Body
import Endpoint.Proofs.Request.Binding
import Mathlib

/-!
# Where the fields of a body come from

A body is read from JSON, and then parameters of the path and of the query are bound to it, each
binding overwriting what was there.  `Supplies` says which of them a field has its value from,
without saying in which order they were bound.
-/

namespace Endpoint

theorem Program.length_captures {p : Program} {text : String} {groups : List (Option String)}
    (h : p.captures? text = some groups) : groups.length = p.groups := by
  obtain ⟨marks, -, rfl⟩ := Option.map_eq_some_iff.1 h
  simp

/-- The parameters of the query of a request. -/
def RequestHead.queryPairs (head : RequestHead) : List (String × String) :=
  Query.pairs (head.uri.query.getD "")

def RequestHead.queryParams (head : RequestHead) : Params := .ofQuery (head.uri.query.getD "")

/-- A query target is for the field known by a name, and its parameter is given. -/
def RequestHead.Supplied (head : RequestHead) (name : String) (target : String × String) : Prop :=
  target.1 = name ∧ ∃ value, (target.2, value) ∈ head.queryPairs

theorem RequestHead.contains_iff {head : RequestHead} {param : String} :
    head.queryParams.contains param = true ↔ ∃ value, (param, value) ∈ head.queryPairs := by
  rw [queryParams, Params.ofQuery, Params.contains_ofPairs_iff]
  constructor
  · intro hne
    obtain ⟨value, hvalue⟩ := List.exists_mem_of_ne_nil _ hne
    exact ⟨value, Params.mem_given_iff.1 hvalue⟩
  · rintro ⟨value, hvalue⟩
    exact List.ne_nil_of_mem (Params.mem_given_iff.2 hvalue)

theorem RequestHead.eq_given_of_valuesOf? {head : RequestHead} {param : String}
    {raws : List String} (h : head.queryParams.valuesOf? param = some raws) :
    raws = Params.given head.queryPairs param ∧ raws ≠ [] := by
  rw [queryParams, Params.ofQuery, Params.valuesOf?_ofPairs] at h
  split at h
  · simp at h
  · rename_i hne
    obtain rfl := Option.some.inj h
    exact ⟨rfl, hne⟩

namespace HandlerSettings

section

variable {β : Type} {s : HandlerSettings β}

/-! ## Query targets -/

/-- Targets by name are added for the fields that have none, in order. -/
theorem foldl_addTargetByName (targets : List (String × String)) (fields : List String) :
    ∃ added : List String,
      fields.foldl addTargetByName targets = targets ++ added.map (fun g => (g, g)) ∧
      added.Nodup ∧ added.Sublist fields ∧
      ∀ g, g ∈ added ↔ g ∈ fields ∧ g ∉ targets.map Prod.fst := by
  induction fields generalizing targets with
  | nil => exact ⟨[], by simp, .nil, .refl _, by simp⟩
  | cons field rest ih =>
    rw [List.foldl_cons, addTargetByName]
    by_cases hfield : field ∈ targets.map Prod.fst
    · rw [if_pos (by simpa using hfield)]
      obtain ⟨added, heq, hnodup, hsub, hmem⟩ := ih targets
      refine ⟨added, heq, hnodup, hsub.cons field, ?_⟩
      intro g
      rw [hmem, List.mem_cons]
      constructor
      · rintro ⟨hg, hnot⟩
        exact ⟨.inr hg, hnot⟩
      · rintro ⟨rfl | hg, hnot⟩
        · exact absurd hfield hnot
        · exact ⟨hg, hnot⟩
    · rw [if_neg (by simpa using hfield)]
      obtain ⟨added, heq, hnodup, hsub, hmem⟩ := ih (targets ++ [(field, field)])
      have hnot : field ∉ added := by simp [hmem]
      refine ⟨field :: added, by simp [heq], hnodup.cons hnot, hsub.cons_cons field, ?_⟩
      intro g
      rw [List.mem_cons, hmem, List.mem_cons]
      by_cases hg : g = field
      · subst hg
        simpa using hfield
      · simp [hg]

/-- The fields that have a query target by name only. -/
structure AddedByName (s : HandlerSettings β) (added : List String) : Prop where
  nodup : added.Nodup
  sublist : added.Sublist s.bindableFields
  mem_iff : ∀ g, g ∈ added ↔
    s.autoBindQuery = true ∧ g ∈ s.bindableFields ∧ g ∉ s.queryTargets.map Prod.fst

/-- The query targets in effect are those given, and then those by name. -/
theorem effectiveQueryTargets_eq (s : HandlerSettings β) :
    ∃ added, s.AddedByName added ∧
      s.effectiveQueryTargets = s.queryTargets ++ added.map fun g => (g, g) := by
  rw [effectiveQueryTargets]
  by_cases hauto : s.autoBindQuery = true
  · obtain ⟨added, heq, hnodup, hsub, hmem⟩ :=
      foldl_addTargetByName s.queryTargets s.bindableFields
    exact ⟨added, ⟨hnodup, hsub, by simpa [hauto] using hmem⟩, by rw [if_pos hauto, heq]⟩
  · exact ⟨[], ⟨.nil, List.nil_sublist _, by simp [hauto]⟩, by simp [hauto]⟩

/-! ## Handlers that were built -/

/-- A handler is built from settings with a name, no unknown targets and a binding of the path. -/
theorem build_eq_ok_iff {h : Handler β} :
    s.build.value = .ok h ↔
      isBlankText s.name = false ∧ s.unknownTarget? = none ∧
        ∃ path, s.pathBinding = .ok path ∧ h = s.assemble path := by
  have hbuild : s.build.value = .ok h ↔ s.check = .ok h := by
    rw [build]
    cases s.check <;> simp
  rw [hbuild, check]
  cases isBlankText s.name with
  | true => simp
  | false =>
    cases s.unknownTarget? with
    | some field => simp
    | none =>
      simp only [Bool.false_eq_true, if_false, true_and, Except.map_eq_ok_iff]
      exact exists_congr fun path => and_congr_right fun _ => eq_comm

/-- What the path pattern captures from a path; none if it does not match. -/
def captures? (s : HandlerSettings β) (path : String) : Option (List (Option String)) :=
  s.pathPattern.bind fun pattern => (Program.ofText? pattern).bind (·.captures? path)

/-- The parameters of a path, by position. -/
def pathParams (s : HandlerSettings β) (path : String) : Params :=
  match s.captures? path with
  | some groups => .ofPath s.pathTargets (groups.map fun g => g.getD "")
  | none => .empty

/-- The targets of a path with the positions of their texts. -/
def pathKeys (s : HandlerSettings β) (path : String) : List (String × String) :=
  (s.pathParams path).names.zipIdx.map fun (field, i) => (field, toString i)

/-- The query targets whose parameters are given. -/
def givenTargets (s : HandlerSettings β) (head : RequestHead) : List (String × String) :=
  s.effectiveQueryTargets.filter fun (_, param) => head.queryParams.contains param

variable {binding : Option (PathBinding β)} {b : BodyBinding β} {path : String} {body bound : β}
  {groups : List (Option String)}

/-- Binds texts captured from the path to a body. -/
def pathBinder (s : HandlerSettings β) (b : BodyBinding β) : ParamBinder β := fun params body => do
  pure (.ok (← b.bindPath s.effectiveBook params body))

/-- A path binding that was built is for a pattern with a group for every target. -/
theorem pathBinding_cases (hbuild : s.pathBinding = .ok binding) :
    (binding = none ∧ s.pathPattern = none ∧ s.pathTargets = []) ∨
    ∃ p, binding = some p ∧ s.pathPattern = some p.pattern ∧
      Program.ofText? p.pattern = some p.program ∧ p.targets = s.pathTargets ∧
      s.pathTargets.length ≤ p.program.groups ∧
      p.bind = if s.pathTargets.isEmpty then none else s.binding.map s.pathBinder := by
  rw [pathBinding] at hbuild
  split at hbuild
  · rename_i hpattern
    split at hbuild
    · rename_i hempty
      exact .inl ⟨(Except.ok.inj hbuild).symm, hpattern, by simpa using hempty⟩
    · simp at hbuild
  · rename_i pattern hpattern
    split at hbuild
    · simp at hbuild
    · rename_i program hprogram
      split at hbuild
      · simp at hbuild
      · rename_i hle
        exact .inr ⟨_, (Except.ok.inj hbuild).symm, hpattern, hprogram, rfl, Nat.le_of_not_lt hle,
          rfl⟩

theorem captures?_eq {p : PathBinding β} (hpattern : s.pathPattern = some p.pattern)
    (hprogram : Program.ofText? p.pattern = some p.program) :
    s.captures? path = p.program.captures? path := by
  rw [captures?, hpattern, Option.bind_some, hprogram, Option.bind_some]

/-- A path binding files what is captured under the positions of its targets. -/
theorem params_eq_pathParams {p : PathBinding β} (hpattern : s.pathPattern = some p.pattern)
    (hprogram : Program.ofText? p.pattern = some p.program) (htargets : p.targets = s.pathTargets) :
    Handler.PathBinding.params p path = s.pathParams path := by
  have hcaptures : s.captures? path = p.program.captures? path := captures?_eq hpattern hprogram
  cases hgroups : p.program.captures? path with
  | none => simp only [Handler.PathBinding.params, pathParams, hcaptures, hgroups]
  | some groups =>
    simp only [Handler.PathBinding.params, pathParams, hcaptures, hgroups, htargets]

/-- Every target of the path has a text captured for it if the pattern matches. -/
theorem length_le_of_captures (hbuild : s.pathBinding = .ok binding)
    (hgroups : s.captures? path = some groups) : s.pathTargets.length ≤ groups.length := by
  rcases pathBinding_cases hbuild with ⟨-, -, hnil⟩ | ⟨p, -, hpattern, hprogram, -, hle, -⟩
  · simp [hnil]
  · rw [captures?_eq hpattern hprogram] at hgroups
    rwa [Program.length_captures hgroups]

theorem pathKeys_of_captures (hbuild : s.pathBinding = .ok binding)
    (hgroups : s.captures? path = some groups) :
    s.pathKeys path = s.pathTargets.zipIdx.map fun (field, i) => (field, toString i) := by
  have hnames : (s.pathParams path).names = s.pathTargets := by
    simp only [pathParams, hgroups, Params.ofPath]
    refine List.take_of_length_le ?_
    rw [List.length_map]
    exact length_le_of_captures hbuild hgroups
  rw [pathKeys, hnames]

theorem pathKeys_of_not_captures (hgroups : s.captures? path = none) : s.pathKeys path = [] := by
  simp [pathKeys, pathParams, hgroups, Params.empty]

theorem pathKeys_of_no_targets (htargets : s.pathTargets = []) : s.pathKeys path = [] := by
  rw [pathKeys, pathParams]
  split
  · simp [Params.ofPath, htargets]
  · rfl

/-- Binding the path binds each text that is captured to the target at its position. -/
theorem binds_path (hbinding : s.binding = some b) (hbuild : s.pathBinding = .ok binding)
    (hbind : ∀ p bind, binding = some p → p.bind = some bind →
      (bind (Handler.PathBinding.params p path) body).value = .ok (bound, []))
    (hnone : binding.bind PathBinding.bind = none → bound = body) :
    b.Binds (s.pathParams path) (s.pathKeys path) body bound := by
  rcases pathBinding_cases hbuild with
    ⟨rfl, hpattern, -⟩ | ⟨p, rfl, hpattern, hprogram, htargets, -, hb⟩
  · -- without a pattern nothing is captured
    obtain rfl := hnone rfl
    rw [pathKeys_of_not_captures (by rw [captures?, hpattern]; rfl)]
    exact .nil
  · by_cases hempty : s.pathTargets.isEmpty = true
    · obtain rfl := hnone (by simp [hb, hempty])
      rw [pathKeys_of_no_targets (List.isEmpty_iff.1 hempty)]
      exact .nil
    · rw [if_neg hempty, hbinding, Option.map_some] at hb
      have hvalue := hbind p _ rfl hb
      rw [params_eq_pathParams hpattern hprogram htargets] at hvalue
      exact BodyBinding.bindPathFrom_value_iff.1 (Except.ok.inj hvalue)

/-- Binds query parameters to a body. -/
def queryBinder (s : HandlerSettings β) (b : BodyBinding β) : ParamBinder β := fun params body => do
  pure (.ok (← b.bindQuery s.effectiveBook params body s.effectiveQueryTargets))

/-- Query parameters are bound if there are targets for them. -/
theorem queryBinding_cases (hbinding : s.binding = some b) :
    (s.effectiveQueryTargets = [] ∧ s.queryBinding = none) ∨
      s.queryBinding = some (s.queryBinder b) := by
  rw [queryBinding, hbinding]
  by_cases hempty : s.effectiveQueryTargets.isEmpty = true
  · exact .inl ⟨List.isEmpty_iff.1 hempty, by simp [hempty]⟩
  · refine .inr ?_
    simp only [hempty]
    rfl

end

/-! ## Bodies that are records -/

section

variable {s : HandlerSettings Datum} {t : RecordType} {head : RequestHead} {base middle d : Datum}
  {binding : Option (PathBinding Datum)} {f : Field} {name : String}

/-- Where a field known to parameters by a name has its value from: the last query target for
    it whose parameter is given; else the last path target for it, if the path matches; else the
    record that was read. -/
inductive Supplies (s : HandlerSettings Datum) (head : RequestHead) (base : Datum) (f : Field)
    (name : String) : Datum → Prop
  | query {i : Nat} {param : String} {v : Datum} :
      IsLast (head.Supplied name) s.effectiveQueryTargets i (name, param) →
      f.Converts (Params.given head.queryPairs param) v → Supplies s head base f name v
  | path {i : Nat} {groups : List (Option String)} {group : Option String} {v : Datum} :
      (∀ target ∈ s.effectiveQueryTargets, ¬ head.Supplied name target) →
      s.captures? head.uri.path = some groups → IsLast (· = name) s.pathTargets i name →
      groups[i]? = some group → f.Converts [group.getD ""] v → Supplies s head base f name v
  | body {v : Datum} :
      (∀ target ∈ s.effectiveQueryTargets, ¬ head.Supplied name target) →
      s.captures? head.uri.path = none ∨ name ∉ s.pathTargets →
      base.field? f.name = some v → Supplies s head base f name v

/-- Binding the query binds the parameters that are given. -/
theorem binds_query (hbinding : s.binding = some t.bodyBinding)
    (hbind : ∀ bind, s.queryBinding = some bind →
      (bind head.queryParams middle).value = .ok (d, []))
    (hnone : s.queryBinding = none → d = middle) :
    t.bodyBinding.Binds head.queryParams (s.givenTargets head) middle d := by
  rcases queryBinding_cases hbinding with ⟨hnil, hquery⟩ | hquery
  · obtain rfl := hnone hquery
    rw [givenTargets, hnil]
    exact .nil
  · refine (BodyBinding.bindQuery_value_iff ?_).1 (Except.ok.inj (hbind _ hquery))
    intro body field param hgiven
    obtain ⟨raws, hraws⟩ := Option.isSome_iff_exists.1 hgiven
    exact RecordType.bind_ne_missing hraws (RequestHead.eq_given_of_valuesOf? hraws).2

/-- A field holds the value of the last query target for it whose parameter is given. -/
theorem field?_of_query {i : Nat} {param : String} (hdistinct : t.DistinctFields)
    (hmiddle : t.HasFields middle) (hf : t.paramField? name = some f)
    (hbinds : t.bodyBinding.Binds head.queryParams (s.givenTargets head) middle d)
    (hlast : IsLast (head.Supplied name) s.effectiveQueryTargets i (name, param)) :
    ∃ v, d.field? f.name = some v ∧ f.Converts (Params.given head.queryPairs param) v := by
  obtain ⟨before, after, htargets, hafter⟩ := hlast.exists_append
  have hgiven := RequestHead.contains_iff.2 hlast.holds.2
  rw [givenTargets, htargets, List.filter_append, List.filter_cons, if_pos hgiven] at hbinds
  obtain ⟨raws, v, hraws, hconv, hv⟩ :=
    RecordType.field?_of_binds_last hdistinct hmiddle hbinds hf fun target htarget hname => by
      obtain ⟨hmem, hoccurs⟩ := List.mem_filter.1 htarget
      exact hafter target hmem ⟨hname, RequestHead.contains_iff.1 hoccurs⟩
  exact ⟨v, hv, (RequestHead.eq_given_of_valuesOf? hraws).1 ▸ hconv⟩

/-- A field is left alone by the query if no parameter is given for it. -/
theorem field?_of_no_query
    (hbinds : t.bodyBinding.Binds head.queryParams (s.givenTargets head) middle d)
    (hother : ∀ name, t.paramField? name = some f →
      ∀ target ∈ s.effectiveQueryTargets, ¬ head.Supplied name target)
    (hdistinct : t.DistinctFields) (hf : f ∈ t.fields) :
    d.field? f.name = middle.field? f.name := by
  refine RecordType.field?_of_binds hbinds ?_
  intro target htarget g hg hname
  obtain ⟨hmem, hoccurs⟩ := List.mem_filter.1 htarget
  have hsame := hdistinct.eq (RecordType.paramField?_eq_some hg).1 hf hname
  exact hother target.1 (hsame ▸ hg) target hmem ⟨rfl, RequestHead.contains_iff.1 hoccurs⟩

/-- A field holds the text captured for the last path target that is this field. -/
theorem field?_of_path {i : Nat} {groups : List (Option String)} {uri : String}
    (hdistinct : t.DistinctFields) (hbase : t.HasFields base) (hf : t.paramField? name = some f)
    (hbuild : s.pathBinding = .ok binding) (hgroups : s.captures? uri = some groups)
    (hbinds : t.bodyBinding.Binds (s.pathParams uri) (s.pathKeys uri) base middle)
    (hlast : IsLast (· = name) s.pathTargets i name) :
    ∃ group v, groups[i]? = some group ∧ middle.field? f.name = some v ∧
      f.Converts [group.getD ""] v := by
  rw [pathKeys_of_captures hbuild hgroups] at hbinds
  have hlast' : IsLast (fun target => target.1 = name)
      (s.pathTargets.zipIdx.map fun (field, i) => (field, toString i)) i (name, toString i) := by
    refine ⟨by simp [hlast.get], rfl, ?_⟩
    intro j target hj htarget
    simp only [List.getElem?_map, List.getElem?_zipIdx, Option.map_map,
      Option.map_eq_some_iff] at htarget
    obtain ⟨field, hfield, rfl⟩ := htarget
    exact hlast.later j field hj hfield
  obtain ⟨before, after, htargets, hafter⟩ := hlast'.exists_append
  rw [htargets] at hbinds
  obtain ⟨raws, v, hraws, hconv, hv⟩ :=
    RecordType.field?_of_binds_last hdistinct hbase hbinds hf hafter
  simp only [pathParams, hgroups, Params.valuesOf?_ofPath, List.getElem?_take] at hraws
  split at hraws
  · rw [List.getElem?_map, Option.map_map, Option.map_eq_some_iff] at hraws
    obtain ⟨group, hgroup, rfl⟩ := hraws
    exact ⟨group, v, hgroup, hv, hconv⟩
  · simp at hraws

/-- A field is left alone by the path if nothing is captured for it. -/
theorem field?_of_no_path {uri : String} (hbuild : s.pathBinding = .ok binding)
    (hbinds : t.bodyBinding.Binds (s.pathParams uri) (s.pathKeys uri) base middle)
    (hother : ∀ name, t.paramField? name = some f →
      s.captures? uri = none ∨ name ∉ s.pathTargets)
    (hdistinct : t.DistinctFields) (hf : f ∈ t.fields) :
    middle.field? f.name = base.field? f.name := by
  refine RecordType.field?_of_binds hbinds ?_
  intro target htarget g hg hname
  have hsame := hdistinct.eq (RecordType.paramField?_eq_some hg).1 hf hname
  cases hgroups : s.captures? uri with
  | none => simp [pathKeys_of_not_captures hgroups] at htarget
  | some groups =>
    rw [pathKeys_of_captures hbuild hgroups] at htarget
    obtain ⟨⟨field, i⟩, hmem, rfl⟩ := List.mem_map.1 htarget
    rcases hother field (hsame ▸ hg) with hnone | hnot
    · simp [hgroups] at hnone
    · exact hnot (List.fst_mem_of_mem_zipIdx hmem)

/-- A field that parameters may set has its value from where it is supplied. -/
theorem supplies_of_binds (hdistinct : t.DistinctFields) (hbase : t.HasFields base)
    (hbuild : s.pathBinding = .ok binding)
    (hpath : t.bodyBinding.Binds (s.pathParams head.uri.path) (s.pathKeys head.uri.path) base
      middle)
    (hquery : t.bodyBinding.Binds head.queryParams (s.givenTargets head) middle d)
    (hf : t.paramField? name = some f) :
    ∃ v, d.field? f.name = some v ∧ s.Supplies head base f name v := by
  have hmem := (RecordType.paramField?_eq_some hf).1
  have hsame : ∀ other, t.paramField? other = some f → other = name := fun other hother =>
    RecordType.paramField?_inj hdistinct hother hf rfl
  by_cases hgiven : ∃ target ∈ s.effectiveQueryTargets, head.Supplied name target
  · obtain ⟨target, htarget, hsupplied⟩ := hgiven
    obtain ⟨i, ⟨field, param⟩, hlast⟩ := IsLast.exists_of_mem htarget hsupplied
    obtain rfl : field = name := hlast.holds.1
    obtain ⟨v, hv, hconv⟩ := field?_of_query hdistinct (hbase.of_binds hpath) hf hquery hlast
    exact ⟨v, hv, .query hlast hconv⟩
  · have hnone : ∀ target ∈ s.effectiveQueryTargets, ¬ head.Supplied name target :=
      fun target htarget hsupplied => hgiven ⟨target, htarget, hsupplied⟩
    have hkept : d.field? f.name = middle.field? f.name :=
      field?_of_no_query hquery (fun other hother => hsame other hother ▸ hnone) hdistinct hmem
    rw [hkept]
    by_cases hcaptured :
        ∃ groups, s.captures? head.uri.path = some groups ∧ name ∈ s.pathTargets
    · obtain ⟨groups, hgroups, htarget⟩ := hcaptured
      obtain ⟨i, other, hlast⟩ : ∃ i other, IsLast (· = name) s.pathTargets i other :=
        IsLast.exists_of_mem htarget rfl
      obtain rfl : other = name := hlast.holds
      obtain ⟨group, v, hgroup, hv, hconv⟩ :=
        field?_of_path hdistinct hbase hf hbuild hgroups hpath hlast
      exact ⟨v, hv, .path hnone hgroups hlast hgroup hconv⟩
    · have huncaptured : s.captures? head.uri.path = none ∨ name ∉ s.pathTargets := by
        cases hgroups : s.captures? head.uri.path with
        | none => exact .inl rfl
        | some groups => exact .inr fun htarget => hcaptured ⟨groups, hgroups, htarget⟩
      rw [field?_of_no_path hbuild hpath (fun other hother => hsame other hother ▸ huncaptured)
        hdistinct hmem]
      obtain ⟨v, hv⟩ := Option.isSome_iff_exists.1 (hbase f hmem)
      exact ⟨v, hv, .body hnone huncaptured hv⟩

/-- A field that parameters cannot set has its value from the record that was read. -/
theorem field?_of_not_bindable (hdistinct : t.DistinctFields) (hbuild : s.pathBinding = .ok binding)
    (hpath : t.bodyBinding.Binds (s.pathParams head.uri.path) (s.pathKeys head.uri.path) base
      middle)
    (hquery : t.bodyBinding.Binds head.queryParams (s.givenTargets head) middle d)
    (hf : f ∈ t.fields) (hnot : ∀ name, t.paramField? name ≠ some f) :
    d.field? f.name = base.field? f.name := by
  rw [field?_of_no_query hquery (fun name hname => absurd hname (hnot name)) hdistinct hf,
    field?_of_no_path hbuild hpath (fun name hname => absurd hname (hnot name)) hdistinct hf]

/-- The record that the parameters are bound to: the target itself if the raw body is blank, and
    otherwise what the raw body says. -/
structure ReadInto (t : RecordType) (rawBody : List UInt8) (target base : Datum) : Prop where
  blank : rawBody.all isBlankBodyByte = true → base = target
  read : rawBody.all isBlankBodyByte = false → (Document.read? rawBody).bind t.decode = some base

theorem readInto_of_jsonBody {rawBody : List UInt8} {target : Datum}
    (h : Endpoint.jsonBody t.decode rawBody target = .ok base) :
    ReadInto t rawBody target base := by
  rw [Endpoint.jsonBody] at h
  split at h
  · rename_i hblank
    exact ⟨fun _ => (Except.ok.inj h).symm, by simp [hblank]⟩
  · rename_i hblank
    refine ⟨fun h' => absurd h' hblank, fun _ => ?_⟩
    split at h
    · rename_i body hbody
      rw [hbody, Except.ok.inj h]
    · simp at h

theorem ReadInto.hasFields {rawBody : List UInt8} {target : Datum}
    (h : ReadInto t rawBody target base) (htarget : t.HasFields target) : t.HasFields base := by
  cases hblank : rawBody.all isBlankBodyByte with
  | true => exact h.blank hblank ▸ htarget
  | false =>
    obtain ⟨x, -, hx⟩ := Option.bind_eq_some_iff.1 (h.read hblank)
    exact .of_decode hx

/-- When a request comes to its validation, every field of its body that parameters may set holds
    the value of the last query target whose parameter is given, else of the last path target, else
    of the record that was read; the other fields always hold the latter.  The query targets are
    those that were asked for, and then those by name. -/
theorem body_fields_supplied {h : Handler Datum} {context : RequestContext}
    {make : RequestContext → Logged (Except Panic Datum)} {rawBody : List UInt8}
    {p : Progress Datum} (hbuild : s.build.value = .ok h)
    (hbinding : s.binding = some t.bodyBinding)
    (hreader : s.reader = (s.jsonBody t.decode).reader)
    (hmake : s.logic.unmarshalTarget = some make) (hdistinct : t.DistinctFields)
    (htarget : ∀ target, (make context).value = .ok target → t.HasFields target)
    (hp : h.Arrives context (h.start head rawBody) .preValidate p) :
    (∃ added, s.AddedByName added ∧
      s.effectiveQueryTargets = s.queryTargets ++ added.map fun g => (g, g)) ∧
    (∀ g, g ∈ s.bindableFields ↔ ∃ f, t.paramField? g = some f) ∧
    ∃ target base d, (make context).value = .ok target ∧ ReadInto t rawBody target base ∧
      p.request.body = some d ∧
      (∀ f name, t.paramField? name = some f →
        ∃ v, d.field? f.name = some v ∧ s.Supplies head base f name v) ∧
      ∀ f ∈ t.fields, (∀ name, t.paramField? name ≠ some f) →
        d.field? f.name = base.field? f.name := by
  have hfieldNames : s.bindableFields = t.paramFields := by
    rw [bindableFields, hbinding]
    rfl
  refine ⟨s.effectiveQueryTargets_eq, fun g => hfieldNames ▸ RecordType.mem_paramFields_iff, ?_⟩
  obtain ⟨-, -, binding, hpathBinding, rfl⟩ := build_eq_ok_iff.1 hbuild
  obtain ⟨target, base, middle, d, hmade, hread, hbindPath, hnoPath, hbindQuery, hnoQuery, hd⟩ :=
    hp.body_bound hmake hreader
  have hbase := readInto_of_jsonBody (Except.ok.inj hread)
  have hfields := hbase.hasFields (htarget target hmade)
  have hpath := binds_path hbinding hpathBinding hbindPath hnoPath
  have hquery := binds_query hbinding hbindQuery hnoQuery
  refine ⟨target, base, d, hmade, hbase, hd, ?_, ?_⟩
  · intro f name hf
    exact supplies_of_binds hdistinct hfields hpathBinding hpath hquery hf
  · intro f hf hnot
    exact field?_of_not_bindable hdistinct hpathBinding hpath hquery hf hnot

end

/-! ## A listing with a limit -/

/-- A record with a limit that parameters may set, and a note that they may not. -/
def item : RecordType :=
  ⟨⟨[("Item", [.bindable "limit" (.one (.signed 32)), .hidden "note" (.one .text)])]⟩, "Item"⟩

def blankItem : Datum := .record [("limit", .scalar (.int 0)), ("note", .scalar (.text ""))]

/-- The limit is taken from the end of the path, and by its name from the query. -/
def listing : HandlerSettings Datum :=
  let logic : Logic Datum :=
    { process := fun _ request response => pure (request, .ok response)
      unmarshalTarget := some fun _ => pure (.ok blankItem)
      preValidate := none
      validate := none
      postProcess := none }
  let settings := ((new "listing" logic).jsonBody item.decode).bindPath item.bodyBinding ["limit"]
  { settings.bindQueryByName item.bodyBinding true with pathPattern := some "/items/(.*)" }

/-- A request with one limit in its path and another one in its query. -/
def listingHead : RequestHead := ⟨"GET", ⟨"/items/3", some "limit=5"⟩, []⟩

def listingBody : List UInt8 := Utf8.encode "\x7b\"note\":\"n\"\x7d"

def listingHandler : Handler Datum := listing.assemble (listing.pathBinding.toOption.getD none)

theorem build_listing : listing.build.value = .ok listingHandler := by
  refine build_eq_ok_iff.2 ⟨by cbv, by cbv, listing.pathBinding.toOption.getD none, ?_, rfl⟩
  have hsome : listing.pathBinding.toOption.isSome = true := by cbv
  cases hpath : listing.pathBinding with
  | ok path => rfl
  | error e => simp [hpath, Except.toOption] at hsome

theorem Supplies.eq_of_listing {base v : Datum}
    (h : listing.Supplies listingHead base (.bindable "limit" (.one (.signed 32))) "limit" v) :
    v = .scalar (.int 5) := by
  have htargets : listing.effectiveQueryTargets = [("limit", "limit")] := by cbv
  have hpairs : listingHead.queryPairs = [("limit", "5")] := by cbv
  have hsupplied : listingHead.Supplied "limit" ("limit", "limit") := ⟨rfl, "5", by simp [hpairs]⟩
  cases h with
  | @query _ param _ hlast hconv =>
    have hmem := List.mem_of_getElem? hlast.get
    obtain rfl : param = "limit" := by simpa [htargets] using hmem
    have hgiven : Params.given listingHead.queryPairs "limit" = ["5"] := by cbv
    rw [hgiven] at hconv
    cases hconv with
    | single htype _ hread =>
      obtain ⟨rfl, -⟩ := FieldType.scalar.inj htype
      have hfive : ScalarType.read? (.signed 32) "5" = some (.int 5) := by cbv
      rw [hfive] at hread
      rw [← Option.some.inj hread]
    | many htype _ => simp [Field.bindable, FieldType.one] at htype
  | path hnone => exact absurd hsupplied (hnone _ (by simp [htargets]))
  | body hnone => exact absurd hsupplied (hnone _ (by simp [htargets]))

/-- The limit in the query is effective, not the one in the path; the note is read. -/
theorem body_fields_supplied_listing :
    ∃ p d, listingHandler.Arrives (.new .nil) (listingHandler.start listingHead listingBody)
        .preValidate p ∧
      p.request.body = some d ∧ d.field? "limit" = some (.scalar (.int 5)) ∧
      d.field? "note" = some (.scalar (.text "n")) := by
  have hrun : (listingHandler.runStages (.new .nil) Stage.all
      (listingHandler.start listingHead listingBody)).value.2 = none := by cbv
  obtain ⟨p, hp⟩ := Handler.exists_arrives_of_run hrun .preValidate
  have hdistinct : item.DistinctFields := (by decide : ["limit", "note"].Nodup)
  have hfields : item.HasFields blankItem := by
    simp [RecordType.HasFields, item, RecordType.fields, Schema.fields, blankItem, Datum.field?,
      Field.bindable, Field.hidden]
  obtain ⟨-, -, target, base, d, -, hbase, hd, hbindable, hother⟩ :=
    body_fields_supplied build_listing rfl rfl rfl hdistinct
      (fun _ htarget => Except.ok.inj htarget ▸ hfields) hp
  obtain ⟨v, hv, hsupplies⟩ := hbindable (.bindable "limit" (.one (.signed 32))) "limit" rfl
  have hnote := hother (.hidden "note" (.one .text)) (List.mem_cons_of_mem _ List.mem_cons_self)
    fun _ hname => by cases (RecordType.paramField?_eq_some hname).2.1
  have hread : (Document.read? listingBody).bind item.decode =
      some (.record [("limit", .scalar (.int 0)), ("note", .scalar (.text "n"))]) := by cbv
  obtain rfl : _ = base := Option.some.inj (hread.symm.trans (hbase.read (by cbv)))
  exact ⟨p, d, hp, hd, hsupplies.eq_of_listing ▸ hv, hnote⟩

end HandlerSettings

end Endpoint
