import Endpoint.Proofs.Number.Reading
import Endpoint.Response.StatusRule

/-!
# Which status a response has

`Response.HasStatus` says which status belongs to a response: the one set on it, else the one
set on its errors, else the one that the most important category among its errors calls for.
Only the first HTTP error can matter besides the categories, so the order of the errors does
not matter otherwise.
-/

namespace Endpoint

namespace Category

/-- The place of a category in the order of importance; the least number decides. -/
def rank : Category → Nat
  | unexpected => 0
  | http => 1
  | security => 2
  | client => 3
  | logic => 4

theorem mem_all (c : Category) : c ∈ all := by cases c <;> decide

theorem pairwise_rank_all : all.Pairwise fun a b => a.rank < b.rank := by decide

/-- The categories listed before one are the more important ones. -/
theorem mem_before_iff {before after : List Category} {c d : Category}
    (hall : all = before ++ c :: after) : d ∈ before ↔ d.rank < c.rank := by
  have hpairs := pairwise_rank_all
  rw [hall, List.pairwise_append, List.pairwise_cons] at hpairs
  obtain ⟨-, ⟨hafter, -⟩, hbefore⟩ := hpairs
  constructor
  · intro hd
    exact hbefore d hd c List.mem_cons_self
  · intro hlt
    have hd := mem_all d
    rw [hall, List.mem_append, List.mem_cons] at hd
    rcases hd with hd | rfl | hd
    · exact hd
    · omega
    · have := hafter d hd
      omega

end Category

/-- The code of an HTTP error names a status: apart from white space around it, it is the
    integer of the status. -/
def Status.NamedBy (s : Status) (code : String) : Prop :=
  signedDigits? (trimText code).toList = some (s.code : Int)

namespace Status

theorem ofNat?_eq_some_iff {n : Nat} {s : Status} : ofNat? n = some s ↔ n = s.code := by
  constructor
  · intro h
    rw [ofNat?] at h
    split at h
    · rw [← Option.some.inj h]
    · simp at h
  · rintro rfl
    exact ofNat?_code s

/-- A status is read from a text that is its integer. -/
theorem ofText?_eq_some_iff {text : String} {s : Status} :
    ofText? text = some s ↔ signedDigits? text.toList = some (s.code : Int) := by
  have hleast := s.least
  have hgreatest := s.greatest
  rw [signedDigits?_eq_some_natCast_iff (by omega), ofText?, readUnsigned?]
  simp only [Option.bind_eq_some_iff, ofNat?_eq_some_iff, Option.filter_eq_some_iff,
    decide_eq_true_eq]
  constructor
  · rintro ⟨_, ⟨hn, -⟩, rfl⟩
    exact hn
  · intro hn
    exact ⟨s.code, ⟨hn, Nat.lt_of_le_of_lt hgreatest (by decide)⟩, rfl⟩

theorem ofErrorCode_of_named {code : String} {s : Status} (h : s.NamedBy code) :
    (ofErrorCode code).value = s := by
  rw [ofErrorCode, ofText?_eq_some_iff.2 h]
  rfl

theorem ofErrorCode_of_unnamed {code : String} (h : ∀ s : Status, ¬ s.NamedBy code) :
    (ofErrorCode code).value = serverError := by
  have hnone : ofText? (trimText code) = none :=
    Option.eq_none_iff_forall_ne_some.2 fun s hs => h s (ofText?_eq_some_iff.1 hs)
  rw [ofErrorCode, hnone]
  rfl

end Status

namespace ErrorRecord

variable {r r' : ErrorRecord} {c : Category} {e : ServiceError} {s : Status}

/-- An error is the first of its category to be recorded. -/
def IsFirst (r : ErrorRecord) (e : ServiceError) : Prop :=
  ∃ before after, r.errors = before ++ e :: after ∧ ∀ f ∈ before, f.category ≠ e.category

/-- A category decides the status: there is an error of it, and none of a more important one. -/
structure Decides (r : ErrorRecord) (c : Category) : Prop where
  present : ∃ e ∈ r.errors, e.category = c
  highest : ∀ e ∈ r.errors, c.rank ≤ e.category.rank

/-- The status that a category of errors calls for.  That of HTTP errors is the one named by
    the code of the first of them, if the code names one. -/
inductive CallsFor (r : ErrorRecord) : Category → Status → Prop
  | unexpected : CallsFor r .unexpected Status.serverError
  | named {e : ServiceError} {s : Status} : r.IsFirst e → e.category = .http →
      s.NamedBy e.code → CallsFor r .http s
  | unnamed {e : ServiceError} : r.IsFirst e → e.category = .http →
      (∀ s : Status, ¬ s.NamedBy e.code) → CallsFor r .http Status.serverError
  | security : CallsFor r .security Status.unauthorized
  | client : CallsFor r .client Status.badRequest
  | logic : CallsFor r .logic Status.conflict

theorem firstOf_eq_some_iff : r.firstOf c = some e ↔ r.IsFirst e ∧ e.category = c := by
  rw [firstOf, List.find?_eq_some_iff_append]
  constructor
  · rintro ⟨hc, before, after, herrors, hbefore⟩
    obtain rfl : e.category = c := by simpa using hc
    exact ⟨⟨before, after, herrors, by simpa using hbefore⟩, rfl⟩
  · rintro ⟨⟨before, after, herrors, hbefore⟩, rfl⟩
    exact ⟨by simp, before, after, herrors, by simpa using hbefore⟩

theorem firstOf_eq_none_iff : r.firstOf c = none ↔ ∀ e ∈ r.errors, e.category ≠ c := by
  simp [firstOf]

theorem IsFirst.mem (h : r.IsFirst e) : e ∈ r.errors := by
  obtain ⟨before, after, herrors, -⟩ := h
  simp [herrors]

/-- The decisive error is the first of the category that decides. -/
theorem decisive?_eq_some_iff : r.decisive? = some e ↔ r.IsFirst e ∧ r.Decides e.category := by
  rw [decisive?, List.findSome?_eq_some_iff]
  constructor
  · rintro ⟨before, c, after, hall, hfound, hbefore⟩
    obtain ⟨hfirst, rfl⟩ := firstOf_eq_some_iff.1 hfound
    refine ⟨hfirst, ⟨e, hfirst.mem, rfl⟩, ?_⟩
    intro f hf
    refine Nat.le_of_not_lt fun hlt => ?_
    exact firstOf_eq_none_iff.1 (hbefore _ ((Category.mem_before_iff hall).2 hlt)) f hf rfl
  · rintro ⟨hfirst, hdecides⟩
    obtain ⟨before, after, hall⟩ := List.append_of_mem (Category.mem_all e.category)
    refine ⟨before, e.category, after, hall, firstOf_eq_some_iff.2 ⟨hfirst, rfl⟩, ?_⟩
    intro d hd
    rw [firstOf_eq_none_iff]
    rintro f hf rfl
    have hlt := (Category.mem_before_iff hall).1 hd
    have hle := hdecides.highest f hf
    omega

theorem decisive?_eq_none_iff : r.decisive? = none ↔ r.errors = [] := by
  rw [decisive?, List.findSome?_eq_none_iff]
  constructor
  · intro h
    refine List.eq_nil_iff_forall_not_mem.2 fun e he => ?_
    exact firstOf_eq_none_iff.1 (h _ (Category.mem_all e.category)) e he rfl
  · intro h c _
    simp [firstOf, h]

theorem IsFirst.unique {e' : ServiceError} (h : r.IsFirst e) (h' : r.IsFirst e')
    (hc : e.category = e'.category) : e = e' := by
  have hfirst := firstOf_eq_some_iff.2 ⟨h, rfl⟩
  rw [firstOf_eq_some_iff.2 ⟨h', hc.symm⟩] at hfirst
  exact (Option.some.inj hfirst).symm

/-- The first error of a category has the status that the category calls for. -/
theorem statusOfError_value_iff (hfirst : r.IsFirst e) :
    (statusOfError e).value = s ↔ r.CallsFor e.category s := by
  rw [statusOfError]
  cases hc : e.category with
  | http =>
    constructor
    · rintro rfl
      by_cases hnamed : ∃ s : Status, s.NamedBy e.code
      · obtain ⟨s, hs⟩ := hnamed
        exact .named hfirst hc (by rwa [Status.ofErrorCode_of_named hs])
      · rw [not_exists] at hnamed
        rw [Status.ofErrorCode_of_unnamed hnamed]
        exact .unnamed hfirst hc hnamed
    · intro h
      cases h with
      | named hfirst' hc' hs =>
        obtain rfl := hfirst.unique hfirst' (hc.trans hc'.symm)
        exact Status.ofErrorCode_of_named hs
      | unnamed hfirst' hc' hnamed =>
        obtain rfl := hfirst.unique hfirst' (hc.trans hc'.symm)
        exact Status.ofErrorCode_of_unnamed hnamed
  | unexpected => exact ⟨fun h => h ▸ .unexpected, fun h => by cases h; rfl⟩
  | security => exact ⟨fun h => h ▸ .security, fun h => by cases h; rfl⟩
  | client => exact ⟨fun h => h ▸ .client, fun h => by cases h; rfl⟩
  | logic => exact ⟨fun h => h ▸ .logic, fun h => by cases h; rfl⟩

/-- A category that an error belongs to has a first error. -/
theorem Decides.exists_first (h : r.Decides c) : ∃ e, r.IsFirst e ∧ e.category = c := by
  obtain ⟨e, he, hc⟩ := h.present
  cases hfirst : r.firstOf c with
  | none => exact absurd hc (firstOf_eq_none_iff.1 hfirst e he)
  | some e => exact ⟨e, firstOf_eq_some_iff.1 hfirst⟩

/-- The category of all errors decides. -/
theorem Decides.of_all (hne : r.errors ≠ []) (hall : ∀ e ∈ r.errors, e.category = c) :
    r.Decides c where
  present := by
    obtain ⟨e, he⟩ := List.exists_mem_of_ne_nil _ hne
    exact ⟨e, he, hall e he⟩
  highest := by
    intro e he
    exact Nat.le_of_eq (congrArg Category.rank (hall e he).symm)

/-! ## Other errors -/

theorem Decides.perm (h : r.Decides c) (hperm : r.errors.Perm r'.errors) : r'.Decides c where
  present := by
    obtain ⟨e, he, hc⟩ := h.present
    exact ⟨e, hperm.mem_iff.1 he, hc⟩
  highest := fun e he => h.highest e (hperm.mem_iff.2 he)

/-- Besides the category only the first HTTP error can matter. -/
theorem CallsFor.of_firstOf_http (h : r.CallsFor c s)
    (hfirst : r.firstOf .http = r'.firstOf .http) : r'.CallsFor c s := by
  have hkept : ∀ e, r.IsFirst e → e.category = .http → r'.IsFirst e := by
    intro e he hc
    have he' := firstOf_eq_some_iff.2 ⟨he, hc⟩
    rw [hfirst] at he'
    exact (firstOf_eq_some_iff.1 he').1
  cases h with
  | unexpected => exact .unexpected
  | named he hc hs => exact .named (hkept _ he hc) hc hs
  | unnamed he hc hs => exact .unnamed (hkept _ he hc) hc hs
  | security => exact .security
  | client => exact .client
  | logic => exact .logic

/-- An error that is added at the end is not the first where there is one. -/
theorem IsFirst.add (h : r.IsFirst e) (added : ServiceError) : (r.add added).IsFirst e := by
  obtain ⟨before, after, herrors, hbefore⟩ := h
  exact ⟨before, after ++ [added], by simp [ErrorRecord.add, herrors], hbefore⟩

theorem Decides.add {added : ServiceError} (h : r.Decides c)
    (hrank : c.rank ≤ added.category.rank) : (r.add added).Decides c where
  present := by
    obtain ⟨e, he, hc⟩ := h.present
    exact ⟨e, List.mem_append_left _ he, hc⟩
  highest := by
    intro e he
    rcases List.mem_append.1 he with he | he
    · exact h.highest e he
    · rwa [List.mem_singleton.1 he]

theorem CallsFor.add (h : r.CallsFor c s) (added : ServiceError) : (r.add added).CallsFor c s := by
  cases h with
  | unexpected => exact .unexpected
  | named he hc hs => exact .named (he.add added) hc hs
  | unnamed he hc hs => exact .unnamed (he.add added) hc hs
  | security => exact .security
  | client => exact .client
  | logic => exact .logic

end ErrorRecord

namespace Response

variable {r r' : Response} {s : Status}

/-- The status of a response: the one set on it, else the one set on its errors, else the one
    that the category which decides calls for, else that of a success. -/
inductive HasStatus (r : Response) : Status → Prop
  | onResponse {s : Status} : r.status = some s → HasStatus r s
  | onErrors {s : Status} : r.status = none → r.errors.status = some s → HasStatus r s
  | ofCategory {c : Category} {s : Status} : r.status = none → r.errors.status = none →
      r.errors.Decides c → r.errors.CallsFor c s → HasStatus r s
  | success : r.status = none → r.errors.status = none → r.errors.errors = [] →
      HasStatus r Status.ok

theorem determineStatus_value_iff : r.determineStatus.value = s ↔ r.HasStatus s := by
  rw [determineStatus]
  constructor
  · rintro rfl
    cases hstatus : r.status with
    | some s => exact .onResponse hstatus
    | none =>
      cases herrors : r.errors.status with
      | some s => exact .onErrors hstatus herrors
      | none =>
        cases he : r.errors.decisive? with
        | some e =>
          obtain ⟨hfirst, hdecides⟩ := ErrorRecord.decisive?_eq_some_iff.1 he
          exact .ofCategory hstatus herrors hdecides
            ((ErrorRecord.statusOfError_value_iff hfirst).1 rfl)
        | none =>
          exact .success hstatus herrors (ErrorRecord.decisive?_eq_none_iff.1 he)
  · intro h
    cases h with
    | onResponse hstatus => simp [hstatus]
    | onErrors hstatus herrors => simp [hstatus, herrors]
    | ofCategory hstatus herrors hdecides hcalls =>
      obtain ⟨e, hfirst, rfl⟩ := hdecides.exists_first
      have he := ErrorRecord.decisive?_eq_some_iff.2 ⟨hfirst, hdecides⟩
      simp only [hstatus, herrors, he]
      exact (ErrorRecord.statusOfError_value_iff hfirst).2 hcalls
    | success hstatus herrors hnil =>
      simp [hstatus, herrors, ErrorRecord.decisive?_eq_none_iff.2 hnil]

/-- Responses with the same settings and the same errors in another order have the same status
    if the same HTTP error comes first. -/
theorem HasStatus.perm (h : r.HasStatus s) (hstatus : r.status = r'.status)
    (herrors : r.errors.status = r'.errors.status)
    (hperm : r.errors.errors.Perm r'.errors.errors)
    (hfirst : r.errors.firstOf .http = r'.errors.firstOf .http) : r'.HasStatus s := by
  cases h with
  | onResponse hs => exact .onResponse (hstatus ▸ hs)
  | onErrors hnone hs => exact .onErrors (hstatus ▸ hnone) (herrors ▸ hs)
  | ofCategory hnone hnone' hdecides hcalls =>
    exact .ofCategory (hstatus ▸ hnone) (herrors ▸ hnone') (hdecides.perm hperm)
      (hcalls.of_firstOf_http hfirst)
  | success hnone hnone' hnil =>
    exact .success (hstatus ▸ hnone) (herrors ▸ hnone') (List.Perm.nil_eq (hnil ▸ hperm)).symm

/-- An error that is less important than one before it leaves the status as it is. -/
theorem HasStatus.add {e added : ServiceError} (h : r.HasStatus s) (he : e ∈ r.errors.errors)
    (hrank : e.category.rank < added.category.rank) :
    HasStatus { r with errors := r.errors.add added } s := by
  cases h with
  | onResponse hs => exact .onResponse hs
  | onErrors hnone hs => exact .onErrors hnone hs
  | ofCategory hnone hnone' hdecides hcalls =>
    have hle := hdecides.highest e he
    exact .ofCategory hnone hnone' (hdecides.add (by omega)) (hcalls.add added)
  | success _ _ hnil => simp [hnil] at he

/-- The status of a response is the one that `HasStatus` gives it.  The order of its errors
    does not matter beyond which HTTP error comes first, and an error that is less important
    than one before it does not matter at all. -/
theorem determineStatus_eq_iff_hasStatus (r : Response) :
    (∀ s, r.determineStatus.value = s ↔ r.HasStatus s) ∧
    (∀ r' : Response, r.status = r'.status → r.errors.status = r'.errors.status →
      r.errors.errors.Perm r'.errors.errors →
      r.errors.firstOf .http = r'.errors.firstOf .http →
      r.determineStatus.value = r'.determineStatus.value) ∧
    ∀ e added : ServiceError, e ∈ r.errors.errors → e.category.rank < added.category.rank →
      ({ r with errors := r.errors.add added } : Response).determineStatus.value =
        r.determineStatus.value := by
  have hr : r.HasStatus r.determineStatus.value := determineStatus_value_iff.1 rfl
  refine ⟨fun s => determineStatus_value_iff, ?_, ?_⟩
  · intro r' hstatus herrors hperm hfirst
    exact (determineStatus_value_iff.2 (hr.perm hstatus herrors hperm hfirst)).symm
  · intro e added he hrank
    exact determineStatus_value_iff.2 (hr.add he hrank)

/-- A response with errors and no status set. -/
def ofErrors (errors : List ServiceError) : Response :=
  { empty none with errors := ⟨errors, none, none⟩ }

/-- An HTTP error is effective before and after an error of the client, and with one added. -/
theorem determineStatus_ofErrors_swap :
    let gone : ServiceError := ⟨.http, " +0404", "gone", none⟩
    let bad : ServiceError := ⟨.client, "BAD", "bad", none⟩
    (ofErrors [gone, bad]).determineStatus.value = (ofErrors [bad, gone]).determineStatus.value ∧
    ({ ofErrors [gone] with errors := (ofErrors [gone]).errors.add bad } :
        Response).determineStatus.value = (ofErrors [gone]).determineStatus.value := by
  intro gone bad
  constructor
  · exact (determineStatus_eq_iff_hasStatus (ofErrors [gone, bad])).2.1 (ofErrors [bad, gone])
      rfl rfl (.swap bad gone []) rfl
  · exact (determineStatus_eq_iff_hasStatus (ofErrors [gone])).2.2 gone bad
      List.mem_cons_self (by decide)

example : (ofErrors [⟨.client, "BAD", "bad", none⟩, ⟨.http, " +0404", "gone", none⟩,
    ⟨.http, "503", "busy", none⟩]).determineStatus.value.code = 404 := by decide

end Response

end Endpoint
