import Endpoint.Proofs.Response.HeaderSources

/-!
# Which source a header comes from

The first source of headers that has a name under any spelling gives it its value, and of the
spellings in that source the last one counts.  Headers that are put in lower case before they are
merged come out the same.
-/

namespace Endpoint

/-- The sources of the headers of a response, each before those it wins over. -/
def headerSources (response : Entries String) (common : Option (Entries String))
    (defaults : Entries String) : List (Entries String) :=
  response :: (common.toList ++ [defaults])

/-- Headers have a name under some spelling. -/
def HasHeader (headers : Entries String) (name : String) : Prop :=
  ∃ spelling ∈ headers.keys, asciiLower spelling = name

/-- Headers filed under their names in lower case. -/
def lowerCased (headers : Entries String) : Entries String :=
  Entries.ofList (headers.map fun header => (asciiLower header.1, header.2))

variable {name value spelling : String} {headers response defaults : Entries String}
  {common : Option (Entries String)}

/-! ## The value of a name -/

theorem headerOf?_eq_some_iff (hsorted : headers.Sorted) :
    headerOf? name headers = some value ↔
      ∃ spelling, LastSpelling (Entries.get? · headers) name spelling value :=
  ⟨lastSpelling_of_headerOf? hsorted, fun ⟨_, h⟩ => headerOf?_of_lastSpelling hsorted h⟩

theorem headerOf?_eq_none_iff_not_hasHeader :
    headerOf? name headers = none ↔ ¬ HasHeader headers name := by
  rw [headerOf?_eq_none_iff, HasHeader, Entries.keys]
  simp

/-- The spelling in lower case is the last one. -/
theorem lastSpelling_of_lower (hlower : asciiLower name = name)
    (hget : Entries.get? name headers = some value) :
    LastSpelling (Entries.get? · headers) name name value where
  spells := hlower
  gives := hget
  last := fun other hother _ => hother ▸ le_asciiLower other

theorem get?_mergeHeaders_eq_findSome? (name : String) (response : Entries String)
    (common : Option (Entries String)) (defaults : Entries String) :
    Entries.get? name (mergeHeaders response common defaults) =
      (headerSources response common defaults).findSome? (headerOf? name) := by
  have hlast : [defaults].findSome? (headerOf? name) = headerOf? name defaults := by
    rw [List.findSome?_cons]
    cases headerOf? name defaults <;> rfl
  have hcommon : (common.toList ++ [defaults]).findSome? (headerOf? name) =
      (headerOf? name (common.getD []) <|> headerOf? name defaults) := by
    cases common with
    | none => exact hlast
    | some common =>
      show [common, defaults].findSome? (headerOf? name) = _
      rw [List.findSome?_cons, hlast, Option.getD_some]
      cases headerOf? name common <;> rfl
  rw [get?_mergeHeaders, headerSources, List.findSome?_cons, hcommon]
  cases headerOf? name response <;> rfl

theorem sorted_of_mem_headerSources (hresponse : response.Sorted)
    (hcommon : ∀ headers, common = some headers → headers.Sorted) (hdefaults : defaults.Sorted) :
    ∀ source ∈ headerSources response common defaults, source.Sorted := by
  intro source hsource
  rcases List.mem_cons.1 hsource with rfl | hsource
  · exact hresponse
  · rcases List.mem_append.1 hsource with hsource | hsource
    · exact hcommon source (Option.mem_toList.1 hsource)
    · exact List.mem_singleton.1 hsource ▸ hdefaults

theorem mem_keys_mergeHeaders_iff :
    name ∈ (mergeHeaders response common defaults).keys ↔
      ∃ source ∈ headerSources response common defaults, HasHeader source name := by
  rw [← not_iff_not, ← Entries.get?_eq_none_iff, get?_mergeHeaders_eq_findSome?,
    List.findSome?_eq_none_iff]
  simp only [headerOf?_eq_none_iff_not_hasHeader, not_exists, not_and]

/-- The sources are divided at the one that counts. -/
theorem get?_mergeHeaders_eq_some_iff
    (hsources : ∀ source ∈ headerSources response common defaults, source.Sorted) :
    Entries.get? name (mergeHeaders response common defaults) = some value ↔
      ∃ before source after spelling,
        headerSources response common defaults = before ++ source :: after ∧
        (∀ winning ∈ before, ¬ HasHeader winning name) ∧
        LastSpelling (Entries.get? · source) name spelling value := by
  rw [get?_mergeHeaders_eq_findSome?, List.findSome?_eq_some_iff]
  constructor
  · rintro ⟨before, source, after, hsplit, hsource, hbefore⟩
    have hsorted : source.Sorted := hsources source (hsplit ▸ List.mem_append_cons_self)
    obtain ⟨spelling, hlast⟩ := (headerOf?_eq_some_iff hsorted).1 hsource
    exact ⟨before, source, after, spelling, hsplit,
      fun winning hwinning => headerOf?_eq_none_iff_not_hasHeader.1 (hbefore winning hwinning),
      hlast⟩
  · rintro ⟨before, source, after, spelling, hsplit, hbefore, hlast⟩
    have hsorted : source.Sorted := hsources source (hsplit ▸ List.mem_append_cons_self)
    exact ⟨before, source, after, hsplit, headerOf?_of_lastSpelling hsorted hlast,
      fun winning hwinning => headerOf?_eq_none_iff_not_hasHeader.2 (hbefore winning hwinning)⟩

/-! ## Lower case first -/

theorem sorted_lowerCased : (lowerCased headers).Sorted := Entries.sorted_ofList _

theorem lowerNames_lowerCased : LowerNames (lowerCased headers) := by
  intro header hheader
  obtain ⟨spelled, -, rfl⟩ := List.mem_map.1 (Entries.mem_ofList hheader)
  exact asciiLower_asciiLower spelled.1

theorem headerOf?_lowerCased (name : String) (headers : Entries String) :
    headerOf? name (lowerCased headers) = headerOf? name headers := by
  rw [headerOf?_of_sorted sorted_lowerCased lowerNames_lowerCased, lowerCased, Entries.get?_ofList]
  rfl

theorem mergeHeaders_lowerCased (response : Entries String) (common : Option (Entries String))
    (defaults : Entries String) :
    mergeHeaders (lowerCased response) (common.map lowerCased) (lowerCased defaults) =
      mergeHeaders response common defaults := by
  refine sorted_mergeHeaders.ext sorted_mergeHeaders fun name => ?_
  rw [get?_mergeHeaders, get?_mergeHeaders, headerOf?_lowerCased, headerOf?_lowerCased]
  cases common with
  | none => rfl
  | some common =>
    rw [Option.map_some, Option.getD_some, Option.getD_some, headerOf?_lowerCased]

/-- Where no name has two spellings, each header is filed in lower case. -/
theorem mem_lowerCased_iff (hsorted : headers.Sorted)
    (honce : ∀ a ∈ headers.keys, ∀ b ∈ headers.keys, asciiLower a = asciiLower b → a = b)
    {entry : String × String} :
    entry ∈ lowerCased headers ↔
      ∃ header ∈ headers, (asciiLower header.1, header.2) = entry := by
  constructor
  · intro hentry
    exact List.mem_map.1 (Entries.mem_ofList hentry)
  · rintro ⟨header, hheader, rfl⟩
    have hkey : header.1 ∈ headers.keys := List.mem_map.2 ⟨header, hheader, rfl⟩
    have hlast : LastSpelling (Entries.get? · headers) (asciiLower header.1) header.1 header.2 := by
      refine ⟨rfl, Entries.get?_of_mem hsorted hheader, fun other hother hgiven => ?_⟩
      have hother' : other ∈ headers.keys := by
        by_contra hnot
        exact hgiven (Entries.get?_eq_none_iff.2 hnot)
      exact le_of_eq (honce other hother' header.1 hkey hother)
    have hget : Entries.get? (asciiLower header.1) (lowerCased headers) = some header.2 := by
      rw [← headerOf?_of_sorted sorted_lowerCased lowerNames_lowerCased, headerOf?_lowerCased]
      exact headerOf?_of_lastSpelling hsorted hlast
    exact Entries.mem_of_get? hget

/-- The names of merged headers are those of their sources in lower case.  Each has the value that
    the first source with the name has for the last spelling there, which is the one in lower case
    if that is among them.  It does not matter whether the sources are put in lower case before;
    for a source in which no name has two spellings that changes its names and nothing else. -/
theorem mergeHeaders_by_precedence (hresponse : response.Sorted)
    (hcommon : ∀ headers, common = some headers → headers.Sorted) (hdefaults : defaults.Sorted) :
    let merged := mergeHeaders response common defaults
    let sources := headerSources response common defaults
    merged.Sorted ∧
    (∀ name, name ∈ merged.keys ↔ ∃ source ∈ sources, HasHeader source name) ∧
    (∀ name value, Entries.get? name merged = some value ↔
      ∃ before source after spelling, sources = before ++ source :: after ∧
        (∀ winning ∈ before, ¬ HasHeader winning name) ∧
        LastSpelling (Entries.get? · source) name spelling value) ∧
    (∀ before source after name value, sources = before ++ source :: after →
      (∀ winning ∈ before, ¬ HasHeader winning name) →
      asciiLower name = name → Entries.get? name source = some value →
      Entries.get? name merged = some value) ∧
    mergeHeaders (lowerCased response) (common.map lowerCased) (lowerCased defaults) = merged ∧
    ∀ source ∈ sources,
      (∀ a ∈ source.keys, ∀ b ∈ source.keys, asciiLower a = asciiLower b → a = b) →
      ∀ entry, entry ∈ lowerCased source ↔
        ∃ header ∈ source, (asciiLower header.1, header.2) = entry := by
  intro merged sources
  have hsources : ∀ source ∈ sources, source.Sorted :=
    sorted_of_mem_headerSources hresponse hcommon hdefaults
  refine ⟨sorted_mergeHeaders, fun name => mem_keys_mergeHeaders_iff,
    fun name value => get?_mergeHeaders_eq_some_iff hsources, ?_,
    mergeHeaders_lowerCased response common defaults, ?_⟩
  · intro before source after name value hsplit hbefore hlower hgiven
    exact (get?_mergeHeaders_eq_some_iff hsources).2
      ⟨before, source, after, name, hsplit, hbefore, lastSpelling_of_lower hlower hgiven⟩
  · intro source hsource honce entry
    exact mem_lowerCased_iff (hsources source hsource) honce

/-- A spelling with capitals yields to the one in lower case beside it, and both win over the
    sources that come after. -/
theorem mergeHeaders_by_precedence_spellings :
    let response : Entries String := [("X-A", "2"), ("x-a", "1")]
    let common : Entries String := [("X-b", "3"), ("x-A", "4"), ("x-B", "5")]
    let defaults : Entries String := [("X-A", "6"), ("X-B", "7"), ("X-C", "8")]
    let merged := mergeHeaders response (some common) defaults
    (response.Sorted ∧ common.Sorted ∧ defaults.Sorted) ∧
      Entries.get? "x-a" merged = some "1" ∧ Entries.get? "x-b" merged = some "5" ∧
      "x-c" ∈ merged.keys := by
  intro response common defaults merged
  have hresponse : response.Sorted := by unfold Entries.Sorted; decide
  have hcommon : common.Sorted := by unfold Entries.Sorted; decide
  have hdefaults : defaults.Sorted := by unfold Entries.Sorted; decide
  have hgiven : ∀ headers, some common = some headers → headers.Sorted :=
    fun _ h => Option.some.inj h ▸ hcommon
  obtain ⟨-, hkeys, hvalue, hlower, -⟩ :=
    mergeHeaders_by_precedence hresponse hgiven hdefaults
  refine ⟨⟨hresponse, hcommon, hdefaults⟩, ?_, ?_, ?_⟩
  · exact hlower [] response [common, defaults] "x-a" "1" rfl (by simp) (by decide) rfl
  · have hbefore : ¬ HasHeader response "x-b" := by
      unfold HasHeader
      decide
    refine (hvalue "x-b" "5").2 ⟨[response], common, [defaults], "x-B", rfl, by simpa using hbefore,
      by decide, rfl, fun other hother hne => ?_⟩
    have hmem : other ∈ common.keys := by
      by_contra hnot
      exact hne (Entries.get?_eq_none_iff.2 hnot)
    have hspellings : ∀ other ∈ common.keys, asciiLower other = "x-b" → other ≤ "x-B" := by decide
    exact hspellings other hmem hother
  · exact (hkeys "x-c").2 ⟨defaults, by simp [headerSources], "X-C", by decide, by decide⟩

end Endpoint
