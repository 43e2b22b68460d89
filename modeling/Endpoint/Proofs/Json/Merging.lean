import Endpoint.Proofs.Json.Overlay
import Mathlib

/-!
# Merging, path by path

What a value laid over another has at a path is there in the result.  Where the path leaves one of
its objects for a key that this object does not have, the value below shows through.  So an empty
object changes nothing, and laying a value over another twice is as good as once.  Values are in
order, as those that are read from text are (`Json.sorted_of_readText?`).
-/

namespace Endpoint

/-- Entries change nothing where none of their values does. -/
theorem Entries.overlay_eq_self {lower upper : Entries Json} (hlower : lower.Sorted)
    (hupper : upper.Sorted)
    (h : ∀ key above, Entries.get? key upper = some above →
      ∃ below, Entries.get? key lower = some below ∧ below.overlay above = below) :
    Entries.overlay lower upper = lower := by
  refine (hlower.overlay upper).ext hlower fun key => ?_
  rw [Entries.get?_overlay hupper]
  cases hget : Entries.get? key upper with
  | none => rfl
  | some above =>
    obtain ⟨below, hbelow, hsame⟩ := h key above hget
    simp only [hbelow, hsame]

namespace Json

variable {base layer above below : Json} {path before : List String} {name : String}

/-- There is an object at a path. -/
def ObjectAt (j : Json) (path : List String) : Prop := ∃ entries, j.at? path = some (obj entries)

/-- A path leaves a value: it leads to an object, and on to a key that this object does not have. -/
def LeavesAt (j : Json) (before : List String) (name : String) : Prop :=
  ∃ entries, j.at? before = some (obj entries) ∧ Entries.get? name entries = none

theorem at?_append (path path' : List String) (j : Json) :
    j.at? (path ++ path') = (j.at? path).bind (at? path') := by
  induction path generalizing j with
  | nil => rfl
  | cons name rest ih =>
    rw [List.cons_append, at?, at?, Option.bind_assoc]
    exact congrArg _ (funext ih)

theorem Sorted.of_key {j v : Json} (h : j.Sorted) (hkey : j.get? name = some v) : v.Sorted := by
  cases j with
  | obj entries => exact h.of_get? hkey
  | _ => cases hkey

theorem Sorted.of_at? {j v : Json} (h : j.Sorted) (hpath : j.at? path = some v) : v.Sorted := by
  induction path generalizing j with
  | nil => exact Option.some.inj hpath ▸ h
  | cons name rest ih =>
    obtain ⟨next, hnext, hrest⟩ := Option.bind_eq_some_iff.1 hpath
    exact ih (h.of_key hnext) hrest

/-! ## Paths in the result -/

/-- The value of a key that the layer has: this one, laid over the one below if there is one. -/
theorem get?_overlay_of_some (hlayer : layer.Sorted) (h : layer.get? name = some above) :
    (base.overlay layer).get? name =
      some ((base.get? name).elim above fun below => below.overlay above) := by
  cases hlayer with
  | @obj upper hupper =>
    by_cases hbase : base.isObject = false
    · have hnone : base.get? name = none := by
        cases base with
        | obj => cases hbase
        | _ => rfl
      rw [overlay_eq_layer (.inl hbase), h, hnone]
      rfl
    · obtain ⟨lower, rfl⟩ := exists_of_isObject (Bool.not_eq_false _ ▸ hbase)
      rw [get?] at h
      rw [overlay, get?, get?, Entries.get?_overlay hupper, h]
      cases Entries.get? name lower <;> rfl
  | _ => cases h

/-- The value at a path that leads to one in the layer: this one, laid over the one below if there
    is one. -/
theorem at?_overlay_of_some (hlayer : layer.Sorted) (h : layer.at? path = some above) :
    (base.overlay layer).at? path =
      some ((base.at? path).elim above fun below => below.overlay above) := by
  induction path generalizing base layer with
  | nil =>
    obtain rfl := Option.some.inj h
    rfl
  | cons name rest ih =>
    obtain ⟨next, hnext, hrest⟩ := Option.bind_eq_some_iff.1 h
    rw [at?, at?, get?_overlay_of_some hlayer hnext, Option.bind_some]
    cases base.get? name with
    | none => exact hrest
    | some below => exact ih (hlayer.of_key hnext) hrest

/-- What the layer has at a path is there, unless it is an object that is merged with another. -/
theorem at?_overlay_of_replaces (hlayer : layer.Sorted) (h : layer.at? path = some above)
    (hreplaces : ∀ below, base.at? path = some below →
      below.isObject = false ∨ above.isObject = false) :
    (base.overlay layer).at? path = some above := by
  rw [at?_overlay_of_some hlayer h]
  cases hbase : base.at? path with
  | none => rfl
  | some below => exact congrArg some (overlay_eq_layer (hreplaces below hbase))

/-- Where a path leaves the layer at an object that is merged with another, the value below shows
    through. -/
theorem at?_overlay_of_leavesAt (hlayer : layer.Sorted) (hleaves : layer.LeavesAt before name)
    (hbase : base.ObjectAt before) (after : List String) :
    (base.overlay layer).at? (before ++ name :: after) = base.at? (before ++ name :: after) := by
  obtain ⟨upper, hupper, hname⟩ := hleaves
  obtain ⟨lower, hlower⟩ := hbase
  have hmerged : (base.overlay layer).at? before = some ((obj lower).overlay (obj upper)) := by
    rw [at?_overlay_of_some hlayer hupper, hlower]
    rfl
  rw [at?_append, at?_append, hmerged, hlower, Option.bind_some, Option.bind_some, at?, at?]
  cases hlayer.of_at? hupper with
  | obj hentries => rw [overlay, get?, get?, Entries.get?_overlay hentries, hname]

/-! ## Layers that change nothing -/

/-- A value changes nothing where it was laid over another before. -/
theorem overlay_overlay_self (hbase : base.Sorted) (hlayer : layer.Sorted) :
    (base.overlay layer).overlay layer = base.overlay layer := by
  induction hlayer generalizing base with
  | @obj upper hupper habove ih =>
    -- over anything but an object a value is itself, so it changes nothing over itself, either
    have hself {above : Json} {key : String} (h : Entries.get? key upper = some above) :
        above.overlay above = above := by
      have hnull : null.overlay above = above := overlay_eq_layer (.inl rfl)
      have htwice := ih _ (Entries.mem_of_get? h) Sorted.null
      rwa [hnull] at htwice
    by_cases hobject : base.isObject = false
    · rw [overlay_eq_layer (.inl hobject), overlay]
      refine congrArg obj (Entries.overlay_eq_self hupper hupper fun key above hget => ?_)
      exact ⟨above, hget, hself hget⟩
    · obtain ⟨lower, rfl⟩ := exists_of_isObject (Bool.not_eq_false _ ▸ hobject)
      cases hbase with
      | obj hlower hbelow =>
        rw [overlay, overlay]
        refine congrArg obj (Entries.overlay_eq_self (hlower.overlay upper) hupper ?_)
        intro key above hget
        rw [Entries.get?_overlay hupper, hget]
        cases hlow : Entries.get? key lower with
        | none => exact ⟨above, rfl, hself hget⟩
        | some below =>
          exact ⟨_, rfl, ih _ (Entries.mem_of_get? hget) (hbelow _ (Entries.mem_of_get? hlow))⟩
  | _ => rw [overlay_eq_layer (.inr rfl), overlay_eq_layer (.inr rfl)]

theorem overlay_empty (entries : Entries Json) : (obj entries).overlay (obj []) = obj entries := by
  rw [overlay, Entries.overlay]

/-- A value is laid over another key by key.  What is no object is there in the result; where the
    upper value has no key, the lower one keeps its own, as long as only objects met on the way; an
    object replaces anything else as a whole. -/
theorem overlay_key_by_key (hbase : base.Sorted) (hlayer : layer.Sorted) :
    (∀ path v, layer.at? path = some v → v.isObject = false →
      (base.overlay layer).at? path = some v) ∧
    (∀ path before name after, path = before ++ name :: after → layer.LeavesAt before name →
      (∀ reached, reached <+: path → reached ≠ path → (layer.at? reached).isSome = true →
        base.ObjectAt reached) →
      (base.overlay layer).at? path = base.at? path) ∧
    (∀ path upper below, layer.at? path = some (obj upper) → base.at? path = some below →
      below.isObject = false → (base.overlay layer).at? path = some (obj upper)) ∧
    (∀ entries, (obj entries).overlay (obj []) = obj entries) ∧
    (base.overlay layer).overlay layer = base.overlay layer := by
  refine ⟨fun path v h hv => ?_, ?_, fun path upper below h hbelow hnot => ?_, overlay_empty,
    overlay_overlay_self hbase hlayer⟩
  · exact at?_overlay_of_replaces hlayer h fun _ _ => .inr hv
  · rintro _ before name after rfl hleaves hobjects
    refine at?_overlay_of_leavesAt hlayer hleaves (hobjects before ?_ ?_ ?_) after
    · exact List.prefix_append _ _
    · simp
    · obtain ⟨upper, hupper, -⟩ := hleaves
      rw [hupper]
      rfl
  · refine at?_overlay_of_replaces hlayer h fun other hother => .inl ?_
    rw [hbelow] at hother
    exact Option.some.inj hother ▸ hnot

/-- A key that is given is set beside one that is not, and an object replaces a text. -/
theorem overlay_key_by_key_sections :
    ∃ base layer : Json,
      base = object [("a", object [("b", int 1)]), ("d", str "x")] ∧
      layer = object [("a", object [("c", int 2)]), ("d", object [])] ∧
      base.Sorted ∧ layer.Sorted ∧
      (base.overlay layer).at? ["a", "c"] = some (int 2) ∧
      (base.overlay layer).at? ["a", "b"] = some (int 1) ∧
      (base.overlay layer).at? ["d"] = some (object []) ∧
      (base.overlay layer).overlay layer = base.overlay layer := by
  have hbase : (object [("a", object [("b", int 1)]), ("d", str "x")]).Sorted :=
    .object (by simpa using ⟨.object (by simpa using .int 1), .str "x"⟩)
  have hlayer : (object [("a", object [("c", int 2)]), ("d", object [])]).Sorted :=
    .object (by simpa using ⟨.object (by simpa using .int 2), .object (by simp)⟩)
  obtain ⟨hgiven, hleft, hwhole, -, htwice⟩ := overlay_key_by_key hbase hlayer
  refine ⟨_, _, rfl, rfl, hbase, hlayer, hgiven _ _ rfl rfl, ?_, hwhole _ [] _ rfl rfl rfl, htwice⟩
  rw [hleft ["a", "b"] ["a"] "b" [] rfl ⟨_, rfl, rfl⟩]
  · rfl
  · intro reached hprefix hne _
    simp only [List.prefix_cons_iff, List.prefix_nil] at hprefix
    rcases hprefix with rfl | ⟨_, rfl, rfl | ⟨_, rfl, rfl⟩⟩
    · exact ⟨_, rfl⟩
    · exact ⟨_, rfl⟩
    · exact absurd rfl hne

end Json

end Endpoint
