import Endpoint.Proofs.Json.Overlay
import Endpoint.Toml.Document

/-!
# TOML documents are read in order

The entries of every object that is read from a document are in order: values are, the tables that
are built up from them hold nothing else, and making an object of a table puts its keys in order.
-/

namespace Endpoint.Toml

/-- All values in an item are in order. -/
inductive Item.Sorted : Item → Prop where
  | value {j : Json} (h : j.Sorted) : Sorted (value j)
  | table {entries : List (String × Item)} (origin : Origin)
    (h : ∀ entry ∈ entries, Sorted entry.2) : Sorted (table origin entries)
  | tables {elements : List (List (String × Item))}
    (h : ∀ entries ∈ elements, ∀ entry ∈ entries, Sorted entry.2) : Sorted (tables elements)

namespace Table

variable {t t' : Table} {key : String} {x : Item}

/-- All values in a table are in order. -/
def Sorted (t : Table) : Prop := ∀ entry ∈ t, entry.2.Sorted

theorem sorted_nil : Sorted [] := fun _ h => absurd h List.not_mem_nil

theorem Sorted.of_find? (h : t.Sorted) (hfind : t.find? key = some x) : x.Sorted := by
  induction t with
  | nil => cases hfind
  | cons entry rest ih =>
    obtain ⟨hentry, hrest⟩ := List.forall_mem_cons.1 h
    rw [find?] at hfind
    split at hfind
    · exact Option.some.inj hfind ▸ hentry
    · exact ih hrest hfind

theorem Sorted.set (h : t.Sorted) (hx : x.Sorted) : (Table.set key x t).Sorted := by
  induction t with
  | nil => exact List.forall_mem_singleton.2 hx
  | cons entry rest ih =>
    obtain ⟨hentry, hrest⟩ := List.forall_mem_cons.1 h
    rw [Table.set]
    split
    · exact List.forall_mem_cons.2 ⟨hx, hrest⟩
    · exact List.forall_mem_cons.2 ⟨hentry, ih hrest⟩

/-- The last element of a list of tables, which may be changed. -/
theorem sorted_getLastD {elements : List Table} (h : ∀ t ∈ elements, t.Sorted) :
    (elements.getLastD []).Sorted := by
  cases hlast : elements.getLast? with
  | none => rw [List.getLastD_eq_getLast?, hlast]; exact sorted_nil
  | some t => rw [List.getLastD_eq_getLast?, hlast]; exact h t (List.mem_of_getLast? hlast)

theorem sorted_replaceLast {elements : List Table} (h : ∀ t ∈ elements, t.Sorted) (ht : t.Sorted) :
    (Item.tables (elements.dropLast ++ [t])).Sorted := by
  refine .tables fun t' ht' => ?_
  rcases List.mem_append.1 ht' with hmem | hmem
  · exact h t' ((List.dropLast_sublist elements).subset hmem)
  · exact List.mem_singleton.1 hmem ▸ ht

theorem Sorted.add {path : List String} {j : Json} (h : t.Sorted) (hj : j.Sorted)
    (hadd : t.add path key j = some t') : t'.Sorted := by
  induction path generalizing t t' with
  | nil =>
    rw [Table.add] at hadd
    split at hadd
    · cases hadd
    · exact Option.some.inj hadd ▸ h.set (.value hj)
  | cons k rest ih =>
    rw [Table.add] at hadd
    split at hadd
    · obtain ⟨inner, hinner, rfl⟩ := Option.map_eq_some_iff.1 hadd
      exact h.set (.table _ (ih sorted_nil hinner))
    · cases hadd
    · rename_i origin below hfind
      cases h.of_find? hfind with
      | table _ hbelow =>
        split at hadd
        · cases hadd
        · obtain ⟨inner, hinner, rfl⟩ := Option.map_eq_some_iff.1 hadd
          exact h.set (.table _ (ih hbelow hinner))
    · rename_i elements hfind
      cases h.of_find? hfind with
      | tables helements =>
        split at hadd
        · cases hadd
        · obtain ⟨inner, hinner, rfl⟩ := Option.map_eq_some_iff.1 hadd
          exact h.set (sorted_replaceLast helements (ih (sorted_getLastD helements) hinner))

theorem Sorted.atPath {path : List String} {f : Table → Option Table}
    (hf : ∀ t t', Sorted t → f t = some t' → t'.Sorted) (h : t.Sorted)
    (hat : t.atPath path f = some t') : t'.Sorted := by
  induction path generalizing t t' with
  | nil => exact hf t t' h hat
  | cons k rest ih =>
    rw [Table.atPath] at hat
    split at hat
    · obtain ⟨inner, hinner, rfl⟩ := Option.map_eq_some_iff.1 hat
      exact h.set (.table _ (ih sorted_nil hinner))
    · cases hat
    · rename_i origin below hfind
      cases h.of_find? hfind with
      | table _ hbelow =>
        obtain ⟨inner, hinner, rfl⟩ := Option.map_eq_some_iff.1 hat
        exact h.set (.table _ (ih hbelow hinner))
    · rename_i elements hfind
      cases h.of_find? hfind with
      | tables helements =>
        obtain ⟨inner, hinner, rfl⟩ := Option.map_eq_some_iff.1 hat
        exact h.set (sorted_replaceLast helements (ih (sorted_getLastD helements) hinner))

theorem Sorted.openTable (h : t.Sorted) (hopen : t.openTable key = some t') : t'.Sorted := by
  rw [Table.openTable] at hopen
  split at hopen
  · exact Option.some.inj hopen ▸ h.set (.table _ sorted_nil)
  · rename_i below hfind
    cases h.of_find? hfind with
    | table _ hbelow => exact Option.some.inj hopen ▸ h.set (.table _ hbelow)
  · cases hopen

theorem Sorted.openElement (h : t.Sorted) (hopen : t.openElement key = some t') : t'.Sorted := by
  rw [Table.openElement] at hopen
  split at hopen
  · refine Option.some.inj hopen ▸ h.set (.tables fun entries hentries => ?_)
    exact List.mem_singleton.1 hentries ▸ sorted_nil
  · rename_i elements hfind
    cases h.of_find? hfind with
    | tables helements =>
      refine Option.some.inj hopen ▸ h.set (.tables fun entries hentries => ?_)
      rcases List.mem_append.1 hentries with hmem | hmem
      · exact helements entries hmem
      · exact List.mem_singleton.1 hmem ▸ sorted_nil
  · cases hopen

end Table

theorem sorted_timeValue (text : List Char) : (timeValue text).Sorted :=
  .object (List.forall_mem_singleton.2 (.str _))

theorem sorted_tableValue? {entries : List (String × Json)} {j : Json}
    (h : ∀ entry ∈ entries, entry.2.Sorted) (hvalue : tableValue? entries = some j) :
    j.Sorted := by
  rw [tableValue?.eq_def] at hvalue
  split at hvalue
  · exact Option.some.inj hvalue ▸ .object h
  · split at hvalue
    · split at hvalue
      · split at hvalue
        · exact Option.some.inj hvalue ▸ sorted_timeValue _
        · cases hvalue
      · cases hvalue
    · exact Option.some.inj hvalue ▸ .object h

mutual

theorem Item.Sorted.toJson? : ∀ {x : Item} {j : Json}, x.Sorted → x.toJson? = some j → j.Sorted
  | .value _, _, .value hj, h => by
    rw [Item.toJson?] at h
    exact Option.some.inj h ▸ hj
  | .table _ entries, _, .table _ hentries, h => by
    rw [Item.toJson?] at h
    obtain ⟨es, hes, hvalue⟩ := Option.bind_eq_some_iff.1 h
    exact sorted_tableValue? (sorted_entriesToJson? hentries hes) hvalue
  | .tables elements, _, .tables helements, h => by
    rw [Item.toJson?] at h
    obtain ⟨js, hjs, rfl⟩ := Option.map_eq_some_iff.1 h
    exact .arr (sorted_elementsToJson? helements hjs)

theorem sorted_entriesToJson? : ∀ {entries : List (String × Item)} {es : List (String × Json)},
    (∀ entry ∈ entries, entry.2.Sorted) → entriesToJson? entries = some es →
    ∀ entry ∈ es, entry.2.Sorted
  | [], _, _, h, entry, hentry => by
    rw [entriesToJson?] at h
    rw [← Option.some.inj h] at hentry
    cases hentry
  | (k, x) :: rest, _, hsorted, h, entry, hentry => by
    rw [entriesToJson?] at h
    obtain ⟨hx, hrest⟩ := List.forall_mem_cons.1 hsorted
    split at h
    · rename_i j es hj hes
      rw [← Option.some.inj h] at hentry
      rcases List.mem_cons.1 hentry with rfl | hentry
      · exact hx.toJson? hj
      · exact sorted_entriesToJson? hrest hes entry hentry
    · cases h

theorem sorted_elementsToJson? : ∀ {elements : List (List (String × Item))} {js : List Json},
    (∀ entries ∈ elements, ∀ entry ∈ entries, entry.2.Sorted) →
    elementsToJson? elements = some js → ∀ j ∈ js, j.Sorted
  | [], _, _, h, j, hj => by
    rw [elementsToJson?] at h
    rw [← Option.some.inj h] at hj
    cases hj
  | entries :: rest, _, hsorted, h, j, hj => by
    rw [elementsToJson?] at h
    obtain ⟨hentries, hrest⟩ := List.forall_mem_cons.1 hsorted
    split at h
    · rename_i first js hfirst hjs
      rw [← Option.some.inj h] at hj
      obtain ⟨es, hes, hvalue⟩ := Option.bind_eq_some_iff.1 hfirst
      rcases List.mem_cons.1 hj with rfl | hj
      · exact sorted_tableValue? (sorted_entriesToJson? hentries hes) hvalue
      · exact sorted_elementsToJson? hrest hjs j hj
    · cases h

end

/-- The value that a reader gives is in order. -/
def ReadsSorted (read : Reader Json) : Prop := ∀ s j r, read s = some (j, r) → j.Sorted

theorem sorted_integerValue {n : Int} {j : Json} (h : integerValue n = some j) : j.Sorted := by
  rw [integerValue] at h
  split at h
  · exact Option.some.inj h ▸ .int n
  · cases h

theorem sorted_floatValue {negative : Bool} {digits : List Char} {power : Int} {j : Json}
    (h : floatValue negative digits power = some j) : j.Sorted := by
  rw [floatValue] at h
  split at h
  · split at h
    · exact Option.some.inj h ▸ .null
    · cases h
  · exact Option.some.inj h ▸ .float _

theorem readsSorted_readBased (base : Nat) : ReadsSorted (readBased base) := by
  intro s j r h
  obtain ⟨⟨ds, r'⟩, -, h⟩ := Option.bind_eq_some_iff.1 h
  obtain ⟨j', hj, heq⟩ := Option.map_eq_some_iff.1 h
  obtain ⟨rfl, -⟩ := Prod.mk.inj heq
  exact sorted_integerValue hj

theorem readsSorted_finish (negative : Bool) (whole places : List Char) :
    ReadsSorted (readDecimal.finish negative whole places) := by
  intro s j r h
  rw [readDecimal.finish] at h
  split at h
  · obtain ⟨j', hj, heq⟩ := Option.map_eq_some_iff.1 h
    obtain ⟨rfl, -⟩ := Prod.mk.inj heq
    exact sorted_integerValue hj
  · obtain ⟨j', hj, heq⟩ := Option.map_eq_some_iff.1 h
    obtain ⟨rfl, -⟩ := Prod.mk.inj heq
    exact sorted_floatValue hj

theorem readsSorted_readDecimal (negative : Bool) : ReadsSorted (readDecimal negative) := by
  intro s j r h
  rw [readDecimal] at h
  obtain ⟨⟨whole, rest⟩, -, h⟩ := Option.bind_eq_some_iff.1 h
  dsimp only at h
  split at h
  -- With a point and without one, an exponent may follow.
  all_goals
    obtain ⟨⟨places, rest'⟩, -, h⟩ := Option.bind_eq_some_iff.1 h
    dsimp only at h
    split at h
    · split at h
      · obtain ⟨⟨power, r'⟩, -, h⟩ := Option.bind_eq_some_iff.1 h
        obtain ⟨j', hj, h⟩ := Option.bind_eq_some_iff.1 h
        obtain ⟨rfl, -⟩ := Prod.mk.inj (Option.some.inj h)
        exact sorted_floatValue hj
      · exact readsSorted_finish _ _ _ _ _ _ h
    · exact readsSorted_finish _ _ _ _ _ _ h

theorem readsSorted_readNumber : ReadsSorted readNumber := by
  intro s j r h
  rw [readNumber.eq_def] at h
  split at h
  · exact readsSorted_readBased 16 _ j r h
  · exact readsSorted_readBased 8 _ j r h
  · exact readsSorted_readBased 2 _ j r h
  · dsimp only at h
    split at h
    · obtain ⟨rfl, -⟩ := Prod.mk.inj (Option.some.inj h)
      exact .null
    · exact readsSorted_readDecimal _ _ j r h

theorem readsSorted_readTime : ReadsSorted readTime := by
  intro s j r h
  obtain ⟨⟨text, r'⟩, -, heq⟩ := Option.map_eq_some_iff.1 h
  obtain ⟨rfl, -⟩ := Prod.mk.inj heq
  exact sorted_timeValue text

/-- The items of an array that a reader gives are in order. -/
def ReadsAllSorted (read : Reader (List Json)) : Prop :=
  ∀ s js r, read s = some (js, r) → ∀ j ∈ js, j.Sorted

/-- A reader adds values in order to a table. -/
def KeepsSorted (read : Table → Reader Table) : Prop :=
  ∀ t s t' r, t.Sorted → read t s = some (t', r) → t'.Sorted

section Values

variable {fuel : Nat}

theorem readsSorted_readValue_succ (hitems : ∀ depth, ReadsAllSorted (readItems fuel depth))
    (hpairs : ∀ depth, KeepsSorted (readPairs fuel depth)) (depth : Nat) :
    ReadsSorted (readValue (fuel + 1) depth) := by
  intro s j r h
  rw [readValue.eq_def] at h
  dsimp only at h
  split at h
  · cases h
  · rename_i c rest
    split at h
    · obtain ⟨⟨xs, r'⟩, -, heq⟩ := Option.map_eq_some_iff.1 h
      obtain ⟨rfl, -⟩ := Prod.mk.inj heq
      exact .str _
    · split at h
      · split at h
        · cases h
        · obtain ⟨⟨js, r'⟩, hjs, heq⟩ := Option.map_eq_some_iff.1 h
          obtain ⟨rfl, -⟩ := Prod.mk.inj heq
          exact .arr (hitems _ _ _ _ hjs)
      · split at h
        · split at h
          · cases h
          · split at h
            · obtain ⟨rfl, -⟩ := Prod.mk.inj (Option.some.inj h)
              exact .object fun entry hentry => absurd hentry List.not_mem_nil
            · obtain ⟨⟨t, r'⟩, ht, h⟩ := Option.bind_eq_some_iff.1 h
              obtain ⟨j', hj, heq⟩ := Option.map_eq_some_iff.1 h
              obtain ⟨rfl, -⟩ := Prod.mk.inj heq
              have htable : Table.Sorted t := hpairs _ _ _ _ _ Table.sorted_nil ht
              exact (Item.Sorted.table .header htable).toJson? hj
        · split at h
          · obtain ⟨rfl, -⟩ := Prod.mk.inj (Option.some.inj h)
            exact .bool true
          · obtain ⟨rfl, -⟩ := Prod.mk.inj (Option.some.inj h)
            exact .bool false
          · split at h
            · exact readsSorted_readTime _ j r h
            · exact readsSorted_readNumber _ j r h

theorem readsAllSorted_readItems_succ (hvalue : ∀ depth, ReadsSorted (readValue fuel depth))
    (hitems : ∀ depth, ReadsAllSorted (readItems fuel depth)) (depth : Nat) :
    ReadsAllSorted (readItems (fuel + 1) depth) := by
  intro s js r h
  rw [readItems.eq_def] at h
  dsimp only at h
  split at h
  · obtain ⟨rfl, -⟩ := Prod.mk.inj (Option.some.inj h)
    exact fun j hj => absurd hj List.not_mem_nil
  · split at h
    · cases h
    · rename_i first s' hfirst
      have hsorted : first.Sorted := hvalue _ _ _ _ hfirst
      split at h
      · obtain ⟨rfl, -⟩ := Prod.mk.inj (Option.some.inj h)
        exact List.forall_mem_singleton.2 hsorted
      · obtain ⟨⟨later, r'⟩, hlater, heq⟩ := Option.map_eq_some_iff.1 h
        obtain ⟨rfl, -⟩ := Prod.mk.inj heq
        exact List.forall_mem_cons.2 ⟨hsorted, hitems _ _ _ _ hlater⟩
      · cases h

theorem keepsSorted_readPairs_succ (hvalue : ∀ depth, ReadsSorted (readValue fuel depth))
    (hpairs : ∀ depth, KeepsSorted (readPairs fuel depth)) (depth : Nat) :
    KeepsSorted (readPairs (fuel + 1) depth) := by
  intro t s t' r ht h
  rw [readPairs.eq_def] at h
  dsimp only at h
  split at h
  · split at h
    · cases h
    · rename_i j s' hj
      split at h
      · cases h
      · rename_i added hadd
        have hadded : Table.Sorted added := ht.add (hvalue _ _ _ _ hj) hadd
        split at h
        · obtain ⟨rfl, -⟩ := Prod.mk.inj (Option.some.inj h)
          exact hadded
        · exact hpairs _ _ _ _ _ hadded h
        · cases h
  · cases h

/-- Values, the items of arrays and the pairs of inline tables are read in order. -/
theorem readsSorted_all (fuel : Nat) :
    (∀ depth, ReadsSorted (readValue fuel depth)) ∧
    (∀ depth, ReadsAllSorted (readItems fuel depth)) ∧
    (∀ depth, KeepsSorted (readPairs fuel depth)) := by
  induction fuel with
  | zero =>
    refine ⟨fun depth s j r h => ?_, fun depth s js r h => ?_, fun depth t s t' r _ h => ?_⟩
    · rw [readValue] at h
      cases h
    · rw [readItems] at h
      cases h
    · rw [readPairs] at h
      cases h
  | succ fuel ih =>
    obtain ⟨hvalue, hitems, hpairs⟩ := ih
    exact ⟨readsSorted_readValue_succ hitems hpairs, readsAllSorted_readItems_succ hvalue hitems,
      keepsSorted_readPairs_succ hvalue hpairs⟩

end Values

namespace State

variable {st st' : State} {s r : List Char}

theorem sorted_addPair {parts : List String} {j : Json} (h : st.root.Sorted) (hj : j.Sorted)
    (hadd : st.addPair parts j = some st') : st'.root.Sorted := by
  obtain ⟨root, hroot, rfl⟩ := Option.map_eq_some_iff.1 hadd
  exact h.atPath (fun t t' ht hadd => ht.add hj hadd) hroot

theorem sorted_openHeader {element : Bool} {parts : List String} (h : st.root.Sorted)
    (hopen : st.openHeader element parts = some st') : st'.root.Sorted := by
  obtain ⟨root, hroot, rfl⟩ := Option.map_eq_some_iff.1 hopen
  refine h.atPath (fun t t' ht hopen => ?_) hroot
  split at hopen
  · exact ht.openElement hopen
  · exact ht.openTable hopen

theorem sorted_readHeader {element : Bool} (h : st.root.Sorted)
    (hread : st.readHeader element s = some (st', r)) : st'.root.Sorted := by
  obtain ⟨⟨parts, s₁⟩, -, hread⟩ := Option.bind_eq_some_iff.1 hread
  obtain ⟨s₂, -, hread⟩ := Option.bind_eq_some_iff.1 hread
  dsimp only at hread
  split at hread
  all_goals
    obtain ⟨s₃, -, hread⟩ := Option.bind_eq_some_iff.1 hread
    obtain ⟨st₁, hopen, hread⟩ := Option.bind_eq_some_iff.1 hread
    obtain ⟨rfl, -⟩ := Prod.mk.inj (Option.some.inj hread)
    exact sorted_openHeader h hopen

theorem sorted_readPair (h : st.root.Sorted) (hread : st.readPair s = some (st', r)) :
    st'.root.Sorted := by
  obtain ⟨⟨parts, s₁⟩, -, hread⟩ := Option.bind_eq_some_iff.1 hread
  obtain ⟨s₂, -, hread⟩ := Option.bind_eq_some_iff.1 hread
  obtain ⟨⟨j, s₃⟩, hj, hread⟩ := Option.bind_eq_some_iff.1 hread
  obtain ⟨st₁, hadd, hread⟩ := Option.bind_eq_some_iff.1 hread
  obtain ⟨rfl, -⟩ := Prod.mk.inj (Option.some.inj hread)
  exact sorted_addPair h ((readsSorted_all _).1 _ _ _ _ hj) hadd

theorem sorted_readLines {fuel : Nat} (h : st.root.Sorted)
    (hread : readLines fuel st s = some st') : st'.root.Sorted := by
  induction fuel generalizing st s with
  | zero =>
    rw [readLines] at hread
    cases hread
  | succ fuel ih =>
    rw [readLines.eq_def] at hread
    dsimp only at hread
    split at hread
    · exact Option.some.inj hread ▸ h
    · split at hread
      · cases hread
      · rename_i st₁ s₁ hline
        split at hread
        · cases hread
        · refine ih ?_ hread
          split at hline
          · exact (Prod.mk.inj (Option.some.inj hline)).1 ▸ h
          · exact sorted_readHeader h hline
          · exact sorted_readHeader h hline
          · exact sorted_readPair h hline

end State

/-- The value that is read from a document is in order. -/
theorem sorted_of_read? {text : String} {j : Json} (h : read? text = some j) : j.Sorted := by
  obtain ⟨st, hst, hj⟩ := Option.bind_eq_some_iff.1 h
  obtain ⟨es, hes, rfl⟩ := Option.map_eq_some_iff.1 hj
  exact .object (sorted_entriesToJson? (State.sorted_readLines Table.sorted_nil hst) hes)

end Endpoint.Toml
