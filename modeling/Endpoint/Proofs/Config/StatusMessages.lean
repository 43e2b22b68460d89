import Endpoint.Proofs.Config.Assembly
import Endpoint.Proofs.List
import Endpoint.Proofs.Number.Integer
import Endpoint.Proofs.Request.Binding
import Mathlib

/-!
# Messages for statuses

The messages for HTTP statuses are configured under texts.  Several texts denote one status, since
zeros, a plus sign and white space make no difference to a number, and the checks accept them side
by side.  A status then has the message of the last of them, so that every entry takes effect
exactly if no two entries for one status differ in their messages.
-/

namespace Endpoint

namespace Status

variable {s s' : Status} {entry : String × String}

/-- The key of an entry denotes a status: it is the number of the status, apart from white space
    around it. -/
def KeyOf (s : Status) (entry : String × String) : Prop :=
  IntegerText (trimText entry.1).toList s.code

theorem keyOf_iff : s.KeyOf entry ↔ ofText? (trimText entry.1) = some s := by
  rw [KeyOf, ofText?_eq_some_iff, signedDigits?_eq_some_iff]

instance (s : Status) : DecidablePred s.KeyOf := fun _ => decidable_of_iff _ keyOf_iff.symm

theorem KeyOf.eq (h : s.KeyOf entry) (h' : s'.KeyOf entry) : s = s' := by
  have hread := keyOf_iff.1 h
  rw [keyOf_iff.1 h'] at hread
  exact (Option.some.inj hread).symm

end Status

/-- The last element with a property is the first one from the end. -/
theorem IsLast.find?_reverse {α : Type} {p : α → Prop} [DecidablePred p] {l : List α} {i : Nat}
    {a : α} (h : IsLast p l i a) : l.reverse.find? (fun b => decide (p b)) = some a := by
  obtain ⟨before, after, rfl, hafter⟩ := h.exists_append
  refine List.find?_eq_some_iff_append.2
    ⟨by simpa using h.holds, after.reverse, before.reverse, by simp, fun b hb => ?_⟩
  simpa using hafter b (List.mem_reverse.1 hb)

/-! ## From entries to the book -/

variable {entries : Entries String} {statuses : List (Status × String)}

theorem readStatuses_eq_ok_iff :
    readStatuses entries = .ok statuses ↔
      List.Forall₂ (fun entry status => status.1.KeyOf entry ∧ status.2 = entry.2)
        entries statuses := by
  induction entries generalizing statuses with
  | nil => simp [readStatuses, eq_comm]
  | cons entry rest ih =>
    obtain ⟨key, message⟩ := entry
    rw [readStatuses, List.forall₂_cons_left_iff]
    cases hkey : Status.ofText? (trimText key) with
    | none =>
      refine iff_of_false (by simp) ?_
      rintro ⟨status, _, ⟨hstatus, -⟩, -⟩
      rw [Status.keyOf_iff.1 hstatus] at hkey
      cases hkey
    | some status =>
      have hstatus : status.KeyOf (key, message) := Status.keyOf_iff.2 hkey
      rw [Except.map_eq_ok_iff]
      constructor
      · rintro ⟨tail, htail, rfl⟩
        exact ⟨_, tail, ⟨hstatus, rfl⟩, ih.1 htail, rfl⟩
      · rintro ⟨⟨status', message'⟩, tail, ⟨hstatus', hmessage⟩, htail, rfl⟩
        obtain rfl : status = status' := hstatus.eq hstatus'
        obtain rfl : message' = message := hmessage
        exact ⟨tail, ih.2 htail, rfl⟩

/-- The messages of a section are searched from the last one. -/
theorem FaultSection.httpMessages_book (s : FaultSection) (statuses : List (Status × String)) :
    (s.book statuses).httpMessages = statuses.reverse := by
  have hstatuses : ∀ (statuses : List (Status × String)) (b : MessageBook),
      (statuses.foldl (fun b status => b.withHttpMessage status.1 status.2) b).httpMessages =
        statuses.reverse ++ b.httpMessages := by
    intro statuses
    induction statuses with
    | nil => exact fun b => rfl
    | cons status rest ih =>
      intro b
      rw [List.foldl_cons, ih, List.reverse_cons, List.append_assoc]
      rfl
  have hmessages : ∀ (messages : List (FaultEvent × Wording)) (b : MessageBook),
      (messages.foldl (fun b message => b.withWording message.1 message.2) b).httpMessages =
        b.httpMessages := by
    intro messages
    induction messages with
    | nil => exact fun b => rfl
    | cons message rest ih => exact fun b => ih _
  refine (hstatuses statuses _).trans ?_
  rw [hmessages]
  exact List.append_nil _

/-- The message of a status is the one of the first of some entries that denotes it. -/
theorem find?_statuses (s : Status)
    (h : List.Forall₂ (fun entry status => status.1.KeyOf entry ∧ status.2 = entry.2)
      entries statuses) :
    (statuses.find? fun status => status.1 == s).map Prod.snd =
      (entries.find? fun entry => decide (s.KeyOf entry)).map Prod.snd := by
  induction h with
  | nil => rfl
  | @cons entry status entries statuses hhead _ ih =>
    obtain ⟨hkey, hmessage⟩ := hhead
    by_cases hstatus : status.1 = s
    · subst hstatus
      rw [List.find?_cons_of_pos (by simp), List.find?_cons_of_pos (by simpa using hkey),
        Option.map_some, Option.map_some, hmessage]
    · have hother : ¬ s.KeyOf entry := fun hs => hstatus (hkey.eq hs)
      rw [List.find?_cons_of_neg (by simpa using hstatus),
        List.find?_cons_of_neg (by simpa using hother), ih]

/-! ## What a facility says of a status -/

namespace Facility

/-- What a facility says of a status is its number and this message. -/
def Says (f : Facility) (s : Status) (message : String) : Prop :=
  f.book.httpError s = ⟨.http, s.text, message, none⟩

variable {c : Configuration} {f : Facility} {s : Status} {i : Nat} {entry : String × String}

theorem Says.eq {message message' : String} (h : f.Says s message) (h' : f.Says s message') :
    message = message' := by
  have herror := h.symm.trans h'
  cases herror
  rfl

/-- Each of the entries denotes a status, and its message is put in the book. -/
theorem exists_statuses (h : (ofConfiguration c).value = .ok f) :
    ∃ statuses, f.book = c.faults.book statuses ∧
      List.Forall₂ (fun entry status => status.1.KeyOf entry ∧ status.2 = entry.2)
        c.faults.httpMessages statuses := by
  rw [value_of_validate (validate_of_value h), assemble] at h
  split at h
  · cases h
  · obtain ⟨statuses, hstatuses, rfl⟩ := Except.map_eq_ok_iff.1 h
    exact ⟨statuses, rfl, readStatuses_eq_ok_iff.1 hstatuses⟩

theorem httpMessage?_eq (h : (ofConfiguration c).value = .ok f) (s : Status) :
    f.book.httpMessage? s =
      (c.faults.httpMessages.reverse.find? fun entry => decide (s.KeyOf entry)).map Prod.snd := by
  obtain ⟨statuses, hbook, hstatuses⟩ := exists_statuses h
  rw [MessageBook.httpMessage?, hbook, FaultSection.httpMessages_book]
  exact find?_statuses s (List.forall₂_reverse_iff.2 hstatuses)

theorem exists_keyOf (h : (ofConfiguration c).value = .ok f)
    (hentry : entry ∈ c.faults.httpMessages) : ∃ s : Status, s.KeyOf entry := by
  obtain ⟨statuses, -, hstatuses⟩ := exists_statuses h
  obtain ⟨status, hkey, -⟩ := exists_forall₂_iff.1 ⟨statuses, hstatuses⟩ entry hentry
  exact ⟨status.1, hkey⟩

theorem says_last (h : (ofConfiguration c).value = .ok f)
    (hlast : IsLast s.KeyOf c.faults.httpMessages i entry) : f.Says s entry.2 := by
  rw [Says, MessageBook.httpError, httpMessage?_eq h, hlast.find?_reverse]
  rfl

theorem says_number (h : (ofConfiguration c).value = .ok f)
    (hnone : ∀ entry ∈ c.faults.httpMessages, ¬ s.KeyOf entry) :
    f.Says s ("HTTP " ++ s.text) := by
  have hfind : (c.faults.httpMessages.reverse.find? fun entry => decide (s.KeyOf entry)) = none :=
    List.find?_eq_none.2 fun entry hentry => by simpa using hnone entry (List.mem_reverse.1 hentry)
  rw [Says, MessageBook.httpError, httpMessage?_eq h, hfind]
  rfl

/-- A facility is made of every configuration that passes its checks, and each key of its messages
    for statuses denotes a status.  A status has the message of the last entry that denotes it, or
    the usual one if there is none.  So every entry takes effect exactly if entries that denote the
    same status have the same message. -/
theorem says_last_of_validate (h : c.validate = .ok ()) :
    ∃ f, (ofConfiguration c).value = .ok f ∧
      (∀ entry ∈ c.faults.httpMessages, ∃ s : Status, s.KeyOf entry) ∧
      (∀ (s : Status) (i : Nat) (entry : String × String),
        IsLast s.KeyOf c.faults.httpMessages i entry → f.Says s entry.2) ∧
      (∀ s : Status, (∀ entry ∈ c.faults.httpMessages, ¬ s.KeyOf entry) →
        f.Says s ("HTTP " ++ s.text)) ∧
      ((∀ entry ∈ c.faults.httpMessages, ∀ s : Status, s.KeyOf entry → f.Says s entry.2) ↔
        ∀ entry ∈ c.faults.httpMessages, ∀ other ∈ c.faults.httpMessages, ∀ s : Status,
          s.KeyOf entry → s.KeyOf other → entry.2 = other.2) := by
  obtain ⟨f, hf⟩ := exists_value_iff.2 h
  refine ⟨f, hf, fun entry => exists_keyOf hf, fun s i entry => says_last hf,
    fun s => says_number hf, ?_, ?_⟩
  · intro heffect entry hentry other hother s hkey hkey'
    exact (heffect entry hentry s hkey).eq (heffect other hother s hkey')
  · intro hsame entry hentry s hkey
    obtain ⟨i, last, hlast⟩ := IsLast.exists_of_mem hentry hkey
    have hmem : last ∈ c.faults.httpMessages := List.mem_of_getElem? hlast.get
    rw [hsame entry hentry last hmem s hkey hlast.holds]
    exact says_last hf hlast

/-- The standard configuration with messages for statuses. -/
def withStatusMessages (messages : Entries String) : Configuration :=
  { Configuration.standard with faults := { FaultSection.standard with httpMessages := messages } }

/-- Messages for two statuses, one of which is given with its sign. -/
def signedStatus : Configuration :=
  withStatusMessages [("+403", "No entry"), ("404", "Nothing here")]

theorem says_last_of_validate_signed :
    signedStatus.validate = .ok () ∧ ∃ f, (ofConfiguration signedStatus).value = .ok f ∧
      f.Says .forbidden "No entry" ∧ f.Says .conflict "HTTP 409" := by
  have hvalid : signedStatus.validate = .ok () := by rfl
  obtain ⟨f, hf, -, hlast, husual, -⟩ := says_last_of_validate hvalid
  refine ⟨hvalid, f, hf, hlast .forbidden 0 ("+403", "No entry") ⟨rfl, by decide, ?_⟩,
    husual .conflict (by decide)⟩
  intro j entry hj hentry
  obtain ⟨j, rfl⟩ : ∃ k, j = k + 1 := ⟨j - 1, by omega⟩
  have hrest : entry ∈ [("404", "Nothing here")] := List.mem_of_getElem? hentry
  obtain rfl := List.mem_singleton.1 hrest
  decide

/-- Two messages for one status. -/
def repeatedStatus : Configuration :=
  withStatusMessages [("0403", "Keep out"), ("403", "No entry")]

/-- Two messages for one status pass the checks, and the first of them has no effect. -/
theorem accepts_repeatedStatus :
    repeatedStatus.faults.httpMessages.Sorted ∧ repeatedStatus.validate = .ok () ∧
      ("0403", "Keep out") ∈ repeatedStatus.faults.httpMessages ∧
      Status.forbidden.KeyOf ("0403", "Keep out") ∧
      ∃ f, (ofConfiguration repeatedStatus).value = .ok f ∧ f.Says .forbidden "No entry" ∧
        ¬ f.Says .forbidden "Keep out" := by
  have hsorted : repeatedStatus.faults.httpMessages.Sorted := by
    refine List.pairwise_cons.2 ⟨fun entry hentry => ?_, List.pairwise_singleton _ _⟩
    obtain rfl := List.mem_singleton.1 hentry
    decide
  have hvalid : repeatedStatus.validate = .ok () := by rfl
  obtain ⟨f, hf⟩ := exists_value_iff.2 hvalid
  have hlast : f.Says .forbidden "No entry" :=
    says_last hf (i := 1) ⟨rfl, by decide, fun j entry hj hentry => by
      have hbound := (List.getElem?_eq_some_iff.1 hentry).1
      exact absurd hbound (Nat.not_lt.2 hj)⟩
  refine ⟨hsorted, hvalid, List.mem_cons_self, by decide, f, hf, hlast, fun hother => ?_⟩
  exact absurd (hlast.eq hother) (by decide)

end Facility

end Endpoint
