import LintRelay.Proofs.Identity
import LintRelay.Server.Session

/-!
# What traces tell

The events of a server, in order, tell all that the editor has been shown and all that the documents
have reported. A trace is read from its end: what holds is what the latest event tells that has
anything to tell about it (`latest?`). So are defined the latest pass over a document
(`latestPass`), and the set that was published last for a URI (`shown`).

A report stands until its document is analyzed again or closed, or until one of these is done to
another URI of the same file (`superseded`). The set of a URI is taken back when the document of
that URI is closed, until one is published again (`withdrawn`).
-/

namespace LintRelay.Server

/-! ## Reading a trace -/

/-- The latest thing that the events of a trace tell. -/
def latest? {α : Type} (tells : Event → Option α) (trace : List Event) : Option α :=
  trace.reverse.findSome? tells

section Latest

variable {α : Type} {tells : Event → Option α}

/-- Later events come before earlier ones. -/
theorem latest?_append (trace events : List Event) :
    latest? tells (trace ++ events) = (latest? tells events).or (latest? tells trace) := by
  unfold latest?
  rw [List.reverse_append, List.findSome?_append]

/-- Events that tell nothing change nothing. -/
theorem latest?_append_of_none {events : List Event} (h : ∀ e ∈ events, tells e = none)
    (trace : List Event) : latest? tells (trace ++ events) = latest? tells trace := by
  have hnone : latest? tells events = none :=
    List.findSome?_eq_none_iff.2 fun e he => h e (List.mem_reverse.1 he)
  rw [latest?_append, hnone, Option.none_or]

/-- One more event is the latest if it tells something. -/
theorem latest?_concat (trace : List Event) (e : Event) :
    latest? tells (trace ++ [e]) = (tells e).or (latest? tells trace) := by
  rw [latest?_append]
  cases h : tells e <;> simp [latest?, h]

/-- What is told latest is told by some event. -/
theorem exists_of_latest? {trace : List Event} {a : α} (h : latest? tells trace = some a) :
    ∃ e ∈ trace, tells e = some a := by
  obtain ⟨e, he, htells⟩ := List.exists_of_findSome?_eq_some h
  exact ⟨e, List.mem_reverse.1 he, htells⟩

/-- Events of which some tell something leave what one of them tells. -/
theorem latest?_append_of_exists {events : List Event} (h : ∃ e ∈ events, tells e ≠ none)
    (trace : List Event) :
    ∃ a, latest? tells (trace ++ events) = some a ∧ ∃ e ∈ events, tells e = some a := by
  rw [latest?_append]
  cases hlatest : latest? tells events with
  | none =>
    obtain ⟨e, he, htells⟩ := h
    exact absurd (List.findSome?_eq_none_iff.1 hlatest e (List.mem_reverse.2 he)) htells
  | some a => exact ⟨a, Option.some_or, exists_of_latest? hlatest⟩

/-- Events of which some tell one thing, and none another, leave that thing. -/
theorem latest?_append_of_forall {events : List Event} {a : α}
    (hsome : ∃ e ∈ events, tells e ≠ none) (hall : ∀ e ∈ events, ∀ b, tells e = some b → b = a)
    (trace : List Event) : latest? tells (trace ++ events) = some a := by
  obtain ⟨b, hlatest, e, he, htells⟩ := latest?_append_of_exists hsome trace
  rw [hlatest, hall e he b htells]

end Latest

/-! ### Passes -/

/-- What an event tells about the latest pass over a document. -/
def Event.recalls? (uri : Uri) : Event → Option (Option PassRecord)
  | .passed r => if r.document.uri = uri then some (some r) else none
  | .closed other => if other = uri then some none else none
  | .sent _ | .noted _ => none

/-- The latest pass over a document since it was opened. -/
def latestPass (trace : List Event) (uri : Uri) : Option PassRecord :=
  (latest? (Event.recalls? uri) trace).join

/-- The document that an event analyzes or closes. -/
def Event.subject? : Event → Option Uri
  | .passed r => some r.document.uri
  | .closed uri => some uri
  | .sent _ | .noted _ => none

/-- Whether an event replaces the report of a document, by analyzing or closing another URI of the
same file; if it is about the document itself, it does not. -/
def Event.supersedes? (uri : Uri) (e : Event) : Option Bool :=
  e.subject?.bind fun other =>
    if other = uri then some false
    else if identityOf? other = identityOf? uri then some true else none

/-- Whether the latest report of a document was replaced through another URI of the same file. -/
def superseded (trace : List Event) (uri : Uri) : Bool :=
  (latest? (Event.supersedes? uri) trace).getD false

/-- A pass is the latest over a document, and its report was not replaced. -/
def Stands (trace : List Event) (uri : Uri) (r : PassRecord) : Prop :=
  latestPass trace uri = some r ∧ superseded trace uri = false

/-- A latest pass was run. -/
theorem passed_of_latestPass {trace : List Event} {uri : Uri} {r : PassRecord}
    (h : latestPass trace uri = some r) : .passed r ∈ trace := by
  obtain ⟨e, he, htells⟩ := exists_of_latest? (Option.join_eq_some_iff.1 h)
  cases e with
  | passed r' =>
    simp only [Event.recalls?] at htells
    split at htells
    · obtain rfl := Option.some.inj (Option.some.inj htells)
      exact he
    · simp at htells
  | closed other =>
    simp only [Event.recalls?] at htells
    split at htells <;> simp at htells
  | sent m => simp [Event.recalls?] at htells
  | noted n => simp [Event.recalls?] at htells

section Passes

variable (trace : List Event) (uri : Uri)

/-- Messages leave the latest pass as it is. -/
theorem latestPass_sent (messages : List Message) :
    latestPass (trace ++ messages.map .sent) uri = latestPass trace uri := by
  unfold latestPass
  rw [latest?_append_of_none (by simp [Event.recalls?])]

/-- Notes leave the latest pass as it is. -/
theorem latestPass_noted (n : Note) :
    latestPass (trace ++ [.noted n]) uri = latestPass trace uri := by
  unfold latestPass
  rw [latest?_append_of_none (by simp [Event.recalls?])]

/-- After a pass, it is the latest over its document. -/
theorem latestPass_passed (r : PassRecord) : latestPass (trace ++ [.passed r]) uri =
    if r.document.uri = uri then some r else latestPass trace uri := by
  unfold latestPass
  rw [latest?_concat, Event.recalls?]
  split <;> simp

/-- A closed document has no latest pass. -/
theorem latestPass_closed (other : Uri) : latestPass (trace ++ [.closed other]) uri =
    if other = uri then none else latestPass trace uri := by
  unfold latestPass
  rw [latest?_concat, Event.recalls?]
  split <;> simp

/-- Messages replace no report. -/
theorem superseded_sent (messages : List Message) :
    superseded (trace ++ messages.map .sent) uri = superseded trace uri := by
  unfold superseded
  rw [latest?_append_of_none (by simp [Event.supersedes?, Event.subject?])]

/-- Notes replace no report. -/
theorem superseded_noted (n : Note) :
    superseded (trace ++ [.noted n]) uri = superseded trace uri := by
  unfold superseded
  rw [latest?_append_of_none (by simp [Event.supersedes?, Event.subject?])]

/-- What is done to a document replaces the reports of the other URIs of its file. -/
theorem superseded_concat {e : Event} {other : Uri} (h : e.subject? = some other) :
    superseded (trace ++ [e]) uri =
      if other = uri then false
      else if identityOf? other = identityOf? uri then true else superseded trace uri := by
  unfold superseded
  rw [latest?_concat, Event.supersedes?, h, Option.bind_some]
  split
  · rfl
  · split <;> rfl

variable {trace uri}

/-- Messages leave reports standing. -/
theorem stands_sent {messages : List Message} {r : PassRecord} :
    Stands (trace ++ messages.map .sent) uri r ↔ Stands trace uri r := by
  unfold Stands
  rw [latestPass_sent, superseded_sent]

/-- Notes leave reports standing. -/
theorem stands_noted {n : Note} {r : PassRecord} :
    Stands (trace ++ [.noted n]) uri r ↔ Stands trace uri r := by
  unfold Stands
  rw [latestPass_noted, superseded_noted]

/-- After a pass its report stands, and so do those of other files that stood before. -/
theorem stands_passed {r r' : PassRecord} : Stands (trace ++ [.passed r']) uri r ↔
    r'.document.uri = uri ∧ r' = r ∨
      identityOf? r'.document.uri ≠ identityOf? uri ∧ Stands trace uri r := by
  unfold Stands
  rw [latestPass_passed, superseded_concat trace uri rfl]
  by_cases huri : r'.document.uri = uri
  · simp [huri]
  · -- A pass over another URI of the same file replaces the report, one over another file does not.
    by_cases hid : identityOf? r'.document.uri = identityOf? uri <;> simp [huri, hid]

/-- After a document was closed, the reports of other files that stood before stand. -/
theorem stands_closed {other : Uri} {r : PassRecord} : Stands (trace ++ [.closed other]) uri r ↔
    identityOf? other ≠ identityOf? uri ∧ Stands trace uri r := by
  unfold Stands
  rw [latestPass_closed, superseded_concat trace uri rfl]
  by_cases huri : other = uri
  · simp [huri]
  · by_cases hid : identityOf? other = identityOf? uri <;> simp [huri, hid]

end Passes

/-! ### Published sets -/

/-- The set that a message publishes for a URI. -/
def Message.publishes? (u : Uri) : Message → Option (List Finding)
  | .publish uri findings _ => if uri = u then some findings else none
  | _ => none

/-- The set that an event publishes for a URI. -/
def Event.shows? (u : Uri) (e : Event) : Option (List Finding) := e.message?.bind (·.publishes? u)

/-- The set that was published last for a URI. -/
def shown (trace : List Event) (u : Uri) : List Finding := (latest? (Event.shows? u) trace).getD []

/-- Whether an event takes back the set of a URI, by closing the document, or publishes one. -/
def Event.withdraws? (u : Uri) : Event → Option Bool
  | .sent message => (message.publishes? u).map fun _ => false
  | .closed uri => if uri = u then some true else none
  | .passed _ | .noted _ => none

/-- Whether the set of a URI was taken back when the document was closed, and none was published
since. -/
def withdrawn (trace : List Event) (u : Uri) : Bool :=
  (latest? (Event.withdraws? u) trace).getD false

/-- What is shown for a URI has some property, or is empty if it was taken back. -/
def Displays (trace : List Event) (u : Uri) (P : List Finding → Prop) : Prop :=
  if withdrawn trace u then shown trace u = [] else P (shown trace u)

namespace Displays

variable {trace : List Event} {u : Uri} {P : List Finding → Prop}

/-- Messages lead from one property to another if all sets that they publish for the URI have the
new one, and if without such a set the new one follows from the old. -/
theorem send (h : Displays trace u P) {messages : List Message} {P' : List Finding → Prop}
    (hsent : ∀ m ∈ messages, ∀ set, m.publishes? u = some set → P' set)
    (hunsent : (∀ m ∈ messages, m.publishes? u = none) → ∀ set, P set → P' set) :
    Displays (trace ++ messages.map .sent) u P' := by
  unfold Displays shown withdrawn at *
  by_cases hnone : ∀ m ∈ messages, m.publishes? u = none
  · -- Nothing is told about the URI, so that what was shown still is.
    have hshows : ∀ e ∈ messages.map Event.sent, e.shows? u = none := List.forall_mem_map.2 hnone
    have hwithdraws : ∀ e ∈ messages.map Event.sent, e.withdraws? u = none :=
      List.forall_mem_map.2 fun m hm => by rw [Event.withdraws?, hnone m hm, Option.map_none]
    rw [latest?_append_of_none hshows, latest?_append_of_none hwithdraws]
    split
    · next hwithdrawn =>
      rw [if_pos hwithdrawn] at h
      exact h
    · next hwithdrawn =>
      rw [if_neg hwithdrawn] at h
      exact hunsent hnone _ h
  · -- Whichever message comes last publishes a set with the new property, and ends a withdrawal.
    obtain ⟨m, hm, hpublishes⟩ : ∃ m ∈ messages, m.publishes? u ≠ none := by simpa using hnone
    have hmem : Event.sent m ∈ messages.map Event.sent := List.mem_map_of_mem hm
    have hsome : ∃ e ∈ messages.map Event.sent, e.shows? u ≠ none := ⟨_, hmem, hpublishes⟩
    obtain ⟨set, hshows, e, he, hset⟩ := latest?_append_of_exists hsome trace
    have hwithdraws : latest? (Event.withdraws? u) (trace ++ messages.map .sent) = some false :=
      latest?_append_of_forall ⟨_, hmem, by simpa [Event.withdraws?] using hpublishes⟩
        (by simp [Event.withdraws?]) trace
    obtain ⟨m', hm', rfl⟩ := List.mem_map.1 he
    rw [hshows, hwithdraws]
    exact hsent m' hm' set hset

/-- A pass publishes nothing. -/
theorem passed (h : Displays trace u P) (r : PassRecord) :
    Displays (trace ++ [.passed r]) u P := by
  unfold Displays shown withdrawn at *
  rw [latest?_concat, latest?_concat]
  exact h

/-- A note publishes nothing. -/
theorem noted (h : Displays trace u P) (n : Note) : Displays (trace ++ [.noted n]) u P := by
  unfold Displays shown withdrawn at *
  rw [latest?_concat, latest?_concat]
  exact h

/-- The end of another document takes back nothing. -/
theorem closed (h : Displays trace u P) {uri : Uri} (huri : uri ≠ u) :
    Displays (trace ++ [.closed uri]) u P := by
  unfold Displays shown withdrawn at *
  rw [latest?_concat, latest?_concat, Event.withdraws?, if_neg huri]
  exact h

end Displays

/-- With the end of its own document a set is taken back, and nothing has to be shown. -/
theorem displays_closed (trace : List Event) (u : Uri) (version : Option Int)
    (P : List Finding → Prop) :
    Displays (trace ++ [.sent (.publish u [] version)] ++ [.closed u]) u P := by
  have hshows : Event.shows? u (.sent (.publish u [] version)) = some [] := if_pos rfl
  have hwithdraws : Event.withdraws? u (.closed u) = some true := if_pos rfl
  unfold Displays shown withdrawn
  simp only [latest?_concat, hshows, hwithdraws]
  rfl

/-! ### Files -/

/-- The files that an event is about. -/
def Event.files : Event → List String
  | .passed r => r.outcome.document :: r.outcome.files.keys
  | .sent _ | .closed _ | .noted _ => []

/-- The files that a trace is about: the analyzed documents, and the files that were reported on. -/
def filesOf (trace : List Event) : List String := trace.flatMap Event.files

/-- No file of a trace but one has a given URI. -/
def Sole (trace : List Event) (file : String) (u : Uri) : Prop :=
  ∀ other ∈ filesOf trace, Uri.ofFilePath? other = some u → other = file

instance (trace : List Event) (file : String) (u : Uri) : Decidable (Sole trace file u) :=
  inferInstanceAs
    (Decidable (∀ other ∈ filesOf trace, Uri.ofFilePath? other = some u → other = file))

/-- What is the sole file of a longer trace is that of a shorter one. -/
theorem Sole.of_append {trace events : List Event} {file : String} {u : Uri}
    (h : Sole (trace ++ events) file u) : Sole trace file u := by
  intro other hother
  refine h other ?_
  unfold filesOf
  rw [List.flatMap_append]
  exact List.mem_append_left _ hother

/-- The document of a pass in a trace, and the files it reported on, are files of the trace. -/
theorem mem_filesOf {trace : List Event} {r : PassRecord} (h : .passed r ∈ trace) {file : String}
    (hfile : file = r.outcome.document ∨ file ∈ r.outcome.files.keys) : file ∈ filesOf trace :=
  List.mem_flatMap.2 ⟨.passed r, h, List.mem_cons.2 hfile⟩

end LintRelay.Server
