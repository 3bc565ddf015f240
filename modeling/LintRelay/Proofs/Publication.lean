import LintRelay.Publication
import LintRelay.Proofs.Finding
import LintRelay.Proofs.Table

/-!
# What readers of publications see

A reader keeps, for every file, the set that was published last. `Feed.after` follows a ledger and
such a reader through any sequence of operations, and `published_spec` shows that the reader sees on
every file what the documents report on it, each in its latest pass, also on files that an operation
says nothing about.

Each operation goes through the documents in an order of its own. A set that is published therefore
is not determined by the ledger, but what it holds and in which order it starts is
(`Ledger.Merges`); two such sets are the same up to the order of findings that start at one place
(`Ledger.Merges.sameUpToTies`).

The proof rests on one property of an operation, `Ledger.Relays`: what it publishes merges the
reports of the new ledger, and where it publishes nothing the reports are those of the old one.
`reconcile` and `forget` have it, and along a sequence it keeps the reader's sets up to date.
-/

namespace LintRelay

namespace Ledger

/-! ## Merged sets -/

/-- What a document reports on a file in its latest pass. -/
def report (ledger : Ledger) (document file : String) : List Finding :=
  (ledger.reports.getD document ∅).getD file []

/-- A document reports nothing on files that it did not report on. -/
theorem report_of_not_mem {ledger : Ledger} {document file : String}
    (h : file ∉ ledger.reportedOn document) : ledger.report document file = [] :=
  Table.getD_of_not_mem_keys h []

/-- A finding of a document's report on a file is one of the findings that are kept for both. -/
theorem mem_report {ledger : Ledger} {document file : String} {x : Finding} :
    x ∈ ledger.report document file ↔
      ∃ files, ledger.reports.get? document = some files ∧ x ∈ files.getD file [] := by
  cases hget : ledger.reports.get? document with
  | none => simp [report, Table.getD, hget]
  | some files =>
    unfold report
    rw [Table.getD_of_get? hget]
    simp

/-- A set holds all that the documents report on a file, without repeats and ordered by where it
starts. -/
structure Merges (ledger : Ledger) (file : String) (set : List Finding) : Prop where
  /-- Nothing is repeated. -/
  nodup : set.Nodup
  /-- No finding starts after the next. -/
  sorted : set.Pairwise fun a b => a.range.start.IsUpTo b.range.start
  /-- The set is the union of all reports. -/
  mem : ∀ x, x ∈ set ↔ ∃ document, x ∈ ledger.report document file

/-- In whatever order the documents are visited, the merged set is the union of their reports. -/
theorem merged_merges (v : Visiting) (ledger : Ledger) (file : String) :
    ledger.Merges file (ledger.merged v file) := by
  constructor
  case nodup =>
    exact (List.mergeSort_perm _ _).nodup_iff.2 (keepFirst_eq_nodup _)
  case sorted => exact Finding.mergeSort_startsUpTo _
  case mem =>
    intro x
    unfold merged
    rw [List.mem_mergeSort, mem_keepFirst_eq, List.mem_flatMap]
    simp only [mem_report, Table.mem_valuesIn]
    constructor
    · rintro ⟨files, ⟨document, hdocument⟩, hx⟩
      exact ⟨document, files, hdocument, hx⟩
    · rintro ⟨document, files, hdocument, hx⟩
      exact ⟨files, ⟨document, hdocument⟩, hx⟩

/-- In the empty ledger there is nothing to merge. -/
theorem merges_empty {file : String} {set : List Finding} :
    empty.Merges file set ↔ set = [] := by
  constructor
  · intro h
    refine List.eq_nil_iff_forall_not_mem.2 fun x hx => ?_
    obtain ⟨document, hdocument⟩ := (h.mem x).1 hx
    exact absurd hdocument List.not_mem_nil
  · rintro rfl
    refine ⟨.nil, .nil, fun x => iff_of_false List.not_mem_nil ?_⟩
    rintro ⟨document, hdocument⟩
    exact absurd hdocument List.not_mem_nil

/-- Where the reports are the same, the same sets merge them. -/
theorem Merges.congr {a b : Ledger} {file : String} {set : List Finding} (h : a.Merges file set)
    (hreports : ∀ document, a.report document file = b.report document file) :
    b.Merges file set where
  nodup := h.nodup
  sorted := h.sorted
  mem x := by
    rw [h.mem]
    exact exists_congr fun document => by rw [hreports document]

/-- Sets that merge the same reports are the same up to ties. -/
theorem Merges.sameUpToTies {ledger : Ledger} {file : String} {a b : List Finding}
    (ha : ledger.Merges file a) (hb : ledger.Merges file b) : Finding.SameUpToTies a b := by
  have hperm : a.Perm b :=
    (List.perm_ext_iff_of_nodup ha.nodup hb.nodup).2 fun x => (ha.mem x).trans (hb.mem x).symm
  refine ⟨hperm, (hperm.map _).eq_of_pairwise (fun p q _ _ hpq hqp => ?_)
    (List.pairwise_map.2 ha.sorted) (List.pairwise_map.2 hb.sorted)⟩
  exact hpq.antisymm hqp

/-! ## Operations -/

/-- After a pass, its document reports what the pass found, and the others what they did before. -/
theorem report_reconcile (v : Visiting) (ledger : Ledger) (outcome : Outcome)
    (document file : String) :
    (ledger.reconcile v outcome).1.report document file =
      if outcome.document = document then outcome.files.getD file []
      else ledger.report document file := by
  unfold reconcile report
  rw [Table.getD_insert]
  split <;> rfl

/-- A forgotten document reports nothing, and the others what they did before. -/
theorem report_forget (v : Visiting) (ledger : Ledger) (forgotten document file : String) :
    (ledger.forget v forgotten).1.report document file =
      if forgotten = document then [] else ledger.report document file := by
  unfold forget report
  rw [Table.getD_erase]
  split <;> rfl

/-- The files that a pass is published for: those that its document reports on now or did before,
and the document. -/
theorem mem_reconcile_files {v : Visiting} {ledger : Ledger} {outcome : Outcome} {file : String} :
    file ∈ (ledger.reconcile v outcome).2.map Prod.fst ↔
      file ∈ outcome.files.keys ∨ file ∈ ledger.reportedOn outcome.document ∨
        file = outcome.document := by
  change file ∈ (Table.tabulate _ _).keys ↔ _
  rw [Table.mem_keys_tabulate, List.mem_append, List.mem_append, List.mem_singleton, or_assoc]

/-- The files that a pass is published for ascend, so that each is published once. -/
theorem reconcile_files_ascending (v : Visiting) (ledger : Ledger) (outcome : Outcome) :
    ((ledger.reconcile v outcome).2.map Prod.fst).Pairwise (· < ·) :=
  Table.keys_ascending _

/-- The files that are published when a document is forgotten are those that it reported on. -/
theorem forget_files (v : Visiting) (ledger : Ledger) (document : String) :
    (ledger.forget v document).2.map Prod.fst = ledger.reportedOn document := by
  unfold forget publications
  rw [List.map_map]
  exact List.map_id _

/-! ## Publishing what changes -/

/-- What is published when a ledger changes is right: every set that is sent merges the new reports,
and for a file for which none is sent the reports have not changed. -/
structure Relays (old new : Ledger) (publications : List Publication) : Prop where
  /-- A set that is sent merges the new reports. -/
  sent : ∀ p ∈ publications, new.Merges p.1 p.2
  /-- Where none is sent, the reports are as before. -/
  unsent : ∀ file, file ∉ publications.map Prod.fst →
    ∀ document, old.report document file = new.report document file

/-- Taking in a pass publishes what changes. -/
theorem reconcile_relays (v : Visiting) (ledger : Ledger) (outcome : Outcome) :
    Relays ledger (ledger.reconcile v outcome).1 (ledger.reconcile v outcome).2 where
  sent := by
    rintro ⟨file, findings⟩ hp
    have hget := Table.mem_entries.1 hp
    rw [Table.get?_tabulate] at hget
    split at hget
    · rw [← Option.some.inj hget]
      exact merged_merges v _ file
    · cases hget
  unsent file hfile document := by
    rw [mem_reconcile_files] at hfile
    rw [report_reconcile]
    split
    · next hdocument =>
      -- The file is neither among the new nor among the old files of the document.
      have hold : file ∉ ledger.reportedOn document := fun h =>
        hfile (.inr (.inl (by rw [hdocument]; exact h)))
      rw [Table.getD_of_not_mem_keys (fun h => hfile (.inl h)), report_of_not_mem hold]
    · rfl

/-- Forgetting a document publishes what changes. -/
theorem forget_relays (v : Visiting) (ledger : Ledger) (document : String) :
    Relays ledger (ledger.forget v document).1 (ledger.forget v document).2 where
  sent := by
    intro p hp
    obtain ⟨file, -, rfl⟩ := List.mem_map.1 hp
    exact merged_merges v _ file
  unsent file hfile other := by
    rw [forget_files] at hfile
    rw [report_forget]
    split
    · next hother =>
      subst hother
      rw [report_of_not_mem hfile]
    · rfl

/-! ## Sequences of operations -/

/-- Something that is done to a ledger. -/
inductive Operation where
  /-- A pass is taken in. -/
  | reconcile (outcome : Outcome)
  /-- A document is forgotten. -/
  | forget (document : String)

/-- Does an operation, and gives what is to be published. -/
def perform (v : Visiting) (ledger : Ledger) : Operation → Ledger × List Publication
  | .reconcile outcome => ledger.reconcile v outcome
  | .forget document => ledger.forget v document

/-- An operation publishes what changes. -/
theorem perform_relays (v : Visiting) (ledger : Ledger) (op : Operation) :
    Relays ledger (ledger.perform v op).1 (ledger.perform v op).2 :=
  match op with
  | .reconcile outcome => reconcile_relays v ledger outcome
  | .forget document => forget_relays v ledger document

/-- The latest pass of a document after an operation, given the one before. A forgotten document has
none. -/
def Operation.recall (document : String) (last : Option Outcome) : Operation → Option Outcome
  | .reconcile outcome => if outcome.document = document then some outcome else last
  | .forget forgotten => if forgotten = document then none else last

/-- The latest pass of a document that was taken in, unless the document was forgotten since. -/
def latest (ops : List Operation) (document : String) : Option Outcome :=
  ops.foldl (Operation.recall document) none

/-- An operation leaves in the ledger the files of the pass that is the latest after it. -/
theorem get?_perform {ledger : Ledger} {document : String} {last : Option Outcome}
    (h : ledger.reports.get? document = last.map (·.files)) (v : Visiting) (op : Operation) :
    (ledger.perform v op).1.reports.get? document = (op.recall document last).map (·.files) := by
  cases op with
  | reconcile outcome =>
    by_cases hdocument : outcome.document = document <;>
      simp [perform, reconcile, Operation.recall, h, hdocument]
  | forget forgotten =>
    by_cases hdocument : forgotten = document <;>
      simp [perform, forget, Operation.recall, h, hdocument]

end Ledger

/-! ## Readers -/

/-- What a reader sees on each file after some publications. -/
def receive (seen : String → List Finding) (publications : List Publication) :
    String → List Finding :=
  publications.foldl (fun seen p file => if p.1 = file then p.2 else seen file) seen

/-- The reader sees a set that is sent for the file, or what was there before if none is. -/
theorem receive_cases (seen : String → List Finding) (publications : List Publication)
    (file : String) :
    (∃ p ∈ publications, p.1 = file ∧ receive seen publications file = p.2) ∨
      file ∉ publications.map Prod.fst ∧ receive seen publications file = seen file := by
  induction publications generalizing seen with
  | nil => exact .inr ⟨List.not_mem_nil, rfl⟩
  | cons p rest ih =>
    unfold receive at ih ⊢
    rw [List.foldl_cons]
    rcases ih fun file => if p.1 = file then p.2 else seen file with
      ⟨q, hq, hfile, heq⟩ | ⟨hrest, heq⟩
    · exact .inl ⟨q, List.mem_cons_of_mem _ hq, hfile, heq⟩
    · by_cases hfile : p.1 = file
      · exact .inl ⟨p, List.mem_cons_self, hfile, by rw [heq, if_pos hfile]⟩
      · refine .inr ⟨?_, by rw [heq, if_neg hfile]⟩
        rw [List.map_cons, List.mem_cons, not_or]
        exact ⟨Ne.symm hfile, hrest⟩

/-- A reader whose sets merge the reports has such sets after receiving what changes. -/
theorem receive_relays {old new : Ledger} {publications : List Publication}
    (h : Ledger.Relays old new publications) {seen : String → List Finding}
    (hseen : ∀ file, old.Merges file (seen file)) (file : String) :
    new.Merges file (receive seen publications file) := by
  rcases receive_cases seen publications file with ⟨p, hp, rfl, heq⟩ | ⟨hfile, heq⟩
  · rw [heq]
    exact h.sent p hp
  · rw [heq]
    exact (hseen file).congr (h.unsent file hfile)

/-- A ledger and what a reader of its publications sees. -/
structure Feed where
  /-- The ledger. -/
  ledger : Ledger
  /-- The set that was published last for each file. -/
  seen : String → List Finding

namespace Feed

/-- The feed after an operation that visits the documents in an order. -/
def next (feed : Feed) (step : Visiting × Ledger.Operation) : Feed :=
  ⟨(feed.ledger.perform step.1 step.2).1,
    receive feed.seen (feed.ledger.perform step.1 step.2).2⟩

/-- The feed after some operations, from an empty ledger and a reader who has seen nothing. -/
def after (steps : List (Visiting × Ledger.Operation)) : Feed :=
  steps.foldl next ⟨.empty, fun _ => []⟩

/-- A feed agrees with the latest passes of the documents: the ledger holds their files, and the
reader's sets merge them. -/
structure Agrees (feed : Feed) (last : String → Option Outcome) : Prop where
  /-- The ledger holds the files of the latest passes. -/
  reports : ∀ document, feed.ledger.reports.get? document = (last document).map (·.files)
  /-- The reader's sets merge the reports. -/
  seen : ∀ file, feed.ledger.Merges file (feed.seen file)

/-- An operation keeps a feed in agreement. -/
theorem Agrees.next {feed : Feed} {last : String → Option Outcome} (h : feed.Agrees last)
    (step : Visiting × Ledger.Operation) :
    (feed.next step).Agrees fun document => step.2.recall document (last document) where
  reports document := Ledger.get?_perform (h.reports document) step.1 step.2
  seen := receive_relays (feed.ledger.perform_relays step.1 step.2) h.seen

/-- A sequence of operations keeps a feed in agreement. -/
theorem Agrees.foldl {feed : Feed} {last : String → Option Outcome} (h : feed.Agrees last)
    (steps : List (Visiting × Ledger.Operation)) :
    (steps.foldl Feed.next feed).Agrees fun document =>
      (steps.map Prod.snd).foldl (Ledger.Operation.recall document) (last document) := by
  induction steps generalizing feed last with
  | nil => exact h
  | cons step rest ih => exact ih (h.next step)

/-- After any operations a feed agrees with the latest passes. -/
theorem after_agrees (steps : List (Visiting × Ledger.Operation)) :
    (after steps).Agrees (Ledger.latest (steps.map Prod.snd)) := by
  -- Nothing is reported in an empty ledger, and the reader sees nothing.
  exact Agrees.foldl ⟨fun document => rfl, fun file => Ledger.merges_empty.2 rfl⟩ steps

/-- What a ledger in agreement holds of a document's report on a file. -/
theorem Agrees.mem_report {feed : Feed} {last : String → Option Outcome} (h : feed.Agrees last)
    {document file : String} {x : Finding} : x ∈ feed.ledger.report document file ↔
      ∃ outcome, last document = some outcome ∧ x ∈ outcome.files.getD file [] := by
  rw [Ledger.mem_report, h.reports]
  cases last document with
  | none => simp
  | some outcome => simp

/-- The files that a document reported on, in a ledger in agreement. -/
theorem Agrees.reportedOn {feed : Feed} {last : String → Option Outcome} (h : feed.Agrees last)
    (document : String) :
    feed.ledger.reportedOn document = ((last document).map (·.files.keys)).getD [] := by
  unfold Ledger.reportedOn Table.getD
  rw [h.reports]
  cases last document with
  | none => rfl
  | some outcome => rfl

/-- After any sequence of operations, in whatever order each visits the documents, a reader who
keeps the last set for each file sees on every file, without repeats and ordered by where they
start, the findings that the latest passes of the documents report on it. A pass is then published
for the files it reports on, those its document reported on before, and the document, each once and
ascending; and a document is forgotten by publishing the files it reported on. -/
theorem published_spec (steps : List (Visiting × Ledger.Operation)) :
    (∀ file, ((after steps).seen file).Nodup ∧
      ((after steps).seen file).Pairwise (fun a b => a.range.start.IsUpTo b.range.start) ∧
      ∀ x, x ∈ (after steps).seen file ↔ ∃ document outcome,
        Ledger.latest (steps.map Prod.snd) document = some outcome ∧
          x ∈ outcome.files.getD file []) ∧
    (∀ v outcome, (((after steps).ledger.reconcile v outcome).2.map Prod.fst).Pairwise (· < ·) ∧
      ∀ file, file ∈ ((after steps).ledger.reconcile v outcome).2.map Prod.fst ↔
        file ∈ outcome.files.keys ∨
        (∃ previous, Ledger.latest (steps.map Prod.snd) outcome.document = some previous ∧
          file ∈ previous.files.keys) ∨
        file = outcome.document) ∧
    ∀ v document, ((after steps).ledger.forget v document).2.map Prod.fst =
      ((Ledger.latest (steps.map Prod.snd) document).map (·.files.keys)).getD [] := by
  have hagrees := after_agrees steps
  refine ⟨fun file => ?_, fun v outcome => ⟨Ledger.reconcile_files_ascending v _ _, fun file => ?_⟩,
    fun v document => ?_⟩
  · obtain ⟨hnodup, hsorted, hmem⟩ := hagrees.seen file
    refine ⟨hnodup, hsorted, fun x => ?_⟩
    rw [hmem]
    exact exists_congr fun document => hagrees.mem_report
  · rw [Ledger.mem_reconcile_files, hagrees.reportedOn]
    cases Ledger.latest (steps.map Prod.snd) outcome.document with
    | none => simp
    | some previous => simp
  · rw [Ledger.forget_files, hagrees.reportedOn]

end Feed

end LintRelay
