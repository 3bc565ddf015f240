import LintRelay.Pass

/-!
# Publication

Several documents may report on one file, such as a header they share. What is published for a file
is everything that the documents report on it, each in its latest pass, so that a pass over one
document never takes back what another has found.

Documents are gone through in some order, which is a parameter (`Visiting`). It settles in which
order findings stand that start at the same place.
-/

namespace LintRelay

/-- What each document reported in its latest pass, file by file. -/
structure Ledger where
  /-- The findings of each file, for each document. -/
  reports : Table (Table (List Finding))

/-- The findings to publish for a file. -/
abbrev Publication := String × List Finding

namespace Ledger

/-- The ledger in which no document reports anything. -/
def empty : Ledger := ⟨∅⟩

/-- All that the documents report on a file, without repeats and ordered by where it starts. -/
def merged (v : Visiting) (ledger : Ledger) (file : String) : List Finding :=
  (keepFirst (fun a b => a = b)
    ((ledger.reports.valuesIn v).flatMap fun files => files.getD file [])).mergeSort
      Finding.startsUpTo

/-- What is to be published for some files. -/
def publications (v : Visiting) (ledger : Ledger) (files : List String) : List Publication :=
  files.map fun file => (file, ledger.merged v file)

/-- The files that a document reported on in its latest pass. -/
def reportedOn (ledger : Ledger) (document : String) : List String :=
  (ledger.reports.getD document ∅).keys

/-- Takes in a new pass, and gives what is to be published: for the document, and for every file
that it reports on now or reported on before. -/
def reconcile (v : Visiting) (ledger : Ledger) (outcome : Outcome) : Ledger × List Publication :=
  let next : Ledger := ⟨ledger.reports.insert outcome.document outcome.files⟩
  let touched := outcome.files.keys ++ ledger.reportedOn outcome.document ++ [outcome.document]
  (next, (Table.tabulate touched (next.merged v)).entries)

/-- Forgets a document, and gives what is to be published for the files it reported on. -/
def forget (v : Visiting) (ledger : Ledger) (document : String) : Ledger × List Publication :=
  let next : Ledger := ⟨ledger.reports.erase document⟩
  (next, next.publications v (ledger.reportedOn document))

end Ledger

end LintRelay
