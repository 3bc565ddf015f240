import LintRelay.Pass

/-!
# Linters that fail

A linter fails if its process does, or if it prints what is not understood and its settings do not
pass over that (`Linter.lint_eq_error_iff`). A pass is not disturbed by it: the findings are those
of the pass over the linters that succeed, and each complaint is noted once, in the order in which
complaints first occur.

The errors of a pass are noted one after the other. `Notes` says what a list of errors is to the
complaints so far, `Notes.noteError` that one more complaint keeps it, and `Notes.foldl` that all
do.
-/

namespace LintRelay

/-! ## Noting errors -/

/-- A list of errors holds each complaint once, in the order in which they first occur. -/
structure Notes (errors complaints : List String) : Prop where
  /-- The errors are the complaints. -/
  mem : ∀ message, message ∈ errors ↔ message ∈ complaints
  /-- What stands earlier has occurred earlier. -/
  order : errors.Pairwise fun a b => complaints.idxOf a < complaints.idxOf b

namespace Notes

variable {errors complaints : List String}

/-- No error is listed twice, since it would have occurred before itself. -/
theorem nodup (h : Notes errors complaints) : errors.Nodup := by
  refine h.order.imp fun hlt heq => ?_
  rw [heq] at hlt
  exact Nat.lt_irrefl _ hlt

/-- Further complaints do not change when the errors have first occurred. -/
theorem order_append (h : Notes errors complaints) (more : List String) :
    errors.Pairwise fun a b => (complaints ++ more).idxOf a < (complaints ++ more).idxOf b := by
  refine h.order.imp_of_mem fun {a b} ha hb hlt => ?_
  rw [List.idxOf_append, List.idxOf_append, if_pos ((h.mem a).1 ha), if_pos ((h.mem b).1 hb)]
  exact hlt

/-- One more complaint is noted, unless it is already. -/
theorem noteError (h : Notes errors complaints) (message : String) :
    Notes (LintRelay.noteError errors message) (complaints ++ [message]) := by
  unfold LintRelay.noteError
  split
  · next hnoted =>
    have hnoted : message ∈ errors := List.contains_iff_mem.1 hnoted
    refine ⟨fun other => ?_, h.order_append [message]⟩
    rw [List.mem_append, List.mem_singleton, ← h.mem]
    exact ⟨.inl, fun hother => hother.elim id fun heq => heq ▸ hnoted⟩
  · next hnew =>
    have hnew : message ∉ complaints := fun hmem =>
      hnew (List.contains_iff_mem.2 ((h.mem message).2 hmem))
    constructor
    case mem =>
      intro other
      rw [List.mem_append, List.mem_append, h.mem]
    case order =>
      refine List.pairwise_append.2 ⟨h.order_append [message], List.pairwise_singleton _ _, ?_⟩
      -- What was noted has occurred among the complaints so far, and the new one comes after them.
      intro other hother last hlast
      obtain rfl := List.mem_singleton.1 hlast
      have hother : other ∈ complaints := (h.mem other).1 hother
      have hplace : (complaints ++ [last]).idxOf last = complaints.length := by
        rw [List.idxOf_append, if_neg hnew, List.idxOf_cons_self, Nat.zero_add]
      rw [hplace, List.idxOf_append, if_pos hother]
      exact List.idxOf_lt_length_of_mem hother

/-- Complaints that are noted one after the other are all noted. -/
theorem foldl (h : Notes errors complaints) (more : List String) :
    Notes (more.foldl LintRelay.noteError errors) (complaints ++ more) := by
  induction more generalizing errors complaints with
  | nil =>
    rw [List.append_nil]
    exact h
  | cons message rest ih =>
    rw [List.foldl_cons, List.append_cons]
    exact ih (h.noteError message)

end Notes

/-! ## Which linters fail -/

/-- A linter fails on a document if it takes part and its process fails, or if its process ends but
prints something that is not understood and that its settings do not pass over. -/
theorem Linter.lint_eq_error_iff {l : Linter} {runner : Runner} {file shadow directory : String}
    {failure : Failure} : l.lint runner file shadow directory = .error failure ↔
      ∃ call, l.call? file shadow directory = some call ∧ (runner call = .error failure ∨
        ∃ output fault, runner call = .ok output ∧ l.settings.ignoreParseErrors = false ∧
          (l.readings file shadow output.lines).findSome? Reading.fault? = some fault ∧
          failure = .parse fault.message) := by
  unfold lint
  cases l.call? file shadow directory with
  | none => simp
  | some call =>
    cases hrun : runner call with
    | error e => simp [bind, Except.bind, hrun]
    | ok output =>
      -- The process has ended, so that all depends on what it has printed.
      dsimp only
      rw [hrun]
      change l.diagnostics file shadow output.lines = .error failure ↔ _
      unfold diagnostics
      dsimp only
      cases l.settings.ignoreParseErrors with
      | true => simp [hrun]
      | false =>
        cases hfault : (l.readings file shadow output.lines).findSome? Reading.fault? with
        | none => simp [hrun, hfault]
        | some fault => simp [hrun, hfault, eq_comm]

namespace Pass

/-- The linters that succeed on a request. -/
def succeeding (linters : List Linter) (r : PassRequest) (runner : Runner) : List Linter :=
  linters.filter fun l => (l.lint runner r.file r.shadow r.root).isOk

/-- What a linter complains about if it fails on a request. -/
def complaint? (r : PassRequest) (runner : Runner) (l : Linter) : Option String :=
  match l.lint runner r.file r.shadow r.root with
  | .ok _ => none
  | .error failure => some (errorText l failure r.file)

/-- A linter complains about its failure. -/
theorem complaint?_eq_some {r : PassRequest} {runner : Runner} {l : Linter} {message : String} :
    complaint? r runner l = some message ↔
      ∃ failure, l.lint runner r.file r.shadow r.root = .error failure ∧
        message = l.name ++ ": " ++ failure.message ++ " while validating " ++ r.file := by
  unfold complaint? errorText
  cases l.lint runner r.file r.shadow r.root with
  | ok answer => simp
  | error failure => simp [eq_comm]

/-- The errors of a pass are the complaints of its linters, noted one after the other. -/
theorem errors_run (linters : List Linter) (r : PassRequest) (runner : Runner) :
    (run linters r runner).errors =
      (linters.filterMap (complaint? r runner)).foldl noteError [] := by
  unfold run results
  dsimp only
  rw [List.filterMap_map]
  rfl

/-- A linter that succeeds has no complaint. -/
theorem complaint?_of_mem_succeeding {linters : List Linter} {r : PassRequest} {runner : Runner}
    {l : Linter} (h : l ∈ succeeding linters r runner) : complaint? r runner l = none := by
  have hok := (List.mem_filter.1 h).2
  unfold complaint?
  cases hlint : l.lint runner r.file r.shadow r.root with
  | ok answer => rfl
  | error failure =>
    rw [hlint] at hok
    cases hok

/-- The diagnostics of a pass are those of the linters that succeed. -/
theorem flatMap_results_succeeding (linters : List Linter) (r : PassRequest) (runner : Runner) :
    (results (succeeding linters r runner) r runner).flatMap
        (fun (_, result) => result.toOption.getD []) =
      (results linters r runner).flatMap fun (_, result) => result.toOption.getD [] := by
  unfold results succeeding
  rw [List.flatMap_map, List.flatMap_map]
  induction linters with
  | nil => rfl
  | cons l rest ih =>
    rw [List.flatMap_cons]
    cases hlint : l.lint runner r.file r.shadow r.root with
    | ok answer =>
      rw [List.filter_cons_of_pos (by rw [hlint]; rfl), List.flatMap_cons, ih, hlint]
    | error failure =>
      -- Whatever the linter had read before it failed, its answer is the failure alone.
      rw [List.filter_cons_of_neg (by rw [hlint]; simp [Except.isOk, Except.toBool]), ih]
      rfl

/-- For all linters, requests and answers of processes, the findings of a pass are those of the pass
over the linters that succeed, which notes no error. The pass over all linters notes each complaint
of a linter that fails once, in the order in which they first occur in the list of linters; and a
linter fails exactly if its process does, or if it has to understand what it prints and does not. -/
theorem failures_isolated (linters : List Linter) (r : PassRequest) (runner : Runner) :
    (run (succeeding linters r runner) r runner).files = (run linters r runner).files ∧
    (run (succeeding linters r runner) r runner).errors = [] ∧
    (∀ message, message ∈ (run linters r runner).errors ↔ ∃ l ∈ linters, ∃ failure,
      l.lint runner r.file r.shadow r.root = .error failure ∧
        message = l.name ++ ": " ++ failure.message ++ " while validating " ++ r.file) ∧
    (run linters r runner).errors.Nodup ∧
    (run linters r runner).errors.Pairwise (fun a b =>
      (linters.filterMap (complaint? r runner)).idxOf a <
        (linters.filterMap (complaint? r runner)).idxOf b) ∧
    ∀ l : Linter, (∃ failure, l.lint runner r.file r.shadow r.root = .error failure) ↔
      ∃ call, l.call? r.file r.shadow r.root = some call ∧
        ((∃ failure, runner call = .error failure) ∨
          ∃ output, runner call = .ok output ∧ l.settings.ignoreParseErrors = false ∧
            ∃ reading ∈ l.readings r.file r.shadow output.lines, reading.fault?.isSome) := by
  have hnotes : Notes (run linters r runner).errors (linters.filterMap (complaint? r runner)) := by
    have hnone : Notes [] [] := ⟨fun _ => Iff.rfl, List.Pairwise.nil⟩
    rw [errors_run]
    exact hnone.foldl _
  refine ⟨?_, ?_, fun message => ?_, hnotes.nodup, hnotes.order, fun l => ?_⟩
  · unfold run
    dsimp only
    rw [flatMap_results_succeeding]
  · have hsilent : (succeeding linters r runner).filterMap (complaint? r runner) = [] :=
      List.filterMap_eq_nil_iff.2 fun l hl => complaint?_of_mem_succeeding hl
    rw [errors_run, hsilent]
    rfl
  · rw [hnotes.mem, List.mem_filterMap]
    exact exists_congr fun l => and_congr_right fun _ => complaint?_eq_some
  · simp only [Linter.lint_eq_error_iff]
    constructor
    · rintro ⟨failure, call, hcall, hrun | ⟨output, fault, hrun, hstrict, hfault, -⟩⟩
      · exact ⟨call, hcall, .inl ⟨failure, hrun⟩⟩
      · obtain ⟨reading, hreading, hsome⟩ := List.exists_of_findSome?_eq_some hfault
        exact ⟨call, hcall, .inr ⟨output, hrun, hstrict, reading, hreading, by rw [hsome]; rfl⟩⟩
    · rintro ⟨call, hcall, ⟨failure, hrun⟩ | ⟨output, hrun, hstrict, reading, hreading, hsome⟩⟩
      · exact ⟨failure, call, hcall, .inl hrun⟩
      · have hfault :
            (l.readings r.file r.shadow output.lines).findSome? Reading.fault? ≠ none := by
          intro hnone
          rw [List.findSome?_eq_none_iff.1 hnone reading hreading] at hsome
          cases hsome
        obtain ⟨fault, hfault⟩ := Option.ne_none_iff_exists'.1 hfault
        exact ⟨_, call, hcall, .inr ⟨output, fault, hrun, hstrict, hfault, rfl⟩⟩

end Pass

end LintRelay
