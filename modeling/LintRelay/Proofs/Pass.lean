import LintRelay.Pass
import LintRelay.Proofs.Finding
import LintRelay.Proofs.Table

/-!
# What a pass finds

`Pass.Reports` says what a pass reports on a file from what its linters answer: a diagnostic of a
linter that succeeds, placed in its file, if the file is kept. `files_spec` shows that the outcome
of a pass holds exactly that, file by file, with the least finding of every class of doubles and in
ascending order.

The proof goes along the stages of a pass. What linters answer (`mem_diagnostics`) is filtered
(`mem_select`). Findings are then taken in one after the other, and each step keeps the least of
every class of doubles among those taken in so far (`IsLeast.keep`). What is left is gone through
once more and entered under its file. The order of that does not matter (`regroup_perm`), since each
file's findings are sorted by an order that tells them apart.
-/

namespace LintRelay

/-! ## The stages of a pass -/

/-- A file is kept if it lies in the workspace and in no excluded directory. -/
theorem PassRequest.keeps_iff {r : PassRequest} {id : String} : r.keeps id = true ↔
    Path.isWithin id (r.identity "") = true ∧
      ∀ dir ∈ r.excluded, Path.isWithin id (r.identity dir) = false := by
  simp [PassRequest.keeps]

/-- What is selected of some diagnostics: each in its file, if the file is kept. -/
theorem PassRequest.mem_select {r : PassRequest} {diagnostics : List Diagnostic} {id : String}
    {x : Finding} : (id, x) ∈ r.select diagnostics ↔
      (∃ d ∈ diagnostics, r.locate d = (id, x)) ∧ r.keeps id = true := by
  unfold PassRequest.select
  rw [List.mem_filter, List.mem_map]

namespace Pass

/-- The diagnostics of a pass are those of its linters that succeed. -/
theorem mem_diagnostics {linters : List Linter} {r : PassRequest} {runner : Runner}
    {d : Diagnostic} :
    d ∈ (results linters r runner).flatMap (fun (_, result) => result.toOption.getD []) ↔
      ∃ l ∈ linters, ∃ answer, l.lint runner r.file r.shadow r.root = .ok answer ∧ d ∈ answer := by
  unfold results
  rw [List.flatMap_map, List.mem_flatMap]
  refine exists_congr fun l => and_congr_right fun _ => ?_
  cases l.lint runner r.file r.shadow r.root with
  | error e => simp [Except.toOption]
  | ok answer => simp [Except.toOption]

/-! ## Taking findings in -/

/-- Doubles are in one file and doubles there. -/
theorem isDouble_iff {a b : String × Finding} :
    isDouble a b = true ↔ a.1 = b.1 ∧ a.2.isDouble b.2 = true := by
  simp [isDouble]

/-- Findings with their files fall into classes of doubles. -/
theorem isDouble_equivalence : Equivalence fun a b => isDouble a b = true where
  refl a := isDouble_iff.2 ⟨rfl, Finding.isDouble_equivalence.refl a.2⟩
  symm h := by
    obtain ⟨hfile, hdouble⟩ := isDouble_iff.1 h
    exact isDouble_iff.2 ⟨hfile.symm, Finding.isDouble_equivalence.symm hdouble⟩
  trans hab hbc := by
    obtain ⟨hfile, hdouble⟩ := isDouble_iff.1 hab
    obtain ⟨hfile', hdouble'⟩ := isDouble_iff.1 hbc
    exact isDouble_iff.2 ⟨hfile.trans hfile', Finding.isDouble_equivalence.trans hdouble hdouble'⟩

/-- Doubles have the same doubles. -/
theorem isDouble_congr {a b : String × Finding} (h : isDouble a b = true) (c : String × Finding) :
    isDouble a c = isDouble b c :=
  Bool.eq_iff_iff.2 ⟨isDouble_equivalence.trans (isDouble_equivalence.symm h),
    isDouble_equivalence.trans h⟩

/-- The other way round, doubles are doubles too. -/
theorem isDouble_comm (a b : String × Finding) : isDouble a b = isDouble b a :=
  Bool.eq_iff_iff.2 ⟨isDouble_equivalence.symm, isDouble_equivalence.symm⟩

/-- Of the findings that were taken in, the least of every class of doubles is kept, once. -/
structure IsLeast (found kept : List (String × Finding)) : Prop where
  /-- What is kept was found, and no double of it comes before it. -/
  least : ∀ x ∈ kept, x ∈ found ∧ ∀ y ∈ found, isDouble x y = true → Finding.le x.2 y.2 = true
  /-- Every class is there. -/
  covers : ∀ y ∈ found, ∃ x ∈ kept, isDouble x y = true
  /-- No two of those kept are doubles. -/
  apart : kept.Pairwise fun a b => isDouble a b = false

/-- Taking in a finding either compares it with its double, or adds it. -/
theorem keep_cases (f : String × Finding) (kept : List (String × Finding)) :
    (∃ front other back, kept = front ++ other :: back ∧ isDouble f other = true ∧
      keep f kept = front ++ (if f.2.precedes other.2 then f else other) :: back) ∨
    (∀ x ∈ kept, isDouble f x = false) ∧ keep f kept = kept ++ [f] := by
  induction kept with
  | nil => exact .inr ⟨fun x hx => absurd hx List.not_mem_nil, rfl⟩
  | cons other rest ih =>
    unfold keep
    by_cases hother : isDouble f other = true
    · exact .inl ⟨[], other, rest, rfl, hother, if_pos hother⟩
    · rw [if_neg hother]
      rcases ih with ⟨front, double, back, rfl, hdouble, hkeep⟩ | ⟨hnone, hkeep⟩
      · exact .inl ⟨other :: front, double, back, rfl, hdouble, by rw [hkeep]; rfl⟩
      · exact .inr ⟨List.forall_mem_cons.2 ⟨by simpa using hother, hnone⟩, by rw [hkeep]; rfl⟩

/-- The lesser of two doubles takes the place of one of them. -/
theorem IsLeast.replace {found front back : List (String × Finding)}
    {f other best : String × Finding}
    (h : IsLeast found (front ++ other :: back)) (hdouble : isDouble f other = true)
    (hbest : best = f ∨ best = other) (hf : Finding.le best.2 f.2 = true)
    (hother : Finding.le best.2 other.2 = true) :
    IsLeast (found ++ [f]) (front ++ best :: back) := by
  have hsame : ∀ x, isDouble best x = isDouble other x := by
    rcases hbest with rfl | rfl
    · exact isDouble_congr hdouble
    · exact fun _ => rfl
  obtain ⟨hfront, hmid, hacross⟩ := List.pairwise_append.1 h.apart
  obtain ⟨hback, hrest⟩ := List.pairwise_cons.1 hmid
  have hmem : other ∈ front ++ other :: back := List.mem_append_right _ List.mem_cons_self
  constructor
  case least =>
    intro x hx
    by_cases hxbest : x = best
    · subst hxbest
      refine ⟨?_, fun y hy hxy => ?_⟩
      · rcases hbest with rfl | rfl
        · exact List.mem_append_right _ (List.mem_singleton.2 rfl)
        · exact List.mem_append_left _ (h.least _ hmem).1
      · rcases List.mem_append.1 hy with hy | hy
        · rw [hsame] at hxy
          exact Finding.le_trans hother ((h.least other hmem).2 y hy hxy)
        · rw [List.mem_singleton.1 hy]
          exact hf
    · -- What stands elsewhere is no double of the new finding.
      have hother' : x ∈ front ++ other :: back ∧ isDouble x other = false := by
        rcases List.mem_append.1 hx with hx | hx
        · exact ⟨List.mem_append_left _ hx, hacross x hx other List.mem_cons_self⟩
        · have hx : x ∈ back := (List.mem_cons.1 hx).resolve_left hxbest
          rw [isDouble_comm]
          exact ⟨List.mem_append_right _ (List.mem_cons_of_mem _ hx), hback x hx⟩
      refine ⟨List.mem_append_left _ (h.least x hother'.1).1, fun y hy hxy => ?_⟩
      rcases List.mem_append.1 hy with hy | hy
      · exact (h.least x hother'.1).2 y hy hxy
      · rw [List.mem_singleton.1 hy] at hxy
        rw [isDouble_equivalence.trans hxy hdouble] at hother'
        exact absurd hother'.2 (by decide)
  case covers =>
    -- The one that takes the place stands for the class of the one that leaves it.
    have hcovers : ∀ x ∈ front ++ other :: back, ∃ x' ∈ front ++ best :: back,
        isDouble x' x = true := by
      intro x hx
      rcases List.mem_append.1 hx with hx | hx
      · exact ⟨x, List.mem_append_left _ hx, isDouble_equivalence.refl x⟩
      · rcases List.mem_cons.1 hx with rfl | hx
        · refine ⟨best, List.mem_append_right _ List.mem_cons_self, ?_⟩
          rw [hsame]
          exact isDouble_equivalence.refl x
        · exact ⟨x, List.mem_append_right _ (List.mem_cons_of_mem _ hx),
            isDouble_equivalence.refl x⟩
    intro y hy
    obtain ⟨x, hx, hxy⟩ : ∃ x ∈ front ++ other :: back, isDouble x y = true := by
      rcases List.mem_append.1 hy with hy | hy
      · exact h.covers y hy
      · rw [List.mem_singleton.1 hy]
        exact ⟨other, hmem, isDouble_equivalence.symm hdouble⟩
    obtain ⟨x', hx', hx'x⟩ := hcovers x hx
    exact ⟨x', hx', isDouble_equivalence.trans hx'x hxy⟩
  case apart =>
    refine List.pairwise_append.2 ⟨hfront, List.pairwise_cons.2 ⟨fun x hx => ?_, hrest⟩, ?_⟩
    · rw [hsame]
      exact hback x hx
    · intro x hx y hy
      rcases List.mem_cons.1 hy with rfl | hy
      · rw [isDouble_comm, hsame, isDouble_comm]
        exact hacross x hx other List.mem_cons_self
      · exact hacross x hx y (List.mem_cons_of_mem _ hy)

/-- A finding without double is added. -/
theorem IsLeast.add {found kept : List (String × Finding)} {f : String × Finding}
    (h : IsLeast found kept) (hnone : ∀ x ∈ kept, isDouble f x = false) :
    IsLeast (found ++ [f]) (kept ++ [f]) := by
  have hfound : ∀ y ∈ found, isDouble f y = false := by
    intro y hy
    obtain ⟨x, hx, hxy⟩ := h.covers y hy
    rw [isDouble_comm, ← isDouble_congr hxy, isDouble_comm]
    exact hnone x hx
  constructor
  case least =>
    intro x hx
    rcases List.mem_append.1 hx with hx | hx
    · refine ⟨List.mem_append_left _ (h.least x hx).1, fun y hy hxy => ?_⟩
      rcases List.mem_append.1 hy with hy | hy
      · exact (h.least x hx).2 y hy hxy
      · rw [List.mem_singleton.1 hy, isDouble_comm, hnone x hx] at hxy
        exact absurd hxy (by decide)
    · rw [List.mem_singleton.1 hx]
      refine ⟨List.mem_append_right _ (List.mem_singleton.2 rfl), fun y hy hfy => ?_⟩
      rcases List.mem_append.1 hy with hy | hy
      · rw [hfound y hy] at hfy
        exact absurd hfy (by decide)
      · rw [List.mem_singleton.1 hy]
        exact Finding.le_refl f.2
  case covers =>
    intro y hy
    rcases List.mem_append.1 hy with hy | hy
    · obtain ⟨x, hx, hxy⟩ := h.covers y hy
      exact ⟨x, List.mem_append_left _ hx, hxy⟩
    · exact ⟨y, List.mem_append_right _ hy, isDouble_equivalence.refl y⟩
  case apart =>
    refine List.pairwise_append.2 ⟨h.apart, List.pairwise_singleton _ _, fun x hx y hy => ?_⟩
    rw [List.mem_singleton.1 hy, isDouble_comm]
    exact hnone x hx

/-- One more finding is taken in. -/
theorem IsLeast.keep {found kept : List (String × Finding)} (h : IsLeast found kept)
    (f : String × Finding) : IsLeast (found ++ [f]) (keep f kept) := by
  rcases keep_cases f kept with ⟨front, other, back, rfl, hdouble, hkeep⟩ | ⟨hnone, hkeep⟩
  · rw [hkeep]
    by_cases hprecedes : f.2.precedes other.2 = true
    · rw [if_pos hprecedes]
      exact h.replace hdouble (.inl rfl) (Finding.le_refl _) (Finding.le_of_precedes hprecedes)
    · rw [if_neg hprecedes]
      exact h.replace hdouble (.inr rfl) (Finding.le_of_not_precedes hprecedes)
        (Finding.le_refl _)
  · rw [hkeep]
    exact h.add hnone

/-- Of all findings that are taken in, the least of every class of doubles is kept. -/
theorem collect_isLeast (found : List (String × Finding)) : IsLeast found (collect found) := by
  -- What was taken in before grows by each finding, so it is a parameter of the induction.
  have hrun : ∀ {seen kept}, IsLeast seen kept →
      IsLeast (seen ++ found) (found.foldl (fun kept f => Pass.keep f kept) kept) := by
    induction found with
    | nil =>
      intro seen kept h
      rw [List.append_nil]
      exact h
    | cons f rest ih =>
      intro seen kept h
      rw [List.append_cons]
      exact ih (h.keep f)
  exact hrun ⟨fun x hx => absurd hx List.not_mem_nil, fun y hy => absurd hy List.not_mem_nil, .nil⟩

/-- What is kept are the findings that come before all their doubles. -/
theorem mem_collect {found : List (String × Finding)} {x : String × Finding} :
    x ∈ collect found ↔
      x ∈ found ∧ ∀ y ∈ found, isDouble x y = true → Finding.le x.2 y.2 = true := by
  have hkept := collect_isLeast found
  constructor
  · exact hkept.least x
  · rintro ⟨hx, hleast⟩
    obtain ⟨x', hx', hdouble⟩ := hkept.covers x hx
    obtain ⟨hmem, hleast'⟩ := hkept.least x' hx'
    -- The double of `x` that is kept comes before it and after it.
    have hfinding : x'.2 = x.2 := Finding.le_antisymm (hleast' x hx hdouble)
      (hleast x' hmem (isDouble_equivalence.symm hdouble))
    have heq : x' = x := Prod.ext (isDouble_iff.1 hdouble).1 hfinding
    rw [← heq]
    exact hx'

/-- Nothing is kept twice. -/
theorem collect_nodup (found : List (String × Finding)) : (collect found).Nodup := by
  refine (collect_isLeast found).apart.imp fun {a b} hdouble heq => ?_
  rw [heq, isDouble_equivalence.refl b] at hdouble
  exact absurd hdouble (by decide)

/-! ## Grouping by file -/

/-- The findings of one file among those of all. -/
theorem mem_findingsOf {found : List (String × Finding)} {id : String} {x : Finding} :
    x ∈ (found.filter (·.1 = id)).map Prod.snd ↔ (id, x) ∈ found := by
  rw [List.mem_map]
  constructor
  · rintro ⟨⟨file, y⟩, hmem, rfl⟩
    obtain ⟨hmem, hfile⟩ := List.mem_filter.1 hmem
    rw [← of_decide_eq_true hfile]
    exact hmem
  · intro hmem
    exact ⟨(id, x), List.mem_filter.2 ⟨hmem, decide_eq_true rfl⟩, rfl⟩

/-- A file for which nothing was found has no findings. -/
theorem filter_eq_nil {found : List (String × Finding)} {id : String}
    (h : id ∉ found.map Prod.fst) : found.filter (·.1 = id) = [] := by
  rw [List.filter_eq_nil_iff]
  exact fun e he hid => h (List.mem_map.2 ⟨e, he, of_decide_eq_true hid⟩)

/-- Findings are entered under their files, after those that are there. -/
theorem get?_foldl_enter (kept : List (String × Finding)) (files : Table (List Finding))
    (id : String) : (kept.foldl enter files).get? id =
      if id ∈ kept.map Prod.fst then
        some (files.getD id [] ++ (kept.filter (·.1 = id)).map Prod.snd)
      else files.get? id := by
  -- The table is general, since each finding is entered behind those that are there.
  induction kept generalizing files with
  | nil => rfl
  | cons f rest ih =>
    rw [List.foldl_cons, ih]
    by_cases hf : f.1 = id
    · by_cases hrest : id ∈ rest.map Prod.fst
      · simp [enter, hf, hrest]
      · simp [enter, hf, hrest, filter_eq_nil hrest]
    · have hmem : id ∈ (f :: rest).map Prod.fst ↔ id ∈ rest.map Prod.fst := by
        rw [List.map_cons, List.mem_cons]
        exact or_iff_right (Ne.symm hf)
      simp only [hmem]
      simp [enter, hf]

/-- The files that something was kept for are those of the table, each with its findings sorted. -/
theorem get?_regroup (kept : List (String × Finding)) (id : String) :
    (regroup kept).get? id =
      if id ∈ kept.map Prod.fst then
        some (((kept.filter (·.1 = id)).map Prod.snd).mergeSort Finding.le)
      else none := by
  unfold regroup
  rw [Table.get?_map, get?_foldl_enter]
  split <;> rfl

/-- In whatever order one goes through what was kept, the findings of the files are the same. -/
theorem regroup_perm {kept kept' : List (String × Finding)} (h : kept.Perm kept') :
    regroup kept = regroup kept' := by
  refine Table.eq_of_get? fun id => ?_
  rw [get?_regroup, get?_regroup,
    Finding.mergeSort_eq_of_perm ((h.filter (·.1 = id)).map Prod.snd)]
  simp only [(h.map Prod.fst).mem_iff]

/-- The findings of a file in the table are those kept for it. -/
theorem getD_regroup (kept : List (String × Finding)) (id : String) :
    (regroup kept).getD id [] =
      ((kept.filter (·.1 = id)).map Prod.snd).mergeSort Finding.le := by
  unfold Table.getD
  rw [get?_regroup]
  split
  · rfl
  · next hid => simp [filter_eq_nil hid]

/-- What a table of findings holds depends on what is found, and not on its order or number. -/
theorem regroup_collect_congr {found found' : List (String × Finding)}
    (h : ∀ x, x ∈ found ↔ x ∈ found') : regroup (collect found) = regroup (collect found') := by
  refine regroup_perm ?_
  refine (List.perm_ext_iff_of_nodup (collect_nodup found) (collect_nodup found')).2 fun x => ?_
  simp only [mem_collect, h]

/-! ## Outcomes -/

/-- A pass reports the finding `x` on the file `id`: a linter succeeds with a diagnostic of that
file, of which `x` is the finding, and the file lies in the workspace and in no excluded directory.
The lines of the document, which end at a newline and perhaps a carriage return before it, count
only for diagnostics of the document itself. -/
def Reports (linters : List Linter) (r : PassRequest) (runner : Runner) (id : String)
    (x : Finding) : Prop :=
  ∃ l ∈ linters, ∃ answer, l.lint runner r.file r.shadow r.root = .ok answer ∧
    ∃ d ∈ answer, id = Path.identity d.fileName r.root ∧
      x = .ofDiagnostic d (if id = (run linters r runner).document then
        (r.text.toList.splitOn '\n').map fun line =>
          if line.getLast? = some '\r' then line.dropLast else line
        else []) ∧
      Path.isWithin id (Path.identity "" r.root) = true ∧
      ∀ dir ∈ r.excluded, Path.isWithin id (Path.identity dir r.root) = false

/-- What a pass goes on with after asking its linters. -/
def found (linters : List Linter) (r : PassRequest) (runner : Runner) : List (String × Finding) :=
  r.select ((results linters r runner).flatMap fun (_, result) => result.toOption.getD [])

variable {linters : List Linter} {r : PassRequest} {runner : Runner} {id : String}

/-- The findings that a pass goes on with are those that it reports. -/
theorem mem_found {x : Finding} :
    (id, x) ∈ found linters r runner ↔ Reports linters r runner id x := by
  unfold found
  rw [PassRequest.mem_select, PassRequest.keeps_iff]
  constructor
  · rintro ⟨⟨d, hd, hlocate⟩, hwithin, hexcluded⟩
    obtain ⟨l, hl, answer, hanswer, hd⟩ := mem_diagnostics.1 hd
    obtain ⟨rfl, rfl⟩ := Prod.mk.inj hlocate
    exact ⟨l, hl, answer, hanswer, d, hd, rfl, rfl, hwithin, hexcluded⟩
  · rintro ⟨l, hl, answer, hanswer, d, hd, rfl, rfl, hwithin, hexcluded⟩
    exact ⟨⟨d, mem_diagnostics.2 ⟨l, hl, answer, hanswer, hd⟩, rfl⟩, hwithin, hexcluded⟩

/-- The findings of a pass on a file are those that it reports and that come before all their
doubles. -/
theorem mem_files {x : Finding} : x ∈ (run linters r runner).files.getD id [] ↔
    Reports linters r runner id x ∧
      ∀ y, Reports linters r runner id y → x.isDouble y = true → Finding.le x y = true := by
  change x ∈ (regroup (collect (found linters r runner))).getD id [] ↔ _
  rw [getD_regroup, List.mem_mergeSort, mem_findingsOf, mem_collect, mem_found]
  refine and_congr_right fun _ => ⟨fun h y hy hxy => ?_, fun h y hy hxy => ?_⟩
  · exact h (id, y) (mem_found.2 hy) (isDouble_iff.2 ⟨rfl, hxy⟩)
  · obtain ⟨file, y⟩ := y
    obtain ⟨rfl, hxy⟩ := isDouble_iff.1 hxy
    exact h y (mem_found.1 hy) hxy

/-- Of every class of doubles that a pass reports on a file there is one. -/
theorem exists_mem_files {y : Finding} (hy : Reports linters r runner id y) :
    ∃ x ∈ (run linters r runner).files.getD id [], x.isDouble y = true := by
  obtain ⟨⟨file, x⟩, hx, hdouble⟩ :=
    (collect_isLeast (found linters r runner)).covers (id, y) (mem_found.2 hy)
  obtain ⟨rfl, hdouble⟩ := isDouble_iff.1 hdouble
  refine ⟨x, ?_, hdouble⟩
  change x ∈ (regroup (collect (found linters r runner))).getD file []
  rw [getD_regroup, List.mem_mergeSort, mem_findingsOf]
  exact hx

/-- What a pass finds alone is what it reports. -/
theorem mem_files_of_found {x : Finding} (h : found linters r runner = [(id, x)]) :
    x ∈ (run linters r runner).files.getD id [] := by
  have hreports : ∀ {y : Finding}, Reports linters r runner id y ↔ y = x := by
    intro y
    rw [← mem_found, h, List.mem_singleton, Prod.mk.injEq, eq_self_iff_true, true_and]
  obtain ⟨y, hy, -⟩ := exists_mem_files (hreports.2 rfl)
  rw [← hreports.1 (mem_files.1 hy).1]
  exact hy

/-- The findings of a pass on a file ascend strictly. -/
theorem files_ascending (linters : List Linter) (r : PassRequest) (runner : Runner) (id : String) :
    ((run linters r runner).files.getD id []).Pairwise fun a b => Finding.order a b = .lt := by
  change ((regroup (collect (found linters r runner))).getD id []).Pairwise _
  rw [getD_regroup]
  refine Finding.mergeSort_ascending (List.pairwise_map.2 ?_)
  refine ((collect_nodup (found linters r runner)).filter (·.1 = id)).imp_of_mem ?_
  intro a b ha hb hne heq
  have hfile : a.1 = b.1 := (of_decide_eq_true (List.mem_filter.1 ha).2).trans
    (of_decide_eq_true (List.mem_filter.1 hb).2).symm
  exact hne (Prod.ext hfile heq)

/-- A pass has findings on the files that it reports on. -/
theorem mem_keys_files :
    id ∈ (run linters r runner).files.keys ↔ ∃ x, Reports linters r runner id x := by
  have hkeys : id ∈ (run linters r runner).files.keys ↔
      id ∈ (collect (found linters r runner)).map Prod.fst := by
    change id ∈ (regroup (collect (found linters r runner))).keys ↔ _
    rw [Table.mem_keys]
    simp only [get?_regroup]
    by_cases h : id ∈ (collect (found linters r runner)).map Prod.fst <;> simp [h]
  rw [hkeys, List.mem_map]
  constructor
  · rintro ⟨⟨file, x⟩, hmem, rfl⟩
    exact ⟨x, mem_found.1 (mem_collect.1 hmem).1⟩
  · rintro ⟨y, hy⟩
    obtain ⟨x, hx, hdouble⟩ :=
      (collect_isLeast (found linters r runner)).covers (id, y) (mem_found.2 hy)
    exact ⟨x, hx, (isDouble_iff.1 hdouble).1⟩

/-- The outcome of a pass, for all linters, requests and answers of processes. It has findings on
exactly the files that the pass reports on, and on each of them at least one. The findings of a file
ascend strictly, they are the reported ones that are least among their doubles, and every reported
finding has exactly one double among them. In whatever order the pass goes through the findings that
it keeps, it groups them into the same files. -/
theorem files_spec (linters : List Linter) (r : PassRequest) (runner : Runner) :
    (∀ id, id ∈ (run linters r runner).files.keys ↔ ∃ x, Reports linters r runner id x) ∧
    (∀ id,
      (id ∈ (run linters r runner).files.keys → (run linters r runner).files.getD id [] ≠ []) ∧
      ((run linters r runner).files.getD id []).Pairwise (fun a b => Finding.order a b = .lt) ∧
      (∀ x, x ∈ (run linters r runner).files.getD id [] ↔ Reports linters r runner id x ∧
        ∀ y, Reports linters r runner id y → Finding.isDouble x y = true → Finding.le x y = true) ∧
      ∀ y, Reports linters r runner id y →
        ∃ x ∈ (run linters r runner).files.getD id [], Finding.isDouble x y = true ∧
          ∀ z ∈ (run linters r runner).files.getD id [], Finding.isDouble z y = true → z = x) ∧
    ∀ order : List (String × Finding), order.Perm (collect (found linters r runner)) →
      regroup order = (run linters r runner).files := by
  refine ⟨fun id => mem_keys_files, fun id => ?_, fun order horder => regroup_perm horder⟩
  refine ⟨fun hid => ?_, files_ascending linters r runner id, fun x => mem_files, fun y hy => ?_⟩
  · obtain ⟨y, hy⟩ := mem_keys_files.1 hid
    obtain ⟨x, hx, -⟩ := exists_mem_files hy
    exact List.ne_nil_of_mem hx
  · obtain ⟨x, hx, hxy⟩ := exists_mem_files hy
    refine ⟨x, hx, hxy, fun z hz hzy => ?_⟩
    obtain ⟨hxreports, hxleast⟩ := mem_files.1 hx
    obtain ⟨hzreports, hzleast⟩ := mem_files.1 hz
    have hzx : z.isDouble x = true :=
      Finding.isDouble_equivalence.trans hzy (Finding.isDouble_equivalence.symm hxy)
    exact Finding.le_antisymm (hzleast x hxreports hzx)
      (hxleast z hzreports (Finding.isDouble_equivalence.symm hzx))

end Pass

end LintRelay
