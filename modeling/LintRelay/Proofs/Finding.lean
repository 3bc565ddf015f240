import LintRelay.Finding

/-!
# Lists of findings

The order of findings is a total order that tells all findings apart (`le_trans`, `le_total`,
`le_antisymm`), so that sorting makes one list of every arrangement (`mergeSort_eq_of_perm`). Being
doubles is an equivalence (`isDouble_equivalence`). `keepFirst` keeps one element of every class of
alike elements, the first; of equal elements it leaves one (`mem_keepFirst_eq`).

Findings are also compared by where they start alone (`startsUpTo`). Then several are alike, and a
sorted list is known up to their order only.
-/

namespace LintRelay

/-! ## Keeping the first of alike elements -/

section KeepFirst

variable {α : Type} {alike : α → α → Bool}

/-- What is kept is a sublist. -/
theorem keepFirst_sublist (alike : α → α → Bool) (l : List α) :
    (keepFirst alike l).Sublist l := by
  induction l with
  | nil => exact List.Sublist.slnil
  | cons a rest ih => exact (List.filter_sublist.trans ih).cons_cons a

/-- Of the elements that are kept, no earlier one is alike to a later one. -/
theorem keepFirst_pairwise (alike : α → α → Bool) (l : List α) :
    (keepFirst alike l).Pairwise fun a b => alike a b = false := by
  induction l with
  | nil => exact List.Pairwise.nil
  | cons a rest ih =>
    unfold keepFirst
    refine List.pairwise_cons.2 ⟨fun b hb => ?_, ih.filter _⟩
    simpa using (List.mem_filter.1 hb).2

/-- Every element is alike to one that is kept. -/
theorem exists_mem_keepFirst (halike : Equivalence fun a b => alike a b = true) {l : List α} {b : α}
    (hb : b ∈ l) : ∃ a ∈ keepFirst alike l, alike a b = true := by
  induction l with
  | nil => simp at hb
  | cons c rest ih =>
    unfold keepFirst
    rcases List.mem_cons.1 hb with rfl | hb
    · exact ⟨b, List.mem_cons_self, halike.refl b⟩
    · obtain ⟨a, ha, hab⟩ := ih hb
      by_cases hca : alike c a = true
      · exact ⟨c, List.mem_cons_self, halike.trans hca hab⟩
      · refine ⟨a, List.mem_cons_of_mem _ (List.mem_filter.2 ⟨ha, ?_⟩), hab⟩
        simpa using hca

/-- Equality as a Boolean relation has classes of one element. -/
theorem decide_eq_equivalence [DecidableEq α] :
    Equivalence fun a b : α => decide (a = b) = true where
  refl _ := decide_eq_true rfl
  symm h := decide_eq_true (of_decide_eq_true h).symm
  trans hab hbc := decide_eq_true ((of_decide_eq_true hab).trans (of_decide_eq_true hbc))

/-- Leaving out repeats leaves out no element. -/
theorem mem_keepFirst_eq [DecidableEq α] {l : List α} {a : α} :
    a ∈ keepFirst (fun a b => a = b) l ↔ a ∈ l := by
  constructor
  · exact fun ha => (keepFirst_sublist _ l).subset ha
  · intro ha
    obtain ⟨b, hb, hba⟩ := exists_mem_keepFirst decide_eq_equivalence ha
    rw [← of_decide_eq_true hba]
    exact hb

/-- Leaving out repeats leaves each element once. -/
theorem keepFirst_eq_nodup [DecidableEq α] (l : List α) :
    (keepFirst (fun a b => a = b) l).Nodup :=
  (keepFirst_pairwise _ l).imp of_decide_eq_false

end KeepFirst

/-- A severity is determined by its number. -/
theorem Severity.number_injective {a b : Severity} (h : a.number = b.number) : a = b := by
  cases a <;> cases b <;> first | rfl | (simp [Severity.number] at h)

/-- A place is another one or stands before it. -/
def Position.IsUpTo (a b : Position) : Prop :=
  a.line < b.line ∨ a.line = b.line ∧ a.character ≤ b.character

/-- Places that are up to each other are one. -/
theorem Position.IsUpTo.antisymm {a b : Position} (hab : a.IsUpTo b) (hba : b.IsUpTo a) :
    a = b := by
  obtain ⟨line, character⟩ := a
  obtain ⟨line', character'⟩ := b
  unfold IsUpTo at hab hba
  rw [Position.mk.injEq]
  dsimp only at hab hba
  omega

namespace Finding

/-! ## The order -/

/-- Findings that compare as equal are equal: the order looks at every field. -/
theorem eq_of_order {a b : Finding} (h : order a b = .eq) : a = b := by
  simp only [order, compareLex_eq_eq, compareOn, Std.LawfulEqOrd.compare_eq_iff_eq] at h
  obtain ⟨hsl, hsc, hel, hec, hsev, hsrc, hcode, hmsg⟩ := h
  obtain ⟨⟨⟨sl, sc⟩, ⟨el, ec⟩⟩, sev, code, msg, src⟩ := a
  obtain ⟨⟨⟨sl', sc'⟩, ⟨el', ec'⟩⟩, sev', code', msg', src'⟩ := b
  dsimp only at hsl hsc hel hec hsev hsrc hcode hmsg
  have hsev := Severity.number_injective hsev
  subst hsl hsc hel hec hsev hsrc hcode hmsg
  rfl

instance : Std.TransCmp order := by unfold order; infer_instance

instance : Std.LawfulEqCmp order where
  eq_of_compare := eq_of_order

/-- A finding compares as equal to itself. -/
theorem order_self (a : Finding) : order a a = .eq := Std.ReflCmp.compare_self

/-- Comparing the other way round gives the opposite. -/
theorem order_swap (a b : Finding) : order a b = (order b a).swap := Std.OrientedCmp.eq_swap

/-- A finding comes before itself. -/
theorem le_refl (a : Finding) : le a a = true := by
  unfold le
  rw [order_self]
  rfl

/-- The order is transitive. -/
theorem le_trans {a b c : Finding} (hab : le a b = true) (hbc : le b c = true) : le a c = true :=
  Std.TransCmp.isLE_trans hab hbc

/-- Of two findings one comes before the other. -/
theorem le_total (a b : Finding) : (le a b || le b a) = true := by
  unfold le
  rw [order_swap b a]
  cases order a b <;> rfl

/-- Findings that come before each other are equal. -/
theorem le_antisymm {a b : Finding} (hab : le a b = true) (hba : le b a = true) : a = b :=
  eq_of_order (Std.OrientedCmp.isLE_antisymm hab hba)

/-- A finding comes strictly before the ones after it that are different. -/
theorem order_lt_of_le_of_ne {a b : Finding} (hab : le a b = true) (hne : a ≠ b) :
    order a b = .lt := by
  unfold le at hab
  cases horder : order a b with
  | lt => rfl
  | eq => exact absurd (eq_of_order horder) hne
  | gt => rw [horder] at hab; simp at hab

/-- What does not precede comes after. -/
theorem le_of_not_precedes {a b : Finding} (h : ¬ a.precedes b = true) : le b a = true := by
  have hge : order a b ≠ .lt := fun hlt => h (decide_eq_true hlt)
  unfold le
  rw [order_swap b a]
  cases horder : order a b with
  | lt => exact absurd horder hge
  | eq => rfl
  | gt => rfl

/-- What precedes comes before. -/
theorem le_of_precedes {a b : Finding} (h : a.precedes b = true) : le a b = true := by
  unfold le
  rw [of_decide_eq_true h]
  rfl

/-- A sorted list of findings is sorted. -/
theorem mergeSort_pairwise (findings : List Finding) :
    (findings.mergeSort le).Pairwise fun a b => le a b = true := by
  apply List.pairwise_mergeSort
  · exact fun a b c hab hbc => le_trans hab hbc
  · exact le_total

/-- Lists with the same members, each as often, are the same when sorted. -/
theorem mergeSort_eq_of_perm {findings others : List Finding} (h : findings.Perm others) :
    findings.mergeSort le = others.mergeSort le := by
  have hperm : (findings.mergeSort le).Perm (others.mergeSort le) :=
    (List.mergeSort_perm _ _).trans (h.trans (List.mergeSort_perm _ _).symm)
  exact hperm.eq_of_pairwise (fun _ _ _ _ hab hba => le_antisymm hab hba)
    (mergeSort_pairwise findings) (mergeSort_pairwise others)

/-- A sorted list without repeats ascends strictly. -/
theorem mergeSort_ascending {findings : List Finding} (h : findings.Nodup) :
    (findings.mergeSort le).Pairwise fun a b => order a b = .lt := by
  have hnodup : (findings.mergeSort le).Nodup := (List.mergeSort_perm _ _).nodup_iff.2 h
  exact List.Pairwise.imp₂ (fun _ _ => order_lt_of_le_of_ne) (mergeSort_pairwise findings) hnodup

/-! ## Doubles -/

/-- Being doubles means to have start line, code and message in common. -/
theorem isDouble_iff {a b : Finding} : isDouble a b = true ↔
    a.range.start.line = b.range.start.line ∧ a.code = b.code ∧ a.message = b.message := by
  simp [isDouble, and_assoc]

/-- Findings fall into classes of doubles. -/
theorem isDouble_equivalence : Equivalence fun a b => isDouble a b = true where
  refl a := isDouble_iff.2 ⟨rfl, rfl, rfl⟩
  symm h := by
    obtain ⟨hline, hcode, hmessage⟩ := isDouble_iff.1 h
    exact isDouble_iff.2 ⟨hline.symm, hcode.symm, hmessage.symm⟩
  trans hab hbc := by
    obtain ⟨hline, hcode, hmessage⟩ := isDouble_iff.1 hab
    obtain ⟨hline', hcode', hmessage'⟩ := isDouble_iff.1 hbc
    exact isDouble_iff.2 ⟨hline.trans hline', hcode.trans hcode', hmessage.trans hmessage'⟩

/-! ## Where findings start -/

/-- Two lists of findings are the same up to the order of those that start at one place. -/
structure SameUpToTies (a b : List Finding) : Prop where
  /-- They hold the same, each as often. -/
  perm : a.Perm b
  /-- They start at the same places, in the same order. -/
  starts : a.map (·.range.start) = b.map (·.range.start)

/-- Starting up to a place is an order of places. -/
theorem startsUpTo_iff {a b : Finding} :
    startsUpTo a b = true ↔ a.range.start.IsUpTo b.range.start := by
  unfold startsUpTo Position.IsUpTo
  simp only [compareLex, compareOn, Ordering.isLE_then_iff_or, Nat.compare_eq_lt,
    Nat.compare_eq_eq, Nat.isLE_compare]

/-- Findings sorted by where they start are so. -/
theorem mergeSort_startsUpTo (findings : List Finding) :
    (findings.mergeSort startsUpTo).Pairwise fun a b =>
      a.range.start.IsUpTo b.range.start := by
  have hsorted : (findings.mergeSort startsUpTo).Pairwise fun a b => startsUpTo a b = true := by
    apply List.pairwise_mergeSort
    · intro a b c hab hbc
      rw [startsUpTo_iff] at hab hbc ⊢
      unfold Position.IsUpTo at *
      omega
    · intro a b
      rw [Bool.or_eq_true, startsUpTo_iff, startsUpTo_iff]
      unfold Position.IsUpTo
      omega
  exact hsorted.imp startsUpTo_iff.1

end Finding

end LintRelay
