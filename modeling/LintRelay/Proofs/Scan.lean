import LintRelay.Text.Digit
import LintRelay.Text.Scan

/-!
# Reading back what was put together

The readers of `Text.Scan` on texts that were put together from parts. Each takes the part that it
is meant for, and leaves the rest (`digits?_append`, `after?_append`, `oneOf?_append`).

Where a text begins with free text, there may be several places to cut it. `shortestHead_append`
says when the first of them is the end of the free text: nothing can be read from a place inside it.
`longestHead_append` says when the last of them is: the free text is followed by a character that it
cannot hold. In both directions the parts found make up the text (`exists_of_shortestHead`,
`exists_of_longestHead`). A number below the bound is read back from its digits
(`zeroBased_toString`).
-/

namespace LintRelay.Text

/-! ## Words and digits -/

/-- A text that is made of digits only, and of at least one. -/
structure IsNumeral (ds : List Char) : Prop where
  /-- There is a digit. -/
  ne_nil : ds ≠ []
  /-- There is nothing else. -/
  digits : ∀ c ∈ ds, c.isDigit = true

section Runs

variable {p : Char → Bool} {run rest : List Char}

/-- A run that is followed by something else is what is taken. -/
theorem takeWhile_append_of_stop (hrun : ∀ c ∈ run, p c = true)
    (hrest : ∀ c ∈ rest.head?, p c = false) : (run ++ rest).takeWhile p = run := by
  have hstop : rest.takeWhile p = [] := by
    cases rest with
    | nil => rfl
    | cons c others => rw [List.takeWhile_cons_of_neg (by simp [hrest c rfl])]
  rw [List.takeWhile_append_of_pos hrun, hstop, List.append_nil]

/-- What follows a run is what is left of it. -/
theorem dropWhile_append_of_stop (hrun : ∀ c ∈ run, p c = true)
    (hrest : ∀ c ∈ rest.head?, p c = false) : (run ++ rest).dropWhile p = rest := by
  have hstop : rest.dropWhile p = rest := by
    cases rest with
    | nil => rfl
    | cons c others => rw [List.dropWhile_cons_of_neg (by simp [hrest c rfl])]
  rw [List.dropWhile_append_of_pos hrun, hstop]

end Runs

/-- A run of digits that was followed by something else. -/
theorem digits?_append {isDigit : Char → Bool} {ds rest : List Char} (hne : ds ≠ [])
    (hds : ∀ c ∈ ds, isDigit c = true) (hrest : ∀ c ∈ rest.head?, isDigit c = false) :
    digits? isDigit (ds ++ rest) = some (ds, rest) := by
  unfold digits?
  rw [takeWhile_append_of_stop hds hrest, dropWhile_append_of_stop hds hrest, if_neg hne]

/-- What follows a text is what was put after it. -/
theorem after?_append (head rest : List Char) : after? head (head ++ rest) = some rest := by
  induction head with
  | nil => rfl
  | cons c others ih =>
    rw [List.cons_append, after?, if_pos rfl]
    exact ih

/-- A text begins with what it goes on after. -/
theorem eq_append_of_after? {head cs rest : List Char} (h : after? head cs = some rest) :
    cs = head ++ rest := by
  induction head generalizing cs with
  | nil => exact Option.some.inj h
  | cons c others ih =>
    cases cs with
    | nil => cases h
    | cons d cs =>
      rw [after?] at h
      split at h
      · next heq =>
        subst heq
        rw [ih h, List.cons_append]
      · cases h

/-- A text occurs in front, or it has to occur later. -/
theorem afterFirst?_cons (needle : List Char) (c : Char) (cs : List Char) :
    afterFirst? needle (c :: cs) = (after? needle (c :: cs)).or (afterFirst? needle cs) := by
  rw [afterFirst?, Option.orElse_eq_orElse, Option.orElse_eq_or]

/-- A text that stands in front occurs there first. -/
theorem afterFirst?_of_after? {needle cs rest : List Char} (h : after? needle cs = some rest) :
    afterFirst? needle cs = some rest := by
  cases cs with
  | nil => exact h
  | cons c cs => rw [afterFirst?_cons, h, Option.some_or]

/-- A text is found where it occurs. -/
theorem contains_iff_infix {needle : String} {cs : List Char} :
    contains needle cs = true ↔ needle.toList <:+: cs := by
  unfold contains
  constructor
  · induction cs with
    | nil =>
      intro h
      obtain ⟨rest, hrest⟩ := Option.isSome_iff_exists.1 h
      rw [eq_append_of_after? hrest]
      exact (List.prefix_append _ _).isInfix
    | cons c cs ih =>
      intro h
      rw [afterFirst?_cons, Option.isSome_or, Bool.or_eq_true] at h
      rcases h with hhere | hlater
      · obtain ⟨rest, hrest⟩ := Option.isSome_iff_exists.1 hhere
        rw [eq_append_of_after? hrest]
        exact (List.prefix_append _ _).isInfix
      · exact List.infix_cons (ih hlater)
  · rintro ⟨before, rest, rfl⟩
    rw [List.append_assoc]
    induction before with
    | nil => rw [List.nil_append, afterFirst?_of_after? (after?_append _ _), Option.isSome_some]
    | cons c before ih =>
      rw [List.cons_append, afterFirst?_cons, Option.isSome_or, ih, Bool.or_true]

/-- Whether two texts differ at a place that both of them have. -/
def diverge : List Char → List Char → Bool
  | a :: as, b :: bs => a ≠ b || diverge as bs
  | _, _ => false

/-- A text does not begin with one that it differs from. -/
theorem after?_of_diverge {head text : List Char} (h : diverge head text = true)
    (rest : List Char) : after? head (text ++ rest) = none := by
  induction head generalizing text with
  | nil => cases h
  | cons a as ih =>
    cases text with
    | nil => cases h
    | cons b bs =>
      rw [List.cons_append, after?]
      split
      · next hab =>
        simp only [diverge, hab, ne_eq, not_true_eq_false, decide_false, Bool.false_or] at h
        exact ih h
      · rfl

/-- The words of a list differ from each other, so that no two of them can stand in front of one
text. -/
def Distinct (words : List String) : Prop :=
  ∀ word ∈ words, ∀ other ∈ words, other ≠ word → diverge other.toList word.toList = true

instance (words : List String) : Decidable (Distinct words) := by
  unfold Distinct
  infer_instance

/-- The word that was put in front is the one that is found. -/
theorem oneOf?_append {words : List String} (hwords : Distinct words) {word : String}
    (hword : word ∈ words) (rest : List Char) :
    oneOf? words (word.toList ++ rest) = some (word, rest) := by
  obtain ⟨before, after, rfl, hbefore⟩ := List.eq_append_cons_of_mem hword
  unfold oneOf?
  refine List.findSome?_eq_some_iff.2 ⟨before, word, after, rfl, ?_, fun other hother => ?_⟩
  · rw [expect?, after?_append, Option.map_some]
  · -- The words before it in the list are others.
    have hne : other ≠ word := by
      rintro rfl
      exact hbefore hother
    have hdiverge := hwords word hword other (List.mem_append_left _ hother) hne
    rw [expect?, after?_of_diverge hdiverge, Option.map_none]

/-! ## Free text -/

section Heads

variable {α : Type} {read : List Char → Option α} {allowed : Char → Bool}
  {head rest cs : List Char} {a : α}

/-- Free text that is followed by something that can be read is what is found in front, if nothing
can be read from a place inside it. -/
theorem shortestHead_append (hne : head ≠ []) (hline : '\n' ∉ head) (hread : read rest = some a)
    (hfirst : ∀ first last, head = first ++ last → first ≠ [] → last ≠ [] →
      read (last ++ rest) = none) :
    shortestHead read (head ++ rest) = some (head, a) := by
  induction head with
  | nil => exact absurd rfl hne
  | cons c others ih =>
    obtain ⟨hc, hline⟩ := List.ne_and_not_mem_of_not_mem_cons hline
    rw [List.cons_append, shortestHead, if_neg (Ne.symm hc)]
    cases others with
    | nil => rw [List.nil_append, hread]
    | cons c' others =>
      -- Nothing can be read after the first character, so that the head is longer.
      have hskip : read (c' :: others ++ rest) = none :=
        hfirst [c] (c' :: others) rfl (List.cons_ne_nil _ _) (List.cons_ne_nil _ _)
      have htail := ih (List.cons_ne_nil _ _) hline fun first last hsplit _ hlast =>
        hfirst (c :: first) last (congrArg (c :: ·) hsplit) (List.cons_ne_nil _ _) hlast
      rw [hskip, htail, Option.map_some]

/-- The free text that is found in front is followed by what is read. -/
theorem exists_of_shortestHead (h : shortestHead read cs = some (head, a)) :
    ∃ rest, cs = head ++ rest ∧ read rest = some a := by
  induction cs generalizing head with
  | nil => cases h
  | cons c others ih =>
    rw [shortestHead] at h
    split at h
    · cases h
    · split at h
      · next hread =>
        obtain ⟨rfl, rfl⟩ := Prod.mk.inj (Option.some.inj h)
        exact ⟨others, rfl, hread⟩
      · obtain ⟨⟨first, a'⟩, hfound, hhead⟩ := Option.map_eq_some_iff.1 h
        obtain ⟨rfl, rfl⟩ := Prod.mk.inj hhead
        obtain ⟨rest, rfl, hread⟩ := ih hfound
        exact ⟨rest, rfl, hread⟩

/-- The free text that is found in front is not empty. -/
theorem ne_nil_of_shortestHead (h : shortestHead read cs = some (head, a)) : head ≠ [] := by
  cases cs with
  | nil => cases h
  | cons c others =>
    rw [shortestHead] at h
    split at h
    · cases h
    · split at h
      · obtain ⟨rfl, -⟩ := Prod.mk.inj (Option.some.inj h)
        exact List.cons_ne_nil _ _
      · obtain ⟨⟨first, a'⟩, -, hhead⟩ := Option.map_eq_some_iff.1 h
        obtain ⟨rfl, -⟩ := Prod.mk.inj hhead
        exact List.cons_ne_nil _ _

/-- Nothing is found in front of a text that begins with what the free text cannot hold. -/
theorem longestHead_eq_none (h : ∀ c ∈ cs.head?, allowed c = false) :
    longestHead allowed read cs = none := by
  cases cs with
  | nil => rfl
  | cons c others => rw [longestHead, if_neg (by simp [h c rfl])]

/-- Free text that is followed by something that can be read is what is found in front, if what
follows begins with what the free text cannot hold. -/
theorem longestHead_append (hne : head ≠ []) (hallowed : ∀ c ∈ head, allowed c = true)
    (hread : read rest = some a) (hrest : ∀ c ∈ rest.head?, allowed c = false) :
    longestHead allowed read (head ++ rest) = some (head, a) := by
  induction head with
  | nil => exact absurd rfl hne
  | cons c others ih =>
    rw [List.cons_append, longestHead, if_pos (hallowed c List.mem_cons_self)]
    cases others with
    | nil => rw [List.nil_append, longestHead_eq_none hrest, hread, Option.map_some]
    | cons c' others =>
      have htail := ih (List.cons_ne_nil _ _) fun d hd => hallowed d (List.mem_cons_of_mem _ hd)
      rw [htail]

/-- The free text that is found in front holds what it may hold, and is followed by what is read. -/
theorem exists_of_longestHead (h : longestHead allowed read cs = some (head, a)) :
    ∃ rest, cs = head ++ rest ∧ (∀ c ∈ head, allowed c = true) ∧ read rest = some a := by
  induction cs generalizing head with
  | nil => cases h
  | cons c others ih =>
    rw [longestHead] at h
    split at h
    · next hc =>
      split at h
      · next first a' hfound =>
        obtain ⟨rfl, rfl⟩ := Prod.mk.inj (Option.some.inj h)
        obtain ⟨rest, rfl, hallowed, hread⟩ := ih hfound
        exact ⟨rest, rfl, List.forall_mem_cons.2 ⟨hc, hallowed⟩, hread⟩
      · obtain ⟨a', hread, hhead⟩ := Option.map_eq_some_iff.1 h
        obtain ⟨rfl, rfl⟩ := Prod.mk.inj hhead
        exact ⟨others, rfl, List.forall_mem_singleton.2 hc, hread⟩
    · cases h

end Heads

/-! ## Numbers -/

/-- A digit is no blank. -/
theorem isBlank_of_isDigit {c : Char} (h : c.isDigit = true) : isBlank c = false := by
  have hrange : 48 ≤ c.toNat ∧ c.toNat ≤ 57 := by
    simpa [Char.isDigit, UInt32.le_iff_toNat_le] using h
  simp only [isBlank, inRanges, blankRanges, List.any_cons, List.any_nil, Bool.or_false,
    Bool.or_eq_false_iff, Bool.and_eq_false_iff, decide_eq_false_iff_not]
  omega

/-- A number is written in digits. -/
theorem isNumeral_toString (n : Nat) : IsNumeral (toString n).toList := by
  rw [Nat.toString_eq_repr, Nat.repr_eq_ofList_toDigits, String.toList_ofList]
  exact ⟨Nat.toDigits_ne_nil, fun _ => Nat.isDigit_of_mem_toDigits (by decide) (by decide)⟩

/-- There are no blanks around digits. -/
theorem IsNumeral.trim_eq {ds : List Char} (h : IsNumeral ds) : trim ds = ds := by
  have hself : ∀ {l : List Char}, (∀ c ∈ l, c.isDigit = true) → l.dropWhile isBlank = l := by
    intro l hl
    cases l with
    | nil => rfl
    | cons c others =>
      rw [List.dropWhile_cons_of_neg (by simp [isBlank_of_isDigit (hl c List.mem_cons_self)])]
  unfold trim
  rw [hself h.digits, hself fun c hc => h.digits c (List.mem_reverse.1 hc), List.reverse_reverse]

/-- Digits are read as the number that they spell, if it is below the bound. -/
theorem IsNumeral.word?_eq {ds : List Char} (h : IsNumeral ds)
    (hbound : decimalValue ds < wordBound) : word? ds = some (decimalValue ds) := by
  -- The first character is a digit and no sign.
  have hsign : ∀ rest, ds ≠ '+' :: rest := by
    rintro rest rfl
    have hplus := h.digits '+' List.mem_cons_self
    cases hplus
  unfold word?
  dsimp only
  split
  · next rest => exact absurd rfl (hsign rest)
  · rw [if_pos ⟨h.ne_nil, List.all_eq_true.2 h.digits, hbound⟩]

/-- A number is what its digits spell. -/
theorem decimalValue_toString (n : Nat) : decimalValue (toString n).toList = n := by
  rw [Nat.toString_eq_repr, Nat.repr_eq_ofList_toDigits, String.toList_ofList]
  exact Nat.ofDigitChars_toDigits (by decide) (by decide)

/-- A number below the bound is read back from its digits. -/
theorem word?_toString {n : Nat} (h : n < wordBound) : word? (toString n).toList = some n := by
  have hbound : decimalValue (toString n).toList < wordBound := by rwa [decimalValue_toString]
  rw [(isNumeral_toString n).word?_eq hbound, decimalValue_toString]

/-- The index of a line or column that was printed as a number from one. -/
theorem zeroBased_toString {n : Nat} (h : n < wordBound) :
    zeroBased (toString n).toList = n - 1 := by
  unfold zeroBased
  rw [(isNumeral_toString n).trim_eq, word?_toString h, Option.getD_some]

end LintRelay.Text
