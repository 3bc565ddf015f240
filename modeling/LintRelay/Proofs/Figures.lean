import LintRelay.Proofs.Colons
import LintRelay.Proofs.Places

/-!
# The numbers of a report

Every analyzer prints the place of a report as a file name, a line number and mostly a column
number. The forms differ, but in all of them the numbers stand between colons and blanks: after the
file name there are some, and then the line number, and there are more before and behind the column
number (`InFront`). Here it is shown that this is where a reader takes its numbers from
(`Figures.standIn_of_figures?`).

The place of a diagnostic has the numbers of one line (`Linter.exists_figures`). That is the line of
the diagnostic itself, except for messages of PC-lint Plus that leave their place out. These have
the numbers of the nearest line before them that names a place (`Analyzer.origin?`).

A number is read from ASCII digits, and only if it fits in 32 bits (`zeroBased_of_spells`). Whatever
else stands in its place counts as the first line or column, so that an index is always less than
the greatest number of 32 bits (`zeroBased_lt`).
-/

namespace LintRelay

open Text

/-! ## Numbers between dividers -/

/-- Whether a character divides the parts of a line: a colon or a blank. -/
def isDivider (c : Char) : Bool := c = ':' || isBlank c

/-- A run of digits stands in front of a text, and a divider follows it. -/
def Leads (ds cs : List Char) : Prop :=
  (∀ c ∈ ds, isDecimalDigit c = true) ∧
    ∃ stop rest, cs = ds ++ stop :: rest ∧ isDivider stop = true

/-- A line number and a column number stand in front of a text: dividers, the one number, possibly
other dividers, and the other number. Both can be missing. -/
inductive InFront (line column : List Char) : List Char → Prop
  /-- The text after the dividers in front, the line number, and the dividers after it. -/
  | intro (gap between after : List Char) (hne : gap ≠ [])
    (hgap : ∀ c ∈ gap, isDivider c = true) (hline : ∀ c ∈ line, isDecimalDigit c = true)
    (hbetween : ∀ c ∈ between, isDivider c = true) (hcolumn : Leads column after) :
    InFront line column (gap ++ (line ++ (between ++ after)))

section Readers

variable {cs rest ds : List Char}

theorem isDivider_of_isBlank {c : Char} (h : isBlank c = true) : isDivider c = true := by
  unfold isDivider
  rw [h, Bool.or_true]

/-- A blank that was read stood in front. -/
theorem Text.exists_of_blank? (h : blank? cs = some rest) :
    ∃ b, isDivider b = true ∧ cs = b :: rest := by
  cases cs with
  | nil => cases h
  | cons b others =>
    rw [blank?] at h
    split at h
    · next hblank => exact ⟨b, isDivider_of_isBlank hblank, by rw [Option.some.inj h]⟩
    · cases h

/-- A colon that was read stood in front. -/
theorem Text.eq_of_colon (h : expect? ":" cs = some rest) : cs = ':' :: rest :=
  eq_append_of_after? h

/-- Digits that were read stood in front. -/
theorem Text.of_digits? {isDigit : Char → Bool} (h : digits? isDigit cs = some (ds, rest)) :
    cs = ds ++ rest ∧ ∀ c ∈ ds, isDigit c = true := by
  unfold digits? at h
  split at h
  · cases h
  · obtain ⟨rfl, rfl⟩ := Prod.mk.inj (Option.some.inj h)
    exact ⟨List.takeWhile_append_dropWhile.symm, List.all_eq_true.1 List.all_takeWhile⟩

/-- ASCII digits that were read stood in front, and are digits. -/
theorem Text.of_asciiDigits? (h : digits? Char.isDigit cs = some (ds, rest)) :
    cs = ds ++ rest ∧ ∀ c ∈ ds, isDecimalDigit c = true := by
  obtain ⟨hcs, hds⟩ := of_digits? h
  exact ⟨hcs, fun c hc => isDecimalDigit_of_isDigit (hds c hc)⟩

/-- Nothing stands in front of a divider. -/
theorem leads_nil {stop : Char} (h : isDivider stop = true) : Leads [] (stop :: rest) :=
  ⟨nofun, stop, rest, rfl, h⟩

/-- A line number after a colon, and a column number after another one. -/
theorem inFront_colons {line column after : List Char}
    (hline : ∀ c ∈ line, isDecimalDigit c = true) (hcolumn : Leads column after) :
    InFront line column (':' :: (line ++ ':' :: after)) := by
  have hcolon : ∀ c ∈ [':'], isDivider c = true := List.forall_mem_singleton.2 rfl
  exact .intro [':'] [':'] after (List.cons_ne_nil _ _) hcolon hline hcolon hcolumn

/-- A line number after a colon, and no column number. -/
theorem inFront_colon {line : List Char} {stop : Char}
    (hline : ∀ c ∈ line, isDecimalDigit c = true) (hstop : isDivider stop = true) :
    InFront line [] (':' :: (line ++ stop :: rest)) := by
  have hcolon : ∀ c ∈ [':'], isDivider c = true := List.forall_mem_singleton.2 rfl
  exact .intro [':'] [] (stop :: rest) (List.cons_ne_nil _ _) hcolon hline nofun (leads_nil hstop)

end Readers

section Tails

variable {cs rest : List Char} {r : Report}

/-- Nothing stands in front of a blank. -/
theorem leads_of_blank? (h : blank? cs = some rest) : Leads [] cs := by
  obtain ⟨b, hb, rfl⟩ := exists_of_blank? h
  exact leads_nil hb

/-- What was taken as a column leads to what follows it. -/
theorem CppCheck.leads_column (h : blank? (column cs).2 = some rest) : Leads (column cs).1 cs := by
  unfold column at h ⊢
  cases hdigits : digits? Char.isDigit cs with
  | none =>
    rw [hdigits] at h
    exact leads_of_blank? h
  | some found =>
    obtain ⟨ds, others⟩ := found
    obtain ⟨hcs, hds⟩ := of_asciiDigits? hdigits
    rw [hdigits] at h
    dsimp only at h ⊢
    cases hblank : blank? others with
    | none =>
      rw [hblank] at h
      exact leads_of_blank? h
    | some others =>
      obtain ⟨b, hb, rfl⟩ := exists_of_blank? hblank
      exact ⟨hds, b, others, hcs, hb⟩

/-- What was taken as a column leads to what follows it. -/
theorem FlawFinder.leads_column {stop : Char} (h : (column cs).2 = stop :: rest)
    (hstop : isDivider stop = true) : Leads (column cs).1 cs := by
  -- A colon that is passed over divides as well.
  have hafter : ∀ others, (expect? ":" others).getD others = stop :: rest → Leads [] others := by
    intro others hothers
    cases hcolon : expect? ":" others with
    | none =>
      rw [hcolon, Option.getD_none] at hothers
      rw [hothers]
      exact leads_nil hstop
    | some after =>
      rw [eq_of_colon hcolon]
      exact leads_nil rfl
  unfold column at h ⊢
  cases hdigits : digits? isDecimalDigit cs with
  | none =>
    rw [hdigits] at h
    exact hafter cs h
  | some found =>
    obtain ⟨ds, others⟩ := found
    obtain ⟨rfl, hds⟩ := of_digits? hdigits
    rw [hdigits] at h
    obtain ⟨-, d, after, hothers, hd⟩ := hafter others h
    exact ⟨hds, d, after, by rw [hothers]; rfl, hd⟩

/-- The numbers of a report in the format of Clang. -/
theorem Clang.inFront_of_tail? (h : tail? cs = some r) : InFront r.line r.column cs := by
  unfold tail? at h
  simp only [Option.bind_eq_bind, Option.bind_eq_some_iff] at h
  obtain ⟨cs₁, hcolon₁, ⟨line, cs₂⟩, hline, cs₃, hcolon₂, ⟨column, cs₄⟩, hcolumn, cs₅, hcolon₃,
    _, -, _, -, _, -, _, -, _, -, hr⟩ := h
  obtain rfl := Option.some.inj hr
  obtain ⟨rfl, hdigits₁⟩ := of_asciiDigits? hline
  obtain ⟨rfl, hdigits₂⟩ := of_asciiDigits? hcolumn
  obtain rfl := eq_of_colon hcolon₁
  obtain rfl : cs₂ = ':' :: (column ++ cs₄) := eq_of_colon hcolon₂
  obtain rfl : cs₄ = ':' :: cs₅ := eq_of_colon hcolon₃
  exact inFront_colons hdigits₁ ⟨hdigits₂, ':', cs₅, rfl, rfl⟩

/-- The number of a note on an included file. -/
theorem Clang.inFront_of_inclusionTail? {line : List Char} (h : inclusionTail? cs = some line) :
    InFront line [] cs := by
  unfold inclusionTail? at h
  simp only [Option.bind_eq_bind, Option.bind_eq_some_iff] at h
  obtain ⟨cs₁, hcolon, ⟨ds, cs₂⟩, hline, h⟩ := h
  dsimp only at h
  split at h
  · next hlast =>
    obtain rfl := Option.some.inj h
    obtain ⟨rfl, hdigits⟩ := of_asciiDigits? hline
    rw [eq_of_colon hcolon, hlast]
    exact inFront_colon hdigits rfl
  · cases h

/-- Blanks, a line number, a blank and a column. -/
theorem inFront_of_blanks {cs₁ cs₂ cs₃ cs₄ cs₅ line : List Char} (hblank₁ : blank? cs = some cs₁)
    (hblank₂ : blank? cs₁ = some cs₂) (hline : digits? Char.isDigit cs₂ = some (line, cs₃))
    (hblank₃ : blank? cs₃ = some cs₄) (hblank₄ : blank? (CppCheck.column cs₄).2 = some cs₅) :
    InFront line (CppCheck.column cs₄).1 cs := by
  obtain ⟨b₁, hb₁, rfl⟩ := exists_of_blank? hblank₁
  obtain ⟨b₂, hb₂, rfl⟩ := exists_of_blank? hblank₂
  obtain ⟨rfl, hdigits⟩ := of_asciiDigits? hline
  obtain ⟨b₃, hb₃, rfl⟩ := exists_of_blank? hblank₃
  have hcolumn := CppCheck.leads_column hblank₄
  refine .intro [b₁, b₂] [b₃] cs₄ (List.cons_ne_nil _ _) ?_ hdigits ?_ hcolumn
  · exact List.forall_mem_cons.2 ⟨hb₁, List.forall_mem_singleton.2 hb₂⟩
  · exact List.forall_mem_singleton.2 hb₃

/-- The numbers of a report in the format of CppCheck. -/
theorem CppCheck.inFront_of_tail? (h : tail? cs = some r) : InFront r.line r.column cs := by
  unfold tail? at h
  simp only [Option.bind_eq_bind, Option.bind_eq_some_iff] at h
  obtain ⟨cs₁, hblank₁, cs₂, hblank₂, ⟨line, cs₃⟩, hline, cs₄, hblank₃, cs₅, hblank₄, _, -, _, -,
    _, -, hr⟩ := h
  obtain rfl := Option.some.inj hr
  exact inFront_of_blanks hblank₁ hblank₂ hline hblank₃ hblank₄

/-- The numbers of a report in the format that FlexeLint and PC-lint Plus are asked for. -/
theorem Flexelint.inFront_of_tail? {words : List String} (h : tail? words cs = some r) :
    InFront r.line r.column cs := by
  unfold tail? at h
  simp only [Option.bind_eq_bind, Option.bind_eq_some_iff] at h
  obtain ⟨cs₁, hblank₁, cs₂, hblank₂, ⟨line, cs₃⟩, hline, cs₄, hblank₃, cs₅, hblank₄, _, -, hr⟩ := h
  obtain rfl := Option.some.inj hr
  exact inFront_of_blanks hblank₁ hblank₂ hline hblank₃ hblank₄

/-- The numbers of a report of PC-lint Plus between colons. -/
theorem PclintPlus.inFront_of_colonTail? (h : colonTail? cs = some r) :
    InFront r.line r.column cs := by
  unfold colonTail? at h
  simp only [Option.bind_eq_bind, Option.bind_eq_some_iff] at h
  obtain ⟨cs₁, hcolon₁, ⟨line, cs₂⟩, hline, cs₃, hcolon₂, cs₄, hblank, _, -, hr⟩ := h
  obtain rfl := Option.some.inj hr
  obtain ⟨rfl, hdigits⟩ := of_asciiDigits? hline
  obtain rfl := eq_of_colon hcolon₁
  obtain rfl : cs₂ = ':' :: cs₃ := eq_of_colon hcolon₂
  refine inFront_colons hdigits ?_
  -- Digits without a colon after them are no column.
  dsimp only
  cases hcolumn : digits? Char.isDigit cs₃ with
  | none =>
    rw [hcolumn] at hblank
    exact leads_of_blank? hblank
  | some found =>
    obtain ⟨ds, others⟩ := found
    obtain ⟨hcs, hds⟩ := of_asciiDigits? hcolumn
    rw [hcolumn] at hblank
    dsimp only at hblank ⊢
    cases hcolon : expect? ":" others with
    | none =>
      rw [hcolon] at hblank
      exact leads_of_blank? hblank
    | some others =>
      rw [eq_of_colon hcolon] at hcs
      exact ⟨hds, ':', others, hcs, rfl⟩

/-- The numbers of a report of FlawFinder. -/
theorem FlawFinder.inFront_of_tail? (h : tail? cs = some r) : InFront r.line r.column cs := by
  unfold tail? at h
  simp only [Option.bind_eq_bind, Option.bind_eq_some_iff] at h
  obtain ⟨cs₁, hcolon₁, ⟨line, cs₂⟩, hline, cs₃, hcolon₂, cs₄, hrisk, _, -, _, -, _, -, _, -, _, -,
    hr⟩ := h
  obtain rfl := Option.some.inj hr
  obtain ⟨rfl, hdigits⟩ := of_digits? hline
  have hblank : (column cs₃).2 = ' ' :: ' ' :: '[' :: cs₄ := eq_append_of_after? hrisk
  obtain rfl := eq_of_colon hcolon₁
  obtain rfl : cs₂ = ':' :: cs₃ := eq_of_colon hcolon₂
  exact inFront_colons hdigits (leads_column hblank rfl)

/-- The number of a report of Lizard. -/
theorem Lizard.inFront_of_tail? {line message : List Char} (h : tail? cs = some (line, message)) :
    InFront line [] cs := by
  unfold tail? at h
  simp only [Option.bind_eq_bind, Option.bind_eq_some_iff] at h
  obtain ⟨cs₁, hcolon, cs₂, hword, _, -, hr⟩ := h
  obtain ⟨rfl, -⟩ := Prod.mk.inj (Option.some.inj hr)
  have hblank : (FlawFinder.column cs₁).2 = ' ' :: ("warning: ".toList ++ cs₂) :=
    eq_append_of_after? hword
  obtain ⟨hdigits, stop, rest, hcs, hstop⟩ := FlawFinder.leads_column hblank rfl
  generalize (FlawFinder.column cs₁).1 = line at hcs hdigits ⊢
  obtain rfl := eq_of_colon hcolon
  rw [hcs]
  exact inFront_colon hdigits hstop

end Tails

/-! ## The place of a report -/

/-- The place of a report as it was printed. -/
structure Figures where
  /-- The file name. -/
  file : List Char
  /-- The line number. -/
  line : List Char
  /-- The column number, empty if there is none. -/
  column : List Char
deriving DecidableEq, Repr

/-- The place of a report. -/
def Report.figures (r : Report) : Figures := ⟨r.file, r.line, r.column⟩

/-- A place stands in a line: at its beginning, or after the words of an inclusion note, stands the
file name, and the numbers come after it. -/
def Figures.StandIn (f : Figures) (cs : List Char) : Prop :=
  ∃ lead tail, (lead = [] ∨ lead = "In file included from ".toList) ∧
    cs = lead ++ (f.file ++ tail) ∧ InFront f.line f.column tail

namespace Analyzer

/-- The place that a line gives, if it has the form of a report. -/
def figures? (a : Analyzer) (cs : List Char) : Option Figures :=
  match a with
  | .clang =>
    match Clang.inclusion? cs with
    | some (file, line) => some ⟨file, line, []⟩
    | none => (Clang.report? cs).map Report.figures
  | .cppCheck => (CppCheck.report? cs).map Report.figures
  | .flexelint => (Flexelint.report? cs).map Report.figures
  | .pclintPlus => (PclintPlus.report? cs).map Report.figures
  | .flawFinder => (FlawFinder.report? cs).map Report.figures
  | .lizard => (Lizard.report? cs).map fun (file, line, _) => ⟨file, line, []⟩

/-- Whether an analyzer's columns are used. -/
def keepsColumn : Analyzer → Bool
  | .clang | .cppCheck | .flawFinder => true
  | .flexelint | .pclintPlus | .lizard => false

/-- The line that gives the place of a report: the report's own, but for PC-lint Plus the nearest
one, going back from there, that names a place. -/
def origin? (a : Analyzer) (before : List String) (line : String) : Option String :=
  match a with
  | .pclintPlus => (line :: before.reverse).find? fun other => (PclintPlus.named? other).isSome
  | .clang | .cppCheck | .flexelint | .flawFinder | .lizard => some line

end Analyzer

namespace Figures

variable {cs : List Char} {f : Figures} {r : Report}

/-- A place that stands in front of all. -/
theorem standIn_of_append {file tail line column : List Char} (h : InFront line column tail) :
    StandIn ⟨file, line, column⟩ (file ++ tail) :=
  ⟨[], tail, .inl rfl, rfl, h⟩

/-- The place of a report whose file name is the shortest one that can be taken. -/
theorem standIn_of_shortestHead {read : List Char → Option Report}
    (hread : ∀ cs r, read cs = some r → InFront r.line r.column cs)
    (h : (shortestHead read cs).map (fun found => { found.2 with file := found.1 }) = some r) :
    r.figures.StandIn cs := by
  obtain ⟨⟨file, report⟩, hhead, rfl⟩ := Option.map_eq_some_iff.1 h
  obtain ⟨tail, rfl, htail⟩ := exists_of_shortestHead hhead
  exact standIn_of_append (hread tail report htail)

/-- The place of a report of PC-lint Plus stands in its line, in either format. -/
theorem standIn_of_pclintPlus (h : PclintPlus.report? cs = some r) : r.figures.StandIn cs := by
  unfold PclintPlus.report? at h
  cases hspaced : PclintPlus.spaced? cs with
  | some report =>
    rw [hspaced] at h
    obtain rfl : report = r := Option.some.inj h
    unfold PclintPlus.spaced? at hspaced
    split at hspaced
    · next file report hhead =>
      obtain rfl := Option.some.inj hspaced
      obtain ⟨tail, rfl, -, htail⟩ := exists_of_longestHead hhead
      have hfront := Flexelint.inFront_of_tail? htail
      exact standIn_of_append hfront
    · -- Without a file name the numbers stand in front.
      have hfile := PclintPlus.file_of_tail? hspaced
      refine ⟨[], cs, .inl rfl, ?_, Flexelint.inFront_of_tail? hspaced⟩
      rw [Report.figures, hfile]
      rfl
  | none =>
    rw [hspaced] at h
    exact standIn_of_shortestHead (fun _ _ => PclintPlus.inFront_of_colonTail?) h

/-- The place that a line gives stands in it. -/
theorem standIn_of_figures? {a : Analyzer} (h : a.figures? cs = some f) : f.StandIn cs := by
  unfold Analyzer.figures? at h
  cases a with
  | clang =>
    dsimp only at h
    split at h
    · next file line hinclusion =>
      obtain rfl := Option.some.inj h
      obtain ⟨rest, hlead, hhead⟩ := Option.bind_eq_some_iff.1 hinclusion
      obtain ⟨tail, rfl, htail⟩ := exists_of_shortestHead hhead
      exact ⟨_, tail, .inr rfl, eq_append_of_after? hlead, Clang.inFront_of_inclusionTail? htail⟩
    · obtain ⟨r, hreport, rfl⟩ := Option.map_eq_some_iff.1 h
      exact standIn_of_shortestHead (fun _ _ => Clang.inFront_of_tail?) hreport
  | cppCheck =>
    obtain ⟨r, hreport, rfl⟩ := Option.map_eq_some_iff.1 h
    exact standIn_of_shortestHead (fun _ _ => CppCheck.inFront_of_tail?) hreport
  | flexelint =>
    obtain ⟨r, hreport, rfl⟩ := Option.map_eq_some_iff.1 h
    exact standIn_of_shortestHead (fun _ _ => Flexelint.inFront_of_tail?) hreport
  | pclintPlus =>
    obtain ⟨r, hreport, rfl⟩ := Option.map_eq_some_iff.1 h
    exact standIn_of_pclintPlus hreport
  | flawFinder =>
    obtain ⟨r, hreport, rfl⟩ := Option.map_eq_some_iff.1 h
    obtain ⟨⟨file, report⟩, hhead, rfl⟩ := Option.map_eq_some_iff.1 hreport
    obtain ⟨tail, rfl, htail⟩ := FlawFinder.exists_of_fileHead? hhead
    have hfront := FlawFinder.inFront_of_tail? htail
    exact standIn_of_append hfront
  | lizard =>
    obtain ⟨⟨file, line, message⟩, hreport, rfl⟩ := Option.map_eq_some_iff.1 h
    obtain ⟨tail, rfl, htail⟩ := FlawFinder.exists_of_fileHead? hreport
    exact standIn_of_append (Lizard.inFront_of_tail? htail)

end Figures

/-! ## The place of a diagnostic -/

/-- A report is read at the place that it is given. -/
theorem Report.of_read {r : Report} {levels : SeverityTable} {source fileName : String}
    {line column : Nat} {d : Diagnostic}
    (h : r.read levels source fileName line column = .diagnostic d) :
    d.line = line ∧ d.column = column := by
  unfold Report.read at h
  split at h
  · cases h
  · obtain rfl := Reading.diagnostic.inj h
    exact ⟨rfl, rfl⟩

/-- A diagnostic has the place that was printed: the index of its line, and of its column if the
analyzer's columns are used. -/
def Diagnostic.IsAt (d : Diagnostic) (a : Analyzer) (f : Figures) : Prop :=
  d.line = zeroBased f.line ∧ d.column = if a.keepsColumn then zeroBased f.column else 0

section Reading

variable {levels : SeverityTable} {file shadow line : String} {d : Diagnostic}

/-- A diagnostic of Clang has the place that its line gives. -/
theorem Clang.exists_figures (h : read levels file shadow line = .diagnostic d) :
    ∃ f, Analyzer.clang.figures? line.toList = some f ∧ d.IsAt .clang f := by
  unfold read at h
  dsimp only at h
  split at h
  · cases h
  · split at h
    · next included number hinclusion =>
      obtain rfl := Reading.diagnostic.inj h
      refine ⟨⟨included, number, []⟩, ?_, rfl, rfl⟩
      unfold Analyzer.figures?
      dsimp only
      rw [hinclusion]
    · next hinclusion =>
      split at h
      · cases h
      · next r hreport =>
        refine ⟨r.figures, ?_, Report.of_read h⟩
        unfold Analyzer.figures?
        dsimp only
        rw [hinclusion, hreport]
        rfl

/-- A diagnostic of CppCheck has the place that its line gives. -/
theorem CppCheck.exists_figures (h : read levels line = .diagnostic d) :
    ∃ f, Analyzer.cppCheck.figures? line.toList = some f ∧ d.IsAt .cppCheck f := by
  unfold read at h
  dsimp only at h
  split at h
  · cases h
  · split at h
    · cases h
    · next r hreport =>
      exact ⟨r.figures, Option.map_eq_some_iff.2 ⟨r, hreport, rfl⟩, Report.of_read h⟩

/-- A diagnostic of FlexeLint has the place that its line gives. -/
theorem Flexelint.exists_figures (h : read levels line = .diagnostic d) :
    ∃ f, Analyzer.flexelint.figures? line.toList = some f ∧ d.IsAt .flexelint f := by
  unfold read at h
  dsimp only at h
  split at h
  · cases h
  · split at h
    · cases h
    · next r hreport =>
      exact ⟨r.figures, Option.map_eq_some_iff.2 ⟨r, hreport, rfl⟩, Report.of_read h⟩

/-- A diagnostic of FlawFinder has the place that its line gives. -/
theorem FlawFinder.exists_figures (h : read levels line = .diagnostic d) :
    ∃ f, Analyzer.flawFinder.figures? line.toList = some f ∧ d.IsAt .flawFinder f := by
  unfold read at h
  dsimp only at h
  split at h
  · cases h
  · split at h
    · cases h
    · next r hreport =>
      exact ⟨r.figures, Option.map_eq_some_iff.2 ⟨r, hreport, rfl⟩, Report.of_read h⟩

/-- A diagnostic of Lizard has the place that its line gives. -/
theorem Lizard.exists_figures (h : read line = .diagnostic d) :
    ∃ f, Analyzer.lizard.figures? line.toList = some f ∧ d.IsAt .lizard f := by
  unfold read at h
  split at h
  · cases h
  · split at h
    · cases h
    · next included number message hreport =>
      obtain rfl := Reading.diagnostic.inj h
      exact ⟨⟨included, number, []⟩, Option.map_eq_some_iff.2 ⟨_, hreport, rfl⟩, rfl, rfl⟩

/-- The place that a line of PC-lint Plus names has the numbers of the line. -/
theorem PclintPlus.exists_figures_of_named? {place : Location} (h : named? line = some place) :
    ∃ f, Analyzer.pclintPlus.figures? line.toList = some f ∧ place.line = zeroBased f.line := by
  obtain ⟨r, hheard, hplace⟩ := Option.bind_eq_some_iff.1 h
  unfold heard? at hheard
  split at hheard
  · cases hheard
  · unfold place? at hplace
    split at hplace
    · cases hplace
    · obtain rfl := Option.some.inj hplace
      exact ⟨r.figures, Option.map_eq_some_iff.2 ⟨r, hheard, rfl⟩, rfl⟩

/-- The place of a message is the one that the nearest line names, its own line included. -/
theorem PclintPlus.exists_origin {l : Linter} (hl : l.analyzer = .pclintPlus) {before : List String}
    {place : Location} (h : (named? line).or (l.placeAfter file shadow before) = some place) :
    ∃ origin, Analyzer.pclintPlus.origin? before line = some origin ∧
      named? origin = some place := by
  have hbefore : l.placeAfter file shadow before = before.reverse.findSome? named? := by
    unfold Linter.placeAfter
    rw [placeFrom_eq hl, Option.or_none, List.getLast?_eq_head?_reverse, ← List.filterMap_reverse,
      List.head?_filterMap]
  have hall : (line :: before.reverse).findSome? named? = some place := by
    rw [← h, hbefore, List.findSome?_cons]
    cases named? line <;> rfl
  obtain ⟨nearer, origin, others, hlines, horigin, hnearer⟩ := List.findSome?_eq_some_iff.1 hall
  refine ⟨origin, ?_, horigin⟩
  refine List.find?_eq_some_iff_append.2 ⟨?_, nearer, others, hlines, fun other hother => ?_⟩
  · rw [horigin, Option.isSome_some]
  · rw [hnearer other hother, Option.isSome_none, Bool.not_false]

/-- A message of PC-lint Plus has the place that was named last. -/
theorem PclintPlus.exists_figures {l : Linter} (hl : l.analyzer = .pclintPlus)
    {before : List String} (h : l.readAfter file shadow before line = .diagnostic d) :
    ∃ origin f, Analyzer.pclintPlus.origin? before line = some origin ∧
      Analyzer.pclintPlus.figures? origin.toList = some f ∧ d.IsAt .pclintPlus f := by
  rw [readAfter_eq hl] at h
  cases hheard : heard? line with
  | none =>
    rw [read_of_heard?_eq_none hheard] at h
    dsimp only at h
    split at h <;> cases h
  | some r =>
    rw [read_of_heard? hheard] at h
    cases hplace : (named? line).or (l.placeAfter file shadow before) with
    | none =>
      rw [hplace] at h
      cases h
    | some place =>
      rw [hplace] at h
      obtain ⟨origin, horigin, hnamed⟩ := exists_origin hl hplace
      obtain ⟨f, hfigures, hline⟩ := exists_figures_of_named? hnamed
      refine ⟨origin, f, horigin, hfigures, ?_⟩
      dsimp only at h
      unfold readAt at h
      split at h
      · cases h
      · obtain rfl := Reading.diagnostic.inj h
        exact ⟨hline, rfl⟩

end Reading

/-- Every diagnostic has the place that a line gives: its own, or for PC-lint Plus the nearest line
that names a place. -/
theorem Linter.exists_figures {l : Linter} {file shadow : String} {before : List String}
    {line : String} {d : Diagnostic} (h : l.readAfter file shadow before line = .diagnostic d) :
    ∃ origin f, l.analyzer.origin? before line = some origin ∧
      l.analyzer.figures? origin.toList = some f ∧ d.IsAt l.analyzer f := by
  cases ha : l.analyzer with
  | pclintPlus => exact PclintPlus.exists_figures ha h
  | clang =>
    unfold readAfter readLine at h
    rw [ha] at h
    obtain ⟨f, hf⟩ := Clang.exists_figures h
    exact ⟨line, f, rfl, hf⟩
  | cppCheck =>
    unfold readAfter readLine at h
    rw [ha] at h
    obtain ⟨f, hf⟩ := CppCheck.exists_figures h
    exact ⟨line, f, rfl, hf⟩
  | flexelint =>
    unfold readAfter readLine at h
    rw [ha] at h
    obtain ⟨f, hf⟩ := Flexelint.exists_figures h
    exact ⟨line, f, rfl, hf⟩
  | flawFinder =>
    unfold readAfter readLine at h
    rw [ha] at h
    obtain ⟨f, hf⟩ := FlawFinder.exists_figures h
    exact ⟨line, f, rfl, hf⟩
  | lizard =>
    unfold readAfter readLine at h
    rw [ha] at h
    obtain ⟨f, hf⟩ := Lizard.exists_figures h
    exact ⟨line, f, rfl, hf⟩

/-! ## Numbers -/

/-- A run of ASCII digits spells a number. -/
def Spells (ds : List Char) (n : Nat) : Prop := IsNumeral ds ∧ decimalValue ds = n

/-- The index that is taken from a number that fits in 32 bits. -/
theorem zeroBased_of_spells {ds : List Char} {n : Nat} (h : Spells ds n) (hn : n < wordBound) :
    zeroBased ds = n - 1 := by
  obtain ⟨hnumeral, rfl⟩ := h
  unfold zeroBased
  rw [hnumeral.trim_eq, hnumeral.word?_eq hn, Option.getD_some]

/-- What is read as a word is below the bound. -/
theorem word?_lt {text : List Char} {n : Nat} (h : word? text = some n) : n < wordBound := by
  simp only [word?, Option.ite_none_right_eq_some, Option.some.injEq] at h
  obtain ⟨⟨-, -, hlt⟩, rfl⟩ := h
  exact hlt

/-- Every index that is taken from a text is below the greatest number of 32 bits. -/
theorem zeroBased_lt (text : List Char) : zeroBased text + 1 < wordBound := by
  unfold zeroBased
  cases hword : word? (trim text) with
  | none => decide
  | some n =>
    have hn := word?_lt hword
    rw [Option.getD_some]
    unfold wordBound at hn ⊢
    omega

/-- The place of every diagnostic is below the greatest number of 32 bits. -/
theorem Diagnostic.IsAt.lt {d : Diagnostic} {a : Analyzer} {f : Figures} (h : d.IsAt a f) :
    d.line + 1 < wordBound ∧ d.column + 1 < wordBound := by
  rw [h.1, h.2]
  refine ⟨zeroBased_lt _, ?_⟩
  split
  · exact zeroBased_lt _
  · decide

end LintRelay
