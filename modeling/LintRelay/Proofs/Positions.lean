import LintRelay.Proofs.Figures
import LintRelay.Proofs.Report

/-!
# From printed numbers to positions and back

An analyzer counts lines and columns from one. A diagnostic has them from zero, a finding has a
range in UTF-16 units, and the text report counts from one again. Here it is shown what becomes of
the numbers on this way.

All of them are words of 32 bits. The computation of a range and of an entry is written down once
more with operations that fail where a word is not enough or an index is out of range
(`Checked.rangeOf?`, `Checked.entry?`), and it is shown that they do not fail: the place of a
diagnostic leaves room for one more (`Diagnostic.IsAt.lt`), also after continuations are worked in
(`Linter.bounded_of_diagnostics`), and so does the beginning of a line's content, since a character
follows it (`Finding.rangeOf_lt`).

In another file the numbers come back as they were printed. In the document the line is at most the
last one, and a diagnostic without a column marks the content of its line (`Marks`), which is told
in the units of the UTF-16 encoding itself (`Text.utf16`) and not in their number.
-/

namespace LintRelay

open Text

/-! ## UTF-16 -/

namespace Text

/-- The UTF-16 units of a character: one, or a pair of surrogates. -/
def charUtf16 (c : Char) : List UInt16 :=
  if c.toNat < 0x10000 then [c.toNat.toUInt16]
  else
    [(0xD800 + (c.toNat - 0x10000) / 0x400).toUInt16,
      (0xDC00 + (c.toNat - 0x10000) % 0x400).toUInt16]

/-- The UTF-16 units of a text. -/
def utf16 (cs : List Char) : List UInt16 := cs.flatMap charUtf16

/-- The units of two texts stand one after the other. -/
theorem utf16_append (cs ds : List Char) : utf16 (cs ++ ds) = utf16 cs ++ utf16 ds :=
  List.flatMap_append

/-- The units are counted. -/
theorem length_utf16 (cs : List Char) : (utf16 cs).length = units cs := by
  induction cs with
  | nil => rfl
  | cons c rest ih =>
    have hc : (charUtf16 c).length = charUnits c := by
      unfold charUtf16 charUnits
      split <;> rfl
    have hcons : utf16 (c :: rest) = charUtf16 c ++ utf16 rest := List.flatMap_cons
    rw [hcons, List.length_append, hc, ih]
    rfl

/-- Text that is not empty has units. -/
theorem units_pos {cs : List Char} (h : cs ≠ []) : 0 < units cs := by
  obtain ⟨c, rest, rfl⟩ := List.exists_cons_of_ne_nil h
  have hc : 0 < charUnits c := by
    unfold charUnits
    split <;> decide
  exact Nat.lt_of_lt_of_le hc (Nat.le_add_right _ _)

/-- The units of two texts are counted together. -/
theorem units_append (cs ds : List Char) : units (cs ++ ds) = units cs + units ds := by
  rw [← length_utf16, ← length_utf16, ← length_utf16, utf16_append, List.length_append]

end Text

/-! ## The content of a line -/

/-- A range marks the content of a line: it begins with the first character that is no blank, or
with the line if there is none, and goes to the end. -/
def Marks (range : TextRange) (text : List Char) : Prop :=
  ∃ indent content, text = indent ++ content ∧ (∀ c ∈ indent, isBlank c = true) ∧
    (∀ c ∈ content.head?, isBlank c = false) ∧
    range.start.character = (if content = [] then 0 else (utf16 indent).length) ∧
    range.stop.character = (utf16 text).length ∧
    (content ≠ [] →
      ((utf16 text).take range.stop.character).drop range.start.character = utf16 content)

namespace Finding

/-- The content of a line begins after the blanks in front. -/
theorem contentSpan_eq (text : List Char) : contentSpan text =
    (if text.dropWhile isBlank = [] then 0 else units (text.takeWhile isBlank), units text) := by
  have hlength : (text.takeWhile isBlank).length = text.length ↔ text.dropWhile isBlank = [] := by
    have hsum := congrArg List.length (List.takeWhile_append_dropWhile (p := isBlank) (l := text))
    rw [List.length_append] at hsum
    rw [← List.length_eq_zero_iff]
    omega
  unfold contentSpan
  simp only [hlength]

/-- The content of a line ends where the line does. -/
theorem contentSpan_le (text : List Char) : (contentSpan text).1 ≤ (contentSpan text).2 := by
  rw [contentSpan_eq]
  dsimp only
  split
  · exact Nat.zero_le _
  · have hsplit := units_append (text.takeWhile isBlank) (text.dropWhile isBlank)
    rw [List.takeWhile_append_dropWhile] at hsplit
    omega

/-- In a line that is no longer than a word can say, there is room for one more after the place
where the content begins. -/
theorem contentSpan_lt {text : List Char} (h : (utf16 text).length < wordBound) :
    (contentSpan text).1 + 1 < wordBound := by
  rw [length_utf16] at h
  rw [contentSpan_eq]
  dsimp only
  split
  · decide
  · next hcontent =>
    -- The first character of the content is counted in the line, but not in the indent.
    have hpos := units_pos hcontent
    have hsplit := units_append (text.takeWhile isBlank) (text.dropWhile isBlank)
    rw [List.takeWhile_append_dropWhile] at hsplit
    omega

/-- The span of a line's content marks it. -/
theorem marks_contentSpan (text : List Char) (line : Nat) :
    Marks ⟨⟨line, (contentSpan text).1⟩, ⟨line, (contentSpan text).2⟩⟩ text := by
  have hsplit : text.takeWhile isBlank ++ text.dropWhile isBlank = text :=
    List.takeWhile_append_dropWhile
  refine ⟨text.takeWhile isBlank, text.dropWhile isBlank, hsplit.symm,
    List.all_eq_true.1 List.all_takeWhile, ?_, ?_, ?_, ?_⟩
  · intro c hc
    have hhead := List.head?_dropWhile_not isBlank text
    rw [hc] at hhead
    simpa using hhead
  · rw [contentSpan_eq, length_utf16]
  · rw [contentSpan_eq, length_utf16]
  · intro hcontent
    rw [contentSpan_eq, if_neg hcontent]
    dsimp only
    have hunits : utf16 text =
        utf16 (text.takeWhile isBlank) ++ utf16 (text.dropWhile isBlank) := by
      rw [← utf16_append, hsplit]
    rw [← length_utf16, ← length_utf16, List.take_length, hunits, List.drop_left]

/-! ## Ranges -/

/-- A range without lines is told by the numbers alone. -/
theorem rangeOf_nil (line column : Nat) :
    rangeOf line column [] = ⟨⟨line, column⟩, ⟨line, column + 1⟩⟩ := rfl

/-- The line of a range in a document is one of the document. -/
theorem exists_rangeOf {lines : List (List Char)} (h : lines ≠ []) (line column : Nat) :
    ∃ text, lines[min line (lines.length - 1)]? = some text ∧
      rangeOf line column lines =
        if column = 0 then
          ⟨⟨min line (lines.length - 1), (contentSpan text).1⟩,
            ⟨min line (lines.length - 1), (contentSpan text).2⟩⟩
        else
          ⟨⟨min line (lines.length - 1), column⟩, ⟨min line (lines.length - 1), column + 1⟩⟩ := by
  have hlength : min line (lines.length - 1) < lines.length := by
    have hpos := List.length_pos_iff.2 h
    omega
  refine ⟨lines[min line (lines.length - 1)], List.getElem?_eq_getElem hlength, ?_⟩
  unfold rangeOf
  rw [List.getElem?_eq_getElem hlength]

/-- A range lies on one line, and does not end before it begins. -/
theorem rangeOf_ordered (line column : Nat) (lines : List (List Char)) :
    (rangeOf line column lines).start.line = (rangeOf line column lines).stop.line ∧
      (rangeOf line column lines).start.character ≤ (rangeOf line column lines).stop.character := by
  by_cases hlines : lines = []
  · rw [hlines, rangeOf_nil]
    exact ⟨rfl, Nat.le_succ column⟩
  · obtain ⟨text, -, hrange⟩ := exists_rangeOf hlines line column
    rw [hrange]
    split
    · exact ⟨rfl, contentSpan_le text⟩
    · exact ⟨rfl, Nat.le_succ column⟩

/-- In a document the line is at most its last one. -/
theorem line_rangeOf {lines : List (List Char)} (h : lines ≠ []) (line column : Nat) :
    (rangeOf line column lines).start.line = min line (lines.length - 1) := by
  obtain ⟨text, -, hrange⟩ := exists_rangeOf h line column
  rw [hrange]
  split <;> rfl

end Finding

/-- The lines of a document can be counted in words, and so can the units of each of them. -/
structure Fits (lines : List (List Char)) : Prop where
  /-- The number of lines. -/
  length : lines.length < wordBound
  /-- The number of units of a line. -/
  units : ∀ text ∈ lines, (utf16 text).length < wordBound

/-- After the place where a range begins there is room for one more, if this is so for the numbers
that it is made from. -/
theorem Finding.rangeOf_lt {line column : Nat} {lines : List (List Char)}
    (hline : line + 1 < wordBound) (hcolumn : column + 1 < wordBound) (hlines : Fits lines) :
    (rangeOf line column lines).start.line + 1 < wordBound ∧
      (rangeOf line column lines).start.character + 1 < wordBound := by
  by_cases hnil : lines = []
  · rw [hnil, rangeOf_nil]
    exact ⟨hline, hcolumn⟩
  · have hmin : min line (lines.length - 1) + 1 < wordBound := by omega
    obtain ⟨text, htext, hrange⟩ := exists_rangeOf hnil line column
    rw [hrange]
    split
    · exact ⟨hmin, contentSpan_lt (hlines.units text (List.mem_of_getElem? htext))⟩
    · exact ⟨hmin, hcolumn⟩

/-! ## Words -/

namespace Checked

/-- A sum, if it is a word. -/
def add? (a b : Nat) : Option Nat := if a + b < wordBound then some (a + b) else none

/-- A difference, if it is not negative. -/
def sub? (a b : Nat) : Option Nat := if b ≤ a then some (a - b) else none

/-- A number as a word. -/
def word? (n : Nat) : Option Nat := if n < wordBound then some n else none

/-- Where the content of a line begins, in words. -/
def start? (text : List Char) : Option Nat :=
  if text.dropWhile isBlank = [] then some 0 else word? (utf16 (text.takeWhile isBlank)).length

/-- The range of a diagnostic, in words: the column after its own, the number of the last line, the
line by its index, and the units in front of the content and of the line. -/
def rangeOf? (line column : Nat) (lines : List (List Char)) : Option TextRange := do
  let next ← add? column 1
  if lines = [] then
    return ⟨⟨line, column⟩, ⟨line, next⟩⟩
  let last ← sub? (← word? lines.length) 1
  if column = 0 then
    let text ← lines[min line last]?
    return ⟨⟨min line last, ← start? text⟩, ⟨min line last, ← word? (utf16 text).length⟩⟩
  else
    return ⟨⟨min line last, column⟩, ⟨min line last, next⟩⟩

/-- The entry of a finding, with its numbers from one in words. -/
def entry? (file : String) (f : Finding) : Option String := do
  let line ← add? f.range.start.line 1
  let column ← add? f.range.start.character 1
  return CommandLine.entryText file line column f

/-- The content of a line that fits begins at a word. -/
theorem start?_eq {text : List Char} (h : (utf16 text).length < wordBound) :
    start? text = some (Finding.contentSpan text).1 := by
  have hlt := Finding.contentSpan_lt h
  rw [Finding.contentSpan_eq] at hlt ⊢
  unfold start?
  split
  · rfl
  · next hcontent =>
    rw [if_neg hcontent] at hlt
    rw [length_utf16, word?, if_pos (Nat.lt_of_succ_lt hlt)]

/-- No step on the way to a range fails. -/
theorem rangeOf?_eq (line : Nat) {column : Nat} {lines : List (List Char)}
    (hcolumn : column + 1 < wordBound) (hlines : Fits lines) :
    rangeOf? line column lines = some (Finding.rangeOf line column lines) := by
  have hnext : add? column 1 = some (column + 1) := if_pos hcolumn
  unfold rangeOf?
  rw [hnext]
  by_cases hnil : lines = []
  · rw [hnil]
    rfl
  · have hlength : word? lines.length = some lines.length := if_pos hlines.length
    have hlast : sub? lines.length 1 = some (lines.length - 1) :=
      if_pos (List.length_pos_iff.2 hnil)
    obtain ⟨text, htext, hrange⟩ := Finding.exists_rangeOf hnil line column
    have hunits := hlines.units text (List.mem_of_getElem? htext)
    have hstop : word? (utf16 text).length = some (Finding.contentSpan text).2 := by
      rw [word?, if_pos hunits, length_utf16, Finding.contentSpan_eq]
    simp only [Option.bind_eq_bind, Option.bind_some, if_neg hnil, hlength, hlast, htext,
      start?_eq hunits, hstop, hrange]
    split <;> rfl

/-- No step on the way to an entry fails. -/
theorem entry?_eq {f : Finding} (hline : f.range.start.line + 1 < wordBound)
    (hcharacter : f.range.start.character + 1 < wordBound) (file : String) :
    entry? file f = some (CommandLine.findingLine file f) := by
  have hadd : ∀ {n : Nat}, n + 1 < wordBound → add? n 1 = some (n + 1) := fun h => if_pos h
  unfold entry?
  rw [hadd hline, hadd hcharacter]
  rfl

end Checked

/-! ## The lines of a document -/

namespace PassRequest

/-- A document has one line more than newlines. -/
theorem length_splitOn_newline (cs : List Char) : (cs.splitOn '\n').length = cs.count '\n' + 1 := by
  induction cs with
  | nil => rfl
  | cons c rest ih =>
    rw [List.splitOn_cons_eq_if_modifyHead, List.count_cons]
    split
    · rw [List.length_cons, ih]
    · rw [List.length_modifyHead, ih, Nat.add_zero]

variable {r : PassRequest}

/-- The lines of a document are counted by its newlines. -/
theorem length_lines (r : PassRequest) : r.lines.length = r.text.toList.count '\n' + 1 := by
  unfold lines
  rw [List.length_map, length_splitOn_newline]

/-- There is a line in every document. -/
theorem lines_ne_nil (r : PassRequest) : r.lines ≠ [] := by
  have hlength := r.length_lines
  intro hnil
  rw [hnil] at hlength
  cases hlength

/-- A line goes to the newline, without a carriage return before it. -/
theorem exists_of_getElem?_lines {k : Nat} {text : List Char} (h : r.lines[k]? = some text) :
    ∃ raw, (r.text.toList.splitOn '\n')[k]? = some raw ∧
      (raw = text ++ ['\r'] ∨ raw = text ∧ text.getLast? ≠ some '\r') := by
  unfold lines at h
  rw [List.getElem?_map] at h
  obtain ⟨raw, hraw, htext⟩ := Option.map_eq_some_iff.1 h
  refine ⟨raw, hraw, ?_⟩
  split at htext
  · next hlast =>
    subst htext
    exact .inl (List.dropLast_append_getLast? '\r' hlast).symm
  · next hlast =>
    subst htext
    exact .inr ⟨rfl, hlast⟩

/-- The lines are counted in words if this is so before carriage returns are left out. -/
theorem fits_lines (h : Fits (r.text.toList.splitOn '\n')) : Fits r.lines := by
  constructor
  · rw [length_lines, ← length_splitOn_newline]
    exact h.length
  · intro text htext
    obtain ⟨k, hk⟩ := List.getElem?_of_mem htext
    obtain ⟨raw, hraw, hreturn⟩ := exists_of_getElem?_lines hk
    have hfits := h.units raw (List.mem_of_getElem? hraw)
    rcases hreturn with rfl | ⟨rfl, -⟩
    · rw [utf16_append, List.length_append] at hfits
      exact Nat.lt_of_le_of_lt (Nat.le_add_right _ _) hfits
    · exact hfits

/-- The lines that a diagnostic is placed in: those of the document, or none in another file. -/
def linesFor (r : PassRequest) (d : Diagnostic) : List (List Char) :=
  if r.identity d.fileName = r.document then r.lines else []

/-- The range of a finding is told by the lines that its diagnostic is placed in. -/
theorem range_locate (r : PassRequest) (d : Diagnostic) :
    (r.locate d).2.range = Finding.rangeOf d.line d.column (r.linesFor d) := by
  unfold locate linesFor Finding.ofDiagnostic
  dsimp only

theorem fits_linesFor (h : Fits (r.text.toList.splitOn '\n')) (d : Diagnostic) :
    Fits (r.linesFor d) := by
  unfold linesFor
  split
  · exact fits_lines h
  · exact ⟨by decide, nofun⟩

end PassRequest

/-! ## Diagnostics -/

/-- There is room for one more after the place of a diagnostic. -/
def Diagnostic.Bounded (d : Diagnostic) : Prop :=
  d.line + 1 < wordBound ∧ d.column + 1 < wordBound

/-- No step fails on the way from a diagnostic to its range and the entry of its finding. -/
def Diagnostic.Safe (d : Diagnostic) (r : PassRequest) : Prop :=
  Checked.rangeOf? d.line d.column (r.linesFor d) = some (r.locate d).2.range ∧
    ∀ file, Checked.entry? file (r.locate d).2 = some (CommandLine.findingLine file (r.locate d).2)

/-- Nothing fails where there is room. -/
theorem Diagnostic.Bounded.safe {d : Diagnostic} (h : d.Bounded) {r : PassRequest}
    (hfits : Fits (r.text.toList.splitOn '\n')) : d.Safe r := by
  have hlines := PassRequest.fits_linesFor hfits d
  have hrange := Checked.rangeOf?_eq d.line h.2 hlines
  have hstart := Finding.rangeOf_lt h.1 h.2 hlines
  rw [← r.range_locate d] at hrange hstart
  exact ⟨hrange, Checked.entry?_eq hstart.1 hstart.2⟩

/-- A continuation moves a diagnostic to its own place, so that there is room as before. -/
theorem Analyzer.amend_bounded (a : Analyzer) {held : Option Diagnostic} {d : Diagnostic}
    (hheld : ∀ x ∈ held, x.Bounded) (hd : d.Bounded) :
    (∀ x ∈ (a.amend held d).1, x.Bounded) ∧ ∀ x ∈ (a.amend held d).2, x.Bounded := by
  have hself : ∀ x ∈ some d, x.Bounded := by
    rintro x hx
    obtain rfl := Option.some.inj hx
    exact hd
  unfold amend
  cases a with
  | flexelint =>
    dsimp only
    split
    · exact ⟨hheld, hself⟩
    · split
      · exact ⟨hheld, nofun⟩
      · refine ⟨fun x hx => ?_, nofun⟩
        obtain ⟨y, -, rfl⟩ := Option.map_eq_some_iff.1 hx
        exact hd
  | pclintPlus =>
    dsimp only
    split
    · exact ⟨hheld, nofun⟩
    · exact ⟨hheld, hself⟩
  | clang => exact ⟨hheld, hself⟩
  | cppCheck => exact ⟨hheld, hself⟩
  | flawFinder => exact ⟨hheld, hself⟩
  | lizard => exact ⟨hheld, hself⟩

/-- There is room after every diagnostic of a run. -/
theorem Analyzer.stitch_bounded (a : Analyzer) {held : Option Diagnostic} {found : List Diagnostic}
    (hheld : ∀ x ∈ held, x.Bounded) (hfound : ∀ x ∈ found, x.Bounded) :
    ∀ x ∈ a.stitch held found, x.Bounded := by
  induction found generalizing held with
  | nil =>
    intro x hx
    exact hheld x (Option.mem_toList.1 hx)
  | cons d rest ih =>
    obtain ⟨hd, hrest⟩ := List.forall_mem_cons.1 hfound
    obtain ⟨hreleased, hnext⟩ := a.amend_bounded hheld hd
    intro x hx
    rw [stitch] at hx
    rcases List.mem_append.1 hx with hx | hx
    · exact hreleased x (Option.mem_toList.1 hx)
    · exact ih hnext hrest x hx

namespace Linter

variable {l : Linter} {file shadow : String}

/-- There is room after what a line says. -/
theorem bounded_of_readAfter {before : List String} {line : String} {d : Diagnostic}
    (h : l.readAfter file shadow before line = .diagnostic d) : d.Bounded := by
  obtain ⟨origin, f, -, -, hat⟩ := exists_figures h
  exact hat.lt

/-- There is room after every diagnostic that comes out of a run. -/
theorem bounded_of_diagnostics {output : List String} {found : List Diagnostic}
    (h : l.diagnostics file shadow output = .ok found) : ∀ d ∈ found, d.Bounded := by
  obtain ⟨-, rfl⟩ := diagnostics_eq_ok_iff.1 h
  refine l.analyzer.stitch_bounded nofun fun d hd => ?_
  -- The diagnostic is what some line says after the lines before it.
  obtain ⟨earlier, later, hsplit⟩ := List.append_of_mem (Reading.mem_diagnostics.1 hd)
  obtain ⟨before, line, after, -, -, hread⟩ := exists_of_readFrom hsplit
  exact bounded_of_readAfter hread

end Linter

/-! ## Entries -/

section Entries

open CommandLine

variable {d : Diagnostic} {a : Analyzer} {f : Figures} {r : PassRequest} {n : Nat}

/-- The line of a diagnostic is the number that was printed, less one. -/
theorem Diagnostic.IsAt.line_eq (h : d.IsAt a f) (hn : Spells f.line n) (hbound : n < wordBound) :
    d.line = n - 1 := by
  rw [h.1, zeroBased_of_spells hn hbound]

/-- In another file the entry of a finding has the numbers that were printed. -/
theorem Diagnostic.IsAt.findingLine_eq (h : d.IsAt a f)
    (hother : r.identity d.fileName ≠ r.document) (hkeeps : a.keepsColumn = true) {c : Nat}
    (hn : Spells f.line n) (hc : Spells f.column c) (hnpos : 1 ≤ n) (hnbound : n < wordBound)
    (hcpos : 1 ≤ c) (hcbound : c < wordBound) (file : String) :
    findingLine file (r.locate d).2 = entryText file n c (r.locate d).2 := by
  have hline : d.line + 1 = n := by
    rw [h.line_eq hn hnbound, Nat.sub_add_cancel hnpos]
  have hcolumn : d.column + 1 = c := by
    rw [h.2, if_pos hkeeps, zeroBased_of_spells hc hcbound, Nat.sub_add_cancel hcpos]
  have hrange : (r.locate d).2.range = ⟨⟨d.line, d.column⟩, ⟨d.line, d.column + 1⟩⟩ := by
    rw [r.range_locate, PassRequest.linesFor, if_neg hother, Finding.rangeOf_nil]
  have hentry : findingLine file (r.locate d).2 =
      entryText file ((r.locate d).2.range.start.line + 1)
        ((r.locate d).2.range.start.character + 1) (r.locate d).2 := rfl
  rw [hentry, hrange]
  dsimp only
  rw [hline, hcolumn]

/-- In the document the entry of a finding has the number that was printed, or that of the last
line. -/
theorem Diagnostic.IsAt.findingLine_of_document (h : d.IsAt a f)
    (hdocument : r.identity d.fileName = r.document) (hn : Spells f.line n) (hpos : 1 ≤ n)
    (hbound : n < wordBound) (file : String) :
    findingLine file (r.locate d).2 =
      entryText file (min n (r.text.toList.count '\n' + 1))
        ((r.locate d).2.range.start.character + 1) (r.locate d).2 := by
  have hstart : (r.locate d).2.range.start.line = min d.line (r.lines.length - 1) := by
    rw [r.range_locate, PassRequest.linesFor, if_pos hdocument]
    exact Finding.line_rangeOf r.lines_ne_nil d.line d.column
  have hline : (r.locate d).2.range.start.line + 1 = min n (r.text.toList.count '\n' + 1) := by
    rw [hstart, h.line_eq hn hbound, r.length_lines]
    omega
  rw [← hline]
  rfl

/-- In the document a finding without a column marks the content of its line. -/
theorem Diagnostic.exists_marks (hdocument : r.identity d.fileName = r.document)
    (hcolumn : d.column = 0) :
    ∃ raw text, (r.text.toList.splitOn '\n')[(r.locate d).2.range.start.line]? = some raw ∧
      (raw = text ++ ['\r'] ∨ raw = text ∧ text.getLast? ≠ some '\r') ∧
      Marks (r.locate d).2.range text := by
  obtain ⟨text, htext, hrange⟩ := Finding.exists_rangeOf r.lines_ne_nil d.line d.column
  obtain ⟨raw, hraw, hreturn⟩ := PassRequest.exists_of_getElem?_lines htext
  rw [if_pos hcolumn] at hrange
  rw [r.range_locate, PassRequest.linesFor, if_pos hdocument, hrange]
  exact ⟨raw, text, hraw, hreturn, Finding.marks_contentSpan text _⟩

end Entries

/-- Positions, for every linter, all output and all documents whose lines, and the UTF-16 units of
each line, can be counted in words of 32 bits. No step on the way from a diagnostic to its range and
its entry in the text report overflows or looks up a line that is not there. Every diagnostic that a
line gives has a place with numbers that stand in the line, or for PC-lint Plus in the nearest line
before it that names a place. Its range lies on one line and does not end before it begins. In
another file the entry has the line and the column that were printed, if the analyzer's columns are
used. In the document it has the line that was printed, or the last line. If there is no column, the
range marks the content of the line. -/
theorem positions_reported (l : Linter) (file shadow : String) :
    (∀ output found, l.diagnostics file shadow output = .ok found → ∀ d ∈ found,
      ∀ r : PassRequest, Fits (r.text.toList.splitOn '\n') → d.Safe r) ∧
    ∀ before line d, l.readAfter file shadow before line = .diagnostic d →
      ∃ origin f, l.analyzer.origin? before line = some origin ∧
        l.analyzer.figures? origin.toList = some f ∧ f.StandIn origin.toList ∧
        ∀ r : PassRequest,
          (Fits (r.text.toList.splitOn '\n') → d.Safe r) ∧
          (r.locate d).2.range.start.line = (r.locate d).2.range.stop.line ∧
          (r.locate d).2.range.start.character ≤ (r.locate d).2.range.stop.character ∧
          (r.identity d.fileName ≠ r.document → l.analyzer.keepsColumn = true →
            ∀ n c, Spells f.line n → Spells f.column c →
              1 ≤ n → n < wordBound → 1 ≤ c → c < wordBound →
            ∀ name, CommandLine.findingLine name (r.locate d).2 =
              CommandLine.entryText name n c (r.locate d).2) ∧
          (r.identity d.fileName = r.document →
            (∀ n, Spells f.line n → 1 ≤ n → n < wordBound →
              ∀ name, CommandLine.findingLine name (r.locate d).2 =
                CommandLine.entryText name (min n (r.text.toList.count '\n' + 1))
                  ((r.locate d).2.range.start.character + 1) (r.locate d).2) ∧
            (d.column = 0 →
              ∃ raw text,
                (r.text.toList.splitOn '\n')[(r.locate d).2.range.start.line]? = some raw ∧
                (raw = text ++ ['\r'] ∨ raw = text ∧ text.getLast? ≠ some '\r') ∧
                Marks (r.locate d).2.range text)) := by
  refine ⟨fun output found hfound d hd r hfits => ?_, fun before line d hread => ?_⟩
  · exact (Linter.bounded_of_diagnostics hfound d hd).safe hfits
  · obtain ⟨origin, f, horigin, hfigures, hat⟩ := Linter.exists_figures hread
    have hstand := Figures.standIn_of_figures? hfigures
    refine ⟨origin, f, horigin, hfigures, hstand, fun r => ?_⟩
    have hordered := Finding.rangeOf_ordered d.line d.column (r.linesFor d)
    rw [← r.range_locate d] at hordered
    refine ⟨(Linter.bounded_of_readAfter hread).safe, hordered.1, hordered.2, ?_, ?_⟩
    · intro hother hkeeps n c hn hc hnpos hnbound hcpos hcbound
      exact hat.findingLine_eq hother hkeeps hn hc hnpos hnbound hcpos hcbound
    · intro hdocument
      refine ⟨fun n hn hpos hbound => ?_, Diagnostic.exists_marks hdocument⟩
      exact hat.findingLine_of_document hdocument hn hpos hbound

namespace Placed

/-- A pass over a document of two lines, with a character outside the basic plane after the indent
of the last one, and a carriage return at its end. -/
def request : PassRequest where
  file := "/ws/a.c"
  root := "/ws"
  shadow := ""
  text := "int x;\n\t\u2003😀 y\r"
  trigger := .onSave
  excluded := []
  debug := false

def clang : Linter := .make .clang .initial ∅ "/ws"

def cppCheck : Linter := .make .cppCheck .initial ∅ "/ws"

/-- A report at the greatest line of 32 bits. -/
def far : Diagnostic := ⟨"b.h", 4294967294, 11, .warning, none, "w", "Clang"⟩

/-- A report without a column, after the end of the document. -/
def late : Diagnostic := ⟨"a.c", 98, 0, .information, some "id", "m", "CppCheck"⟩

/-- The greatest line of 32 bits comes back, and a line after the end becomes the last one, marked
from after its indent to before its carriage return. -/
theorem far_and_late_reported :
    clang.readAfter "" "" [] "b.h:4294967295:12: warning: w" = .diagnostic far ∧
    far.Safe request ∧
    CommandLine.findingLine "b.h" (request.locate far).2 =
      "b.h:4294967295:12: warning w (Clang)" ∧
    cppCheck.readAfter "" "" [] "a.c  99  style id: m" = .diagnostic late ∧ late.Safe request ∧
    CommandLine.findingLine "a.c" (request.locate late).2 =
      "a.c:2:3: information [id] m (CppCheck)" ∧
    (request.locate late).2.range = ⟨⟨1, 2⟩, ⟨1, 6⟩⟩ ∧
    Marks (request.locate late).2.range "\t\u2003😀 y".toList := by
  have hfar : clang.readAfter "" "" [] "b.h:4294967295:12: warning: w" = .diagnostic far := by
    decide +kernel
  have hlate : cppCheck.readAfter "" "" [] "a.c  99  style id: m" = .diagnostic late := by
    decide +kernel
  have hfits : Fits (request.text.toList.splitOn '\n') :=
    ⟨by decide +kernel, by decide +kernel⟩
  have hgreatest : Spells "4294967295".toList 4294967295 :=
    ⟨⟨by decide, List.all_eq_true.1 (by decide)⟩, by decide +kernel⟩
  have htwelve : Spells "12".toList 12 := ⟨⟨by decide, List.all_eq_true.1 (by decide)⟩, by decide⟩
  have hpast : Spells "99".toList 99 := ⟨⟨by decide, List.all_eq_true.1 (by decide)⟩, by decide⟩
  obtain ⟨origin, f, horigin, hf, -, hplaced⟩ := (positions_reported clang "" "").2 _ _ _ hfar
  obtain ⟨hfarSafe, -, -, hother, -⟩ := hplaced request
  obtain ⟨origin', f', horigin', hf', -, hplaced'⟩ :=
    (positions_reported cppCheck "" "").2 _ _ _ hlate
  obtain ⟨hlateSafe, -, -, -, hdocument⟩ := hplaced' request
  -- The two lines give these numbers.
  obtain rfl := Option.some.inj horigin
  obtain rfl : ⟨"b.h".toList, "4294967295".toList, "12".toList⟩ = f :=
    Option.some.inj (Eq.trans (by decide +kernel) hf)
  obtain rfl := Option.some.inj horigin'
  obtain rfl : ⟨"a.c".toList, "99".toList, []⟩ = f' :=
    Option.some.inj (Eq.trans (by decide +kernel) hf')
  obtain ⟨hclamped, hmarked⟩ := hdocument (by decide +kernel)
  refine ⟨hfar, hfarSafe hfits, ?_, hlate, hlateSafe hfits, ?_, by decide +kernel, ?_⟩
  · rw [hother (by decide +kernel) rfl 4294967295 12 hgreatest htwelve (by decide) (by decide)
      (by decide) (by decide)]
    decide +kernel
  · rw [hclamped 99 hpast (by decide) (by decide)]
    decide +kernel
  · obtain ⟨raw, text, hraw, hreturn, hmarks⟩ := hmarked rfl
    obtain rfl : "\t\u2003😀 y\r".toList = raw :=
      Option.some.inj (Eq.trans (by decide +kernel) hraw)
    rcases hreturn with htext | ⟨rfl, hlast⟩
    · have hline : "\t\u2003😀 y".toList ++ ['\r'] = text ++ ['\r'] :=
        Eq.trans (by decide) htext
      rw [List.append_cancel_right hline]
      exact hmarks
    · exact absurd (by decide) hlast

def pclintPlus : Linter := .make .pclintPlus .initial ∅ "/ws"

def flawFinder : Linter := .make .flawFinder .initial ∅ "/ws"

/-- A pass over a document of nine lines. -/
def deep : PassRequest := { request with text := "\n\n\n\n\n\n\n\n" }

/-- A message of PC-lint Plus that leaves its file name out but has a number of its own is reported
at the line of an earlier message, although the document has more lines. Numbers in digits of
another script are not reported. -/
theorem numbers_not_reported :
    (pclintPlus.readAfter "" "" ["a.c  3 0  info 713: i"] "  7 2  note 974: s" =
        .diagnostic ⟨"a.c", 2, 0, .hint, some "974", "s", "PclintPlus"⟩ ∧
      (Analyzer.pclintPlus.figures? "  7 2  note 974: s".toList = some ⟨[], ['7'], ['2']⟩ ∧
        Spells ['7'] 7) ∧
      deep.identity "a.c" = deep.document ∧ deep.text.toList.count '\n' + 1 = 9 ∧
      CommandLine.findingLine "/ws/a.c"
          (deep.locate ⟨"a.c", 2, 0, .hint, some "974", "s", "PclintPlus"⟩).2 =
        "/ws/a.c:3:1: hint [974] s (PclintPlus)") ∧
    flawFinder.readAfter "" "" [] "b.c:\u0663:\u0664:  [5] id:m" =
        .diagnostic ⟨"b.c", 0, 0, .error, some "id", "m", "FlawFinder"⟩ ∧
      (Analyzer.flawFinder.figures? "b.c:\u0663:\u0664:  [5] id:m".toList =
          some ⟨"b.c".toList, ['\u0663'], ['\u0664']⟩ ∧
        isDecimalDigit '\u0663' = true ∧ isDecimalDigit '\u0664' = true) ∧
      deep.identity "b.c" ≠ deep.document ∧
      CommandLine.findingLine "/ws/b.c"
          (deep.locate ⟨"b.c", 0, 0, .error, some "id", "m", "FlawFinder"⟩).2 =
        "/ws/b.c:1:1: error [id] m (FlawFinder)" := by
  have hseven : Spells ['7'] 7 := ⟨⟨by decide, List.all_eq_true.1 (by decide)⟩, by decide⟩
  refine ⟨⟨by decide +kernel, ⟨by decide +kernel, hseven⟩, by decide +kernel, by decide +kernel,
    by decide +kernel⟩, by decide +kernel, by decide +kernel, by decide +kernel, by decide +kernel⟩

end Placed

end LintRelay
