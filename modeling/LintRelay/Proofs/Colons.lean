import LintRelay.Proofs.Template

/-!
# Reports with colons

Clang, FlawFinder and Lizard are not told how to print their reports. In their forms a colon stands
after the file name and between the numbers, so that a colon in a file name, or one in a message
with numbers after it, could be taken for it. Here it is shown which remarks are read back.

Clang's reader takes the first place at which a number follows a colon, so that a file name may hold
colons as long as no digit follows one (`colonNumber?_eq_none`). A line that begins as a note on
included files, or as one that is passed over, is read as such. A file name that does not begin like
this cannot be continued so by the colon and the number after it (`after?_append_eq_none`). The
readers of FlawFinder and Lizard take all up to the next colon, after a drive if there is one
(`FlawFinder.fileHead?_append`). Both want a message, and this is the only condition on it
(`rooted_remarks_read_iff`).
-/

namespace LintRelay

open Text

/-! ## Colons and numbers -/

namespace Text

/-- Whether no end of a text can go on as a colon with a digit after it. -/
def isClear : List Char → Bool
  | [] => true
  | [c] => c ≠ ':'
  | c :: c' :: rest => (c ≠ ':' || !c'.isDigit) && isClear (c' :: rest)

/-- A text that is clear does not begin as a colon and a digit do. -/
theorem after?_colon {head : List Char} (hne : head ≠ []) (hclear : isClear head = true) {d : Char}
    (hd : d.isDigit = true) (rest : List Char) : after? head (':' :: d :: rest) = none := by
  cases head with
  | nil => exact absurd rfl hne
  | cons c others =>
    by_cases hc : c = ':'
    · subst hc
      cases others with
      | nil => cases hclear
      | cons c' others =>
        have hdigit : c'.isDigit = false := by
          simp only [isClear, Bool.and_eq_true] at hclear
          simpa using hclear.1
        have hne : c' ≠ d := by
          rintro rfl
          rw [hd] at hdigit
          cases hdigit
        rw [after?, if_pos rfl, after?, if_neg hne]
    · rw [after?, if_neg hc]

/-- If free text does not begin with a head that is clear, it does not do so either when a colon and
a digit follow. -/
theorem after?_append_eq_none {head file : List Char} (hclear : isClear head = true)
    (hfile : after? head file = none) {d : Char} (hd : d.isDigit = true) (rest : List Char) :
    after? head (file ++ ':' :: d :: rest) = none := by
  -- Along the text the head gets shorter, and what is left of it is clear as well.
  induction file generalizing head with
  | nil =>
    have hne : head ≠ [] := by
      rintro rfl
      cases hfile
    exact after?_colon hne hclear hd rest
  | cons c chars ih =>
    cases head with
    | nil => cases hfile
    | cons h others =>
      rw [after?] at hfile
      rw [List.cons_append, after?]
      split at hfile
      · next heq =>
        rw [if_pos heq]
        refine ih ?_ hfile
        cases others with
        | nil => rfl
        | cons h' others =>
          simp only [isClear, Bool.and_eq_true] at hclear
          exact hclear.2
      · next hneq => rw [if_neg hneq]

/-- Digits that were put in front of a colon, for a reader that takes them and no colon. -/
theorem IsNumeral.digits?_of_colon {ds : List Char} (h : IsNumeral ds) {p : Char → Bool}
    (hdigit : ∀ c, c.isDigit = true → p c = true) (hcolon : p ':' = false) (cs : List Char) :
    digits? p (ds ++ ':' :: cs) = some (ds, ':' :: cs) :=
  digits?_append h.ne_nil (fun c hc => hdigit c (h.digits c hc)) fun c hc => by
    obtain rfl := Option.some.inj hc
    exact hcolon

/-- Digits that were put in front of a colon. -/
theorem IsNumeral.digits?_colon {ds : List Char} (h : IsNumeral ds) (cs : List Char) :
    digits? Char.isDigit (ds ++ ':' :: cs) = some (ds, ':' :: cs) :=
  h.digits?_of_colon (fun _ hc => hc) rfl cs

/-- A digit is a decimal digit. -/
theorem isDecimalDigit_of_isDigit {c : Char} (h : c.isDigit = true) : isDecimalDigit c = true := by
  have hrange : 48 ≤ c.toNat ∧ c.toNat ≤ 57 := by
    simpa [Char.isDigit, UInt32.le_iff_toNat_le] using h
  unfold isDecimalDigit inRanges decimalDigitRanges
  rw [List.any_cons, Bool.or_eq_true]
  refine .inl ?_
  simpa using hrange

/-- Digits that were put in front of a colon, where a digit of any script would do. -/
theorem IsNumeral.decimalDigits?_colon {ds : List Char} (h : IsNumeral ds) (cs : List Char) :
    digits? isDecimalDigit (ds ++ ':' :: cs) = some (ds, ':' :: cs) :=
  h.digits?_of_colon (fun _ => isDecimalDigit_of_isDigit) (by decide) cs

/-- A colon that was put in front. -/
theorem expect?_colon (cs : List Char) : expect? ":" (':' :: cs) = some cs := rfl

/-- The number after a colon. -/
def colonNumber? (cs : List Char) : Option (List Char × List Char) := do
  digits? Char.isDigit (← expect? ":" cs)

/-- A text in which no digit follows a colon has no number after a colon in front, also not if
another colon follows it. -/
theorem colonNumber?_eq_none {last : List Char} (hne : last ≠ [])
    (hapart : last.IsChain fun a b => ¬ (a = ':' ∧ b.isDigit = true)) (cs : List Char) :
    colonNumber? (last ++ ':' :: cs) = none := by
  cases last with
  | nil => exact absurd rfl hne
  | cons c others =>
    by_cases hc : c = ':'
    · subst hc
      cases others with
      | nil =>
        -- What follows the colon is the colon that follows the text.
        rfl
      | cons c' others =>
        have hpair := (List.isChain_cons_cons.1 hapart).1
        have hdigit : c'.isDigit = false := by simpa using hpair
        have htake : (c' :: (others ++ ':' :: cs)).takeWhile Char.isDigit = [] := by
          rw [List.takeWhile_cons_of_neg (by simp [hdigit])]
        exact if_pos htake
    · have hcolon : expect? ":" (c :: others ++ ':' :: cs) = none := if_neg (Ne.symm hc)
      unfold colonNumber?
      rw [hcolon]
      rfl

/-- Without a number after a colon nothing is read that needs one. -/
theorem bind_colonNumber?_eq_none {α : Type} {next : List Char × List Char → Option α}
    {cs : List Char} (h : colonNumber? cs = none) :
    ((expect? ":" cs).bind fun cs => (digits? Char.isDigit cs).bind next) = none := by
  have hbind : (colonNumber? cs).bind next = none := by rw [h, Option.bind_none]
  unfold colonNumber? at hbind
  simpa only [Option.bind_eq_bind, Option.bind_assoc] using hbind

/-- A line that is not empty is taken as it is. -/
theorem nonemptyLine?_of_isLine {cs : List Char} (hne : cs ≠ []) (hline : isLine cs = true) :
    nonemptyLine? cs = some cs := by
  unfold nonemptyLine?
  rw [if_neg hne, line?_of_isLine hline]

/-- What is taken as a line that is not empty is not empty. -/
theorem ne_nil_of_nonemptyLine? {cs line : List Char} (h : nonemptyLine? cs = some line) :
    line ≠ [] := by
  unfold nonemptyLine? line? at h
  split at h
  · cases h
  · next hne =>
    split at h
    · obtain rfl := Option.some.inj h
      exact hne
    · cases h

end Text

/-- The column of a remark as it is printed; nothing if there is none. -/
def Remark.columnText (m : Remark) : String := (m.column.map toString).getD ""

/-- This is the column of its report. -/
theorem Remark.toList_columnText (m : Remark) : m.columnText.toList = m.report.column := by
  unfold columnText report
  cases m.column <;> rfl

/-! ## Clang -/

namespace Clang

/-- How a severity word is printed. -/
def spelling (word : String) : String := if word = "fatal" then "fatal error" else word

/-- A remark as Clang prints it. -/
def printed (m : Remark) : String :=
  m.file ++ ":" ++ toString m.line ++ ":" ++ m.columnText ++ ": " ++ spelling m.word ++ ": " ++
    m.message

/-- The note that a file includes another one at a line. -/
def inclusionNote (file : String) (line : Nat) : String :=
  "In file included from " ++ file ++ ":" ++ toString line ++ ":"

/-- A file name that can be told from what follows it: it is one line, is not empty, and no digit
follows a colon in it. -/
structure IsName (file : List Char) : Prop where
  /-- It is not empty. -/
  ne_nil : file ≠ []
  /-- It is one line. -/
  line : '\n' ∉ file
  /-- No digit follows a colon. -/
  apart : file.IsChain fun a b => ¬ (a = ':' ∧ b.isDigit = true)

/-- How lines begin that may be passed over. -/
def noiseHeads : List String := ["WX", "_WX", "__WX", "Q_", "warning: "]

/-- How lines begin that are no reports. -/
def otherHeads : List String := noiseHeads ++ ["In file included from "]

/-- A remark that Clang prints legibly. -/
structure Legible (m : Remark) (levels : SeverityTable) : Prop where
  /-- It is a proper one. -/
  proper : m.Proper words levels.get?
  /-- It has a column. -/
  column : m.column ≠ none
  /-- The file name can be told from what follows it. -/
  file : IsName m.file.toList
  /-- The file name does not begin as a line that is no report. -/
  head : ∀ head ∈ otherHeads, startsWith head m.file.toList = false

/-- The words differ from each other. -/
theorem distinct_words : Distinct words := by decide

/-- The heads of other lines are clear. -/
theorem isClear_otherHeads : ∀ head ∈ otherHeads, isClear head.toList = true := by decide

/-- A line is not passed over if it does not begin so. -/
theorem isNoise_eq_false {cs : List Char} (hne : cs ≠ [])
    (h : ∀ head ∈ noiseHeads, after? head.toList cs = none) : isNoise cs = false := by
  have hstart : ∀ head ∈ noiseHeads, startsWith head cs = false := by
    intro head hhead
    rw [startsWith, h head hhead]
    rfl
  have hown : isOwnWarning cs = false := by
    unfold isOwnWarning
    rw [expect?, h "warning: " (by decide)]
  unfold isNoise
  rw [hstart "WX" (by decide), hstart "_WX" (by decide), hstart "__WX" (by decide),
    hstart "Q_" (by decide), hown]
  simpa using hne

/-- What follows the file name of a report. -/
def rest (r : Report) : List Char :=
  ':' :: (r.line ++ ':' :: (r.column ++ ':' :: ' ' :: ((spelling r.word).toList ++
    ':' :: ' ' :: r.message)))

/-- The text of a printed remark. -/
theorem toList_printed (m : Remark) : (printed m).toList = m.report.file ++ rest m.report := by
  simp [printed, rest, Remark.toList_columnText, Remark.report]

/-- A severity word is taken back from how it is printed. -/
theorem oneOf?_spelling {word : String} (hword : word ∈ words) (cs : List Char) :
    ∃ after, oneOf? words ((spelling word).toList ++ ':' :: cs) = some (word, after) ∧
      (expect? " error" after).getD after = ':' :: cs := by
  by_cases hfatal : word = "fatal"
  · -- The reader knows the first of the two words, and passes over the second.
    subst hfatal
    refine ⟨" error".toList ++ ':' :: cs, oneOf?_append distinct_words hword _, ?_⟩
    rw [expect?, after?_append, Option.getD_some]
  · refine ⟨':' :: cs, ?_, rfl⟩
    unfold spelling
    rw [if_neg hfatal]
    exact oneOf?_append distinct_words hword _

/-- What follows the file name is read back. -/
theorem tail?_rest {r : Report} (h : r.Readable words) (hcolumn : IsNumeral r.column) :
    tail? (rest r) = some { r with file := [], code := [] } := by
  obtain ⟨after, hword, hafter⟩ := oneOf?_spelling h.word (' ' :: r.message)
  unfold tail? rest
  simp only [expect?_colon, Option.bind_eq_bind, Option.bind_some, h.line.digits?_colon,
    hcolumn.digits?_colon, blank?_space, hword, hafter, line?_of_isLine h.message]
  rfl

/-- Where the file name of a line ends, for a reader that wants a number after a colon there. -/
theorem shortestHead_name {α : Type} {read : List Char → Option α} {a : α} {file cs : List Char}
    (hfile : IsName file) (hread : read (':' :: cs) = some a)
    (hnone : ∀ text, colonNumber? text = none → read text = none) :
    shortestHead read (file ++ ':' :: cs) = some (file, a) := by
  refine shortestHead_append hfile.ne_nil hfile.line hread fun first last hsplit _ hlast => ?_
  have hapart := hfile.apart
  rw [hsplit] at hapart
  exact hnone _ (colonNumber?_eq_none hlast hapart.right_of_append cs)

/-- Without a shadow, every name stands for itself. -/
theorem realFile_empty (file reported : String) : realFile file "" reported = reported := by
  have hform : Path.commandForm "" = "" := rfl
  unfold realFile
  rw [hform]
  exact if_neg fun ⟨hne, heq⟩ => hne (or_self_iff.1 heq)

namespace Legible

variable {m : Remark} {levels : SeverityTable}

/-- A remark has its column in digits. -/
theorem isNumeral_column (h : Legible m levels) : IsNumeral m.report.column := by
  rcases h.proper.readable.column with hnil | hnumeral
  · exact absurd (Remark.report_column_eq_nil.1 hnil) h.column
  · exact hnumeral

/-- The line of a remark does not begin as a line that is no report. -/
theorem after?_eq_none (h : Legible m levels) {head : String} (hhead : head ∈ otherHeads) :
    after? head.toList (m.report.file ++ rest m.report) = none := by
  have hfile : after? head.toList m.report.file = none :=
    Option.isSome_eq_false_iff.1 (h.head head hhead) |> Option.isNone_iff_eq_none.1
  have hline := h.proper.readable.line
  unfold rest
  cases hdigits : m.report.line with
  | nil => exact absurd hdigits hline.ne_nil
  | cons d ds =>
    have hd : d.isDigit = true := hline.digits d (by rw [hdigits]; exact List.mem_cons_self)
    exact after?_append_eq_none (isClear_otherHeads head hhead) hfile hd _

/-- The report of a remark is read back. -/
theorem report?_eq (h : Legible m levels) :
    report? (m.report.file ++ rest m.report) = some { m.report with code := [] } := by
  have hname : IsName m.report.file := h.file
  have hhead : shortestHead tail? (m.report.file ++ rest m.report) =
      some (m.report.file, { m.report with file := [], code := [] }) :=
    shortestHead_name hname (tail?_rest h.proper.readable h.isNumeral_column)
      fun _ => bind_colonNumber?_eq_none
  unfold report?
  rw [hhead]
  rfl

/-- A legible remark is read back. -/
theorem read_eq (h : Legible m levels) (file : String) :
    read levels file "" (printed m) =
      .diagnostic { m.diagnostic .clang (m.column.getD 0 - 1) with code := none } := by
  have hnoise : isNoise (m.report.file ++ rest m.report) = false :=
    isNoise_eq_false (by simp [rest]) fun _ hhead => h.after?_eq_none (List.mem_append_left _ hhead)
  have hinclusion : inclusion? (m.report.file ++ rest m.report) = none := by
    unfold inclusion?
    rw [expect?, h.after?_eq_none (by decide)]
    rfl
  unfold read
  dsimp only
  rw [toList_printed, hnoise, if_neg Bool.false_ne_true, hinclusion, h.report?_eq]
  dsimp only
  rw [realFile_empty, h.proper.zeroBased_line, h.proper.zeroBased_column]
  unfold Report.read
  dsimp only
  rw [show levels.get? m.report.word = some m.severity from h.proper.severity]
  simp [Remark.diagnostic, Remark.report, ruleCode]

end Legible

/-- The diagnostic for a file that includes another one with issues. -/
def inclusionDiagnostic (file : String) (line : Nat) : Diagnostic where
  fileName := file
  line := line - 1
  column := 0
  severity := .warning
  code := none
  message := "Issues in file included from here"
  source := Analyzer.clang.name

/-- A note on included files is read back. -/
theorem read_inclusionNote (levels : SeverityTable) (file : String) {name : String}
    (hname : IsName name.toList) {line : Nat} (hline : line < wordBound) :
    read levels file "" (inclusionNote name line) =
      .diagnostic (inclusionDiagnostic name line) := by
  have hnumeral := isNumeral_toString line
  have hparts : ∀ head : String, (head ++ name ++ ":" ++ toString line ++ ":").toList =
      head.toList ++ (name.toList ++ ':' :: ((toString line).toList ++ [':'])) := by
    intro head
    simp
  have htext : (inclusionNote name line).toList = "In file included from ".toList ++
      (name.toList ++ ':' :: ((toString line).toList ++ [':'])) := hparts _
  have htail : inclusionTail? (':' :: ((toString line).toList ++ [':'])) =
      some (toString line).toList := by
    unfold inclusionTail?
    rw [expect?_colon, Option.bind_eq_bind, Option.bind_some, hnumeral.digits?_colon]
    rfl
  have hinclusion : inclusion? (inclusionNote name line).toList =
      some (name.toList, (toString line).toList) := by
    unfold inclusion?
    rw [htext, expect?, after?_append, Option.bind_some]
    exact shortestHead_name hname htail fun _ => bind_colonNumber?_eq_none
  have hdiverge : ∀ head ∈ noiseHeads,
      diverge head.toList "In file included from ".toList = true := by
    decide
  have hnoise : isNoise (inclusionNote name line).toList = false := by
    rw [htext]
    exact isNoise_eq_false (by simp) fun head hhead => after?_of_diverge (hdiverge head hhead) _
  unfold read
  dsimp only
  rw [hnoise, if_neg Bool.false_ne_true, hinclusion]
  dsimp only
  rw [realFile_empty, zeroBased_toString hline, String.ofList_toList]
  rfl

end Clang

/-- Without a shadow, a remark that Clang prints is read as its diagnostic, whatever its message
looks like, as long as no digit follows a colon in the file name and the file name does not begin as
a line that is no report. So is the note that a file with such a name includes another one. -/
theorem clang_reads_back {l : Linter} (hl : l.analyzer = .clang) (file : String)
    (last : Option Location) :
    (∀ m : Remark, Clang.Legible m l.settings.clang.severityLevels →
      (l.readLine file "" last (Clang.printed m)).1 =
        .diagnostic { m.diagnostic .clang (m.column.getD 0 - 1) with code := none }) ∧
    ∀ (name : String) (line : Nat), Clang.IsName name.toList → line < wordBound →
      (l.readLine file "" last (Clang.inclusionNote name line)).1 =
        .diagnostic (Clang.inclusionDiagnostic name line) := by
  unfold Linter.readLine
  rw [hl]
  dsimp only
  exact ⟨fun m hm => hm.read_eq file,
    fun name line hname hline => Clang.read_inclusionNote _ file hname hline⟩

namespace Samples

/-- A remark of Clang on a file with colons in its name. The message looks like a report. -/
def missing : Remark :=
  ⟨"C:\\x: y.c:", 12, some 7, "fatal", .error, "", "b.c:1:2: error: z"⟩

/-- Clang with the settings that it has at first. -/
def clang : Linter := .make .clang .initial ∅ "/ws"

end Samples

/-- A remark with all that is hard to read is read back, and so is a note on its file. -/
theorem hard_clang_lines_read :
    Clang.printed Samples.missing = "C:\\x: y.c::12:7: fatal error: b.c:1:2: error: z" ∧
    (Samples.clang.readLine "a.c" "" none (Clang.printed Samples.missing)).1 =
      .diagnostic { Samples.missing.diagnostic .clang 6 with code := none } ∧
    (Samples.clang.readLine "a.c" "" none (Clang.inclusionNote "C:\\x: y.c:" 12)).1 =
      .diagnostic (Clang.inclusionDiagnostic "C:\\x: y.c:" 12) := by
  have hname : Clang.IsName "C:\\x: y.c:".toList := ⟨by decide, by decide, by decide⟩
  have hlegible : Clang.Legible Samples.missing Samples.clang.settings.clang.severityLevels :=
    ⟨⟨by decide, by decide, by decide, by decide +kernel, by decide⟩, by decide, hname,
      by decide +kernel⟩
  obtain ⟨hread, hnote⟩ := clang_reads_back (l := Samples.clang) rfl "a.c" none
  exact ⟨by decide +kernel, hread _ hlegible, hnote _ 12 hname (by decide)⟩

/-! ## FlawFinder -/

namespace FlawFinder

/-- A file name that can be told from what follows it. It begins with a slash, or with a drive that
something follows, and holds no other colon. -/
inductive IsName : List Char → Prop
  /-- A name from the root on. -/
  | rooted {chars : List Char} (hchars : ':' ∉ chars) : IsName ('/' :: chars)
  /-- A name with a drive. -/
  | drive {letter : Char} {chars : List Char} (hletter : letter.isAlpha = true) (hne : chars ≠ [])
      (hchars : ':' ∉ chars) : IsName (letter :: ':' :: chars)

/-- A remark as FlawFinder prints it. -/
def printed (m : Remark) : String :=
  m.file ++ ":" ++ toString m.line ++ ":" ++ m.columnText ++ ":  [" ++ m.word ++ "] " ++ m.code ++
    ":" ++ m.message

/-- A remark that FlawFinder prints legibly, but for its message. -/
structure Legible (m : Remark) (levels : SeverityTable) : Prop where
  /-- It is a proper one. -/
  proper : m.Proper risks levels.get?
  /-- The file name can be told from what follows it. -/
  file : IsName m.file.toList
  /-- There is a rule. -/
  code_ne_nil : m.code.toList ≠ []
  /-- The rule can be told from the message. -/
  code_plain : ':' ∉ m.code.toList

/-- A run without colon that was put in front of a colon. -/
theorem segment?_append {name : List Char} (hne : name ≠ []) (hname : ':' ∉ name)
    (cs : List Char) : segment? (name ++ ':' :: cs) = some (name, ':' :: cs) := by
  have hall : ∀ c ∈ name, decide (c ≠ ':') = true := by
    intro c hc
    refine decide_eq_true ?_
    rintro rfl
    exact hname hc
  exact digits?_append hne hall fun c hc => by
    obtain rfl := Option.some.inj hc
    rfl

section FileHead

variable {α : Type} {read : List Char → Option α} {a : α} {head file name cs : List Char}

/-- What is read after a run without colon, with the run behind the given head. -/
def named? (read : List Char → Option α) (head cs : List Char) : Option (List Char × α) := do
  let (name, rest) ← segment? cs
  return (head ++ name, ← read rest)

/-- A run without colon that something follows. -/
theorem named?_append (hne : name ≠ []) (hname : ':' ∉ name) (hread : read (':' :: cs) = some a) :
    named? read head (name ++ ':' :: cs) = some (head ++ name, a) := by
  unfold named?
  simp only [segment?_append hne hname, hread, Option.bind_eq_bind, Option.bind_some]
  rfl

/-- The run in front is a part of the text. -/
theorem eq_of_segment? {rest : List Char} (h : segment? cs = some (name, rest)) :
    cs = name ++ rest := by
  unfold segment? at h
  split at h
  · cases h
  · obtain ⟨rfl, rfl⟩ := Prod.mk.inj (Option.some.inj h)
    exact List.takeWhile_append_dropWhile.symm

/-- Behind a name stands what was read after it. -/
theorem exists_of_named? (h : named? read head cs = some (file, a)) :
    ∃ rest, head ++ cs = file ++ rest ∧ read rest = some a := by
  unfold named? at h
  simp only [Option.bind_eq_bind, Option.bind_eq_some_iff] at h
  obtain ⟨⟨name, rest⟩, hsegment, a', hread, heq⟩ := h
  obtain ⟨rfl, rfl⟩ := Prod.mk.inj (Option.some.inj heq)
  refine ⟨rest, ?_, hread⟩
  rw [eq_of_segment? hsegment, List.append_assoc]

/-- The ways to take a file name: after a colon, after a drive, or from the front. -/
theorem fileHead?_eq (read : List Char → Option α) (cs : List Char) :
    fileHead? read cs =
      match cs with
      | [] => none
      | ':' :: rest => named? read [':'] rest
      | c :: ':' :: rest =>
        if c.isAlpha then named? read [c, ':'] rest <|> named? read [] cs else named? read [] cs
      | _ => named? read [] cs :=
  rfl

/-- The file name is what stands in front of the colon after it. -/
theorem fileHead?_append (hfile : IsName file) (hread : read (':' :: cs) = some a) :
    fileHead? read (file ++ ':' :: cs) = some (file, a) := by
  cases hfile with
  | @rooted chars hchars =>
    have hname : ':' ∉ '/' :: chars := List.not_mem_cons_of_ne_of_not_mem (by decide) hchars
    have hnamed : named? read [] ('/' :: chars ++ ':' :: cs) = some ('/' :: chars, a) :=
      named?_append (List.cons_ne_nil _ _) hname hread
    rw [fileHead?_eq]
    -- A slash is no colon and no drive.
    split
    · next hnil => cases hnil
    · next hcons => cases hcons
    · next c rest _ hcons =>
      obtain rfl : '/' = c := (List.cons.inj hcons).1
      exact hnamed
    · exact hnamed
  | @drive letter chars hletter hne hchars =>
    have hnamed : named? read [letter, ':'] (chars ++ ':' :: cs) =
        some (letter :: ':' :: chars, a) :=
      named?_append hne hchars hread
    have hcolon : letter ≠ ':' := by
      rintro rfl
      cases hletter
    rw [fileHead?_eq, List.cons_append, List.cons_append]
    -- The name after the drive is tried first, and is found.
    split
    · next hnil => cases hnil
    · next hcons => exact absurd (List.cons.inj hcons).1 hcolon
    · next c rest _ hcons =>
      obtain ⟨rfl, hrest⟩ := List.cons.inj hcons
      obtain rfl := (List.cons.inj hrest).2
      rw [if_pos hletter, hnamed]
      rfl
    · next hother => exact absurd rfl (hother letter _)

/-- Behind a file name stands what was read after it. -/
theorem exists_of_fileHead? (h : fileHead? read cs = some (file, a)) :
    ∃ rest, cs = file ++ rest ∧ read rest = some a := by
  rw [fileHead?_eq] at h
  split at h
  · cases h
  · exact exists_of_named? h
  · next c rest _ =>
    split at h
    · cases hdrive : named? read [c, ':'] rest with
      | none =>
        rw [hdrive] at h
        exact exists_of_named? h
      | some found =>
        rw [hdrive] at h
        exact exists_of_named? (hdrive.trans h)
    · exact exists_of_named? h
  · exact exists_of_named? h

end FileHead

/-- The column is taken back, if there is one. -/
theorem column_append {ds : List Char} (h : ds = [] ∨ IsNumeral ds) (cs : List Char) :
    column (ds ++ ':' :: cs) = (ds, cs) := by
  rcases h with rfl | hnumeral
  · have hnone : digits? isDecimalDigit (':' :: cs) = none := by
      have hcolon : isDecimalDigit ':' = false := by decide
      unfold digits?
      rw [List.takeWhile_cons_of_neg (by simp [hcolon]), if_pos rfl]
    unfold column
    rw [List.nil_append, hnone]
    rfl
  · unfold column
    rw [hnumeral.decimalDigits?_colon]
    rfl

/-- The risks differ from each other. -/
theorem distinct_risks : Distinct risks := by decide

/-- What follows the file name of a report. -/
def rest (r : Report) : List Char :=
  ':' :: (r.line ++ ':' :: (r.column ++ ':' :: ' ' :: ' ' :: '[' :: (r.word.toList ++
    ']' :: ' ' :: (r.code ++ ':' :: r.message))))

/-- The text of a printed remark. -/
theorem toList_printed (m : Remark) : (printed m).toList = m.report.file ++ rest m.report := by
  simp [printed, rest, Remark.toList_columnText, Remark.report]

/-- What follows the file name is read back. -/
theorem tail?_rest {r : Report} (h : r.Readable risks) (hcode : r.code ≠ [])
    (hplain : ':' ∉ r.code) (hmessage : r.message ≠ []) :
    tail? (rest r) = some { r with file := [] } := by
  have hopen : ∀ cs, expect? "  [" (' ' :: ' ' :: '[' :: cs) = some cs := fun _ => rfl
  have hclose : ∀ cs, expect? "] " (']' :: ' ' :: cs) = some cs := fun _ => rfl
  have hword := oneOf?_append distinct_risks h.word (']' :: ' ' :: (r.code ++ ':' :: r.message))
  unfold tail? rest
  simp only [expect?_colon, Option.bind_eq_bind, Option.bind_some, h.line.decimalDigits?_colon,
    column_append h.column, hopen, hword, hclose, segment?_append hcode hplain,
    nonemptyLine?_of_isLine hmessage h.message]
  rfl

/-- A line that begins with a file name is not passed over. -/
theorem IsName.isNoise_eq_false {file : List Char} (h : IsName file) (cs : List Char) :
    isNoise (file ++ cs) = false := by
  have hdiverge : diverge "Examining ".toList file = true := by
    cases h with
    | rooted => rfl
    | drive => simp [diverge]
  have hne : file ++ cs ≠ [] := by
    cases h <;> simp
  unfold isNoise startsWith
  rw [after?_of_diverge hdiverge]
  simpa using hne

/-- What follows a file name ends with a message. -/
theorem message_of_tail? {cs : List Char} {r : Report} (h : tail? cs = some r) :
    r.message ≠ [] := by
  unfold tail? at h
  simp only [Option.bind_eq_bind, Option.bind_eq_some_iff] at h
  -- The message is the last of what is taken from the line.
  obtain ⟨_, -, _, -, _, -, _, -, _, -, _, -, _, -, _, -, message, hmessage, h⟩ := h
  rw [← Option.some.inj h]
  exact ne_nil_of_nonemptyLine? hmessage

/-- The message of what is read is not empty. -/
theorem message_of_read {levels : SeverityTable} {line : String} {d : Diagnostic}
    (h : read levels line = .diagnostic d) : d.message ≠ "" := by
  unfold read at h
  dsimp only at h
  split at h
  · cases h
  · split at h
    · cases h
    · next r hreport =>
      obtain ⟨⟨file, tail⟩, hhead, rfl⟩ := Option.map_eq_some_iff.1 hreport
      obtain ⟨rest, -, hrest⟩ := exists_of_fileHead? hhead
      unfold Report.read at h
      split at h
      · cases h
      · rw [← Reading.diagnostic.inj h]
        exact fun hempty => message_of_tail? hrest (String.ofList_eq_empty_iff.1 hempty)

/-- A legible remark is read back if and only if it has a message. -/
theorem Legible.read_iff {m : Remark} {levels : SeverityTable} (h : Legible m levels) :
    read levels (printed m) = .diagnostic (m.diagnostic .flawFinder (m.column.getD 0 - 1)) ↔
      m.message ≠ "" := by
  refine ⟨fun hread => message_of_read hread, fun hmessage => ?_⟩
  have hname : IsName m.report.file := h.file
  have hmessage : m.report.message ≠ [] := fun hnil =>
    hmessage (String.toList_eq_nil_iff.1 hnil)
  have hhead : fileHead? tail? (m.report.file ++ rest m.report) =
      some (m.report.file, { m.report with file := [] }) :=
    fileHead?_append hname
      (tail?_rest h.proper.readable h.code_ne_nil h.code_plain hmessage)
  have hreport : report? (m.report.file ++ rest m.report) = some m.report := by
    unfold report?
    rw [hhead]
    rfl
  unfold read
  dsimp only
  rw [toList_printed, hname.isNoise_eq_false, if_neg Bool.false_ne_true, hreport]
  dsimp only
  rw [h.proper.zeroBased_line, h.proper.zeroBased_column]
  exact Remark.read_report h.proper.severity h.code_ne_nil .flawFinder _

end FlawFinder

/-! ## Lizard -/

namespace Lizard

/-- A remark as Lizard prints it. -/
def printed (m : Remark) : String :=
  m.file ++ ":" ++ toString m.line ++ ": " ++ m.word ++ ": " ++ m.message

/-- A remark that Lizard prints legibly, but for its message. All its remarks are warnings under one
rule. -/
structure Legible (m : Remark) : Prop where
  /-- It is a proper one, and a warning. -/
  proper : m.Proper ["warning"] fun _ => some .warning
  /-- The file name can be told from what follows it. -/
  file : FlawFinder.IsName m.file.toList
  /-- It is under the rule. -/
  code : m.code = rule

/-- The message of what is read is not empty. -/
theorem message_of_read {line : String} {d : Diagnostic} (h : read line = .diagnostic d) :
    d.message ≠ "" := by
  unfold read at h
  split at h
  · cases h
  · split at h
    · cases h
    · next file number message hreport =>
      obtain ⟨rest, -, hrest⟩ := FlawFinder.exists_of_fileHead? hreport
      unfold tail? at hrest
      simp only [Option.bind_eq_bind, Option.bind_eq_some_iff] at hrest
      obtain ⟨_, -, _, -, _, hmessage, heq⟩ := hrest
      obtain ⟨-, rfl⟩ := Prod.mk.inj (Option.some.inj heq)
      rw [← Reading.diagnostic.inj h]
      exact fun hempty => ne_nil_of_nonemptyLine? hmessage (String.ofList_eq_empty_iff.1 hempty)

/-- A legible remark is read back if and only if it has a message. -/
theorem Legible.read_iff {m : Remark} (h : Legible m) :
    read (printed m) = .diagnostic (m.diagnostic .lizard 0) ↔ m.message ≠ "" := by
  refine ⟨fun hread => message_of_read hread, fun hmessage => ?_⟩
  have hmessage : m.message.toList ≠ [] := fun hnil => hmessage (String.toList_eq_nil_iff.1 hnil)
  have hword : m.word = "warning" := List.mem_singleton.1 h.proper.word
  have htext : (printed m).toList = m.file.toList ++ ':' :: ((toString m.line).toList ++
      ':' :: (" warning: ".toList ++ m.message.toList)) := by
    simp [printed, hword]
  have htail : tail? (':' :: ((toString m.line).toList ++
      ':' :: (" warning: ".toList ++ m.message.toList))) =
        some ((toString m.line).toList, m.message.toList) := by
    unfold tail?
    simp only [expect?_colon, Option.bind_eq_bind, Option.bind_some,
      FlawFinder.column_append (.inr (isNumeral_toString m.line))]
    rw [expect?, after?_append, Option.bind_some,
      nonemptyLine?_of_isLine hmessage h.proper.message]
    rfl
  have hne : printed m ≠ "" := by
    intro hempty
    rw [hempty] at htext
    simp at htext
  have hseverity : m.severity = .warning := (Option.some.inj h.proper.severity).symm
  unfold read report?
  rw [if_neg hne, htext, FlawFinder.fileHead?_append h.file htail]
  dsimp only
  unfold Remark.diagnostic
  rw [zeroBased_toString h.proper.line, String.ofList_toList, String.ofList_toList, hseverity,
    h.code]

end Lizard

/-- A remark that FlawFinder or Lizard prints on a file with a rooted name or one with a drive is
read as its diagnostic if and only if it has a message, whatever that looks like. For FlawFinder
this holds with a column and with the column left empty. -/
theorem rooted_remarks_read_iff (l : Linter) (file shadow : String) (last : Option Location) :
    (l.analyzer = .flawFinder → ∀ m : Remark,
      FlawFinder.Legible m l.settings.flawfinder.severityLevels →
      ((l.readLine file shadow last (FlawFinder.printed m)).1 =
        .diagnostic (m.diagnostic .flawFinder (m.column.getD 0 - 1)) ↔ m.message ≠ "")) ∧
    (l.analyzer = .lizard → ∀ m : Remark, Lizard.Legible m →
      ((l.readLine file shadow last (Lizard.printed m)).1 = .diagnostic (m.diagnostic .lizard 0) ↔
        m.message ≠ "")) := by
  unfold Linter.readLine
  constructor
  · intro hl m hm
    rw [hl]
    dsimp only
    exact hm.read_iff
  · intro hl m hm
    rw [hl]
    dsimp only
    exact hm.read_iff

namespace Samples

/-- A remark of FlawFinder on a file with a drive. The message looks like a report. -/
def buffer : Remark :=
  ⟨"C:12", 3, some 4, "5", .error, "(buffer) strcpy", "a.c:1:2:  [0] b:c"⟩

/-- The same on the root, and without a column. -/
def unplaced : Remark := { buffer with file := "/", column := none }

/-- A remark of Lizard on a file with a drive. -/
def complex (message : String) : Remark :=
  ⟨"C:12", 3, none, "warning", .warning, Lizard.rule, message⟩

/-- FlawFinder with the settings that it has at first. -/
def flawFinder : Linter := .make .flawFinder .initial ∅ "/ws"

/-- Lizard with the settings that it has at first. -/
def lizard : Linter := .make .lizard .initial ∅ "/ws"

end Samples

/-- Remarks with all that is hard to read are read back, and one without a message is not. -/
theorem hard_rooted_remarks_read :
    FlawFinder.printed Samples.buffer = "C:12:3:4:  [5] (buffer) strcpy:a.c:1:2:  [0] b:c" ∧
    (Samples.flawFinder.readLine "" "" none (FlawFinder.printed Samples.buffer)).1 =
      .diagnostic (Samples.buffer.diagnostic .flawFinder 3) ∧
    FlawFinder.printed Samples.unplaced = "/:3::  [5] (buffer) strcpy:a.c:1:2:  [0] b:c" ∧
    (Samples.flawFinder.readLine "" "" none (FlawFinder.printed Samples.unplaced)).1 =
      .diagnostic (Samples.unplaced.diagnostic .flawFinder 0) ∧
    Lizard.printed (Samples.complex "a:1: warning: b") = "C:12:3: warning: a:1: warning: b" ∧
    (Samples.lizard.readLine "" "" none (Lizard.printed (Samples.complex "a:1: warning: b"))).1 =
      .diagnostic ((Samples.complex "a:1: warning: b").diagnostic .lizard 0) ∧
    (Samples.lizard.readLine "" "" none (Lizard.printed (Samples.complex ""))).1 ≠
      .diagnostic ((Samples.complex "").diagnostic .lizard 0) := by
  have hdrive : FlawFinder.IsName "C:12".toList :=
    show FlawFinder.IsName ['C', ':', '1', '2'] from .drive rfl (by decide) (by decide)
  have hbuffer : FlawFinder.Legible Samples.buffer
      Samples.flawFinder.settings.flawfinder.severityLevels :=
    ⟨⟨by decide, by decide, by decide, by decide +kernel, by decide⟩, hdrive, by decide, by decide⟩
  have hunplaced : FlawFinder.Legible Samples.unplaced
      Samples.flawFinder.settings.flawfinder.severityLevels :=
    ⟨⟨by decide, by decide, by decide, by decide +kernel, by decide⟩, .rooted List.not_mem_nil,
      by decide, by decide⟩
  have hcomplex : ∀ message : String, isLine message.toList = true →
      Lizard.Legible (Samples.complex message) := fun message hline =>
    ⟨⟨show 3 < wordBound by decide, by simp [Samples.complex], List.mem_singleton.2 rfl, rfl,
      hline⟩, hdrive, rfl⟩
  have hflawFinder := (rooted_remarks_read_iff Samples.flawFinder "" "" none).1 rfl
  have hlizard := (rooted_remarks_read_iff Samples.lizard "" "" none).2 rfl
  refine ⟨by decide +kernel, (hflawFinder _ hbuffer).2 (by decide), by decide +kernel,
    (hflawFinder _ hunplaced).2 (by decide), by decide +kernel, ?_, ?_⟩
  · exact (hlizard _ (hcomplex "a:1: warning: b" (by decide))).2 (by decide)
  · intro hread
    exact (hlizard _ (hcomplex "" rfl)).1 hread rfl

end LintRelay
