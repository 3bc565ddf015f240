import LintRelay.Linter
import LintRelay.Proofs.Reordering
import LintRelay.Proofs.Scan
import Mathlib.Data.List.Chain

/-!
# Reports in the form that was asked for

Three analyzers are told how to print their reports: CppCheck by a template with names in braces
(`fillNames`), Flexelint and PC-lint Plus by a format with letters after percent signs
(`fillLetters`). Here it is shown what comes of a `Remark` that is printed so and read again.

All three forms are one text (`Report.text`): the file name, two blanks, the place, a blank, and
what is said there. After the file name there is one way to read it (`CppCheck.tail?_rest`,
`Flexelint.tail?_rest`), so that everything depends on where the file name is taken to end. The
readers of CppCheck and Flexelint take the first place that will do. If no two blanks stand side by
side in the name, no place inside of it will (`lineNumber?_eq_none`), and reports are read back
(`remarks_read_back`). The reader of PC-lint Plus takes the name to end at the first space, so that
a report is read back if and only if the name holds none (`pclintPlus_reads_iff`).
-/

namespace LintRelay

open Text

/-! ## Remarks and templates -/

/-- What an analyzer has to say, before it is printed. -/
structure Remark where
  /-- The file. -/
  file : String
  /-- The line, from one; zero if there is none. -/
  line : Nat
  /-- The column, from one, if it is printed; zero if there is none. -/
  column : Option Nat
  /-- The analyzer's word for the severity. -/
  word : String
  /-- The severity that the word stands for. -/
  severity : Severity
  /-- The rule. -/
  code : String
  /-- The message. -/
  message : String

namespace Remark

/-- The fields of a remark, as they are printed. -/
def report (m : Remark) : Report where
  file := m.file.toList
  line := (toString m.line).toList
  column := (m.column.map fun c => (toString c).toList).getD []
  word := m.word
  code := m.code.toList
  message := m.message.toList

/-- The diagnostic that a remark should be read as, given what becomes of its column. -/
def diagnostic (m : Remark) (a : Analyzer) (column : Nat) : Diagnostic where
  fileName := m.file
  line := m.line - 1
  column := column
  severity := m.severity
  code := some m.code
  message := m.message
  source := a.name

end Remark

/-- A text in which a percent sign and a letter stand for a field. -/
def fillLetters (field : Char → List Char) : List Char → List Char
  | '%' :: letter :: rest => field letter ++ fillLetters field rest
  | c :: rest => c :: fillLetters field rest
  | [] => []

/-- A text in which a name in braces stands for a field. Inside of braces the part of the name that
was already read is given, latest character first. -/
def fillNames (field : String → List Char) : Option (List Char) → List Char → List Char
  | none, '\x7b' :: rest => fillNames field (some []) rest
  | none, c :: rest => c :: fillNames field none rest
  | some name, '\x7d' :: rest => field (String.ofList name.reverse) ++ fillNames field none rest
  | some name, c :: rest => fillNames field (some (c :: name)) rest
  | _, [] => []

namespace Report

/-- The field that a letter stands for. -/
def letter (r : Report) : Char → List Char
  | 'f' => r.file
  | 'l' => r.line
  | 'c' => r.column
  | 't' => r.word.toList
  | 'n' => r.code
  | 'm' => r.message
  | c => ['%', c]

/-- The field that a name stands for. -/
def named (r : Report) (name : String) : List Char :=
  if name = "file" then r.file
  else if name = "line" then r.line
  else if name = "column" then r.column
  else if name = "severity" then r.word.toList
  else if name = "id" then r.code
  else if name = "message" then r.message
  else []

/-- What is said at the place of a report. -/
def statement (r : Report) : List Char :=
  r.word.toList ++ ' ' :: (r.code ++ ':' :: ' ' :: r.message)

/-- What follows the file name of a report. -/
def rest (r : Report) : List Char :=
  ' ' :: ' ' :: (r.line ++ ' ' ::
    ((if r.column = [] then [] else r.column ++ [' ']) ++ ' ' :: r.statement))

/-- A report as it is printed. -/
def text (r : Report) : List Char := r.file ++ r.rest

end Report

/-- The format that Flexelint and PC-lint Plus are asked for. -/
def reportFormat : String := "%f  %l %c  %t %n: %m"

/-- The template that CppCheck is asked for, and the same with a column. -/
def reportTemplate (column : Bool) : String :=
  if column then
    "\x7bfile\x7d  \x7bline\x7d \x7bcolumn\x7d  \x7bseverity\x7d \x7bid\x7d: \x7bmessage\x7d"
  else "\x7bfile\x7d  \x7bline\x7d  \x7bseverity\x7d \x7bid\x7d: \x7bmessage\x7d"

namespace Remark

/-- A remark as Flexelint and PC-lint Plus print it. -/
def byFormat (m : Remark) : String :=
  String.ofList (fillLetters m.report.letter reportFormat.toList)

/-- A remark as CppCheck prints it. -/
def byTemplate (m : Remark) : String :=
  String.ofList (fillNames m.report.named none (reportTemplate m.column.isSome).toList)

/-- The column of a remark is printed if there is one. -/
theorem report_column_eq_nil {m : Remark} : m.report.column = [] ↔ m.column = none := by
  unfold report
  cases m.column with
  | none => simp
  | some c => simp

/-- Filled in, the format gives the text of a report with a column. -/
theorem byFormat_eq {m : Remark} (h : m.column ≠ none) :
    m.byFormat = String.ofList m.report.text := by
  have hcolumn : m.report.column ≠ [] := fun hnil => h (report_column_eq_nil.1 hnil)
  have hfill : ∀ r : Report, fillLetters r.letter reportFormat.toList =
      r.file ++ ' ' :: ' ' :: (r.line ++ ' ' :: (r.column ++ ' ' :: ' ' :: (r.word.toList ++
        ' ' :: (r.code ++ ':' :: ' ' :: (r.message ++ []))))) := fun _ => rfl
  unfold byFormat Report.text Report.rest Report.statement
  rw [hfill, if_neg hcolumn, List.append_nil, List.append_assoc]
  rfl

/-- Filled in, the template gives the text of a report. -/
theorem byTemplate_eq (m : Remark) : m.byTemplate = String.ofList m.report.text := by
  have hplain : ∀ r : Report, fillNames r.named none (reportTemplate false).toList =
      r.file ++ ' ' :: ' ' :: (r.line ++ ' ' :: ' ' :: (r.word.toList ++
        ' ' :: (r.code ++ ':' :: ' ' :: (r.message ++ [])))) := fun _ => rfl
  have hcolumn : ∀ r : Report, fillNames r.named none (reportTemplate true).toList =
      r.file ++ ' ' :: ' ' :: (r.line ++ ' ' :: (r.column ++ ' ' :: ' ' :: (r.word.toList ++
        ' ' :: (r.code ++ ':' :: ' ' :: (r.message ++ []))))) := fun _ => rfl
  unfold byTemplate Report.text Report.rest Report.statement
  cases h : m.column with
  | none =>
    have hnil : m.report.column = [] := report_column_eq_nil.2 h
    rw [Option.isSome_none, hplain, if_pos hnil, List.append_nil]
    rfl
  | some c =>
    have hne : m.report.column ≠ [] := fun hnil => by
      rw [report_column_eq_nil.1 hnil] at h
      cases h
    rw [Option.isSome_some, hcolumn, if_neg hne, List.append_nil, List.append_assoc]
    rfl

end Remark

/-! ## After the file name -/

/-- A blank that was put in front. -/
theorem Text.blank?_space (cs : List Char) : blank? (' ' :: cs) = some cs := rfl

/-- Digits that were put in front of a space. -/
theorem Text.IsNumeral.digits?_space {ds : List Char} (h : IsNumeral ds) (cs : List Char) :
    digits? Char.isDigit (ds ++ ' ' :: cs) = some (ds, ' ' :: cs) :=
  digits?_append h.ne_nil h.digits fun c hc => by
    obtain rfl := Option.some.inj hc
    rfl

/-- A line is taken as it is. -/
theorem Text.line?_of_isLine {cs : List Char} (h : isLine cs = true) : line? cs = some cs :=
  if_pos h

/-- What is common to reports that can be read: their numbers are in digits, a column is there or
not, and the message is one line. -/
structure Report.Readable (r : Report) (words : List String) : Prop where
  /-- The line is a number. -/
  line : IsNumeral r.line
  /-- So is the column, if there is one. -/
  column : r.column = [] ∨ IsNumeral r.column
  /-- The severity word is known. -/
  word : r.word ∈ words
  /-- The message is one line. -/
  message : isLine r.message = true

namespace CppCheck

/-- The column is taken back, if there is one. -/
theorem column_append {ds : List Char} (h : ds = [] ∨ IsNumeral ds) (cs : List Char) :
    column ((if ds = [] then [] else ds ++ [' ']) ++ ' ' :: cs) = (ds, ' ' :: cs) := by
  rcases h with rfl | hnumeral
  · rfl
  · rw [if_neg hnumeral.ne_nil, List.append_assoc, List.singleton_append]
    unfold column
    rw [hnumeral.digits?_space]
    rfl

/-- The words differ from each other. -/
theorem distinct_words : Distinct words := by decide

/-- A rule that can be told from the message after it: it is one line, is not empty, and holds no
colon that is followed by a blank. -/
structure IsRule (code : List Char) : Prop where
  /-- It is not empty. -/
  ne_nil : code ≠ []
  /-- It is one line. -/
  line : '\n' ∉ code
  /-- No colon in it is followed by a blank. -/
  plain : code.IsChain fun a b => ¬ (a = ':' ∧ isBlank b = true)

/-- The message does not begin inside of the rule. -/
theorem closing?_eq_none {last : List Char} (hne : last ≠ [])
    (hplain : last.IsChain fun a b => ¬ (a = ':' ∧ isBlank b = true)) (message : List Char) :
    closing? (last ++ ':' :: ' ' :: message) = none := by
  cases last with
  | nil => exact absurd rfl hne
  | cons c others =>
    by_cases hc : c = ':'
    · -- What follows the colon is no blank: it is in the rule, or it is the colon after it.
      subst hc
      cases others with
      | nil => rfl
      | cons c' others =>
        have hblank : isBlank c' = false := by
          have hpair := (List.isChain_cons_cons.1 hplain).1
          simpa using hpair
        simp [closing?, expect?, after?, blank?, hblank]
    · simp [closing?, expect?, after?, Ne.symm hc]

/-- Rule and message are told apart. -/
theorem shortestHead_closing? {code message : List Char} (hcode : IsRule code)
    (hmessage : isLine message = true) :
    shortestHead closing? (code ++ ':' :: ' ' :: message) = some (code, message) := by
  have hclosing : closing? (':' :: ' ' :: message) = some message := line?_of_isLine hmessage
  refine shortestHead_append hcode.ne_nil hcode.line hclosing fun first last hsplit _ hlast => ?_
  have hplain := hcode.plain
  rw [hsplit] at hplain
  exact closing?_eq_none hlast hplain.right_of_append message

/-- What follows the file name is read back. -/
theorem tail?_rest {r : Report} (h : r.Readable words) (hcode : IsRule r.code) :
    tail? r.rest = some { r with file := [] } := by
  have hword : oneOf? words r.statement =
      some (r.word, ' ' :: (r.code ++ ':' :: ' ' :: r.message)) :=
    oneOf?_append distinct_words h.word _
  unfold tail? Report.rest
  simp only [blank?_space, Option.bind_eq_bind, Option.bind_some, h.line.digits?_space,
    column_append h.column, hword, shortestHead_closing? hcode h.message]
  rfl

end CppCheck

namespace Flexelint

/-- The statement of a report is read back. -/
theorem statement?_statement {words : List String} (hwords : Distinct words) {r : Report}
    (h : r.Readable words) (hcode : IsNumeral r.code) :
    statement? words r.statement = some (r.word, r.code, r.message) := by
  have hword : oneOf? words r.statement =
      some (r.word, ' ' :: (r.code ++ ':' :: ' ' :: r.message)) :=
    oneOf?_append hwords h.word _
  have hdigits : digits? Char.isDigit (r.code ++ ':' :: ' ' :: r.message) =
      some (r.code, ':' :: ' ' :: r.message) :=
    digits?_append hcode.ne_nil hcode.digits fun c hc => by
      obtain rfl := Option.some.inj hc
      rfl
  have hcolon : expect? ":" (':' :: ' ' :: r.message) = some (' ' :: r.message) := rfl
  unfold statement?
  simp only [Option.bind_eq_bind, hword, Option.bind_some, blank?_space, hdigits, hcolon,
    line?_of_isLine h.message]
  rfl

/-- What follows the file name is read back. -/
theorem tail?_rest {words : List String} (hwords : Distinct words) {r : Report}
    (h : r.Readable words) (hcode : IsNumeral r.code) :
    tail? words r.rest = some { r with file := [] } := by
  unfold tail? Report.rest
  simp only [blank?_space, Option.bind_eq_bind, Option.bind_some, h.line.digits?_space,
    CppCheck.column_append h.column, statement?_statement hwords h hcode]
  rfl

end Flexelint

/-! ## Where the file name ends -/

/-- A file name that can be told from what follows it: it is one line, is not empty, and holds no
two blanks in a row. -/
structure IsFileName (file : List Char) : Prop where
  /-- It is not empty. -/
  ne_nil : file ≠ []
  /-- It is one line. -/
  line : '\n' ∉ file
  /-- No two blanks in it stand side by side. -/
  apart : file.IsChain fun a b => ¬ (isBlank a = true ∧ isBlank b = true)

/-- The number of a line, after two blanks. -/
def lineNumber? (cs : List Char) : Option (List Char × List Char) := do
  digits? Char.isDigit (← blank? (← blank? cs))

/-- No line number follows two blanks from a place inside of a file name. -/
theorem lineNumber?_eq_none {last : List Char} (hne : last ≠ [])
    (hapart : last.IsChain fun a b => ¬ (isBlank a = true ∧ isBlank b = true)) (cs : List Char) :
    lineNumber? (last ++ ' ' :: ' ' :: cs) = none := by
  cases last with
  | nil => exact absurd rfl hne
  | cons c others =>
    by_cases hc : isBlank c = true
    · cases others with
      | nil =>
        -- The name ends with a blank, and the second blank after it is where a digit should be.
        have hblank : blank? ([c] ++ ' ' :: ' ' :: cs) = some (' ' :: ' ' :: cs) := if_pos hc
        unfold lineNumber?
        rw [hblank]
        rfl
      | cons c' others =>
        have hpair := (List.isChain_cons_cons.1 hapart).1
        have hc' : isBlank c' = false := by simpa [hc] using hpair
        simp [lineNumber?, blank?, hc, hc']
    · simp [lineNumber?, blank?, hc]

/-- Without a line number nothing is read that needs one. -/
theorem bind_lineNumber?_eq_none {α : Type} {next : List Char × List Char → Option α}
    {cs : List Char} (h : lineNumber? cs = none) :
    ((blank? cs).bind fun cs => (blank? cs).bind fun cs => (digits? Char.isDigit cs).bind next) =
      none := by
  have hbind : (lineNumber? cs).bind next = none := by rw [h, Option.bind_none]
  unfold lineNumber? at hbind
  simpa only [Option.bind_eq_bind, Option.bind_assoc] using hbind

/-- The file name is what stands before the first place from which a report goes on. -/
theorem shortestHead_text {r : Report} (hfile : IsFileName r.file)
    {tail? : List Char → Option Report} (htail : tail? r.rest = some { r with file := [] })
    (hnone : ∀ cs, lineNumber? cs = none → tail? cs = none) :
    (shortestHead tail? r.text).map (fun (file, report) => { report with file }) = some r := by
  have hhead : shortestHead tail? r.text = some (r.file, { r with file := [] }) := by
    refine shortestHead_append hfile.ne_nil hfile.line htail fun first last hsplit _ hlast => ?_
    have hapart := hfile.apart
    rw [hsplit] at hapart
    exact hnone _ (lineNumber?_eq_none hlast hapart.right_of_append _)
  rw [hhead, Option.map_some]

/-! ## Readings -/

/-- What is common to remarks that can be read: their numbers are below the bound, the severity word
is known and stands for the severity, and the message is one line. -/
structure Remark.Proper (m : Remark) (words : List String) (level? : String → Option Severity) :
    Prop where
  /-- The line is below the bound. -/
  line : m.line < wordBound
  /-- So is the column, if there is one. -/
  column : ∀ c ∈ m.column, c < wordBound
  /-- The severity word is known. -/
  word : m.word ∈ words
  /-- It stands for the severity. -/
  severity : level? m.word = some m.severity
  /-- The message is one line. -/
  message : isLine m.message.toList = true

namespace Remark.Proper

variable {m : Remark} {words : List String} {level? : String → Option Severity}

/-- The fields of a remark can be read. -/
theorem readable (h : m.Proper words level?) : m.report.Readable words where
  line := isNumeral_toString m.line
  column := by
    cases hcolumn : m.column with
    | none => exact .inl (report_column_eq_nil.2 hcolumn)
    | some c =>
      refine .inr ?_
      unfold report
      rw [hcolumn]
      exact isNumeral_toString c
  word := h.word
  message := h.message

/-- The line of a remark is read from zero. -/
theorem zeroBased_line (h : m.Proper words level?) : zeroBased m.report.line = m.line - 1 :=
  zeroBased_toString h.line

/-- So is its column, where none counts as zero. -/
theorem zeroBased_column (h : m.Proper words level?) :
    zeroBased m.report.column = m.column.getD 0 - 1 := by
  unfold report
  cases hcolumn : m.column with
  | none => rfl
  | some c => exact zeroBased_toString (h.column c hcolumn)

end Remark.Proper

/-- The report of a remark is read as the diagnostic of the remark, under a word that stands for its
severity. -/
theorem Remark.read_report {m : Remark} {levels : SeverityTable} {word : String}
    (hseverity : levels.get? word = some m.severity) (hcode : m.code.toList ≠ []) (a : Analyzer)
    (column : Nat) :
    { m.report with word }.read levels a.name (String.ofList m.report.file) (m.line - 1) column =
      .diagnostic (m.diagnostic a column) := by
  have hrule : ruleCode m.code = some m.code := if_neg fun hnil => hcode (by rw [hnil]; rfl)
  unfold Report.read
  dsimp only
  rw [hseverity]
  simp [Remark.diagnostic, Remark.report, hrule]

namespace CppCheck

/-- A remark that CppCheck prints legibly. -/
structure Legible (m : Remark) (levels : SeverityTable) : Prop where
  /-- It is a proper one. -/
  proper : m.Proper words levels.get?
  /-- The file name can be told from what follows it. -/
  file : IsFileName m.file.toList
  /-- So can the rule. -/
  code : IsRule m.code.toList
  /-- The line is not one that is passed over. -/
  heard : isNoise m.byTemplate.toList = false

/-- A legible remark is read back. -/
theorem Legible.read_eq {m : Remark} {levels : SeverityTable} (h : Legible m levels) :
    read levels m.byTemplate =
      .diagnostic (m.diagnostic .cppCheck (m.column.getD 0 - 1)) := by
  have hreport : report? m.report.text = some m.report :=
    shortestHead_text h.file (tail?_rest h.proper.readable h.code)
      fun _ => bind_lineNumber?_eq_none
  have hheard := h.heard
  rw [m.byTemplate_eq] at hheard ⊢
  rw [String.toList_ofList] at hheard
  unfold read
  dsimp only
  rw [String.toList_ofList, hheard, if_neg Bool.false_ne_true, hreport]
  dsimp only
  rw [h.proper.zeroBased_line, h.proper.zeroBased_column]
  exact Remark.read_report h.proper.severity h.code.ne_nil .cppCheck _

end CppCheck

namespace Flexelint

/-- The words differ from each other. -/
theorem distinct_words : Distinct words := by decide

/-- A remark that Flexelint prints legibly. -/
structure Legible (m : Remark) (levels : SeverityTable) : Prop where
  /-- It is a proper one. -/
  proper : m.Proper words levels.get?
  /-- It has a column. -/
  column : m.column ≠ none
  /-- The file name can be told from what follows it. -/
  file : IsFileName m.file.toList
  /-- The rule is a number. -/
  code : IsNumeral m.code.toList
  /-- The line is not one that is passed over. -/
  heard : isNoise m.byFormat.toList = false

/-- A legible remark is read back. -/
theorem Legible.read_eq {m : Remark} {levels : SeverityTable} (h : Legible m levels) :
    read levels m.byFormat = .diagnostic (m.diagnostic .flexelint 0) := by
  have hreport : report? m.report.text = some m.report :=
    shortestHead_text h.file (tail?_rest distinct_words h.proper.readable h.code)
      fun _ => bind_lineNumber?_eq_none
  have hheard := h.heard
  rw [Remark.byFormat_eq h.column] at hheard ⊢
  rw [String.toList_ofList] at hheard
  unfold read
  dsimp only
  rw [String.toList_ofList, hheard, if_neg Bool.false_ne_true, hreport]
  dsimp only
  rw [h.proper.zeroBased_line]
  exact Remark.read_report h.proper.severity h.code.ne_nil .flexelint 0

end Flexelint

namespace PclintPlus

/-- The words differ from each other. -/
theorem distinct_words : Distinct words := by decide

/-- A report in the format that was asked for is read back, if its file name holds no space. -/
theorem spaced?_text {r : Report} (h : r.Readable words) (hcode : IsNumeral r.code)
    (hne : r.file ≠ []) (hspace : ' ' ∉ r.file) : spaced? r.text = some r := by
  have hallowed : ∀ c ∈ r.file, decide (c ≠ ' ') = true := by
    intro c hc
    refine decide_eq_true ?_
    rintro rfl
    exact hspace hc
  have hhead : longestHead (· ≠ ' ') (Flexelint.tail? words) r.text =
      some (r.file, { r with file := [] }) :=
    longestHead_append hne hallowed (Flexelint.tail?_rest distinct_words h hcode) fun c hc => by
      obtain rfl := Option.some.inj hc
      rfl
  unfold spaced?
  rw [hhead]

/-- The file name of a report with colons is followed by a colon. -/
theorem exists_of_colonTail? {cs : List Char} {r : Report} (h : colonTail? cs = some r) :
    ∃ rest, cs = ':' :: rest := by
  cases cs with
  | nil => cases h
  | cons c others =>
    by_cases hc : c = ':'
    · exact ⟨others, by rw [hc]⟩
    · have hnone : expect? ":" (c :: others) = none := if_neg (Ne.symm hc)
      unfold colonTail? at h
      rw [hnone] at h
      cases h

/-- The tail of a report has no file name. -/
theorem file_of_tail? {cs : List Char} {r : Report} (h : Flexelint.tail? words cs = some r) :
    r.file = [] := by
  unfold Flexelint.tail? at h
  simp only [Option.bind_eq_bind, Option.bind_eq_some_iff] at h
  obtain ⟨_, -, _, -, _, -, _, -, _, -, _, -, h⟩ := h
  rw [← Option.some.inj h]

/-- A file name that a report is read with holds no space, or is followed by a colon. -/
theorem file_of_report? {cs : List Char} {r : Report} (h : report? cs = some r) :
    ' ' ∉ r.file ∨ ∃ rest, cs = r.file ++ ':' :: rest := by
  unfold report? at h
  cases hspaced : spaced? cs with
  | some report =>
    rw [hspaced] at h
    obtain rfl : report = r := Option.some.inj h
    refine .inl ?_
    unfold spaced? at hspaced
    split at hspaced
    · next file report hhead =>
      obtain rfl := Option.some.inj hspaced
      obtain ⟨-, -, hallowed, -⟩ := exists_of_longestHead hhead
      intro hspace
      have hne := hallowed ' ' hspace
      cases hne
    · rw [file_of_tail? hspaced]
      exact List.not_mem_nil
  | none =>
    rw [hspaced] at h
    obtain ⟨⟨file, report⟩, hhead, rfl⟩ := Option.map_eq_some_iff.1 h
    obtain ⟨rest, rfl, htail⟩ := exists_of_shortestHead hhead
    obtain ⟨rest, rfl⟩ := exists_of_colonTail? htail
    exact .inr ⟨rest, rfl⟩

/-- A remark that PC-lint Plus prints properly. -/
structure Legible (m : Remark) (levels : SeverityTable) : Prop where
  /-- It is a proper one, where the severity word may be in either spelling. -/
  proper : m.Proper words fun word => levels.get? (lowerWord word)
  /-- It has a column. -/
  column : m.column ≠ none
  /-- The file has a name. -/
  file : m.file ≠ ""
  /-- The rule is a number. -/
  code : IsNumeral m.code.toList
  /-- The line is not one that is passed over. -/
  heard : isNoise m.byFormat.toList = false

variable {m : Remark} {levels : SeverityTable}

/-- A remark on a file without a space in its name is read back, whatever was read before. -/
theorem Legible.read_eq (h : Legible m levels) (hspace : ' ' ∉ m.file.toList)
    (last : Option Location) :
    (read levels last m.byFormat).1 = .diagnostic (m.diagnostic .pclintPlus 0) := by
  have hne : m.report.file ≠ [] := fun hnil => h.file (String.toList_eq_nil_iff.1 hnil)
  have hreport : report? m.report.text = some m.report := by
    unfold report?
    rw [spaced?_text h.proper.readable h.code hne hspace]
    rfl
  have hheard := h.heard
  rw [Remark.byFormat_eq h.column] at hheard ⊢
  rw [String.toList_ofList] at hheard
  unfold read
  dsimp only
  rw [String.toList_ofList, hheard, if_neg Bool.false_ne_true, hreport]
  dsimp only
  rw [if_neg hne]
  dsimp only
  rw [h.proper.zeroBased_line]
  exact Remark.read_report h.proper.severity h.code.ne_nil .pclintPlus 0

/-- The file of a diagnostic that is read first of all is the one of its report. -/
theorem exists_of_read {line : String} {d : Diagnostic}
    (h : (read levels none line).1 = .diagnostic d) :
    ∃ r, report? line.toList = some r ∧ d.fileName = String.ofList r.file := by
  unfold read at h
  dsimp only at h
  split at h
  · cases h
  · split at h
    · cases h
    · next r hreport =>
      refine ⟨r, hreport, ?_⟩
      by_cases hfile : r.file = []
      · rw [if_pos hfile] at h
        cases h
      · rw [if_neg hfile] at h
        dsimp only at h
        unfold Report.read at h
        split at h
        · cases h
        · rw [← Reading.diagnostic.inj h]

/-- A remark is read back only if the name of its file holds no space. -/
theorem Legible.not_mem_of_read (h : Legible m levels)
    (hread : (read levels none m.byFormat).1 = .diagnostic (m.diagnostic .pclintPlus 0)) :
    ' ' ∉ m.file.toList := by
  obtain ⟨r, hreport, hfile⟩ := exists_of_read hread
  have hfile : m.file.toList = r.file := by
    rw [show m.file = String.ofList r.file from hfile, String.toList_ofList]
  rw [Remark.byFormat_eq h.column, String.toList_ofList] at hreport
  rcases file_of_report? hreport with hspace | ⟨rest, hcolon⟩
  · rw [hfile]
    exact hspace
  · -- The name is followed by a blank in print, and not by a colon.
    rw [← hfile] at hcolon
    have hrest := List.append_cancel_left hcolon
    cases hrest

end PclintPlus

/-! ## The form that was asked for -/

namespace Linter

variable {l : Linter}

/-- CppCheck is asked for the template, in quotes. -/
theorem template_mem_arguments (hl : l.analyzer = .cppCheck) (file shadow : String) :
    "--template=\"" ++ reportTemplate false ++ "\"" ∈ l.arguments file shadow := by
  unfold arguments groups
  rw [hl]
  simp [CppCheck.groups, ArgumentGroup.arguments, reportTemplate]

/-- Flexelint and PC-lint Plus are asked for the format. -/
theorem format_mem_arguments (hl : l.analyzer = .flexelint ∨ l.analyzer = .pclintPlus)
    (file shadow : String) : "-format=" ++ reportFormat ∈ l.arguments file shadow := by
  unfold arguments groups
  rcases hl with hl | hl
  · rw [hl]
    simp [Flexelint.groups, ArgumentGroup.arguments, reportFormat]
  · rw [hl]
    simp [PclintPlus.groups, ArgumentGroup.arguments, reportFormat]

/-- One pair of quotes around a line is taken off. -/
theorem stripQuotes_quoted (line : String) : stripQuotes ("\"" ++ line ++ "\"") = line := by
  have hlist : ("\"" ++ line ++ "\"").toList = '"' :: (line.toList ++ ['"']) := by simp
  unfold stripQuotes
  rw [hlist]
  simp

/-- Where every line is read as a diagnostic, on its own, these are the diagnostics of the output.
-/
theorem diagnostics_of_readings (hl : l.analyzer.isLinewise = true) {file shadow : String}
    {lines : List String} {found : List Diagnostic}
    (h : l.readings file shadow lines = found.map .diagnostic) :
    l.diagnostics file shadow lines = .ok found := by
  have hfound : l.parsed file shadow lines = found := by
    unfold parsed
    rw [h, List.filterMap_map]
    exact List.filterMap_some
  have haccepts : l.Accepts file shadow lines := by
    refine .inr fun reading hreading => ?_
    rw [h] at hreading
    obtain ⟨d, -, rfl⟩ := List.mem_map.1 hreading
    rfl
  refine diagnostics_eq_ok_iff.2 ⟨haccepts, ?_⟩
  rw [hfound, Analyzer.stitch_linewise hl]
  rfl

end Linter

/-- CppCheck is asked for the template in quotes, and Flexelint for the format. A remark that is
printed in this form is read as its diagnostic, whatever its message looks like, as long as no two
blanks stand side by side in the file name, no blank follows a colon in the rule, and the line is
not one that is passed over. For CppCheck this holds with a column and without, and for any list of
such lines that are quoted as a whole. -/
theorem remarks_read_back (l : Linter) :
    (l.analyzer = .cppCheck →
      (∀ file shadow, "--template=\"" ++ reportTemplate false ++ "\"" ∈ l.arguments file shadow) ∧
      (∀ m : Remark, CppCheck.Legible m l.settings.cppcheck.severityLevels →
        l.readAlone m.byTemplate = .diagnostic (m.diagnostic .cppCheck (m.column.getD 0 - 1))) ∧
      ∀ (file shadow : String) (remarks : List Remark),
        (∀ m ∈ remarks, CppCheck.Legible m l.settings.cppcheck.severityLevels) →
        l.diagnostics file shadow (remarks.map fun m => "\"" ++ m.byTemplate ++ "\"") =
          .ok (remarks.map fun m => m.diagnostic .cppCheck (m.column.getD 0 - 1))) ∧
    (l.analyzer = .flexelint →
      (∀ file shadow, "-format=" ++ reportFormat ∈ l.arguments file shadow) ∧
      ∀ m : Remark, Flexelint.Legible m l.settings.flexelint.severityLevels →
        l.readAlone m.byFormat = .diagnostic (m.diagnostic .flexelint 0)) := by
  constructor
  · intro hl
    have hread : ∀ (file shadow : String) (m : Remark),
        CppCheck.Legible m l.settings.cppcheck.severityLevels →
        (l.readLine file shadow none m.byTemplate).1 =
          .diagnostic (m.diagnostic .cppCheck (m.column.getD 0 - 1)) := by
      intro file shadow m hm
      unfold Linter.readLine
      rw [hl]
      dsimp only
      exact hm.read_eq
    refine ⟨Linter.template_mem_arguments hl, hread "" "", fun file shadow remarks hremarks => ?_⟩
    have hlinewise : l.analyzer.isLinewise = true := by rw [hl]; rfl
    refine Linter.diagnostics_of_readings hlinewise ?_
    rw [Linter.readings_linewise hlinewise, List.map_map, List.map_map]
    refine List.map_congr_left fun m hm => ?_
    unfold Function.comp Linter.readOutput
    rw [Linter.stripQuotes_quoted]
    exact hread file shadow m (hremarks m hm)
  · intro hl
    refine ⟨Linter.format_mem_arguments (.inl hl), fun m hm => ?_⟩
    unfold Linter.readAlone Linter.readLine
    rw [hl]
    dsimp only
    exact hm.read_eq

/-- PC-lint Plus is asked for the format, and a remark that is printed in it is read as its
diagnostic if and only if the file name holds no space: a name is taken to end at the first one. -/
theorem pclintPlus_reads_iff {l : Linter} (hl : l.analyzer = .pclintPlus) {m : Remark}
    (hm : PclintPlus.Legible m l.settings.pclintplus.severityLevels) :
    (∀ file shadow, "-format=" ++ reportFormat ∈ l.arguments file shadow) ∧
    (l.readAlone m.byFormat = .diagnostic (m.diagnostic .pclintPlus 0) ↔ ' ' ∉ m.file.toList) := by
  have hread : l.readAlone m.byFormat =
      (PclintPlus.read l.settings.pclintplus.severityLevels none m.byFormat).1 := by
    unfold Linter.readAlone Linter.readLine
    rw [hl]
  refine ⟨Linter.format_mem_arguments (.inr hl), ?_⟩
  rw [hread]
  exact ⟨hm.not_mem_of_read, fun hspace => hm.read_eq hspace none⟩

namespace Samples

/-- A remark of CppCheck on a file with blanks in its name and at its end. The rule holds a colon,
and the message looks like a report. -/
def rule : Remark :=
  ⟨"my file .c ", 12, some 7, "style", .information, "misra:2012-10.4:", "a  3  error b: c"⟩

/-- The same without a column, at no line. -/
def plain : Remark := { rule with line := 0, column := none }

/-- A remark of Flexelint on the same file. -/
def note : Remark := ⟨"my file .c ", 12, some 7, "Note", .hint, "1960", "a  3 4  Error 5: b"⟩

/-- CppCheck with the settings that it has at first. -/
def cppCheck : Linter := .make .cppCheck .initial ∅ "/ws"

/-- Flexelint with the settings that it has at first. -/
def flexelint : Linter := .make .flexelint .initial ∅ "/ws"

end Samples

/-- Remarks with all that is hard to read are read back. -/
theorem hard_remarks_read :
    Samples.rule.byTemplate = "my file .c   12 7  style misra:2012-10.4:: a  3  error b: c" ∧
    Samples.cppCheck.readAlone Samples.rule.byTemplate =
      .diagnostic (Samples.rule.diagnostic .cppCheck 6) ∧
    Samples.cppCheck.diagnostics "a.c" ""
        ["\"" ++ Samples.rule.byTemplate ++ "\"", "\"" ++ Samples.plain.byTemplate ++ "\""] =
      .ok [Samples.rule.diagnostic .cppCheck 6, Samples.plain.diagnostic .cppCheck 0] ∧
    Samples.flexelint.readAlone Samples.note.byFormat =
      .diagnostic (Samples.note.diagnostic .flexelint 0) := by
  have hname : IsFileName "my file .c ".toList := ⟨by decide, by decide, by decide⟩
  have hrule : CppCheck.Legible Samples.rule Samples.cppCheck.settings.cppcheck.severityLevels :=
    ⟨⟨by decide, by decide, by decide, by decide +kernel, by decide⟩, hname,
      ⟨by decide, by decide, by decide⟩, by decide +kernel⟩
  have hplain : CppCheck.Legible Samples.plain Samples.cppCheck.settings.cppcheck.severityLevels :=
    ⟨⟨by decide, by decide, by decide, by decide +kernel, by decide⟩, hname,
      ⟨by decide, by decide, by decide⟩, by decide +kernel⟩
  have hnote : Flexelint.Legible Samples.note Samples.flexelint.settings.flexelint.severityLevels :=
    ⟨⟨by decide, by decide, by decide, by decide +kernel, by decide⟩, by decide, hname,
      ⟨by decide, List.all_eq_true.1 (by decide)⟩, by decide +kernel⟩
  obtain ⟨-, hread, hall⟩ := (remarks_read_back Samples.cppCheck).1 rfl
  obtain ⟨-, hformat⟩ := (remarks_read_back Samples.flexelint).2 rfl
  refine ⟨by decide +kernel, hread _ hrule, ?_, hformat _ hnote⟩
  exact hall "a.c" "" [Samples.rule, Samples.plain] (by simp [hrule, hplain])

namespace Samples

/-- A remark of PC-lint Plus. -/
def warning (file : String) : Remark :=
  ⟨file, 3, some 4, "Warning", .warning, "534", "ignoring return value"⟩

/-- PC-lint Plus with the settings that it has at first. -/
def pclintPlus : Linter := .make .pclintPlus .initial ∅ "/ws"

end Samples

/-- The same remark is read on one file, and is lost on a file with a space in its name. -/
theorem remark_lost_with_space :
    (Samples.warning "my file.c").byFormat = "my file.c  3 4  Warning 534: ignoring return value" ∧
    Samples.pclintPlus.readAlone (Samples.warning "my file.c").byFormat ≠
      .diagnostic ((Samples.warning "my file.c").diagnostic .pclintPlus 0) ∧
    Samples.pclintPlus.readAlone (Samples.warning "my_file.c").byFormat =
      .diagnostic ((Samples.warning "my_file.c").diagnostic .pclintPlus 0) := by
  have hspaced : PclintPlus.Legible (Samples.warning "my file.c")
      Samples.pclintPlus.settings.pclintplus.severityLevels :=
    ⟨⟨by decide, by decide, by decide, by decide +kernel, by decide⟩, by decide, by decide,
      ⟨by decide, List.all_eq_true.1 (by decide)⟩, by decide +kernel⟩
  have hjoined : PclintPlus.Legible (Samples.warning "my_file.c")
      Samples.pclintPlus.settings.pclintplus.severityLevels :=
    ⟨⟨by decide, by decide, by decide, by decide +kernel, by decide⟩, by decide, by decide,
      ⟨by decide, List.all_eq_true.1 (by decide)⟩, by decide +kernel⟩
  refine ⟨by decide +kernel, fun hread => ?_, ?_⟩
  · exact absurd ((pclintPlus_reads_iff rfl hspaced).2.1 hread) (by decide)
  · exact (pclintPlus_reads_iff rfl hjoined).2.2 (by decide)

end LintRelay
