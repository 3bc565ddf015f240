import LintRelay.CommandLine.Run
import LintRelay.Proofs.Arguments

/-!
# The calls of a run over files

Which programs are started when files are analyzed from the command line, and what they are handed.
Every call is that of a linter for one of the files (`mem_calls_analyze`), which has a name
(`file_ne_empty`), so that its absolute path is what the program gets last. Clang under `onType` is
the exception: it gets the shadow of the document, and a saved file has none (`lint_call_spec`).
-/

namespace LintRelay.CommandLine

/-! ## Reading arguments -/

/-- A run of letters holds no plain argument. -/
theorem plain_not_mem_letters (switches : List Switch) (cs : List Char) (text : String) :
    Item.plain text ∉ letters switches cs := by
  induction cs with
  | nil => exact List.not_mem_nil
  | cons c rest ih =>
    unfold letters
    split
    · simp
    · split
      · split <;> simp
      · simpa using ih

/-- An argument that holds a plain one is that plain argument. -/
theorem itemsOf_eq_of_mem {switches : List Switch} {argument text : String}
    (h : .plain text ∈ itemsOf switches argument) :
    itemsOf switches argument = [.plain text] := by
  unfold itemsOf at h ⊢
  split at h
  · dsimp only at h
    split at h
    · simp at h
    · split at h <;> simp at h
    · split at h <;> simp at h
  · exact absurd h (plain_not_mem_letters _ _ _)
  · obtain rfl := Item.plain.inj (List.mem_singleton.1 h)
    rfl

namespace Reading

/-- An option adds no plain argument. -/
theorem plain_addSwitch {r r' : Reading} {s : Switch} {value : String}
    (h : r.addSwitch s value = .ok r') : r'.plain = r.plain := by
  unfold addSwitch at h
  split at h
  · cases h
  split at h
  · cases h
  split at h
  · cases h
  split at h
  · cases h
  · cases h
    rfl

/-- The plain arguments are those that were there before and those among the items. -/
theorem mem_plain_addItems {items : List Item} {r r' : Reading} {waiting : Option Switch}
    (h : r.addItems items = .ok (r', waiting)) {text : String} (htext : text ∈ r'.plain) :
    text ∈ r.plain ∨ .plain text ∈ items := by
  induction items generalizing r with
  | nil =>
    cases h
    exact .inl htext
  | cons item rest ih =>
    cases item with
    | plain other =>
      rcases ih h with hmem | hmem
      · rcases List.mem_append.1 hmem with hmem | hmem
        · exact .inl hmem
        · exact .inr (by simp_all)
      · exact .inr (List.mem_cons_of_mem _ hmem)
    | flag s =>
      simp only [addItems, bind, Except.bind] at h
      split at h
      · cases h
      · next r'' hr =>
        rcases ih h with hmem | hmem
        · exact .inl (plain_addSwitch hr ▸ hmem)
        · exact .inr (List.mem_cons_of_mem _ hmem)
    | valued s value =>
      simp only [addItems, bind, Except.bind] at h
      split at h
      · cases h
      · next r'' hr =>
        rcases ih h with hmem | hmem
        · exact .inl (plain_addSwitch hr ▸ hmem)
        · exact .inr (List.mem_cons_of_mem _ hmem)
    | pending s =>
      cases h
      exact .inl htext
    | unknown => cases h

/-- No plain argument is empty. -/
theorem plain_ne_empty {switches : List Switch} {arguments rest : List String} {r r' : Reading}
    {waiting : Option Switch} (h : read switches false r waiting arguments = .ok (r', rest))
    (hr : "" ∉ r.plain) : "" ∉ r'.plain := by
  induction arguments generalizing r waiting with
  | nil =>
    unfold read at h
    split at h
    · cases h
    · cases h
      exact hr
  | cons argument others ih =>
    unfold read at h
    split at h
    · -- The argument is the value of an option.
      next s =>
      split at h
      · simp only [bind, Except.bind] at h
        split at h
        · cases h
        · next r'' hswitch =>
          refine ih h ?_
          rw [plain_addSwitch hswitch]
          exact hr
      · cases h
    · split at h
      · -- What follows `--` are plain arguments, which are looked through.
        simp only [Bool.false_eq_true, if_false] at h
        split at h
        · cases h
        · next hempty =>
          cases h
          simp only [List.mem_append, not_or]
          exact ⟨hr, by simpa using hempty⟩
      · simp only [bind, Except.bind] at h
        split at h
        · cases h
        · next added hadded =>
          split at h
          · cases h
          · next hitems =>
            refine ih h fun hmem => ?_
            rcases mem_plain_addItems hadded hmem with hmem | hmem
            · exact hr hmem
            · exact hitems (itemsOf_eq_of_mem hmem)

end Reading

/-- What goes on from a reading that succeeds. -/
theorem exists_of_bind_eq_ok {ε α β : Type} {x : Except ε α} {f : α → Except ε β} {b : β}
    (h : x >>= f = .ok b) : ∃ a, x = .ok a ∧ f a = .ok b := by
  cases x with
  | error e => cases h
  | ok a => exact ⟨a, rfl, h⟩

/-- A command to analyze files has them from its own plain arguments, of which there is one. -/
theorem readCommand_lint {name : String} {arguments files : List String} {format : Format}
    {workspace : Option String} {own : Reading}
    (h : readCommand name arguments = .ok (.lint files format workspace, own)) :
    files ≠ [] ∧ own.plain = files ∧
      ∃ rest, Reading.read lintSwitches false .empty none arguments = .ok (own, rest) := by
  unfold readCommand at h
  split at h
  · obtain ⟨⟨r, rest⟩, hread, h⟩ := exists_of_bind_eq_ok h
    dsimp only at h
    split at h
    · cases h
    · next hplain =>
      cases h
      exact ⟨hplain, rfl, rest, hread⟩
  · obtain ⟨⟨r, rest⟩, -, h⟩ := exists_of_bind_eq_ok h
    dsimp only at h
    split at h <;> cases h
  · obtain ⟨⟨r, rest⟩, -, h⟩ := exists_of_bind_eq_ok h
    dsimp only at h
    split at h <;> cases h
  · cases h
  · cases h

/-- Arguments that ask to run a command name it. -/
theorem exists_readCommand {arguments : List String} {command : Command} {config : Option String}
    (h : Request.ofArguments? arguments = some (.run command config)) :
    ∃ name rest own, readCommand name rest = .ok (command, own) := by
  unfold Request.ofArguments? at h
  dsimp only at h
  split at h
  · next request hrequest =>
    obtain rfl := Option.some.inj h
    obtain ⟨⟨front, rest⟩, -, hrequest⟩ := exists_of_bind_eq_ok hrequest
    dsimp only at hrequest
    split at hrequest
    · obtain ⟨⟨command, own⟩, hcommand, hrequest⟩ := exists_of_bind_eq_ok hrequest
      obtain ⟨rfl, -⟩ := Request.run.inj (Except.ok.inj hrequest)
      exact ⟨_, rest, own, hcommand⟩
    · cases hrequest
  · cases h
  · cases h
  · cases h

section Files

variable {arguments files : List String} {format : Format} {workspace config : Option String}
  (h : Request.ofArguments? arguments = some (.run (.lint files format workspace) config))

include h

/-- The files to analyze have names. -/
theorem file_ne_empty : "" ∉ files := by
  obtain ⟨name, rest, own, hcommand⟩ := exists_readCommand h
  obtain ⟨-, rfl, after, hread⟩ := readCommand_lint hcommand
  exact Reading.plain_ne_empty hread List.not_mem_nil

end Files

/-! ## Calls -/

/-- Every call is that of a linter for one of the files. -/
theorem mem_calls_analyze {host : Host} {settings : Settings} {linters : List Linter}
    {root : String} {files : List String} {call : Call}
    (h : call ∈ (analyze host settings linters root files).calls) :
    ∃ l ∈ linters, ∃ file ∈ files,
      l.call? ((Path.absolute? host.directory file).getD host.directory) "" root = some call := by
  induction files with
  | nil => exact absurd h List.not_mem_nil
  | cons file rest ih =>
    unfold analyze at h
    dsimp only at h
    split at h
    · exact absurd h List.not_mem_nil
    · rcases List.mem_append.1 h with h | h
      · obtain ⟨l, hl, hcall⟩ := List.mem_filterMap.1 h
        exact ⟨l, hl, file, List.mem_cons_self, hcall⟩
      · obtain ⟨l, hl, other, hother, hcall⟩ := ih h
        exact ⟨l, hl, other, List.mem_cons_of_mem _ hother, hcall⟩

/-- The workspace root of a run over files. -/
def lintRoot (host : Host) (workspace config : Option String) : String :=
  rootOf host workspace ((configuration host config).directory.filter (· ≠ ""))

/-- A run makes calls only if it has settings, and then those of analyzing its files. -/
theorem mem_calls_runLint {host : Host} {files : List String} {format : Format}
    {workspace config : Option String} {call : Call}
    (h : call ∈ (runLint host files format workspace config).calls) :
    ∃ settings, (configuration host config).settings = .ok settings ∧
      call ∈ (analyze host settings (host.configure settings (lintRoot host workspace config))
        (lintRoot host workspace config) files).calls := by
  unfold runLint at h
  dsimp only at h
  split at h
  · exact absurd h List.not_mem_nil
  · next settings hsettings =>
    refine ⟨settings, hsettings, ?_⟩
    split at h
    · exact h
    · exact h

/-- Every call of a run over files is that of a linter for one of them, and its last argument is the
absolute path of that file in the form for command lines, which is not empty; but Clang gets an
empty argument in its place if the settings say `onType`. -/
theorem lint_call_spec {host : Host} (hdirectory : Path.isRooted host.directory.toList = true)
    {arguments files : List String} {format : Format} {workspace config : Option String}
    (hlint : Request.ofArguments? arguments = some (.run (.lint files format workspace) config))
    {call : Call} (hcall : call ∈ (run host arguments).calls) :
    ∃ settings l file path, (configuration host config).settings = .ok settings ∧
      l ∈ host.configure settings (lintRoot host workspace config) ∧ file ∈ files ∧
      Path.absolute? host.directory file = some path ∧
      l.call? path "" (lintRoot host workspace config) = some call ∧
      Path.commandForm path ≠ "" ∧
      call.arguments.getLast? =
        some (if l.analyzer = .clang ∧ settings.run = .onType then ""
          else Path.commandForm path) := by
  unfold run at hcall
  rw [hlint] at hcall
  obtain ⟨settings, hsettings, hcall⟩ := mem_calls_runLint hcall
  obtain ⟨l, hl, file, hfile, hcall⟩ := mem_calls_analyze hcall
  have hname : file ≠ "" := fun hempty => file_ne_empty hlint (hempty ▸ hfile)
  obtain ⟨path, hpath⟩ : ∃ path, Path.absolute? host.directory file = some path := by
    unfold Path.absolute?
    rw [if_neg hname]
    exact ⟨_, rfl⟩
  rw [hpath, Option.getD_some] at hcall
  have hnonempty : Path.commandForm path ≠ "" :=
    Path.commandForm_ne_empty (Path.absolute?_rooted hdirectory hpath)
  refine ⟨settings, l, file, path, hsettings, hl, hfile, hpath, hcall, hnonempty, ?_⟩
  have harguments : call.arguments = l.arguments path "" := by
    unfold Linter.call? at hcall
    split at hcall
    · obtain rfl := Option.some.inj hcall
      rfl
    · cases hcall
  rw [harguments, Linter.getLast?_arguments]
  unfold Linter.handed Linter.target
  rw [Host.settings_of_mem_configure hl]
  by_cases hclang : l.analyzer = .clang
  · by_cases htype : settings.run = .onType
    · simp [hclang, htype]
      rfl
    · simp [hclang, htype]
  · simp [hclang]

namespace EditedOnly

/-- A host with one source file and Clang, where documents are analyzed while they are edited. -/
def host : Host where
  tree := ((Tree.empty.add "/ws/a.c" (.file (.text "") none)).add "/ws/.flylint.json"
    (.file (.text "\x7b\"run\": \"onType\"\x7d") none)).add "/bin/clang"
      (.file .bytes (some fun _ _ => ⟨some 0, [], []⟩))
  directory := "/ws"
  path := some "/bin"
  extraDirectory := none
  environment := ∅

end EditedOnly

/-- Under `onType` a run over a source file starts Clang with an empty argument in the place of the
file. -/
theorem lint_hands_clang_nothing :
    ∃ call ∈ (run EditedOnly.host ["lint", "a.c"]).calls, call.arguments.getLast? = some "" ∧
      ∃ (settings : Settings) (l : Linter),
        (configuration EditedOnly.host none).settings = .ok settings ∧
        l.analyzer = .clang ∧ settings.run = .onType ∧ l.call? "/ws/a.c" "" "/ws" = some call := by
  have hlint : Request.ofArguments? ["lint", "a.c"] =
      some (.run (.lint ["a.c"] .text none) none) := by decide +kernel
  obtain ⟨call, hcall, hempty⟩ : ∃ call ∈ (run EditedOnly.host ["lint", "a.c"]).calls,
      call.arguments.getLast? = some "" := by decide +kernel
  have hroot : lintRoot EditedOnly.host none none = "/ws" := by decide +kernel
  have hpath : Path.absolute? EditedOnly.host.directory "a.c" = some "/ws/a.c" := by decide +kernel
  obtain ⟨settings, l, file, path, hsettings, -, hfile, habsolute, hmade, hnonempty, hlast⟩ :=
    lint_call_spec (by decide) hlint hcall
  rw [List.mem_singleton.1 hfile, hpath] at habsolute
  obtain rfl := Option.some.inj habsolute
  rw [hroot] at hmade
  -- The path of the file is not empty, so that the argument is that of the exception.
  have hclang : l.analyzer = .clang ∧ settings.run = .onType := by
    rw [hempty] at hlast
    refine Decidable.byContradiction fun hother => ?_
    rw [if_neg hother] at hlast
    exact hnonempty (Option.some.inj hlast).symm
  exact ⟨call, hcall, hempty, settings, l, hsettings, hclang.1, hclang.2, hmade⟩

end LintRelay.CommandLine
