import LintRelay.Host

/-!
# What an analyzer is handed

The last argument of every call is the path of the file to analyze, in the form for command lines
(`Linter.getLast?_arguments`). That form is empty for no path that begins at the root
(`Path.commandForm_ne_empty`), and absolute paths do (`Path.absolute?_rooted`). Which file it is
depends on the settings that the linter was made from, and these are the ones that were asked for
(`Host.settings_of_mem_configure`).
-/

namespace LintRelay

/-! ## Paths from the root -/

namespace Path

/-- A path that begins at the root is a slash and what follows. -/
theorem isRooted_iff {path : List Char} : isRooted path = true ↔ ∃ rest, path = '/' :: rest := by
  cases path with
  | nil => simp [isRooted]
  | cons c rest => simp [isRooted]

/-- Dropping a final slash keeps the root. -/
theorem dropFinalSlash_rooted (rest : List Char) :
    isRooted (dropFinalSlash ('/' :: rest)) = true := by
  unfold dropFinalSlash
  split
  · next h =>
    -- The slash at the end is not the one in front, since there are two characters at least.
    have hlength : 1 < ('/' :: rest).length := by simp_all
    obtain ⟨c, others, rfl⟩ : ∃ c others, rest = c :: others :=
      List.exists_cons_of_ne_nil (by rintro rfl; simp at hlength)
    rfl
  · rfl

/-- The plain form of a path keeps the root. -/
theorem plainChars_rooted (rest : List Char) : isRooted (plainChars ('/' :: rest)) = true := by
  have hcollapse : collapse false ('/' :: rest) = '/' :: collapse true rest := by
    simp [collapse, isSeparator]
  obtain ⟨tail, htail⟩ := isRooted_iff.1 (dropFinalSlash_rooted (collapse true rest))
  -- What stands before a colon begins with a slash too, and is no drive.
  have hdrive : afterDrive? ('/' :: tail) = none := by simp [afterDrive?]
  unfold plainChars
  rw [hcollapse, htail]
  simp only [hdrive]
  rfl

/-- The form for command lines keeps the root. -/
theorem commandChars_rooted {path : List Char} (h : isRooted path = true) :
    isRooted (commandChars path) = true := by
  obtain ⟨rest, rfl⟩ := isRooted_iff.1 h
  -- A path from the root is neither a share nor on a drive.
  have hplain : commandChars ('/' :: rest) = plainChars ('/' :: rest) := by
    cases rest with
    | nil => rfl
    | cons c others =>
      by_cases hc : c = ':'
      · subst hc
        rfl
      · simp [commandChars, hc]
  rw [hplain]
  exact plainChars_rooted rest

/-- The form for command lines of a path from the root is not empty. -/
theorem commandForm_ne_empty {path : String} (h : isRooted path.toList = true) :
    commandForm path ≠ "" := by
  obtain ⟨rest, hrest⟩ := isRooted_iff.1 (commandChars_rooted h)
  intro hempty
  have hnil : commandChars path.toList = [] := by
    rw [← String.toList_ofList (l := commandChars path.toList)]
    exact congrArg String.toList hempty
  rw [hrest] at hnil
  exact absurd hnil (List.cons_ne_nil _ _)

/-- Going on from a path keeps the root. -/
theorem joinChars_rooted {path : List Char} (h : isRooted path = true) (other : List Char) :
    isRooted (joinChars path other) = true := by
  obtain ⟨rest, rfl⟩ := isRooted_iff.1 h
  unfold joinChars
  split
  · next hother => exact hother
  · split
    · rfl
    · rfl

/-- Going on step by step keeps the root. -/
theorem foldl_joinChars_rooted (steps : List Component) {path : List Char}
    (h : isRooted path = true) :
    isRooted (steps.foldl (fun p c => joinChars p c.text) path) = true := by
  induction steps generalizing path with
  | nil => exact h
  | cons c steps ih => exact ih (joinChars_rooted h c.text)

/-- An absolute path begins at the root, if the directory that relative ones are taken from does. -/
theorem absolute?_rooted {directory path absolute : String}
    (hdirectory : isRooted directory.toList = true) (h : absolute? directory path = some absolute) :
    isRooted absolute.toList = true := by
  unfold absolute? at h
  split at h
  · simp at h
  · obtain rfl := Option.some.inj h
    rw [String.toList_ofList]
    unfold absoluteChars
    -- Whatever the steps start from, they start from the root.
    have hsteps : isRooted (((components path.toList).filter (· ≠ .here)).foldl
        (fun p c => joinChars p c.text) (if isRooted path.toList then [] else directory.toList)) =
          true := by
      split
      · next hrooted =>
        have hcomponents : components path.toList =
            .root :: (path.toList.splitOn '/').filterMap step? := by
          unfold components
          rw [if_pos hrooted]
        rw [hcomponents, List.filter_cons_of_pos (by decide), List.foldl_cons]
        exact foldl_joinChars_rooted _ rfl
      · exact foldl_joinChars_rooted _ hdirectory
    have hshare : isRooted ((((components path.toList).filter (· ≠ .here)).drop 1).foldl
        (fun p c => joinChars p c.text) ['/', '/']) = true := foldl_joinChars_rooted _ rfl
    have hwhole : ∀ {whole : List Char}, isRooted whole = true →
        isRooted (if path.toList.getLast? = some '/' then joinChars whole [] else whole) =
          true := by
      intro whole hwhole
      split
      · exact joinChars_rooted hwhole []
      · exact hwhole
    refine hwhole ?_
    split
    · exact hshare
    · exact hsteps

end Path

/-! ## The last argument -/

namespace Linter

/-- The file that a linter hands to its program: Clang reads the shadow of a document that is
edited, all others the document itself. -/
def handed (l : Linter) (file shadow : String) : String :=
  if l.analyzer = .clang then l.target file shadow else file

/-- Arguments end as those of their last group end. -/
theorem getLast?_flatMap_arguments {vars : Variables} {groups : List ArgumentGroup}
    {last : ArgumentGroup} {x : String} (hlast : groups.getLast? = some last)
    (hx : (last.arguments vars).getLast? = some x) :
    (groups.flatMap (ArgumentGroup.arguments vars)).getLast? = some x := by
  obtain ⟨front, rfl⟩ := List.getLast?_eq_some_iff.1 hlast
  rw [List.flatMap_append, List.flatMap_singleton, List.getLast?_append, hx, Option.some_or]

/-- The last argument is the file that is handed over. -/
theorem getLast?_arguments (l : Linter) (file shadow : String) :
    (l.arguments file shadow).getLast? = some (Path.commandForm (l.handed file shadow)) := by
  unfold arguments groups handed
  cases l.analyzer with
  | clang => exact getLast?_flatMap_arguments rfl rfl
  | cppCheck => exact getLast?_flatMap_arguments rfl rfl
  | flexelint => exact getLast?_flatMap_arguments rfl rfl
  | pclintPlus => exact getLast?_flatMap_arguments rfl rfl
  | flawFinder => exact getLast?_flatMap_arguments rfl rfl
  | lizard => exact getLast?_flatMap_arguments rfl rfl

end Linter

/-! ## Linters made ready -/

namespace Host

/-- Probing a linter leaves its analyzer and its settings as they are. -/
theorem probe_settings (h : Host) (l : Linter) :
    (h.probe l).analyzer = l.analyzer ∧ (h.probe l).settings = l.settings := by
  unfold probe Linter.disable
  split
  · split
    · exact ⟨rfl, rfl⟩
    · dsimp only
      split
      · split <;> exact ⟨rfl, rfl⟩
      · exact ⟨rfl, rfl⟩
  · exact ⟨rfl, rfl⟩

/-- The linters that settings ask for are made from these settings. -/
theorem settings_of_mem_configure {h : Host} {settings : Settings} {root : String} {l : Linter}
    (hl : l ∈ h.configure settings root) : l.settings = settings := by
  unfold configure at hl
  obtain ⟨made, hmade, rfl⟩ := List.mem_map.1 hl
  obtain ⟨a, -, rfl⟩ := List.mem_map.1 (List.mem_filter.1 hmade).1
  exact (h.probe_settings _).2

end Host

end LintRelay
