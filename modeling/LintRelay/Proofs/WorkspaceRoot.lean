import LintRelay.Proofs.CommandForm
import LintRelay.Proofs.Pass
import LintRelay.Server.Session

/-!
# A document lies inside its workspace root

The root of a document is chosen by comparing paths step by step (`Path.components`), and findings
are kept or left out by comparing identities as text (`Path.isWithin`). Both see the same thing in a
path that says plainly what it names (`Path.IsPlain`): the names of its entries (`Path.names`). Its
steps are the root and those names (`IsPlain.components_eq`), its identity is a slash and the names
joined by slashes (`IsPlain.identityChars_eq`), the path above it has the names but the last
(`IsPlain.parentChars?_eq`), and fewer names are an identity that holds the longer one
(`isWithinChars_append`). So the root that `workspaceRoot` chooses holds the document
(`Server.workspaceRoot_spec`).
-/

namespace LintRelay

namespace Path

/-! ## Plain paths -/

/-- A path says plainly what it names: it begins with a single slash, it is written with slashes
only, and it takes no step up. Slashes may be repeated further on, and one may stand at the end. -/
structure IsPlain (path : List Char) : Prop where
  /-- A slash is in front. -/
  rooted : path.head? = some '/'
  /-- No second one follows. -/
  single : path.tail.head? ≠ some '/'
  /-- There is no backslash. -/
  slashed : '\\' ∉ path
  /-- No segment is a step up. -/
  level : ['.', '.'] ∉ path.splitOn '/'

instance : DecidablePred IsPlain := fun path =>
  decidable_of_iff (path.head? = some '/' ∧ path.tail.head? ≠ some '/' ∧ '\\' ∉ path ∧
      ['.', '.'] ∉ path.splitOn '/')
    ⟨fun ⟨hrooted, hsingle, hslashed, hlevel⟩ => ⟨hrooted, hsingle, hslashed, hlevel⟩,
      fun h => ⟨h.rooted, h.single, h.slashed, h.level⟩⟩

/-- Whether a segment stands for a step. -/
def isStep (segment : List Char) : Bool := (step? segment).isSome

/-- The names of the entries that lead to a path. -/
def names (path : List Char) : List (List Char) := (path.splitOn '/').filter isStep

/-- A segment stands for a step if it is neither empty nor a dot. -/
theorem isStep_iff {segment : List Char} :
    isStep segment = true ↔ segment ≠ [] ∧ segment ≠ ['.'] := by
  unfold isStep step?
  split
  · next h => simpa using fun hne => h.resolve_left hne
  · next h =>
    obtain ⟨hne, hdot⟩ := not_or.1 h
    split <;> simp [hne, hdot]

/-- The names of a path that is cut at a slash are those of its two parts. -/
theorem names_append (path rest : List Char) :
    names (path ++ '/' :: rest) = names path ++ names rest := by
  unfold names
  rw [List.splitOn_append_cons_self, List.filter_append]

/-- A slash in front adds no name. -/
theorem names_cons_slash (path : List Char) : names ('/' :: path) = names path :=
  names_append [] path

/-- Slashes at the end add empty pieces. -/
theorem splitOn_append_slashes (path : List Char) (n : Nat) :
    (path ++ List.replicate n '/').splitOn '/' = path.splitOn '/' ++ List.replicate n [] := by
  induction n generalizing path with
  | zero => rw [List.replicate_zero, List.append_nil, List.replicate_zero, List.append_nil]
  | succ n ih =>
    have hslashes : (List.replicate n '/').splitOn '/' = List.replicate (n + 1) [] := ih []
    rw [List.replicate_succ, List.splitOn_append_cons_self, hslashes]

/-- Slashes at the end add no name. -/
theorem names_append_slashes (path : List Char) (n : Nat) :
    names (path ++ List.replicate n '/') = names path := by
  have hidle : (List.replicate n ([] : List Char)).filter isStep = [] :=
    List.filter_replicate_of_neg (by decide)
  unfold names
  rw [splitOn_append_slashes, List.filter_append, hidle, List.append_nil]

/-- Steps that are not up are the names of entries. -/
theorem filterMap_step? {segments : List (List Char)} (h : ['.', '.'] ∉ segments) :
    segments.filterMap step? = (segments.filter isStep).map .name := by
  induction segments with
  | nil => rfl
  | cons segment rest ih =>
    obtain ⟨hup, hrest⟩ := List.ne_and_not_mem_of_not_mem_cons h
    have ih := ih hrest
    by_cases hstep : isStep segment = true
    · obtain ⟨hne, hdot⟩ := isStep_iff.1 hstep
      have hname : step? segment = some (.name segment) := by
        unfold step?
        rw [if_neg (not_or.2 ⟨hne, hdot⟩), if_neg (Ne.symm hup)]
      rw [List.filterMap_cons_some hname, List.filter_cons_of_pos hstep, List.map_cons, ih]
    · have hnone : step? segment = none := by
        simpa [isStep] using hstep
      rw [List.filterMap_cons_none hnone, List.filter_cons_of_neg hstep, ih]

/-- Steps that are not up are resolved by leaving out what is none. -/
theorem resolve_eq_filter (rooted : Bool) {segments : List (List Char)}
    (h : ['.', '.'] ∉ segments) : resolve rooted segments = segments.filter isStep := by
  -- The fold piles up what is resolved, latest first.
  have hfold : ∀ stack,
      segments.foldl (pushSegment rooted) stack = (segments.filter isStep).reverse ++ stack := by
    induction segments with
    | nil => exact fun _ => rfl
    | cons segment rest ih =>
      intro stack
      obtain ⟨hup, hrest⟩ := List.ne_and_not_mem_of_not_mem_cons h
      rw [List.foldl_cons, ih hrest]
      unfold pushSegment
      by_cases hidle : segment = [] ∨ segment = ['.']
      · have hstep : ¬ isStep segment = true := fun hstep =>
          hidle.elim (isStep_iff.1 hstep).1 (isStep_iff.1 hstep).2
        rw [if_pos hidle, List.filter_cons_of_neg hstep]
      · have hstep : isStep segment = true := isStep_iff.2 (not_or.1 hidle)
        rw [if_neg hidle, if_neg (Ne.symm hup), List.filter_cons_of_pos hstep, List.reverse_cons,
          List.append_assoc]
        rfl
  unfold resolve
  rw [hfold, List.append_nil, List.reverse_reverse]

namespace IsPlain

variable {path : List Char}

/-- A plain path is a slash and a rest that does not begin with one. -/
theorem exists_eq_cons (h : IsPlain path) :
    ∃ rest, path = '/' :: rest ∧ rest.head? ≠ some '/' := by
  obtain ⟨rest, rfl⟩ := List.head?_eq_some_iff.1 h.rooted
  exact ⟨rest, rfl, h.single⟩

/-- The pieces of a plain path between slashes hold no separator. -/
theorem not_isSeparator (h : IsPlain path) {piece : List Char} (hpiece : piece ∈ path.splitOn '/') :
    ∀ c ∈ piece, isSeparator c = false := by
  by_cases hne : piece = []
  · subst hne
    exact fun c hc => absurd hc List.not_mem_nil
  · rw [splitOn_slash h.slashed] at hpiece
    exact (of_mem_segments (List.mem_filter.2 ⟨hpiece, decide_eq_true hne⟩)).2

/-- A name in a plain path is not empty and holds no slash. -/
theorem of_mem_names (h : IsPlain path) {name : List Char} (hname : name ∈ names path) :
    name ≠ [] ∧ '/' ∉ name := by
  obtain ⟨hpiece, hstep⟩ := List.mem_filter.1 hname
  refine ⟨(isStep_iff.1 hstep).1, fun hslash => ?_⟩
  cases h.not_isSeparator hpiece _ hslash

/-- The steps of a plain path are the root and its names. -/
theorem components_eq (h : IsPlain path) :
    components path = .root :: (names path).map .name := by
  unfold components
  dsimp only
  rw [if_pos (show isRooted path = true from decide_eq_true h.rooted), filterMap_step? h.level]
  rfl

/-- Of two plain paths, one leads to the other if its names come first in those of the other. -/
theorem components_prefix_iff {other : List Char} (h : IsPlain path) (hother : IsPlain other) :
    components path <+: components other ↔ names path <+: names other := by
  have hname : Function.Injective Component.name := fun a b hab => Component.name.inj hab
  rw [h.components_eq, hother.components_eq, List.cons_prefix_cons,
    List.prefix_map_iff_of_injective hname]
  exact and_iff_right rfl

/-- A plain path is written with slashes already. -/
theorem slashChars_eq (h : IsPlain path) : slashChars path = path := by
  obtain ⟨rest, rfl, -⟩ := h.exists_eq_cons
  rw [Path.slashChars_eq (by simp [List.isPrefixOf])]
  refine (List.map_congr_left fun c hc => ?_).trans (List.map_id _)
  have hbackslash : c ≠ '\\' := fun heq => h.slashed (heq ▸ hc)
  rw [if_neg hbackslash]
  rfl

/-- A plain path in normal form is a slash and its names, joined by slashes. -/
theorem normalize_eq (h : IsPlain path) :
    normalize path = '/' :: List.intercalate ['/'] (names path) := by
  obtain ⟨rest, rfl, hrest⟩ := h.exists_eq_cons
  have hlevel : ['.', '.'] ∉ rest.splitOn '/' := by
    have hsplit := List.splitOn_append_cons_self (a := '/') [] rest
    intro hup
    refine h.level ?_
    rw [show '/' :: rest = [] ++ '/' :: rest from rfl, hsplit]
    exact List.mem_append_right _ hup
  unfold normalize
  dsimp only
  rw [splitRoot_slash hrest, resolve_eq_filter _ hlevel, names_cons_slash]
  rfl

/-- The identity of a plain path is a slash and its names, joined by slashes. -/
theorem identityChars_eq (h : IsPlain path) (base : List Char) :
    identityChars path base = '/' :: List.intercalate ['/'] (names path) := by
  obtain ⟨rest, hpath, -⟩ := h.exists_eq_cons
  have habsolute : isAbsoluteChars path = true := by
    rw [hpath]
    rfl
  unfold identityChars
  dsimp only
  rw [h.slashChars_eq, if_pos habsolute, h.normalize_eq]

end IsPlain

/-! ## The tree of a directory -/

/-- Slashes are dropped after the last character that is none. -/
theorem dropFinalSlashes_append (front rest : List Char) {c : Char} (hc : c ≠ '/') :
    dropFinalSlashes (front ++ c :: rest) = front ++ c :: dropFinalSlashes rest := by
  unfold dropFinalSlashes
  rw [List.reverse_append, List.reverse_cons, List.append_assoc, List.dropWhile_append]
  split
  · next hnone =>
    rw [List.isEmpty_iff] at hnone
    rw [hnone, List.singleton_append, List.dropWhile_cons_of_neg (by simpa using hc)]
    simp
  · simp

/-- What is dropped at the end are slashes. -/
theorem exists_eq_dropFinalSlashes (path : List Char) :
    ∃ n, path = dropFinalSlashes path ++ List.replicate n '/' := by
  have hslashes : ∀ c ∈ (path.reverse.takeWhile (· = '/')).reverse, c = '/' := by
    intro c hc
    have hall := List.all_takeWhile (p := (· = '/')) (l := path.reverse)
    exact of_decide_eq_true (List.all_eq_true.1 hall c (List.mem_reverse.1 hc))
  have hcut := congrArg List.reverse
    (List.takeWhile_append_dropWhile (p := (· = '/')) (l := path.reverse))
  rw [List.reverse_append, List.reverse_reverse] at hcut
  refine ⟨(path.reverse.takeWhile (· = '/')).reverse.length, ?_⟩
  unfold dropFinalSlashes
  rw [← List.eq_replicate_of_mem hslashes]
  exact hcut.symm

/-- A plain path with one slash at its end, instead of any number, is plain and has the same
names. -/
theorem IsPlain.withFinalSlash {path : List Char} (h : IsPlain path) :
    IsPlain (dropFinalSlashes path ++ ['/']) ∧
      names (dropFinalSlashes path ++ ['/']) = names path := by
  obtain ⟨n, hpath⟩ := exists_eq_dropFinalSlashes path
  -- A path of more than one slash keeps its first two characters.
  obtain ⟨hrooted, hsingle⟩ : (dropFinalSlashes path ++ ['/']).head? = some '/' ∧
      (dropFinalSlashes path ++ ['/']).tail.head? ≠ some '/' := by
    obtain ⟨rest, rfl, hrest⟩ := h.exists_eq_cons
    cases rest with
    | nil => exact ⟨rfl, by simp [dropFinalSlashes]⟩
    | cons c rest =>
      have hdrop : dropFinalSlashes ('/' :: c :: rest) = '/' :: c :: dropFinalSlashes rest :=
        dropFinalSlashes_append ['/'] rest fun hc => hrest (congrArg some hc)
      rw [hdrop]
      exact ⟨rfl, hrest⟩
  generalize dropFinalSlashes path = front at hpath hrooted hsingle
  subst hpath
  refine ⟨⟨hrooted, hsingle, fun hbackslash => h.slashed ?_, fun hup => h.level ?_⟩, ?_⟩
  · rcases List.mem_append.1 hbackslash with hbackslash | hbackslash
    · exact List.mem_append_left _ hbackslash
    · simp at hbackslash
  · change ['.', '.'] ∈ (front ++ List.replicate 1 '/').splitOn '/' at hup
    rw [splitOn_append_slashes] at hup ⊢
    rcases List.mem_append.1 hup with hup | hup
    · exact List.mem_append_left _ hup
    · simp at hup
  · exact (names_append_slashes front 1).trans (names_append_slashes front n).symm

/-- The identity of the empty name is that of the directory that it is taken from. -/
theorem IsPlain.identityChars_nil {base : List Char} (h : IsPlain base) :
    identityChars [] base = '/' :: List.intercalate ['/'] (names base) := by
  obtain ⟨hplain, hnames⟩ := h.withFinalSlash
  unfold identityChars
  dsimp only
  rw [h.slashChars_eq, if_neg (by decide)]
  change normalize (dropFinalSlashes base ++ ['/']) = _
  rw [hplain.normalize_eq, hnames]

/-- Names joined by slashes, cut between two of them. -/
theorem intercalate_append {names others : List (List Char)} (hnames : names ≠ [])
    (hothers : others ≠ []) : List.intercalate ['/'] (names ++ others) =
      List.intercalate ['/'] names ++ '/' :: List.intercalate ['/'] others := by
  induction names with
  | nil => exact absurd rfl hnames
  | cons name rest ih =>
    cases rest with
    | nil =>
      rw [List.singleton_append, List.intercalate_cons_of_ne_nil hothers,
        List.intercalate_singleton, List.append_assoc]
      rfl
    | cons next rest =>
      have hcons : ∀ all, List.intercalate ['/'] (name :: (next :: all)) =
          name ++ '/' :: List.intercalate ['/'] (next :: all) := by
        intro all
        rw [List.intercalate_cons_cons, List.append_assoc]
        rfl
      have ih := ih (List.cons_ne_nil _ _)
      rw [List.cons_append] at ih
      rw [List.cons_append, List.cons_append, hcons, hcons, ih, List.append_assoc]
      rfl

/-- Names joined by slashes begin with the first of them, joined by slashes. -/
theorem exists_intercalate_append (names others : List (List Char)) :
    ∃ rest, List.intercalate ['/'] (names ++ others) = List.intercalate ['/'] names ++ rest := by
  by_cases hnames : names = []
  · exact ⟨_, by rw [hnames, List.nil_append, List.intercalate_nil, List.nil_append]⟩
  by_cases hothers : others = []
  · exact ⟨[], by rw [hothers, List.append_nil, List.append_nil]⟩
  · exact ⟨_, intercalate_append hnames hothers⟩

/-- The last name stands at the end. -/
theorem exists_intercalate_concat (names : List (List Char)) (name : List Char) :
    ∃ front, List.intercalate ['/'] (names ++ [name]) = front ++ name := by
  by_cases hnames : names = []
  · exact ⟨[], by rw [hnames, List.nil_append, List.intercalate_singleton, List.nil_append]⟩
  · refine ⟨List.intercalate ['/'] names ++ ['/'], ?_⟩
    rw [intercalate_append hnames (by simp), List.intercalate_singleton, List.append_assoc]
    rfl

/-- A place lies in the tree of one whose names come first in its own. -/
theorem isWithinChars_append {names : List (List Char)}
    (hnames : ∀ name ∈ names, name ≠ [] ∧ '/' ∉ name) (others : List (List Char)) :
    isWithinChars ('/' :: List.intercalate ['/'] (names ++ others))
      ('/' :: List.intercalate ['/'] names) = true := by
  rcases List.eq_nil_or_concat names with rfl | ⟨init, last, rfl⟩
  · rfl
  rw [List.concat_eq_append] at hnames ⊢
  -- The last name ends with a character that is no slash, and so does the directory.
  obtain ⟨hlast, hslash⟩ := hnames last (by simp)
  obtain ⟨before, c, rfl⟩ := (List.eq_nil_or_concat last).resolve_left hlast
  rw [List.concat_eq_append] at hslash ⊢
  have hc : c ≠ '/' := fun hc => hslash (by simp [hc])
  obtain ⟨front, hfront⟩ := exists_intercalate_concat init (before ++ [c])
  have hdrop : dropFinalSlashes ('/' :: List.intercalate ['/'] (init ++ [before ++ [c]])) =
      '/' :: List.intercalate ['/'] (init ++ [before ++ [c]]) := by
    rw [hfront, ← List.append_assoc, ← List.cons_append, dropFinalSlashes_append _ _ hc]
    rfl
  unfold isWithinChars
  dsimp only
  rw [hdrop, if_neg (List.cons_ne_nil _ _), Bool.or_eq_true, decide_eq_true_iff,
    List.isPrefixOf_iff_prefix]
  by_cases hothers : others = []
  · left
    rw [hothers, List.append_nil]
  · right
    rw [intercalate_append (by simp) hothers]
    exact ⟨List.intercalate ['/'] others, by simp⟩

/-! ## The path above -/

/-- What is dropped as idle is no step. -/
theorem filter_dropIdle (segments : List (List Char)) :
    (dropIdle segments).filter isStep = segments.filter isStep := by
  unfold dropIdle
  induction segments with
  | nil => rfl
  | cons segment rest ih =>
    cases hstep : step? segment with
    | none =>
      rw [List.dropWhile_cons_of_pos (by simp [hstep]), ih,
        List.filter_cons_of_neg (by simp [isStep, hstep])]
    | some _ => rw [List.dropWhile_cons_of_neg (by simp [hstep])]

/-- What is left in front when idle segments are dropped is a step. -/
theorem isStep_of_dropIdle {segments rest : List (List Char)} {segment : List Char}
    (h : dropIdle segments = segment :: rest) : isStep segment = true := by
  have hhead := List.head?_dropWhile_not (fun s => (step? s).isNone) segments
  unfold dropIdle at h
  rw [h] at hhead
  simpa [isStep, Option.isSome_iff_ne_none] using hhead

/-- What is left of segments without the last step, and without the idle ones around it, stands in
front of all of them. -/
theorem exists_append_of_dropIdle {segments above : List (List Char)} {segment : List Char}
    (h : dropIdle segments.reverse = segment :: above) :
    ∃ others, segments = (dropIdle above).reverse ++ others ∧ segment ∈ others := by
  obtain ⟨idle, hidle⟩ : segment :: above <:+ segments.reverse := by
    rw [← h]
    exact List.dropWhile_suffix _
  obtain ⟨idle', hidle'⟩ : dropIdle above <:+ above := List.dropWhile_suffix _
  have hreverse := congrArg List.reverse hidle
  rw [← hidle', List.reverse_reverse] at hreverse
  refine ⟨idle'.reverse ++ segment :: idle.reverse, ?_, by simp⟩
  rw [← hreverse]
  simp

/-- The first pieces of a plain path, put together again, are a plain path with the names among
them. -/
theorem IsPlain.of_pieces {rest : List Char} (h : IsPlain ('/' :: rest))
    {pieces others : List (List Char)} (hpieces : rest.splitOn '/' = pieces ++ others) :
    IsPlain ('/' :: List.intercalate ['/'] pieces) ∧
      names ('/' :: List.intercalate ['/'] pieces) = pieces.filter isStep := by
  by_cases hnone : pieces = []
  · subst hnone
    exact ⟨⟨rfl, by simp, by simp, by decide⟩, rfl⟩
  -- The pieces are cut again where they were put together.
  have hpiece : ∀ piece ∈ pieces, piece ∈ ('/' :: rest).splitOn '/' := by
    intro piece hmem
    have hsplit : ('/' :: rest).splitOn '/' = [] :: rest.splitOn '/' :=
      List.splitOn_append_cons_self [] rest
    rw [hsplit, hpieces]
    exact List.mem_cons_of_mem _ (List.mem_append_left _ hmem)
  have hslash : ∀ piece ∈ pieces, '/' ∉ piece := by
    intro piece hmem hslash
    cases h.not_isSeparator (hpiece piece hmem) _ hslash
  have hsplit : ('/' :: List.intercalate ['/'] pieces).splitOn '/' = [] :: pieces := by
    have hcut : ('/' :: List.intercalate ['/'] pieces).splitOn '/' =
        [] :: (List.intercalate ['/'] pieces).splitOn '/' := List.splitOn_append_cons_self [] _
    rw [hcut, List.splitOn_intercalate '/' hslash hnone]
  obtain ⟨after, hafter⟩ := exists_intercalate_append pieces others
  rw [← hpieces, List.intercalate_splitOn] at hafter
  refine ⟨⟨rfl, fun hhead => h.single ?_, fun hbackslash => h.slashed ?_, fun hup => ?_⟩, ?_⟩
  · change (List.intercalate ['/'] pieces).head? = some '/' at hhead
    change rest.head? = some '/'
    rw [hafter, List.head?_append, hhead]
    rfl
  · rw [hafter]
    exact List.mem_append_left _ hbackslash
  · rw [hsplit] at hup
    exact h.level (hpiece _ ((List.mem_cons.1 hup).resolve_left (by simp)))
  · unfold names
    rw [hsplit]
    rfl

/-- Only the root directory has no path above it. The path above another is plain and has its names
but the last. -/
theorem IsPlain.parentChars?_eq {path : List Char} (h : IsPlain path) :
    (parentChars? path = none ∧ names path = []) ∨
      ∃ above name, parentChars? path = some above ∧ IsPlain above ∧
        names path = names above ++ [name] := by
  obtain ⟨rest, rfl, -⟩ := h.exists_eq_cons
  have hnames : names ('/' :: rest) =
      ((dropIdle (rest.splitOn '/').reverse).filter isStep).reverse := by
    rw [names_cons_slash, filter_dropIdle, List.filter_reverse, List.reverse_reverse]
    rfl
  have hparent : parentChars? ('/' :: rest) = (dropIdle (rest.splitOn '/').reverse).tail?.map
      fun above => '/' :: List.intercalate ['/'] (dropIdle above).reverse := by
    have hrooted : isRooted ('/' :: rest) = true := rfl
    unfold parentChars?
    rw [if_pos hrooted, List.tail_cons]
    cases dropIdle (rest.splitOn '/').reverse <;> rfl
  cases hdrop : dropIdle (rest.splitOn '/').reverse with
  | nil =>
    rw [hdrop] at hparent hnames
    exact Or.inl ⟨hparent, hnames⟩
  | cons name above =>
    rw [hdrop] at hparent hnames
    obtain ⟨others, hpieces, -⟩ := exists_append_of_dropIdle hdrop
    obtain ⟨hplain, habove⟩ := h.of_pieces hpieces
    refine Or.inr ⟨_, name, hparent, hplain, ?_⟩
    rw [hnames, habove, List.filter_cons_of_pos (isStep_of_dropIdle hdrop), List.reverse_cons,
      List.filter_reverse, filter_dropIdle]

/-- The directory of a plain file is plain. Its names are those of the file but the last, unless the
file is the root directory, which stands for its own. -/
theorem IsPlain.parent?_names {file : String} (h : IsPlain file.toList) :
    IsPlain ((parent? file).getD file).toList ∧
      ((∃ name, names file.toList = names ((parent? file).getD file).toList ++ [name]) ∨
        names file.toList = [] ∧ (parent? file).getD file = file) := by
  unfold parent?
  rcases h.parentChars?_eq with ⟨hnone, hempty⟩ | ⟨above, name, habove, hplain, hnames⟩
  · rw [hnone]
    exact ⟨h, Or.inr ⟨hempty, rfl⟩⟩
  · rw [habove, Option.map_some, Option.getD_some, String.toList_ofList]
    exact ⟨hplain, Or.inl ⟨name, hnames⟩⟩

end Path

/-- What a linter that succeeds says of the document of a pass is found, up to doubles, unless the
document is not kept. -/
theorem Pass.exists_finding_on_document {linters : List Linter} {r : PassRequest} (runner : Runner)
    (hkeeps : r.keeps r.document = true) {l : Linter} (hl : l ∈ linters)
    {answer : List Diagnostic} (hanswer : l.lint runner r.file r.shadow r.root = .ok answer)
    {d : Diagnostic} (hd : d ∈ answer) (hdocument : r.identity d.fileName = r.document) :
    ∃ x ∈ (run linters r runner).files.getD r.document [],
      Finding.isDouble x (.ofDiagnostic d r.lines) = true := by
  obtain ⟨hwithin, hexcluded⟩ := PassRequest.keeps_iff.1 hkeeps
  have hreports : Reports linters r runner r.document (.ofDiagnostic d r.lines) := by
    refine ⟨l, hl, answer, hanswer, d, hd, hdocument.symm, ?_, hwithin, hexcluded⟩
    rw [if_pos (show r.document = (run linters r runner).document from rfl)]
    rfl
  exact exists_mem_files hreports

namespace Server

/-! ## The root of a document -/

/-- Going through folders from a first one, and moving on to each that is not less deep, leads to a
deepest one. -/
theorem foldl_deepest {deeper : Option String → String → Option String}
    (hdeeper : ∀ best folder, deeper (some best) folder =
      if Path.depth folder < Path.depth best then some best else some folder)
    (folders : List String) (first : String) :
    ∃ best ∈ first :: folders, folders.foldl deeper (some first) = some best ∧
      ∀ folder ∈ first :: folders, Path.depth folder ≤ Path.depth best := by
  induction folders generalizing first with
  | nil => exact ⟨first, List.mem_cons_self, rfl, fun folder hfolder => by simp_all⟩
  | cons next rest ih =>
    rw [List.foldl_cons, hdeeper]
    split
    · next hless =>
      obtain ⟨best, hbest, hfold, hdeepest⟩ := ih first
      refine ⟨best, by grind, hfold, fun folder hfolder => ?_⟩
      have hfirst := hdeepest first List.mem_cons_self
      grind
    · next hmore =>
      obtain ⟨best, hbest, hfold, hdeepest⟩ := ih next
      refine ⟨best, List.mem_cons_of_mem _ hbest, hfold, fun folder hfolder => ?_⟩
      have hnext := hdeepest next List.mem_cons_self
      grind

/-- The root of a file is a deepest of the folders that hold it; if none does, it is the path above
the file. -/
theorem workspaceRoot_cases (folders : List String) (file : String) :
    (workspaceRoot folders file ∈ folders ∧
      Path.isBelow file (workspaceRoot folders file) = true ∧
      ∀ folder ∈ folders, Path.isBelow file folder = true →
        Path.depth folder ≤ Path.depth (workspaceRoot folders file)) ∨
    (∀ folder ∈ folders, Path.isBelow file folder = false) ∧
      workspaceRoot folders file = (Path.parent? file).getD file := by
  obtain ⟨deeper, hfirst, hdeeper, hroot⟩ : ∃ deeper : Option String → String → Option String,
      (∀ folder, deeper none folder = some folder) ∧
      (∀ best folder, deeper (some best) folder =
        if Path.depth folder < Path.depth best then some best else some folder) ∧
      workspaceRoot folders file = ((folders.filter (Path.isBelow file)).foldl deeper none).getD
        ((Path.parent? file).getD file) := by
    refine ⟨_, ?_, ?_, rfl⟩
    · exact fun _ => rfl
    · exact fun _ _ => rfl
  cases hholding : folders.filter (Path.isBelow file) with
  | nil =>
    rw [hholding] at hroot
    refine Or.inr ⟨fun folder hfolder => ?_, hroot⟩
    exact Bool.eq_false_iff.2 (List.filter_eq_nil_iff.1 hholding folder hfolder)
  | cons first rest =>
    obtain ⟨best, hbest, hfold, hdeepest⟩ := foldl_deepest hdeeper rest first
    rw [hholding, List.foldl_cons, hfirst, hfold, Option.getD_some] at hroot
    rw [hroot]
    rw [← hholding] at hbest hdeepest
    left
    obtain ⟨hmem, hbelow⟩ := List.mem_filter.1 hbest
    exact ⟨hmem, hbelow, fun folder hfolder hholds =>
      hdeepest folder (List.mem_filter.2 ⟨hfolder, hholds⟩)⟩

/-- The root of a plain file among plain folders is plain, and its names come first in those of the
file. -/
theorem workspaceRoot_names {folders : List String} {file : String}
    (hfolders : ∀ folder ∈ folders, Path.IsPlain folder.toList) (hfile : Path.IsPlain file.toList) :
    Path.IsPlain (workspaceRoot folders file).toList ∧
      Path.names (workspaceRoot folders file).toList <+: Path.names file.toList := by
  rcases workspaceRoot_cases folders file with ⟨hmem, hbelow, -⟩ | ⟨-, hroot⟩
  · have hplain := hfolders _ hmem
    refine ⟨hplain, (hplain.components_prefix_iff hfile).1 ?_⟩
    exact List.isPrefixOf_iff_prefix.1 hbelow
  · obtain ⟨hplain, hnames⟩ := hfile.parent?_names
    rw [hroot]
    refine ⟨hplain, ?_⟩
    rcases hnames with ⟨name, hnames⟩ | ⟨-, hself⟩
    · rw [hnames]
      exact List.prefix_append _ _
    · exact ⟨[], by rw [hself, List.append_nil]⟩

/-- A plain file lies in the tree of its root. -/
theorem isWithin_workspaceRoot {folders : List String} {file : String}
    (hfolders : ∀ folder ∈ folders, Path.IsPlain folder.toList) (hfile : Path.IsPlain file.toList) :
    Path.isWithin (Path.identity file (workspaceRoot folders file))
      (Path.identity "" (workspaceRoot folders file)) = true := by
  obtain ⟨hplain, others, hnames⟩ := workspaceRoot_names hfolders hfile
  unfold Path.isWithin Path.identity
  rw [String.toList_ofList, String.toList_ofList, hfile.identityChars_eq]
  change Path.isWithinChars _ (Path.identityChars [] _) = true
  rw [hplain.identityChars_nil, ← hnames]
  exact Path.isWithinChars_append (fun _ hname => hplain.of_mem_names hname) others

/-- A document lies inside its workspace root, for all folders and files whose paths are plain. The
root leads to the file step by step, and no folder that does so is deeper. If some folder does, the
root is one of the folders; if none does, it is the file without its last step, or the root
directory if that is the file. The identity of the file lies within that of the root. So a pass with
this root leaves out findings on the document only in excluded directories: every diagnostic of the
document by a linter that succeeds is found, up to doubles. -/
theorem workspaceRoot_spec {folders : List String} {file : String}
    (hfolders : ∀ folder ∈ folders, Path.IsPlain folder.toList) (hfile : Path.IsPlain file.toList) :
    Path.components (workspaceRoot folders file).toList <+: Path.components file.toList ∧
    (∀ folder ∈ folders, Path.components folder.toList <+: Path.components file.toList →
      (Path.components folder.toList).length ≤
          (Path.components (workspaceRoot folders file).toList).length ∧
        workspaceRoot folders file ∈ folders) ∧
    ((∀ folder ∈ folders, ¬ Path.components folder.toList <+: Path.components file.toList) →
      (∃ name, Path.components file.toList =
        Path.components (workspaceRoot folders file).toList ++ [.name name]) ∨
      Path.components file.toList = [.root] ∧ workspaceRoot folders file = file) ∧
    Path.isWithin (Path.identity file (workspaceRoot folders file))
      (Path.identity "" (workspaceRoot folders file)) = true ∧
    ∀ (r : PassRequest), r.file = file → r.root = workspaceRoot folders file →
      (∀ dir ∈ r.excluded, Path.isWithin r.document (r.identity dir) = false) →
      ∀ (linters : List Linter) (runner : Runner), ∀ l ∈ linters, ∀ answer,
        l.lint runner r.file r.shadow r.root = .ok answer →
        ∀ d ∈ answer, r.identity d.fileName = r.document →
          ∃ x ∈ (Pass.run linters r runner).files.getD r.document [],
            Finding.isDouble x (.ofDiagnostic d r.lines) = true := by
  obtain ⟨hplain, hnames⟩ := workspaceRoot_names hfolders hfile
  have hwithin := isWithin_workspaceRoot hfolders hfile
  refine ⟨(hplain.components_prefix_iff hfile).2 hnames, fun folder hfolder hleads => ?_,
    fun hnone => ?_, hwithin, ?_⟩
  · have hbelow : Path.isBelow file folder = true := List.isPrefixOf_iff_prefix.2 hleads
    rcases workspaceRoot_cases folders file with ⟨hmem, -, hdeepest⟩ | ⟨hnone, -⟩
    · exact ⟨hdeepest folder hfolder hbelow, hmem⟩
    · rw [hnone folder hfolder] at hbelow
      cases hbelow
  · rcases workspaceRoot_cases folders file with ⟨hmem, hbelow, -⟩ | ⟨-, hroot⟩
    · exact absurd (List.isPrefixOf_iff_prefix.1 hbelow) (hnone _ hmem)
    · obtain ⟨-, hnames⟩ := hfile.parent?_names
      rw [← hroot] at hnames
      rw [hfile.components_eq, hplain.components_eq]
      rcases hnames with ⟨name, hnames⟩ | ⟨hempty, hself⟩
      · refine Or.inl ⟨name, ?_⟩
        rw [hnames, List.map_append]
        rfl
      · refine Or.inr ⟨?_, hself⟩
        rw [hempty]
        rfl
  · rintro r rfl hroot hexcluded linters runner l hl answer hanswer d hd hdocument
    rw [← hroot] at hwithin
    have hkeeps : r.keeps r.document = true := PassRequest.keeps_iff.2 ⟨hwithin, hexcluded⟩
    exact Pass.exists_finding_on_document runner hkeeps hl hanswer hd hdocument

namespace Nested

/-- Folders inside each other: one of them is named twice, with slashes that change nothing, and two
have names that only begin alike. -/
def folders : List String := ["/ws", "/ws/lib/", "/ws/li", "/ws//lib", "/ws/lib/sr", "/"]

/-- A request for a document in the folder that is named twice. -/
def request : PassRequest where
  file := "/ws/lib/src/a.c"
  root := "/ws//lib"
  shadow := ""
  text := "int a;"
  trigger := .onSave
  excluded := []
  debug := false

/-- Lizard with the default settings. -/
def lizard : Linter := .make .lizard .initial ∅ "/ws//lib"

/-- It names the document by a path from the root that goes up and down again. -/
def runner : Runner := fun _ => .ok ⟨some 1, "../lib/src/a.c:3: warning: w\n", ""⟩

/-- Its diagnostic. -/
def complaint : Diagnostic where
  fileName := "../lib/src/a.c"
  line := 2
  column := 0
  severity := .warning
  code := some Lizard.rule
  message := "w"
  source := "Lizard"

end Nested

open Nested in
/-- The deepest folder holds the document, under the way of writing that comes last, and what is
said of the document is found. -/
theorem document_in_nested_folder :
    workspaceRoot folders request.file = request.root ∧
    Path.components request.root.toList = [.root, .name ['w', 's'], .name ['l', 'i', 'b']] ∧
    Path.components request.root.toList <+: Path.components request.file.toList ∧
    Path.isWithin request.document (request.identity "") = true ∧
    ∃ x ∈ (Pass.run [lizard] request runner).files.getD request.document [],
      Finding.isDouble x (.ofDiagnostic complaint request.lines) = true := by
  have hroot : workspaceRoot folders request.file = request.root := by decide +kernel
  have hfolders : ∀ folder ∈ folders, Path.IsPlain folder.toList := by decide +kernel
  have hfile : Path.IsPlain request.file.toList := by decide +kernel
  obtain ⟨hleads, -, -, hwithin, hfound⟩ := workspaceRoot_spec hfolders hfile
  rw [hroot] at hleads hwithin
  refine ⟨hroot, by decide +kernel, hleads, hwithin, ?_⟩
  exact hfound request rfl hroot.symm (by simp [request]) [lizard] runner lizard (by simp)
    [complaint] (by rfl) complaint (by simp) (by decide +kernel)

end Server

end LintRelay
