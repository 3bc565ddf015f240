import LintRelay.Pass
import LintRelay.Proofs.Arguments

/-!
# The form of a path on a command line and its identity

An analyzer is handed a path in one form (`Path.commandForm`), and what it prints is told apart by
another (`Path.identity`). Both are about the segments of the path: `Path.segments` cuts a path at
separators of either kind and leaves out what is empty. Writing slashes, collapsing separators and
dropping one at the end keep the segments (`splitOnP_map_slash`, `collapse_aligned`,
`segments_dropFinalSlash`), and an identity is a root followed by the resolved segments of the rest
(`Names.identityChars_eq`). So the two forms of a path have one identity where they have one root,
which `identity_commandForm` shows for all absolute paths that say clearly what their root is.

Segments alone do not survive in front of a further character, which may belong to the first segment
or not. The induction over a path therefore carries `Aligned`: the pieces up to the first separator
agree, and so do the segments after it.
-/

namespace LintRelay

namespace Path

/-! ## Segments -/

/-- The segments of a path: its pieces between separators, without empty ones. -/
def segments (path : List Char) : List (List Char) :=
  (path.splitOnP isSeparator).filter (· ≠ [])

/-- A separator in front adds no segment. -/
theorem segments_cons_separator {s : Char} (hs : isSeparator s = true) (path : List Char) :
    segments (s :: path) = segments path := by
  unfold segments
  rw [List.splitOnP_cons_eq_if_modifyHead, if_pos hs]
  rfl

/-- Two paths have the same piece in front of the first separator, and the same segments after
it. -/
structure Aligned (path other : List Char) : Prop where
  /-- The first pieces agree. -/
  head : (path.splitOnP isSeparator).head? = (other.splitOnP isSeparator).head?
  /-- The segments after the first pieces agree. -/
  tail : (path.splitOnP isSeparator).tail.filter (· ≠ []) =
    (other.splitOnP isSeparator).tail.filter (· ≠ [])

namespace Aligned

variable {path other : List Char}

/-- Aligned paths have the same segments. -/
theorem segments_eq (h : Aligned path other) : segments path = segments other := by
  obtain ⟨first, rest, hpath⟩ :=
    List.exists_cons_of_ne_nil (List.splitOnP_ne_nil isSeparator path)
  obtain ⟨first', rest', hother⟩ :=
    List.exists_cons_of_ne_nil (List.splitOnP_ne_nil isSeparator other)
  have hhead := h.head
  have htail := h.tail
  unfold segments
  rw [hpath, hother] at hhead htail ⊢
  obtain rfl : first = first' := Option.some.inj hhead
  rw [List.filter_cons, List.filter_cons]
  rw [List.tail_cons, List.tail_cons] at htail
  rw [htail]

/-- A character that is no separator goes to the first piece of both. -/
theorem cons (h : Aligned path other) {c : Char} (hc : isSeparator c = false) :
    Aligned (c :: path) (c :: other) := by
  have hcons : ∀ p : List Char,
      (c :: p).splitOnP isSeparator = (p.splitOnP isSeparator).modifyHead (c :: ·) := by
    intro p
    rw [List.splitOnP_cons_eq_if_modifyHead, hc]
    rfl
  constructor
  case head =>
    rw [hcons, hcons, List.head?_modifyHead, List.head?_modifyHead, h.head]
  case tail =>
    rw [hcons, hcons, List.tail_modifyHead, List.tail_modifyHead, h.tail]

end Aligned

/-- After a separator only the segments count. -/
theorem aligned_separators {s s' : Char} (hs : isSeparator s = true) (hs' : isSeparator s' = true)
    {path other : List Char} (h : segments path = segments other) :
    Aligned (s :: path) (s' :: other) := by
  constructor
  · rw [List.splitOnP_cons_eq_if_modifyHead, List.splitOnP_cons_eq_if_modifyHead, if_pos hs,
      if_pos hs']
    rfl
  · rw [List.splitOnP_cons_eq_if_modifyHead, List.splitOnP_cons_eq_if_modifyHead, if_pos hs,
      if_pos hs']
    exact h

/-! ## What keeps the segments -/

/-- Collapsing runs of separators keeps the segments; where no run has begun, it keeps the first
piece too. -/
theorem collapse_aligned (path : List Char) :
    Aligned (collapse false path) path ∧ segments (collapse true path) = segments path := by
  induction path with
  | nil => exact ⟨⟨rfl, rfl⟩, rfl⟩
  | cons c rest ih =>
    obtain ⟨haligned, hsegments⟩ := ih
    by_cases hc : isSeparator c = true
    · have hfalse : collapse false (c :: rest) = '/' :: collapse true rest := by
        simp [collapse, hc]
      have htrue : collapse true (c :: rest) = collapse true rest := by
        simp [collapse, hc]
      rw [hfalse, htrue, segments_cons_separator hc]
      exact ⟨aligned_separators rfl hc hsegments, hsegments⟩
    · have hc : isSeparator c = false := Bool.eq_false_iff.2 hc
      have hcollapse : ∀ inRun, collapse inRun (c :: rest) = c :: collapse false rest := by
        intro inRun
        simp [collapse, hc]
      rw [hcollapse, hcollapse]
      exact ⟨haligned.cons hc, (haligned.cons hc).segments_eq⟩

/-- Collapsing runs of separators leaves no backslash. -/
theorem not_mem_collapse (inRun : Bool) (path : List Char) : '\\' ∉ collapse inRun path := by
  induction path generalizing inRun with
  | nil => exact List.not_mem_nil
  | cons c rest ih =>
    unfold collapse
    split
    · split
      · exact ih true
      · exact List.not_mem_cons_of_ne_of_not_mem (by decide) (ih true)
    · next hc =>
      refine List.not_mem_cons_of_ne_of_not_mem ?_ (ih false)
      rintro rfl
      exact hc rfl

/-- Within a run of separators no further slash is written. -/
theorem head?_collapse (path : List Char) : (collapse true path).head? ≠ some '/' := by
  induction path with
  | nil => simp [collapse]
  | cons c rest ih =>
    unfold collapse
    split
    · exact ih
    · next hc =>
      intro hhead
      obtain rfl : c = '/' := Option.some.inj hhead
      exact hc rfl

/-- Dropping a final slash keeps the segments. -/
theorem segments_dropFinalSlash (path : List Char) :
    segments (dropFinalSlash path) = segments path := by
  unfold dropFinalSlash
  split
  · next h =>
    obtain ⟨-, hlast⟩ := Bool.and_eq_true_iff.1 h
    obtain ⟨front, rfl⟩ := List.getLast?_eq_some_iff.1 (of_decide_eq_true hlast)
    -- What follows the final slash is one empty piece.
    have hpieces : (front ++ ['/']).splitOnP isSeparator = front.splitOnP isSeparator ++ [[]] :=
      List.splitOnP_append_cons front [] rfl
    unfold segments
    rw [List.dropLast_concat, hpieces, List.filter_append]
    simp
  · rfl

/-- The pieces of a path with its separators written as slashes are those of the path. -/
theorem splitOnP_map_slash (path : List Char) :
    (path.map fun c => if c = '\\' then '/' else c).splitOnP isSeparator =
      path.splitOnP isSeparator := by
  induction path with
  | nil => rfl
  | cons c rest ih =>
    rw [List.map_cons, List.splitOnP_cons_eq_if_modifyHead, List.splitOnP_cons_eq_if_modifyHead,
      ih]
    by_cases hc : c = '\\'
    · subst hc
      rfl
    · rw [if_neg hc]

/-- No backslash is left where separators are written as slashes. -/
theorem not_mem_map_slash (path : List Char) :
    '\\' ∉ path.map fun c => if c = '\\' then '/' else c := by
  intro h
  obtain ⟨c, -, hc⟩ := List.mem_map.1 h
  split at hc
  · cases hc
  · next hne => exact hne hc

/-- A path without backslash has only slashes to be cut at. -/
theorem splitOn_slash {path : List Char} (h : '\\' ∉ path) :
    path.splitOn '/' = path.splitOnP isSeparator := by
  induction path with
  | nil => rfl
  | cons c rest ih =>
    obtain ⟨hc, hrest⟩ := List.ne_and_not_mem_of_not_mem_cons h
    rw [List.splitOn_cons_eq_if_modifyHead, List.splitOnP_cons_eq_if_modifyHead, ih hrest]
    have hsame : isSeparator c = (c == '/') := by
      rw [Bool.eq_iff_iff]
      simp [isSeparator, Ne.symm hc]
    rw [hsame]

/-! ## Identities by root and segments -/

/-- Empty segments do not count. -/
theorem resolve_filter (rooted : Bool) (pieces : List (List Char)) :
    resolve rooted (pieces.filter (· ≠ [])) = resolve rooted pieces := by
  have hstep : (fun (stack : List (List Char)) segment =>
      if decide (segment ≠ []) = true then pushSegment rooted stack segment else stack) =
        pushSegment rooted := by
    funext stack segment
    by_cases hsegment : segment = []
    · simp [hsegment, pushSegment]
    · simp [hsegment]
  unfold resolve
  rw [List.foldl_filter, hstep]

/-- A path names a place by a root and segments: written with slashes it is absolute, and it is that
root with a rest that has those segments. -/
structure Names (path root : List Char) (names : List (List Char)) : Prop where
  /-- The path is absolute. -/
  absolute : isAbsoluteChars (slashChars path) = true
  /-- It begins with the root. -/
  root : (splitRoot (slashChars path)).1 = root
  /-- No backslash is left after the root. -/
  plain : '\\' ∉ (splitRoot (slashChars path)).2
  /-- What follows the root has the segments. -/
  segments : segments (splitRoot (slashChars path)).2 = names

/-- The identity of a path is its root, and then its segments resolved and joined by slashes. -/
theorem Names.identityChars_eq {path root : List Char} {names : List (List Char)}
    (h : Names path root names) (base : List Char) :
    identityChars path base = root ++ List.intercalate ['/'] (resolve (root ≠ []) names) := by
  unfold identityChars
  dsimp only
  rw [if_pos h.absolute]
  unfold normalize
  dsimp only
  rw [h.root, splitOn_slash h.plain, ← resolve_filter]
  change root ++ List.intercalate ['/'] (resolve (root ≠ []) (Path.segments _)) = _
  rw [h.segments]

/-- An absolute path names a place by its root and the segments of what is written after it. -/
theorem Names.of_splitRoot {path root rest : List Char}
    (habsolute : isAbsoluteChars (slashChars path) = true)
    (hroot : splitRoot (slashChars path) =
      (root, rest.map fun c => if c = '\\' then '/' else c)) :
    Names path root (Path.segments rest) := by
  constructor
  case absolute => exact habsolute
  case root => rw [hroot]
  case plain =>
    rw [hroot]
    exact not_mem_map_slash rest
  case segments =>
    rw [hroot]
    unfold Path.segments
    rw [splitOnP_map_slash]

/-- A letter is no separator. -/
theorem isSeparator_of_isAlpha {c : Char} (hc : c.isAlpha = true) : isSeparator c = false := by
  have hslash : c ≠ '/' := by
    rintro rfl
    cases hc
  have hbackslash : c ≠ '\\' := by
    rintro rfl
    cases hc
  simp [isSeparator, hslash, hbackslash]

/-- Written with slashes, a path is changed character by character, unless it is extended-length. -/
theorem slashChars_eq {path : List Char} (h : ['\\', '\\', '?', '\\'].isPrefixOf path = false) :
    slashChars path = path.map fun c => if c = '\\' then '/' else c := by
  unfold slashChars
  rw [h]
  rfl

/-- A separator is written as a slash. -/
theorem slash_of_isSeparator {s : Char} (hs : isSeparator s = true) :
    (if s = '\\' then '/' else s) = '/' := by
  split
  · rfl
  · next hne => simpa [isSeparator, hne] using hs

/-- A drive path names a place on its drive. -/
theorem names_drive {d s : Char} (hd : d.isAlpha = true) (hs : isSeparator s = true)
    (rest : List Char) : Names (d :: ':' :: s :: rest) [d, ':', '/'] (segments rest) := by
  have hbackslash : d ≠ '\\' := by
    rintro rfl
    cases hd
  have hslash : slashChars (d :: ':' :: s :: rest) =
      d :: ':' :: '/' :: rest.map fun c => if c = '\\' then '/' else c := by
    rw [slashChars_eq (by simp [List.isPrefixOf])]
    simp [hbackslash, slash_of_isSeparator hs]
  have hroot : splitRoot (slashChars (d :: ':' :: s :: rest)) =
      ([d, ':', '/'], rest.map fun c => if c = '\\' then '/' else c) := by
    rw [hslash]
    simp [splitRoot, hd]
  refine .of_splitRoot ?_ hroot
  rw [hslash]
  simp [isAbsoluteChars, hd, isSeparator]

/-- A path with two separators in front names a place on a share, unless it is extended-length. -/
theorem names_share {s s' : Char} (hs : isSeparator s = true) (hs' : isSeparator s' = true)
    {rest : List Char} (hplain : ['\\', '\\', '?', '\\'].isPrefixOf (s :: s' :: rest) = false) :
    Names (s :: s' :: rest) ['/', '/'] (segments rest) := by
  have hslash : slashChars (s :: s' :: rest) =
      '/' :: '/' :: rest.map fun c => if c = '\\' then '/' else c := by
    rw [slashChars_eq hplain, List.map_cons, List.map_cons, slash_of_isSeparator hs,
      slash_of_isSeparator hs']
  have hroot : splitRoot (slashChars (s :: s' :: rest)) =
      (['/', '/'], rest.map fun c => if c = '\\' then '/' else c) := by
    rw [hslash]
    rfl
  refine .of_splitRoot ?_ hroot
  rw [hslash]
  rfl

/-- The root of a path with one slash in front is that slash. -/
theorem splitRoot_slash {rest : List Char} (hrest : rest.head? ≠ some '/') :
    splitRoot ('/' :: rest) = (['/'], rest) := by
  unfold splitRoot
  split
  · next rest' heq =>
    obtain ⟨-, rfl⟩ := List.cons.inj heq
    exact absurd rfl hrest
  · next rest' _ heq =>
    obtain ⟨-, rfl⟩ := List.cons.inj heq
    -- A slash is no drive letter.
    dsimp only
    split
    · next heq =>
      rw [← (List.cons.inj heq).1]
      rfl
    · rfl
  · next hother => exact absurd rfl (hother rest)

/-- A path with one separator in front names a place below the root directory. -/
theorem names_rooted {s : Char} (hs : isSeparator s = true) {rest : List Char}
    (hrest : ∀ c ∈ rest.head?, isSeparator c = false) :
    Names (s :: rest) ['/'] (segments rest) := by
  have hslash : slashChars (s :: rest) =
      '/' :: rest.map fun c => if c = '\\' then '/' else c := by
    rw [slashChars_eq, List.map_cons, slash_of_isSeparator hs]
    cases rest with
    | nil => simp [List.isPrefixOf]
    | cons c others =>
      have hc : c ≠ '\\' := by
        rintro rfl
        cases hrest '\\' rfl
      simp [List.isPrefixOf, Ne.symm hc]
  -- The character after the separator is no slash, so that the root is not that of a share.
  have hroot : splitRoot (slashChars (s :: rest)) =
      (['/'], rest.map fun c => if c = '\\' then '/' else c) := by
    rw [hslash]
    refine splitRoot_slash fun hhead => ?_
    rw [List.head?_map] at hhead
    obtain ⟨c, hc, hcslash⟩ := Option.map_eq_some_iff.1 hhead
    have hseparator := hrest c hc
    split at hcslash
    · next heq =>
      rw [heq] at hseparator
      cases hseparator
    · rw [hcslash] at hseparator
      cases hseparator
  refine .of_splitRoot ?_ hroot
  rw [hslash]
  rfl

/-! ## The form on a command line -/

/-- The pieces of a text that is cut hold none of the characters at which it is cut. -/
theorem of_mem_splitOnP {p : Char → Bool} {text piece : List Char}
    (hpiece : piece ∈ text.splitOnP p) : ∀ c ∈ piece, p c = false := by
  induction text generalizing piece with
  | nil =>
    obtain rfl := List.mem_singleton.1 hpiece
    exact fun c hc => absurd hc List.not_mem_nil
  | cons c rest ih =>
    rw [List.splitOnP_cons_eq_if_modifyHead] at hpiece
    split at hpiece
    · rcases List.mem_cons.1 hpiece with rfl | hpiece
      · exact fun c hc => absurd hc List.not_mem_nil
      · exact ih hpiece
    · next hc =>
      obtain ⟨first, others, hsplit⟩ := List.exists_cons_of_ne_nil (List.splitOnP_ne_nil p rest)
      rw [hsplit] at hpiece ih
      rcases List.mem_cons.1 hpiece with rfl | hpiece
      · intro c' hc'
        rcases List.mem_cons.1 hc' with rfl | hc'
        · exact Bool.eq_false_iff.2 hc
        · exact ih List.mem_cons_self c' hc'
      · exact ih (List.mem_cons_of_mem _ hpiece)

/-- The segments of a path hold no separator, and none of them is empty. -/
theorem of_mem_segments {path name : List Char} (h : name ∈ segments path) :
    name ≠ [] ∧ ∀ c ∈ name, isSeparator c = false := by
  obtain ⟨hpiece, hne⟩ := List.mem_filter.1 h
  exact ⟨of_decide_eq_true hne, of_mem_splitOnP hpiece⟩

/-- A path that is more than separators has a segment. -/
theorem segments_ne_nil {path : List Char} (h : ∃ c ∈ path, isSeparator c = false) :
    segments path ≠ [] := by
  obtain ⟨c, hmem, hc⟩ := h
  induction path with
  | nil => exact absurd hmem List.not_mem_nil
  | cons first rest ih =>
    by_cases hfirst : isSeparator first = true
    · rw [segments_cons_separator hfirst]
      rcases List.mem_cons.1 hmem with rfl | hmem
      · rw [hc] at hfirst
        cases hfirst
      · exact ih hmem
    · obtain ⟨piece, others, hsplit⟩ :=
        List.exists_cons_of_ne_nil (List.splitOnP_ne_nil isSeparator rest)
      unfold segments
      rw [List.splitOnP_cons_eq_if_modifyHead, if_neg hfirst, hsplit]
      simp

/-- Segments that are joined by slashes are the segments of the whole. -/
theorem segments_intercalate {names : List (List Char)}
    (h : ∀ name ∈ names, name ≠ [] ∧ ∀ c ∈ name, isSeparator c = false) :
    segments (List.intercalate ['/'] names) = names := by
  induction names with
  | nil => rfl
  | cons name rest ih =>
    obtain ⟨hne, hname⟩ := h name List.mem_cons_self
    have ih := ih fun other hother => h other (List.mem_cons_of_mem _ hother)
    cases rest with
    | nil =>
      unfold segments
      rw [List.intercalate_singleton, List.splitOnP_eq_singleton hname]
      simp [hne]
    | cons next others =>
      have hsplit : (List.intercalate ['/'] (name :: next :: others)).splitOnP isSeparator =
          name :: (List.intercalate ['/'] (next :: others)).splitOnP isSeparator := by
        rw [List.intercalate_cons_cons, List.append_assoc]
        exact List.splitOnP_append_cons_of_forall_mem hname '/' rfl _
      unfold segments at ih ⊢
      rw [hsplit, List.filter_cons_of_pos (by simpa using hne), ih]

/-- Dropping a final slash keeps the first character and takes at most one off the end. -/
theorem dropFinalSlash_cons (c : Char) (rest : List Char) :
    ∃ front, dropFinalSlash (c :: rest) = c :: front ∧ front <+: rest := by
  unfold dropFinalSlash
  split
  · next h =>
    have hlength : 1 < (c :: rest).length := of_decide_eq_true (Bool.and_eq_true_iff.1 h).1
    have hne : rest ≠ [] := by
      rintro rfl
      simp at hlength
    exact ⟨rest.dropLast, List.dropLast_cons_of_ne_nil hne, List.dropLast_prefix rest⟩
  · exact ⟨rest, rfl, List.prefix_refl rest⟩

/-- The plain form of a path with a separator in front is one slash, and then no separator but the
same segments. -/
theorem plainChars_separator {s : Char} (hs : isSeparator s = true) (rest : List Char) :
    ∃ front, plainChars (s :: rest) = '/' :: front ∧
      (∀ c ∈ front.head?, isSeparator c = false) ∧ segments front = segments rest := by
  have hcollapse : collapse false (s :: rest) = '/' :: collapse true rest := by
    simp [collapse, hs]
  obtain ⟨front, hfront, hprefix⟩ := dropFinalSlash_cons '/' (collapse true rest)
  refine ⟨front, ?_, fun c hc => ?_, ?_⟩
  · -- What stands before a colon begins with a slash, and is no drive.
    have hdrive : afterDrive? ('/' :: front) = none := by simp [afterDrive?]
    unfold plainChars
    rw [hcollapse, hfront]
    simp only [hdrive]
    rfl
  · -- The first character is that of the collapsed path, which is neither kind of separator.
    obtain ⟨tail, htail⟩ := hprefix
    have hhead : (collapse true rest).head? = some c := by
      rw [← htail, List.head?_append, hc]
      rfl
    have hslash : c ≠ '/' := by
      rintro rfl
      exact head?_collapse rest hhead
    have hbackslash : c ≠ '\\' := by
      rintro rfl
      exact not_mem_collapse true rest (List.mem_of_mem_head? hhead)
    simp [isSeparator, hslash, hbackslash]
  · calc segments front
        = segments ('/' :: front) := (segments_cons_separator rfl front).symm
      _ = segments ('/' :: collapse true rest) := by rw [← hfront, segments_dropFinalSlash]
      _ = segments (collapse true rest) := segments_cons_separator rfl _
      _ = segments rest := (collapse_aligned rest).2

/-- A drive path is handed over as its drive and its segments. -/
theorem commandChars_drive {d s : Char} (hd : d.isAlpha = true) (hs : isSeparator s = true)
    {rest : List Char} (hrest : ∃ c ∈ rest, isSeparator c = false) :
    commandChars (d :: ':' :: s :: rest) =
      d :: ':' :: '/' :: List.intercalate ['/'] (segments rest) := by
  have hletters : ∀ c ∈ [d, ':'], isSeparator c = false := by
    intro c hc
    rcases List.mem_cons.1 hc with rfl | hc
    · exact isSeparator_of_isAlpha hd
    · obtain rfl := List.mem_singleton.1 hc
      rfl
  have hsplit : ([d, ':'] ++ s :: rest).splitOnP isSeparator =
      [d, ':'] :: rest.splitOnP isSeparator :=
    List.splitOnP_append_cons_of_forall_mem hletters s hs rest
  have hsegments : segments (d :: ':' :: s :: rest) = [d, ':'] :: segments rest := by
    change List.filter _ (([d, ':'] ++ s :: rest).splitOnP isSeparator) = _
    rw [hsplit]
    rfl
  have hcommand : commandChars (d :: ':' :: s :: rest) =
      List.intercalate ['/'] (segments (d :: ':' :: s :: rest)) := by
    simp only [commandChars, hd, hs, if_true]
    rfl
  rw [hcommand, hsegments, List.intercalate_cons_of_ne_nil (segments_ne_nil hrest)]
  rfl

/-- A path with one separator in front is handed over in its plain form. -/
theorem commandChars_separator {s : Char} (hs : isSeparator s = true) {rest : List Char}
    (hrest : ∀ c ∈ rest.head?, isSeparator c = false) :
    commandChars (s :: rest) = plainChars (s :: rest) := by
  have hletter : s.isAlpha = false := by
    refine Bool.eq_false_iff.2 fun hs' => ?_
    rw [isSeparator_of_isAlpha hs'] at hs
    cases hs
  have hshare : ['\\', '\\'].isPrefixOf (s :: rest) = false := by
    cases rest with
    | nil => simp [List.isPrefixOf]
    | cons c others =>
      have hc : c ≠ '\\' := by
        rintro rfl
        cases hrest '\\' rfl
      simp [List.isPrefixOf, Ne.symm hc]
  unfold commandChars
  rw [hshare, if_neg Bool.false_ne_true]
  dsimp only
  split
  · next heq =>
    obtain ⟨rfl, -⟩ := List.cons.inj heq
    rw [hletter]
    rfl
  · rfl

/-- Two paths name one place: they have a root and segments in common. -/
def SamePlace (path other : List Char) : Prop :=
  ∃ root names, Names path root names ∧ Names other root names

/-- Paths that name one place have one identity. -/
theorem SamePlace.identityChars_eq {path other : List Char} (h : SamePlace path other)
    (base : List Char) : identityChars path base = identityChars other base := by
  obtain ⟨root, names, hpath, hother⟩ := h
  rw [hpath.identityChars_eq, hother.identityChars_eq]

/-- A path with one separator in front is handed over as a name of its place. -/
theorem samePlace_rooted {s : Char} (hs : isSeparator s = true) {rest : List Char}
    (hrest : ∀ c ∈ rest.head?, isSeparator c = false) :
    SamePlace (commandChars (s :: rest)) (s :: rest) := by
  obtain ⟨front, hfront, hhead, hsegments⟩ := plainChars_separator hs rest
  refine ⟨['/'], segments rest, ?_, names_rooted hs hrest⟩
  rw [commandChars_separator hs hrest, hfront, ← hsegments]
  exact names_rooted rfl hhead

/-- So is a share path. -/
theorem samePlace_share {rest : List Char}
    (hplain : ['\\', '\\', '?', '\\'].isPrefixOf ('\\' :: '\\' :: rest) = false) :
    SamePlace (commandChars ('\\' :: '\\' :: rest)) ('\\' :: '\\' :: rest) := by
  obtain ⟨front, hfront, -, hsegments⟩ :
      ∃ front, plainChars ('\\' :: '\\' :: rest) = '/' :: front ∧ _ ∧ _ :=
    plainChars_separator rfl ('\\' :: rest)
  have hcommand : commandChars ('\\' :: '\\' :: rest) = '/' :: '/' :: front := by
    rw [← hfront]
    rfl
  have hrest : segments front = segments rest := by
    rw [hsegments]
    exact segments_cons_separator rfl rest
  refine ⟨['/', '/'], segments rest, ?_, names_share rfl rfl hplain⟩
  rw [hcommand, ← hrest]
  exact names_share rfl rfl rfl

/-- And so is a drive path, if there is more than the drive. -/
theorem samePlace_drive {d s : Char} (hd : d.isAlpha = true) (hs : isSeparator s = true)
    {rest : List Char} (hrest : ∃ c ∈ rest, isSeparator c = false) :
    SamePlace (commandChars (d :: ':' :: s :: rest)) (d :: ':' :: s :: rest) := by
  have hsegments : segments (List.intercalate ['/'] (segments rest)) = segments rest :=
    segments_intercalate fun _ hname => of_mem_segments hname
  refine ⟨[d, ':', '/'], segments rest, ?_, names_drive hd hs rest⟩
  rw [commandChars_drive hd hs hrest]
  -- Only the segments after the root are written anew.
  have hnames := names_drive hd (s := '/') rfl (List.intercalate ['/'] (segments rest))
  rw [hsegments] at hnames
  exact hnames

/-- An absolute path has a separator in front, or a drive and then a separator. -/
theorem of_isAbsoluteChars {path : List Char} (h : isAbsoluteChars path = true) :
    (∃ s rest, path = s :: rest ∧ isSeparator s = true) ∨
      ∃ d s rest, path = d :: ':' :: s :: rest ∧ d.isAlpha = true ∧ isSeparator s = true := by
  cases path with
  | nil => cases h
  | cons c rest =>
    unfold isAbsoluteChars at h
    rcases Bool.or_eq_true_iff.1 h with hc | hdrive
    · exact .inl ⟨c, rest, rfl, hc⟩
    · obtain ⟨hc, hrest⟩ := Bool.and_eq_true_iff.1 hdrive
      split at hrest
      · next s others => exact .inr ⟨c, s, others, rfl, hc, hrest⟩
      · cases hrest

end Path

/-- The form of a path on a command line has the identity of the path, for every absolute path that
is not extended-length, that has two separators in front only if both are backslashes, and that goes
on after its drive if it has one. So what an analyzer prints about the file it was handed, under the
very name it was handed, is a finding on the document. -/
theorem identity_commandForm {path : String} (habsolute : Path.isAbsolute path = true)
    (hplain : ['\\', '\\', '?', '\\'].isPrefixOf path.toList = false)
    (hshare : ∀ a b rest, path.toList = a :: b :: rest → Path.isSeparator a = true →
      Path.isSeparator b = true → a = '\\' ∧ b = '\\')
    (hdrive : ∀ d s rest, path.toList = d :: ':' :: s :: rest → d.isAlpha = true →
      Path.isSeparator s = true → ∃ c ∈ rest, Path.isSeparator c = false) :
    (∀ base, Path.identity (Path.commandForm path) base = Path.identity path base) ∧
    ∀ (r : PassRequest) (l : Linter), r.file = path → l.handed r.file r.shadow = r.file →
      ∃ name, (l.arguments r.file r.shadow).getLast? = some name ∧ ∀ d : Diagnostic,
        d.fileName = name → r.locate d = (r.document, .ofDiagnostic d r.lines) := by
  have hidentity : ∀ base,
      Path.identity (Path.commandForm path) base = Path.identity path base := by
    intro base
    unfold Path.identity Path.commandForm
    rw [String.toList_ofList]
    refine congrArg String.ofList (Path.SamePlace.identityChars_eq ?_ base.toList)
    rcases Path.of_isAbsoluteChars habsolute with
      ⟨s, rest, hpath, hs⟩ | ⟨d, s, rest, hpath, hd, hs⟩
    · rw [hpath] at hplain ⊢
      by_cases hrest : ∀ c ∈ rest.head?, Path.isSeparator c = false
      · exact Path.samePlace_rooted hs hrest
      · -- A second separator follows, so that both are backslashes.
        cases rest with
        | nil => exact absurd (fun c hc => by cases hc) hrest
        | cons b others =>
          have hb : Path.isSeparator b = true := by simpa using hrest
          obtain ⟨rfl, rfl⟩ := hshare s b others hpath hs hb
          exact Path.samePlace_share hplain
    · rw [hpath]
      exact Path.samePlace_drive hd hs (hdrive d s rest hpath hd hs)
  refine ⟨hidentity, ?_⟩
  rintro r l rfl hhanded
  refine ⟨Path.commandForm r.file, ?_, fun d hd => ?_⟩
  · rw [Linter.getLast?_arguments, hhanded]
  · have hdocument : r.identity d.fileName = r.document := by
      unfold PassRequest.document PassRequest.identity
      rw [hd, hidentity]
    unfold PassRequest.locate
    dsimp only
    rw [hdocument, if_pos rfl]

namespace OnDrive

/-- A request for a document on a drive, by a path that goes down and up again. -/
def request : PassRequest where
  file := "C:\\ws\\src\\\\..\\a.c"
  root := "C:\\ws"
  shadow := ""
  text := "int a;"
  trigger := .onSave
  excluded := []
  debug := false

/-- What Lizard says about it, under the name that it was handed. -/
def complaint : Diagnostic where
  fileName := "C:/ws/src/../a.c"
  line := 4
  column := 0
  severity := .warning
  code := some Lizard.rule
  message := "f is too complex"
  source := "Lizard"

end OnDrive

/-- What is said about a drive path under the name on the command line is a finding on the document,
which has another name. -/
theorem finding_on_drive_path :
    (Linter.make .lizard .initial ∅ "C:\\ws").arguments OnDrive.request.file "" =
      ["--warnings_only", OnDrive.complaint.fileName] ∧
    OnDrive.request.document = "C:/ws/a.c" ∧
    OnDrive.request.locate OnDrive.complaint =
      ("C:/ws/a.c", .ofDiagnostic OnDrive.complaint OnDrive.request.lines) := by
  have hpath : OnDrive.request.file.toList =
      'C' :: ':' :: '\\' :: "ws\\src\\\\..\\a.c".toList := by decide
  obtain ⟨name, hname, hlocate⟩ := (@identity_commandForm OnDrive.request.file (by decide)
    (by decide)
    (fun a b rest h ha hb => by
      rw [hpath] at h
      rw [← (List.cons.inj h).1] at ha
      cases ha)
    (fun d s rest h hd hs => by
      rw [hpath] at h
      obtain ⟨-, -, -, rfl⟩ := h
      exact ⟨'w', by decide, rfl⟩)).2 OnDrive.request
        (Linter.make .lizard .initial ∅ "C:\\ws") rfl rfl
  have harguments : (Linter.make .lizard .initial ∅ "C:\\ws").arguments OnDrive.request.file "" =
      ["--warnings_only", OnDrive.complaint.fileName] := by decide +kernel
  have hdocument : OnDrive.request.document = "C:/ws/a.c" := by decide +kernel
  refine ⟨harguments, hdocument, ?_⟩
  rw [← hdocument]
  refine hlocate OnDrive.complaint ?_
  rw [show OnDrive.request.shadow = "" from rfl, harguments] at hname
  exact Option.some.inj hname

end LintRelay
