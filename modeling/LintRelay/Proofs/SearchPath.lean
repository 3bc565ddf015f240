import LintRelay.Host
import LintRelay.Proofs.Canonical
import LintRelay.Proofs.Finding
import LintRelay.Proofs.WorkspaceRoot

/-!
# Where programs are looked up

The search path is one text: the extra directory and the directories of the host's path, each once,
joined by colons. It lists the first occurrences in order (`FirstOccurrences`), since the filter of
the program is `keepFirst` (`Host.distinctDirectories_eq`) and a text of parts without colon can be
split again (`Host.splitPath_intercalate`). The directories of a path hold no colon, but the extra
directory can; the search path is then empty, and all directories are lost.

Directories count as one if they have the same steps, although their texts may differ. A directory
that is not listed is then searched under another text. Following a path sees its steps only
(`Tree.follow_filter`), so that the same programs are there, as long as the text is not too long
(`Tree.isProgram_of_same`). With this, `Host.searchPath_lists_iff` says what is listed and found.
-/

namespace LintRelay

/-! ## First occurrences -/

/-- The directories that are listed are the first occurrences of directories, in order. -/
structure FirstOccurrences (dirs listed : List String) : Prop where
  /-- No directory is listed twice. -/
  distinct : listed.Pairwise fun a b => Path.same a b = false
  /-- None is lost. -/
  complete : ∀ d ∈ dirs, ∃ e ∈ listed, Path.same e d = true
  /-- What is listed stands where nothing came before that is not listed before it. -/
  ordered : ∀ front d back, listed = front ++ d :: back →
    ∃ before after, dirs = before ++ d :: after ∧
      ∀ e ∈ before, ∃ f ∈ front, Path.same f e = true

/-- Having the same steps is an equivalence. -/
theorem Path.same_equivalence : Equivalence fun a b => Path.same a b = true := by
  unfold Path.same
  constructor
  · exact fun a => decide_eq_true rfl
  · exact fun h => decide_eq_true (of_decide_eq_true h).symm
  · exact fun h h' => decide_eq_true ((of_decide_eq_true h).trans (of_decide_eq_true h'))

theorem Path.same_comm (a b : String) : Path.same a b = Path.same b a := by
  unfold Path.same
  exact decide_eq_decide.2 eq_comm

/-- What is kept stands where everything before is alike to something kept before. -/
theorem keepFirst_ordered {α : Type} {alike : α → α → Bool}
    (halike : Equivalence fun a b => alike a b = true) {l front back : List α} {d : α}
    (h : keepFirst alike l = front ++ d :: back) :
    ∃ before after, l = before ++ d :: after ∧ ∀ e ∈ before, ∃ f ∈ front, alike f e = true := by
  induction l generalizing front back with
  | nil => simp [keepFirst] at h
  | cons a rest ih =>
    unfold keepFirst at h
    cases front with
    | nil =>
      obtain ⟨rfl, -⟩ := List.cons.inj h
      exact ⟨[], rest, rfl, fun e he => absurd he List.not_mem_nil⟩
    | cons first front =>
      obtain ⟨rfl, hrest⟩ := List.cons.inj h
      -- The filter took away what is alike to the first element only.
      obtain ⟨l₁, l₂, hkept, hfront, hback⟩ := List.filter_eq_append_iff.1 hrest
      obtain ⟨l₃, l₄, rfl, hskipped, -, -⟩ := List.filter_eq_cons_iff.1 hback
      rw [← List.append_assoc] at hkept
      obtain ⟨before, after, rfl, hbefore⟩ := ih hkept
      refine ⟨a :: before, after, rfl, fun e he => ?_⟩
      rcases List.mem_cons.1 he with rfl | he
      · exact ⟨e, List.mem_cons_self, halike.refl e⟩
      obtain ⟨f, hf, hfe⟩ := hbefore e he
      by_cases haf : alike a f = true
      · exact ⟨a, List.mem_cons_self, halike.trans haf hfe⟩
      · refine ⟨f, List.mem_cons_of_mem _ ?_, hfe⟩
        rcases List.mem_append.1 hf with hf | hf
        · rw [← hfront]
          exact List.mem_filter.2 ⟨hf, by simpa using haf⟩
        · exact absurd (by simpa using haf) (hskipped f hf)

theorem firstOccurrences_keepFirst (dirs : List String) :
    FirstOccurrences dirs (keepFirst Path.same dirs) where
  distinct := keepFirst_pairwise Path.same dirs
  complete _ hd := exists_mem_keepFirst Path.same_equivalence hd
  ordered _ _ _ h := keepFirst_ordered Path.same_equivalence h

/-- The first directory is listed first. -/
theorem FirstOccurrences.head? {first : String} {dirs listed : List String}
    (h : FirstOccurrences (first :: dirs) listed) : listed.head? = some first := by
  cases listed with
  | nil =>
    obtain ⟨e, he, -⟩ := h.complete first List.mem_cons_self
    exact absurd he List.not_mem_nil
  | cons d rest =>
    obtain ⟨before, after, hdirs, hbefore⟩ := h.ordered [] d rest rfl
    cases before with
    | nil => rw [(List.cons.inj hdirs).1]; rfl
    | cons e before =>
      obtain ⟨f, hf, -⟩ := hbefore e List.mem_cons_self
      exact absurd hf List.not_mem_nil

namespace Host

/-- What is not among the directories seen is what is kept first of those not seen. -/
theorem keepDistinct_eq (seen dirs : List String) :
    distinctDirectories.keepDistinct seen dirs =
      (keepFirst Path.same dirs).filter fun d => !seen.any (Path.same d) := by
  induction dirs generalizing seen with
  | nil => rfl
  | cons dir rest ih =>
    unfold distinctDirectories.keepDistinct keepFirst
    split
    · next hseen =>
      rw [ih, List.filter_cons_of_neg (by simp [hseen]), List.filter_filter]
      refine List.filter_congr fun d _ => ?_
      -- What has the steps of the directory has been seen as well.
      cases hsame : Path.same dir d with
      | false => simp
      | true =>
        obtain ⟨e, he, hdir⟩ := List.any_eq_true.1 hseen
        have hd : seen.any (Path.same d) = true := List.any_eq_true.2
          ⟨e, he, Path.same_equivalence.trans (Path.same_equivalence.symm hsame) hdir⟩
        rw [hd]
        rfl
    · next hseen =>
      rw [ih, List.filter_cons_of_pos (by simpa using hseen), List.filter_filter]
      refine congrArg (dir :: ·) (List.filter_congr fun d _ => ?_)
      rw [List.any_append, Bool.not_or, List.any_cons, List.any_nil, Bool.or_false,
        Path.same_comm d dir]

/-- The directories that are joined are the first occurrences. -/
theorem distinctDirectories_eq (dirs : List String) :
    distinctDirectories dirs = keepFirst Path.same dirs := by
  unfold distinctDirectories
  rw [keepDistinct_eq]
  exact List.filter_eq_self.2 fun _ _ => rfl

/-! ## The text of a search path -/

/-- The directories of a search path hold no colon. -/
theorem not_mem_of_mem_splitPath {path dir : String} (h : dir ∈ splitPath path) :
    ':' ∉ dir.toList := by
  obtain ⟨piece, hpiece, rfl⟩ := List.mem_map.1 h
  rw [List.splitOn_eq_splitOnP] at hpiece
  rw [String.toList_ofList]
  intro hcolon
  have hnone := Path.of_mem_splitOnP hpiece ':' hcolon
  exact absurd hnone (by decide)

/-- Directories that hold no colon can be joined and split again. -/
theorem splitPath_intercalate {dirs : List String} (hne : dirs ≠ [])
    (hdirs : ∀ d ∈ dirs, ':' ∉ d.toList) : splitPath (":".intercalate dirs) = dirs := by
  have hcolon : ∀ piece ∈ dirs.map String.toList, ':' ∉ piece := by
    intro piece hpiece
    obtain ⟨d, hd, rfl⟩ := List.mem_map.1 hpiece
    exact hdirs d hd
  have hsplit := List.splitOn_intercalate ':' hcolon (by simpa using hne)
  unfold splitPath
  rw [String.toList_intercalate]
  change ((List.intercalate [':'] (dirs.map String.toList)).splitOn ':').map String.ofList = dirs
  rw [hsplit, List.map_map]
  refine (List.map_congr_left fun d _ => ?_).trans (List.map_id dirs)
  exact String.ofList_toList

theorem splitPath_ne_nil (path : String) : splitPath path ≠ [] := by
  unfold splitPath
  simp

/-- A search path without colon in the extra directory lists the first occurrences, and one with a
colon there is empty. -/
theorem searchPath_eq {h : Host} {path : String} (hpath : h.path = some path) :
    ((∀ extra, h.extraDirectory = some extra → ':' ∉ extra.toList) ∧
      splitPath h.searchPath =
        keepFirst Path.same (h.extraDirectory.toList ++ splitPath path)) ∨
    ∃ extra, h.extraDirectory = some extra ∧ ':' ∈ extra.toList ∧ h.searchPath = "" := by
  have hdirs : distinctDirectories (h.extraDirectory.toList ++ ((h.path.map splitPath).getD [])) =
      keepFirst Path.same (h.extraDirectory.toList ++ splitPath path) := by
    rw [hpath, distinctDirectories_eq]
    rfl
  have hne : keepFirst Path.same (h.extraDirectory.toList ++ splitPath path) ≠ [] := by
    intro hnil
    obtain ⟨d, hd⟩ := List.exists_mem_of_ne_nil _ (splitPath_ne_nil path)
    obtain ⟨e, he, -⟩ := (firstOccurrences_keepFirst _).complete d
      (List.mem_append_right h.extraDirectory.toList hd)
    rw [hnil] at he
    exact absurd he List.not_mem_nil
  unfold searchPath
  dsimp only
  rw [hdirs]
  split
  · next hcolon =>
    -- What holds a colon is listed, and it is no directory of the path.
    obtain ⟨d, hd, hd'⟩ := List.any_eq_true.1 hcolon
    have hmem := (keepFirst_sublist Path.same _).subset hd
    rcases List.mem_append.1 hmem with hextra | hsplit
    · exact .inr ⟨d, Option.mem_toList.1 hextra, List.contains_iff_mem.1 hd', rfl⟩
    · exact absurd (List.contains_iff_mem.1 hd') (not_mem_of_mem_splitPath hsplit)
  · next hcolon =>
    have hnone : ∀ d ∈ keepFirst Path.same (h.extraDirectory.toList ++ splitPath path),
        ':' ∉ d.toList := by
      intro d hd hmem
      exact hcolon (List.any_eq_true.2 ⟨d, hd, List.contains_iff_mem.2 hmem⟩)
    refine .inl ⟨fun extra hextra => ?_, splitPath_intercalate hne hnone⟩
    rw [hextra] at hnone
    exact hnone extra List.mem_cons_self

end Host

/-! ## The same directory under another text -/

namespace Path

/-- Segments that stand for steps are the texts of the steps. -/
theorem map_text_filterMap (segments : List (List Char)) :
    (segments.filterMap step?).map Component.text = segments.filter isStep := by
  induction segments with
  | nil => rfl
  | cons segment rest ih =>
    cases hstep : step? segment with
    | none =>
      rw [List.filterMap_cons_none hstep, List.filter_cons_of_neg (by simp [isStep, hstep]), ih]
    | some step =>
      have htext : step.text = segment := by
        unfold step? at hstep
        split at hstep
        · cases hstep
        · split at hstep
          · next hup => rw [← Option.some.inj hstep, hup]; rfl
          · rw [← Option.some.inj hstep]; rfl
      rw [List.filterMap_cons_some hstep, List.filter_cons_of_pos (by simp [isStep, hstep]),
        List.map_cons, ih, htext]

/-- A path begins at the root directory if its steps do. -/
theorem isRooted_eq (path : List Char) :
    isRooted path = ((components path).head? = some .root : Bool) := by
  have hstep : ∀ segments : List (List Char), .root ∉ segments.filterMap step? := by
    intro segments hroot
    obtain ⟨segment, -, hsegment⟩ := List.mem_filterMap.1 hroot
    unfold step? at hsegment
    split at hsegment
    · cases hsegment
    · split at hsegment <;> cases hsegment
  unfold components
  dsimp only
  split
  · next hrooted => rw [hrooted]; rfl
  · next hrooted =>
    rw [Bool.eq_false_iff.2 hrooted]
    split
    · rfl
    · exact (decide_eq_false fun hhead => hstep _ (List.mem_of_head? hhead)).symm

/-- The names on a path from the root are told by its steps. -/
theorem names_eq {path : List Char} (h : isRooted path = true) :
    names path = (components path).tail.map Component.text := by
  unfold components
  dsimp only
  rw [if_pos h, List.tail_cons, map_text_filterMap]
  rfl

variable {path other : List Char}

theorem isRooted_congr (h : components path = components other) :
    isRooted path = isRooted other := by
  rw [isRooted_eq, isRooted_eq, h]

theorem names_congr (h : components path = components other) (hrooted : isRooted path = true) :
    names path = names other := by
  rw [names_eq hrooted, names_eq (isRooted_congr h ▸ hrooted), h]

/-- A path that is taken from a directory is told by its steps, unless it is absolute. -/
theorem fromDirectory_congr (directory : List Char) (h : components path = components other)
    (hrooted : isRooted path = false) :
    fromDirectory directory path = fromDirectory directory other := by
  have hother : isRooted other = false := isRooted_congr h ▸ hrooted
  unfold fromDirectory
  rw [hrooted, hother, h]
  rfl

/-- What is joined to a path from the root begins with the names of the path. -/
theorem exists_joinChars_eq {name : List Char} (hrooted : isRooted path = true)
    (hname : isRooted name = false) :
    ∃ front, joinChars path name = front ++ '/' :: name ∧ names front = names path := by
  have hne : path ≠ [] := by
    rintro rfl
    cases hrooted
  unfold joinChars
  rw [hname]
  by_cases hlast : path.getLast? = some '/'
  · obtain ⟨front, rfl⟩ := List.getLast?_eq_some_iff.1 hlast
    refine ⟨front, ?_, ?_⟩
    · rw [if_neg Bool.false_ne_true, if_pos (.inr hlast), List.append_assoc]
      rfl
    · rw [names_append]
      exact (List.append_nil _).symm
  · refine ⟨path, ?_, rfl⟩
    rw [if_neg Bool.false_ne_true, if_neg (not_or.2 ⟨hne, hlast⟩)]

/-- A character that is in no idle segment is in a path if it is in one of the path's names. -/
theorem mem_iff_exists_name {c : Char} (hslash : c ≠ '/') (hdot : c ≠ '.') :
    c ∈ path ↔ ∃ name ∈ names path, c ∈ name := by
  have hpath : List.intercalate ['/'] (path.splitOn '/') = path := List.intercalate_splitOn '/'
  constructor
  · intro hc
    rw [← hpath] at hc
    obtain ⟨piece, hpiece, hmem⟩ := (of_mem_intercalate hc).resolve_left hslash
    refine ⟨piece, List.mem_filter.2 ⟨hpiece, isStep_iff.2 ⟨List.ne_nil_of_mem hmem, ?_⟩⟩, hmem⟩
    rintro rfl
    exact hdot (List.mem_singleton.1 hmem)
  · rintro ⟨name, hname, hc⟩
    rw [← hpath]
    exact mem_intercalate (List.mem_filter.1 hname).1 hc

/-- The characters of what is joined to a path from the root, but for slashes and dots, are told by
the names of the path. -/
theorem mem_joinChars_iff {name : List Char} (hrooted : isRooted path = true)
    (hname : isRooted name = false) {c : Char} (hslash : c ≠ '/') (hdot : c ≠ '.') :
    c ∈ joinChars path name ↔ (∃ text ∈ names path, c ∈ text) ∨ c ∈ name := by
  obtain ⟨front, hjoin, hfront⟩ := exists_joinChars_eq hrooted hname
  rw [hjoin, List.mem_append, List.mem_cons, mem_iff_exists_name hslash hdot, hfront]
  exact or_congr_right (or_iff_right hslash)

end Path

namespace Tree

section Follow

variable {t : Tree} {names : List (List Char)}

/-- Nothing is followed from an entry that is missing. -/
theorem follow_of_missing (h : t.entry? names = none) (segments : List (List Char)) :
    t.follow names segments = .error .missing := by
  cases segments <;> rw [follow, h]

/-- Nothing is followed from a file. -/
theorem follow_of_file {content : Content} {program : Option Program}
    (h : t.entry? names = some (.file content program)) (segment : List Char)
    (rest : List (List Char)) : t.follow names (segment :: rest) = .error .notDirectory := by
  rw [follow, h]

/-- A segment is followed from a directory. -/
theorem follow_of_directory (h : t.entry? names = some .directory) (segment : List Char)
    (rest : List (List Char)) :
    t.follow names (segment :: rest) = if nameLimit < Text.byteCount segment then .error .tooLong
      else t.follow (Path.pushSegment true names segment) rest := by
  rw [follow, h]

end Follow

/-- A segment that stands for no step can be left out, unless it is the last. -/
theorem follow_idle (t : Tree) (names : List (List Char)) {segment : List Char}
    (hidle : Path.isStep segment = false) {rest : List (List Char)} (hrest : rest ≠ []) :
    t.follow names (segment :: rest) = t.follow names rest := by
  obtain ⟨following, others, rfl⟩ := List.exists_cons_of_ne_nil hrest
  have hsegment : segment = [] ∨ segment = ['.'] := by
    by_contra hstep
    exact absurd (Path.isStep_iff.2 (not_or.1 hstep)) (by simp [hidle])
  have hshort : ¬ nameLimit < Text.byteCount segment := by
    rcases hsegment with rfl | rfl <;> decide
  have hstay : Path.pushSegment true names segment = names := by
    unfold Path.pushSegment
    rw [if_pos hsegment]
  -- What follows needs a directory as well.
  cases hentry : t.entry? names with
  | none => rw [follow_of_missing hentry, follow_of_missing hentry]
  | some node =>
    cases node with
    | file content program => rw [follow_of_file hentry, follow_of_file hentry]
    | directory => rw [follow_of_directory hentry, if_neg hshort, hstay]

/-- Only the steps of a path in front of other segments matter. -/
theorem follow_filter (t : Tree) (names segments : List (List Char)) {rest : List (List Char)}
    (hrest : rest ≠ []) :
    t.follow names (segments ++ rest) = t.follow names (segments.filter Path.isStep ++ rest) := by
  induction segments generalizing names with
  | nil => rfl
  | cons segment segments ih =>
    cases hstep : Path.isStep segment with
    | false =>
      rw [List.filter_cons_of_neg (by simp [hstep]), List.cons_append,
        t.follow_idle names hstep (by simp [hrest]), ih]
    | true =>
      rw [List.filter_cons_of_pos hstep, List.cons_append, List.cons_append]
      cases hentry : t.entry? names with
      | none => rw [follow_of_missing hentry, follow_of_missing hentry]
      | some node =>
        cases node with
        | file content program => rw [follow_of_file hentry, follow_of_file hentry]
        | directory => rw [follow_of_directory hentry, follow_of_directory hentry, ih]

/-- What is at a name in a directory, given by a path from the root. -/
theorem stat_join (t : Tree) (directory : String) {dir name : String}
    (hrooted : Path.isRooted dir.toList = true) (hname : Path.isRooted name.toList = false) :
    t.stat directory (Path.join dir name) =
      if (Path.join dir name).toList.contains '\x00' then .error .zeroCharacter
      else if pathLimit < (Path.join dir name).utf8ByteSize then .error .tooLong
      else t.follow [] (Path.names dir.toList ++ name.toList.splitOn '/') := by
  obtain ⟨front, hjoin, hfront⟩ := Path.exists_joinChars_eq hrooted hname
  have hchars : (Path.join dir name).toList = front ++ '/' :: name.toList := by
    rw [Path.join, String.toList_ofList, hjoin]
  have hne : Path.join dir name ≠ "" := by
    intro hempty
    rw [hempty] at hchars
    simp at hchars
  have habsolute : Path.isRooted (Path.join dir name).toList = true := by
    rw [Path.join, String.toList_ofList]
    exact Path.joinChars_rooted hrooted _
  have hwhole : Path.joinChars directory.toList (Path.join dir name).toList =
      front ++ '/' :: name.toList := by
    unfold Path.joinChars
    rw [if_pos habsolute, hchars]
  unfold stat
  rw [if_neg hne, hwhole, List.splitOn_append_cons_self,
    t.follow_filter [] (front.splitOn '/') (List.splitOn_ne_nil '/' name.toList)]
  change _ = if _ then _ else if _ then _ else t.follow [] (Path.names dir.toList ++ _)
  rw [← hfront]
  rfl

/-- There is a program at a path if what is there is a file that can be run. -/
theorem isProgram_iff {t : Tree} {directory path : String} :
    t.isProgram directory path = true ↔
      ∃ text program, t.stat directory path = .ok (.file text (some program)) := by
  unfold isProgram program
  constructor
  · intro h
    split at h
    · next text program hstat => exact ⟨text, program, hstat⟩
    · cases h
    · cases h
  · rintro ⟨text, program, hstat⟩
    rw [hstat]
    rfl

/-- A program is found in its directory also under another text with the same steps, as long as the
text is not too long. -/
theorem isProgram_of_same {t : Tree} {directory dir other name : String}
    (hsame : Path.same dir other = true) (hrooted : Path.isRooted dir.toList = true)
    (hname : Path.isRooted name.toList = false)
    (hprogram : t.isProgram directory (Path.join dir name) = true)
    (hshort : (Path.join other name).utf8ByteSize ≤ pathLimit) :
    t.isProgram directory (Path.join other name) = true := by
  have hsteps : Path.components dir.toList = Path.components other.toList :=
    of_decide_eq_true hsame
  have hother : Path.isRooted other.toList = true := Path.isRooted_congr hsteps ▸ hrooted
  have hnames := Path.names_congr hsteps hrooted
  obtain ⟨text, program, hstat⟩ := isProgram_iff.1 hprogram
  rw [t.stat_join directory hrooted hname] at hstat
  -- A zero character is in both texts or in none.
  have hzero : (Path.join other name).toList.contains '\x00' =
      (Path.join dir name).toList.contains '\x00' := by
    rw [Bool.eq_iff_iff, List.contains_iff_mem, List.contains_iff_mem, Path.join, Path.join,
      String.toList_ofList, String.toList_ofList,
      Path.mem_joinChars_iff hrooted hname (by decide) (by decide),
      Path.mem_joinChars_iff hother hname (by decide) (by decide), hnames]
  refine isProgram_iff.2 ⟨text, program, ?_⟩
  rw [t.stat_join directory hother hname, hzero, if_neg (Nat.not_lt.2 hshort), ← hnames]
  split at hstat
  · cases hstat
  · next hclear =>
    rw [if_neg hclear]
    split at hstat
    · cases hstat
    · exact hstat

end Tree

/-! ## Looking a program up -/

namespace Host

/-- Where a program is looked for in a directory of the search path. -/
def candidate (h : Host) (name directory dir : String) : String :=
  Path.join (String.ofList (Path.fromDirectory directory.toList (h.expandHome dir).toList)) name

/-- A name without directory part is looked for in the search path, directory by directory. -/
theorem findProgram?_eq (h : Host) {name : String} (directory : String) (hne : name ≠ "")
    (hdepth : Path.depth name ≤ 1) :
    h.findProgram? name directory =
      ((splitPath h.searchPath).map (h.candidate name directory)).find?
        (h.tree.isProgram h.directory) := by
  unfold findProgram?
  dsimp only
  rw [if_neg hne, if_neg (Nat.not_lt.2 hdepth)]
  rfl

variable {h : Host} {name directory dir other : String}

/-- The user's own directory stands for a first step, whatever the text. -/
theorem expandHome_congr (hsteps : Path.components dir.toList = Path.components other.toList) :
    h.expandHome dir = h.expandHome other ∨
      h.expandHome dir = dir ∧ h.expandHome other = other := by
  unfold expandHome
  rw [← hsteps]
  split
  · exact .inl rfl
  · exact .inr ⟨rfl, rfl⟩

/-- A program is looked for at the same place under two texts with the same steps, or else both are
absolute. -/
theorem candidate_congr (name directory : String) (hsame : Path.same dir other = true) :
    h.candidate name directory dir = h.candidate name directory other ∨
      Path.isRooted dir.toList = true ∧ h.candidate name directory dir = Path.join dir name ∧
        h.candidate name directory other = Path.join other name := by
  have hsteps : Path.components dir.toList = Path.components other.toList :=
    of_decide_eq_true hsame
  unfold candidate
  rcases expandHome_congr (h := h) hsteps with heq | ⟨hdir, hother⟩
  · exact .inl (by rw [heq])
  rw [hdir, hother]
  cases hrooted : Path.isRooted dir.toList with
  | false => exact .inl (by rw [Path.fromDirectory_congr directory.toList hsteps hrooted])
  | true =>
    have hrooted' : Path.isRooted other.toList = true := Path.isRooted_congr hsteps ▸ hrooted
    refine .inr ⟨rfl, ?_, ?_⟩
    · unfold Path.fromDirectory
      rw [if_pos hrooted, String.ofList_toList]
    · unfold Path.fromDirectory
      rw [if_pos hrooted', String.ofList_toList]

/-- A program that is in a directory is also there under the text that is listed for it. -/
theorem isProgram_candidate (hsame : Path.same dir other = true)
    (hprogram : h.tree.isProgram h.directory (h.candidate name directory dir) = true)
    (hshort : (h.candidate name directory other).utf8ByteSize ≤ pathLimit) :
    h.tree.isProgram h.directory (h.candidate name directory other) = true := by
  rcases candidate_congr (h := h) name directory hsame with heq | ⟨hrooted, hdir, hother⟩
  · rw [← heq]
    exact hprogram
  rw [hdir] at hprogram
  rw [hother] at hshort ⊢
  cases hname : Path.isRooted name.toList with
  | false => exact Tree.isProgram_of_same hsame hrooted hname hprogram hshort
  | true =>
    -- An absolute name is looked for as it is.
    have hjoin : ∀ text : String, Path.join text name = name := by
      intro text
      unfold Path.join Path.joinChars
      rw [if_pos hname, String.ofList_toList]
    rw [hjoin] at hprogram ⊢
    exact hprogram

/-- A program that is in a listed directory is found, there or earlier. -/
theorem exists_findProgram? (hne : name ≠ "") (hdepth : Path.depth name ≤ 1)
    (hdir : dir ∈ splitPath h.searchPath)
    (hprogram : h.tree.isProgram h.directory (h.candidate name directory dir) = true) :
    ∃ found, h.findProgram? name directory = some found ∧
      h.tree.isProgram h.directory found = true := by
  have hsome : (((splitPath h.searchPath).map (h.candidate name directory)).find?
      (h.tree.isProgram h.directory)).isSome = true :=
    List.find?_isSome.2 ⟨_, List.mem_map_of_mem hdir, hprogram⟩
  obtain ⟨found, hfound⟩ := Option.isSome_iff_exists.1 hsome
  rw [h.findProgram?_eq directory hne hdepth]
  exact ⟨found, hfound, List.find?_some hfound⟩

/-- For all hosts with a path: the search path lists the first occurrences of the extra directory
and the directories of the path, in order, exactly if there is no colon in the extra directory.
Without one the extra directory is listed first; with one the search path is empty. Without one, a
program in a directory of the path is found for a name without directory part, if the text that is
listed for that directory does not make a path that is too long. -/
theorem searchPath_lists_iff (h : Host) {path : String} (hpath : h.path = some path) :
    (FirstOccurrences (h.extraDirectory.toList ++ splitPath path) (splitPath h.searchPath) ↔
      ∀ extra, h.extraDirectory = some extra → ':' ∉ extra.toList) ∧
    (∀ extra, h.extraDirectory = some extra →
      (':' ∉ extra.toList → (splitPath h.searchPath).head? = some extra) ∧
      (':' ∈ extra.toList → h.searchPath = "")) ∧
    ((∀ extra, h.extraDirectory = some extra → ':' ∉ extra.toList) →
      ∀ name directory, name ≠ "" → Path.depth name ≤ 1 →
      ∀ dir ∈ splitPath path,
        h.tree.isProgram h.directory (h.candidate name directory dir) = true →
      (∀ listed ∈ splitPath h.searchPath, Path.same listed dir = true →
        (h.candidate name directory listed).utf8ByteSize ≤ pathLimit) →
      ∃ found, h.findProgram? name directory = some found ∧
        h.tree.isProgram h.directory found = true) := by
  rcases searchPath_eq hpath with ⟨hclear, hlisted⟩ | ⟨extra, hextra, hcolon, hempty⟩
  · have hfirst := firstOccurrences_keepFirst (h.extraDirectory.toList ++ splitPath path)
    rw [← hlisted] at hfirst
    refine ⟨iff_of_true hfirst hclear, fun extra hextra => ⟨fun _ => ?_, fun hcolon => ?_⟩,
      fun _ name directory hne hdepth dir hdir hprogram hshort => ?_⟩
    · rw [hextra] at hfirst
      exact hfirst.head?
    · exact absurd hcolon (hclear extra hextra)
    · obtain ⟨listed, hmem, hsame⟩ := hfirst.complete dir (List.mem_append_right _ hdir)
      exact exists_findProgram? hne hdepth hmem (isProgram_candidate
        (Path.same_equivalence.symm hsame) hprogram (hshort listed hmem hsame))
  · -- The one directory of the empty path is not the extra directory.
    have hlost : ¬ FirstOccurrences (h.extraDirectory.toList ++ splitPath path)
        (splitPath h.searchPath) := by
      intro hfirst
      rw [hextra, hempty] at hfirst
      have hhead : some "" = some extra := hfirst.head?
      rw [← Option.some.inj hhead] at hcolon
      exact absurd hcolon (by decide)
    have hnot : ¬ ∀ extra, h.extraDirectory = some extra → ':' ∉ extra.toList :=
      fun hclear => hclear extra hextra hcolon
    refine ⟨iff_of_false hlost hnot, fun other hother => ?_, fun hclear => absurd hclear hnot⟩
    rw [hextra] at hother
    obtain rfl := Option.some.inj hother
    exact ⟨fun hclear => absurd hcolon hclear, fun _ => hempty⟩

namespace Bundled

/-- A program in a directory that is on the path twice, with different texts. -/
def host (extra : String) : Host where
  tree := Tree.empty.add "/bin/tool" (.file .bytes (some fun _ _ => ⟨some 0, [], []⟩))
  directory := "/"
  path := some "/bin//:/usr:/bin"
  extraDirectory := some extra
  environment := ∅

/-- The program is found with an extra directory beside the path, and lost with one that has a colon
in its name. -/
theorem tool_lost_with_colon :
    splitPath (host "/opt").searchPath = ["/opt", "/bin//", "/usr"] ∧
    FirstOccurrences ["/opt", "/bin//", "/usr", "/bin"] (splitPath (host "/opt").searchPath) ∧
    (∃ found, (host "/opt").findProgram? "tool" "/ws" = some found ∧
      (host "/opt").tree.isProgram "/" found = true) ∧
    (host "/a:b").searchPath = "" ∧
    ¬ FirstOccurrences ["/a:b", "/bin//", "/usr", "/bin"] (splitPath (host "/a:b").searchPath) ∧
    (host "/a:b").findProgram? "tool" "/ws" = none := by
  obtain ⟨hlists, -, hfinds⟩ := searchPath_lists_iff (host "/opt") rfl
  obtain ⟨hloses, hextra, -⟩ := searchPath_lists_iff (host "/a:b") rfl
  have hclear : ∀ extra, (host "/opt").extraDirectory = some extra → ':' ∉ extra.toList := by
    intro extra heq
    rw [← Option.some.inj heq]
    decide
  have hlisted : splitPath (host "/opt").searchPath = ["/opt", "/bin//", "/usr"] := by
    decide +kernel
  refine ⟨hlisted, hlists.2 hclear, ?_, (hextra "/a:b" rfl).2 (by decide), fun hfirst => ?_,
    by decide +kernel⟩
  · refine hfinds hclear "tool" "/ws" (by decide) (by decide +kernel) "/bin" (by decide +kernel)
      (by decide +kernel) ?_
    rw [hlisted]
    decide +kernel
  · exact hloses.1 hfirst "/a:b" rfl (by decide)

end Bundled

end Host

end LintRelay
