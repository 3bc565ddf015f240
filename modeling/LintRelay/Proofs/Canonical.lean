import LintRelay.Proofs.WorkspaceRoot
import Mathlib.Data.List.Basic
import Mathlib.Data.List.TakeWhile

/-!
# Identities are canonical

An identity is the text of a `Place`: a root and the entries that lead from it to a file, none of
which is empty or a dot segment. Here it is shown which place a file name has, and that the text of
a place is its own identity.

An absolute path is cut into its root and the rest (`Cut`), by separators of either kind. From a
root, the segments of the rest are entered one after the other (`walk`): a step up leaves the
directory that was entered last, and at the root it leads nowhere. The stack that the identity is
computed with also has to hold steps up, for relative paths. It never does so below a root
(`resolve_eq_walk`), so that an absolute path has the identity of a place (`Cut.identityChars_eq`).

A relative name is put behind the base with one slash between them, and the slashes at the end of
the base are dropped before. This keeps the root and the segments of the base (`Cut.join`), except
that a base of nothing but separators becomes the root directory. So there is a place for every name
and every absolute base (`identity_canonical`).
-/

namespace LintRelay.Path

/-! ## Places -/

/-- Where an absolute path begins. -/
inductive Root where
  /-- The root directory. -/
  | directory
  /-- The root of all shares. -/
  | share
  /-- The root of a drive. -/
  | drive (letter : Char) (isLetter : letter.isAlpha = true)
deriving DecidableEq, Repr

/-- The text of a root. -/
def Root.text : Root → List Char
  | .directory => ['/']
  | .share => ['/', '/']
  | .drive letter _ => [letter, ':', '/']

/-- A segment that names an entry of a directory. -/
structure IsEntry (segment : List Char) : Prop where
  /-- It is not empty. -/
  ne_nil : segment ≠ []
  /-- It does not stay. -/
  ne_dot : segment ≠ ['.']
  /-- It does not go up. -/
  ne_up : segment ≠ ['.', '.']
  /-- It is one segment. -/
  single : '/' ∉ segment

instance (segment : List Char) : Decidable (IsEntry segment) :=
  decidable_of_iff (segment ≠ [] ∧ segment ≠ ['.'] ∧ segment ≠ ['.', '.'] ∧ '/' ∉ segment)
    ⟨fun ⟨hne, hdot, hup, hsingle⟩ => ⟨hne, hdot, hup, hsingle⟩,
      fun h => ⟨h.ne_nil, h.ne_dot, h.ne_up, h.single⟩⟩

/-- A file by its root and the entries that lead to it from there. -/
structure Place where
  /-- The root. -/
  root : Root
  /-- The entries, from the root on. -/
  entries : List (List Char)
  /-- Each of them names an entry. -/
  proper : ∀ entry ∈ entries, IsEntry entry

namespace Place

/-- The characters of a place: its root, and its entries with single slashes between them. -/
def chars (p : Place) : List Char := p.root.text ++ List.intercalate ['/'] p.entries

/-- The text of a place. -/
def text (p : Place) : String := String.ofList p.chars

/-- The entries of a place, joined by slashes, do not begin with a slash. -/
theorem head?_entries (p : Place) : (List.intercalate ['/'] p.entries).head? ≠ some '/' := by
  have hproper := p.proper
  cases hentries : p.entries with
  | nil => simp
  | cons first rest =>
    rw [hentries] at hproper
    obtain ⟨hne, -, -, hsingle⟩ := hproper first List.mem_cons_self
    obtain ⟨after, hafter⟩ := exists_intercalate_append [first] rest
    rw [List.singleton_append, List.intercalate_singleton] at hafter
    -- The first character is that of the first entry.
    rw [hafter, List.head?_append_of_ne_nil _ hne]
    intro hhead
    exact hsingle (List.mem_of_mem_head? hhead)

end Place

/-- The characters of joined names are slashes and the characters of the names. -/
theorem of_mem_intercalate {names : List (List Char)} {c : Char}
    (h : c ∈ List.intercalate ['/'] names) : c = '/' ∨ ∃ name ∈ names, c ∈ name := by
  induction names with
  | nil => simp at h
  | cons name rest ih =>
    by_cases hrest : rest = []
    · subst hrest
      rw [List.intercalate_singleton] at h
      exact .inr ⟨name, List.mem_cons_self, h⟩
    · rw [List.intercalate_cons_of_ne_nil hrest, List.append_assoc] at h
      rcases List.mem_append.1 h with h | h
      · exact .inr ⟨name, List.mem_cons_self, h⟩
      · rcases List.mem_cons.1 h with h | h
        · exact .inl h
        · refine (ih h).imp_right ?_
          rintro ⟨other, hother, hc⟩
          exact ⟨other, List.mem_cons_of_mem _ hother, hc⟩

/-- Names keep their characters when they are joined. -/
theorem mem_intercalate {names : List (List Char)} {name : List Char} (hname : name ∈ names)
    {c : Char} (hc : c ∈ name) : c ∈ List.intercalate ['/'] names := by
  induction names with
  | nil => exact absurd hname List.not_mem_nil
  | cons first rest ih =>
    by_cases hrest : rest = []
    · subst hrest
      obtain rfl := List.mem_singleton.1 hname
      rw [List.intercalate_singleton]
      exact hc
    · rw [List.intercalate_cons_of_ne_nil hrest, List.append_assoc]
      rcases List.mem_cons.1 hname with rfl | hname
      · exact List.mem_append_left _ hc
      · exact List.mem_append_right _ (List.mem_cons_of_mem _ (ih hname))

/-! ## Walking from a root -/

/-- Enters a segment from a directory, which is given by the entries that lead to it, latest first.
An empty segment and a dot stay there, and two dots leave the directory, unless it is the root. -/
def enter (stack : List (List Char)) (segment : List Char) : List (List Char) :=
  if segment = [] ∨ segment = ['.'] then stack
  else if segment = ['.', '.'] then stack.tail
  else segment :: stack

/-- The entries that lead from a root to where segments lead from there. -/
def walk (segments : List (List Char)) : List (List Char) := (segments.foldl enter []).reverse

/-- What is on the stack after a segment was there before, or it is the segment and no dot
segment. -/
theorem of_mem_enter {stack : List (List Char)} {segment entry : List Char}
    (h : entry ∈ enter stack segment) :
    entry ∈ stack ∨
      entry = segment ∧ entry ≠ [] ∧ entry ≠ ['.'] ∧ entry ≠ ['.', '.'] := by
  unfold enter at h
  split at h
  · exact .inl h
  · next hidle =>
    obtain ⟨hne, hdot⟩ := not_or.1 hidle
    split at h
    · exact .inl (List.mem_of_mem_tail h)
    · next hup =>
      rcases List.mem_cons.1 h with rfl | h
      · exact .inr ⟨rfl, hne, hdot, hup⟩
      · exact .inl h

/-- What is on the stack after several segments was there before, or it is one of them and no dot
segment. -/
theorem of_mem_foldl_enter {segments stack : List (List Char)} {entry : List Char}
    (h : entry ∈ segments.foldl enter stack) :
    entry ∈ stack ∨
      entry ∈ segments ∧ entry ≠ [] ∧ entry ≠ ['.'] ∧ entry ≠ ['.', '.'] := by
  induction segments generalizing stack with
  | nil => exact .inl h
  | cons segment rest ih =>
    rcases ih h with hstack | ⟨hrest, hentry⟩
    · rcases of_mem_enter hstack with hstack | ⟨rfl, hentry⟩
      · exact .inl hstack
      · exact .inr ⟨List.mem_cons_self, hentry⟩
    · exact .inr ⟨List.mem_cons_of_mem _ hrest, hentry⟩

/-- The entries that segments lead to are among them, and none is a dot segment. -/
theorem of_mem_walk {segments : List (List Char)} {entry : List Char} (h : entry ∈ walk segments) :
    entry ∈ segments ∧ entry ≠ [] ∧ entry ≠ ['.'] ∧ entry ≠ ['.', '.'] := by
  rcases of_mem_foldl_enter (List.mem_reverse.1 h) with hnil | hentry
  · exact absurd hnil List.not_mem_nil
  · exact hentry

/-- What segments lead to are entries. -/
theorem isEntry_of_mem_walk {path : List Char} {entry : List Char}
    (h : entry ∈ walk (segments path)) : IsEntry entry := by
  obtain ⟨hmem, hne, hdot, hup⟩ := of_mem_walk h
  obtain ⟨-, hseparator⟩ := of_mem_segments hmem
  refine ⟨hne, hdot, hup, fun hslash => ?_⟩
  cases hseparator '/' hslash

/-- Below a root, a stack without steps up takes a segment by entering it. -/
theorem pushSegment_eq_enter {stack : List (List Char)} (hstack : ['.', '.'] ∉ stack)
    (segment : List Char) : pushSegment true stack segment = enter stack segment := by
  unfold pushSegment enter
  split
  · rfl
  · split
    · cases stack with
      | nil => rfl
      | cons top rest =>
        have htop : top ≠ ['.', '.'] := fun heq => hstack (heq ▸ List.mem_cons_self)
        dsimp only
        rw [if_pos htop]
        rfl
    · rfl

/-- Below a root, segments are resolved by walking. -/
theorem resolve_eq_walk (segments : List (List Char)) : resolve true segments = walk segments := by
  -- No step up ever gets on the stack, since none was there before.
  have hfold : ∀ stack, ['.', '.'] ∉ stack →
      segments.foldl (pushSegment true) stack = segments.foldl enter stack := by
    induction segments with
    | nil => exact fun _ _ => rfl
    | cons segment rest ih =>
      intro stack hstack
      have hnext : ['.', '.'] ∉ enter stack segment := by
        intro hup
        rcases of_mem_enter hup with hup | ⟨-, -, -, hne⟩
        · exact hstack hup
        · exact hne rfl
      rw [List.foldl_cons, List.foldl_cons, pushSegment_eq_enter hstack, ih _ hnext]
  unfold resolve walk
  rw [hfold [] List.not_mem_nil]

/-- Entries are entered one by one. -/
theorem walk_entries {entries : List (List Char)} (h : ∀ entry ∈ entries, IsEntry entry) :
    walk entries = entries := by
  have hfold : ∀ stack, entries.foldl enter stack = entries.reverse ++ stack := by
    induction entries with
    | nil => exact fun _ => rfl
    | cons entry rest ih =>
      intro stack
      obtain ⟨hne, hdot, hup, -⟩ := h entry List.mem_cons_self
      have henter : enter stack entry = entry :: stack := by
        unfold enter
        rw [if_neg (not_or.2 ⟨hne, hdot⟩), if_neg hup]
      have ih := ih fun other hother => h other (List.mem_cons_of_mem _ hother)
      rw [List.foldl_cons, henter, ih, List.reverse_cons, List.append_assoc, List.singleton_append]
  unfold walk
  rw [hfold, List.append_nil, List.reverse_reverse]

/-! ## Absolute paths -/

/-- An absolute path is cut into its root and the rest, at separators of either kind. -/
inductive Cut : List Char → Root → List Char → Prop
  /-- A separator in front, and no second one. -/
  | directory {s : Char} {rest : List Char} (hs : isSeparator s = true)
      (hrest : ∀ c ∈ rest.head?, isSeparator c = false) : Cut (s :: rest) .directory rest
  /-- Two separators in front. -/
  | share {s s' : Char} {rest : List Char} (hs : isSeparator s = true)
      (hs' : isSeparator s' = true) : Cut (s :: s' :: rest) .share rest
  /-- A drive with a separator after it. -/
  | drive {d s : Char} {rest : List Char} (hd : d.isAlpha = true) (hs : isSeparator s = true) :
      Cut (d :: ':' :: s :: rest) (.drive d hd) rest

/-- Every absolute path can be cut. -/
theorem exists_cut {path : List Char} (h : isAbsoluteChars path = true) :
    ∃ root rest, Cut path root rest := by
  rcases of_isAbsoluteChars h with ⟨s, rest, rfl, hs⟩ | ⟨d, s, rest, rfl, hd, hs⟩
  · by_cases hrest : ∀ c ∈ rest.head?, isSeparator c = false
    · exact ⟨_, _, .directory hs hrest⟩
    · cases rest with
      | nil => exact absurd (fun c hc => by cases hc) hrest
      | cons s' others =>
        have hs' : isSeparator s' = true := by simpa using hrest
        exact ⟨_, _, .share hs hs'⟩
  · exact ⟨_, _, .drive hd hs⟩

namespace Cut

variable {path rest : List Char} {root : Root}

/-- A path that can be cut is absolute. -/
theorem isAbsoluteChars_eq (h : Cut path root rest) : isAbsoluteChars path = true := by
  cases h with
  | directory hs => simp [isAbsoluteChars, hs]
  | share hs => simp [isAbsoluteChars, hs]
  | drive hd hs => simp [isAbsoluteChars, hd, hs]

/-- A path names a place by its root and the segments of the rest. -/
theorem names (h : Cut path root rest) (hplain : ['\\', '\\', '?', '\\'].isPrefixOf path = false) :
    Names path root.text (segments rest) := by
  cases h with
  | directory hs hrest => exact names_rooted hs hrest
  | share hs hs' => exact names_share hs hs' hplain
  | drive hd hs => exact names_drive hd hs rest

/-- The identity of an absolute path is its root, and the entries that the segments lead to. -/
theorem identityChars_eq (h : Cut path root rest)
    (hplain : ['\\', '\\', '?', '\\'].isPrefixOf path = false) (base : List Char) :
    identityChars path base =
      root.text ++ List.intercalate ['/'] (walk (segments rest)) := by
  have hroot : decide (root.text ≠ []) = true := by cases root <;> rfl
  rw [(h.names hplain).identityChars_eq, hroot, resolve_eq_walk]

end Cut

/-! ## A place is its own identity -/

/-- A path without backslash is not extended-length. -/
theorem isPrefixOf_extended {path : List Char} (h : '\\' ∉ path) :
    ['\\', '\\', '?', '\\'].isPrefixOf path = false := by
  cases path with
  | nil => rfl
  | cons c rest =>
    have hc : '\\' ≠ c := fun heq => h (heq ▸ List.mem_cons_self)
    simp [List.isPrefixOf, hc]

/-- A path without backslash is written with slashes already. -/
theorem slashChars_of_not_mem {path : List Char} (h : '\\' ∉ path) : slashChars path = path := by
  rw [slashChars_eq (isPrefixOf_extended h)]
  refine (List.map_congr_left fun c hc => ?_).trans (List.map_id _)
  have hbackslash : c ≠ '\\' := fun heq => h (heq ▸ hc)
  rw [if_neg hbackslash]
  rfl

namespace Place

/-- A place has a path that can be cut at its root. -/
theorem cut (p : Place) (h : '\\' ∉ p.chars) :
    Cut p.chars p.root (List.intercalate ['/'] p.entries) := by
  have hhead := p.head?_entries
  unfold chars at h ⊢
  cases p.root with
  | directory =>
    refine .directory rfl fun c hc => ?_
    have hslash : c ≠ '/' := fun heq => hhead (heq ▸ hc)
    have hbackslash : c ≠ '\\' := by
      rintro rfl
      exact h (List.mem_append_right _ (List.mem_of_mem_head? hc))
    simp [isSeparator, hslash, hbackslash]
  | share => exact .share rfl rfl
  | drive letter hletter => exact .drive hletter rfl

/-- The identity of the text of a place is that text. -/
theorem identityChars_chars (p : Place) (h : '\\' ∉ p.chars) (base : List Char) :
    identityChars p.chars base = p.chars := by
  have hentries : ∀ entry ∈ p.entries, entry ≠ [] ∧ ∀ c ∈ entry, isSeparator c = false := by
    intro entry hentry
    obtain ⟨hne, -, -, hsingle⟩ := p.proper entry hentry
    refine ⟨hne, fun c hc => ?_⟩
    have hslash : c ≠ '/' := fun heq => hsingle (heq ▸ hc)
    have hbackslash : c ≠ '\\' := by
      rintro rfl
      exact h (List.mem_append_right _ (mem_intercalate hentry hc))
    simp [isSeparator, hslash, hbackslash]
  rw [(p.cut h).identityChars_eq (isPrefixOf_extended h), segments_intercalate hentries,
    walk_entries p.proper]
  rfl

/-- A name whose identity is a place without backslash has an absolute identity, which is its own
identity. -/
theorem of_identityChars (p : Place) {name base : String}
    (h : Path.identityChars name.toList base.toList = p.chars) (hplain : '\\' ∉ p.chars) :
    identity name base = p.text ∧ isAbsolute (identity name base) = true ∧
      '\\' ∉ (identity name base).toList ∧
      ∀ other, identity (identity name base) other = identity name base := by
  have htext : identity name base = p.text := congrArg String.ofList h
  have hchars : p.text.toList = p.chars := String.toList_ofList
  refine ⟨htext, ?_, ?_, fun other => ?_⟩
  · unfold isAbsolute
    rw [htext, hchars]
    exact (p.cut hplain).isAbsoluteChars_eq
  · rw [htext, hchars]
    exact hplain
  · unfold identity
    rw [h, String.toList_ofList, p.identityChars_chars hplain]

end Place

/-- An absolute path has the identity of a place: its root, and the entries that its segments lead
to. -/
theorem Cut.exists_place {path rest : List Char} {root : Root} (h : Cut path root rest)
    (hplain : ['\\', '\\', '?', '\\'].isPrefixOf path = false) :
    ∃ p : Place, p.root = root ∧ p.entries = walk (segments rest) ∧ '\\' ∉ p.chars ∧
      ∀ base, identityChars path base = p.chars := by
  refine ⟨⟨root, walk (segments rest), fun _ => isEntry_of_mem_walk⟩, rfl, rfl, ?_,
    h.identityChars_eq hplain⟩
  intro hbackslash
  -- A root has no backslash, nor has a segment.
  rcases List.mem_append.1 hbackslash with hroot | hentries
  · cases root with
    | directory => simp [Root.text] at hroot
    | share => simp [Root.text] at hroot
    | drive letter hletter =>
      obtain rfl : '\\' = letter := by simpa [Root.text] using hroot
      cases hletter
  · rcases of_mem_intercalate hentries with hslash | ⟨entry, hentry, hc⟩
    · cases hslash
    · obtain ⟨hmem, -⟩ := of_mem_walk hentry
      cases (of_mem_segments hmem).2 _ hc

/-! ## Relative paths -/

/-- The segments of two paths with a separator between them. -/
theorem segments_append (path other : List Char) :
    segments (path ++ '/' :: other) = segments path ++ segments other := by
  unfold segments
  rw [List.splitOnP_append_cons path other rfl, List.filter_append]

/-- Slashes at the end add no segment. -/
theorem segments_append_slashes (path : List Char) (n : Nat) :
    segments (path ++ List.replicate n '/') = segments path := by
  induction n with
  | zero => rw [List.replicate_zero, List.append_nil]
  | succ n ih =>
    have hslashes : path ++ List.replicate (n + 1) '/' =
        (path ++ List.replicate n '/') ++ '/' :: [] := by
      rw [List.replicate_succ', List.append_assoc]
    rw [hslashes, segments_append, ih]
    exact List.append_nil _

/-- Dropping slashes at the end keeps the segments. -/
theorem segments_dropFinalSlashes (path : List Char) :
    segments (dropFinalSlashes path) = segments path := by
  obtain ⟨n, hpath⟩ := exists_eq_dropFinalSlashes path
  conv => rhs; rw [hpath]
  rw [segments_append_slashes]

/-- A slash in front is dropped only together with all the rest. -/
theorem dropFinalSlashes_cons_slash {path : List Char} (h : '\\' ∉ path) :
    dropFinalSlashes ('/' :: path) =
      if segments path = [] then [] else '/' :: dropFinalSlashes path := by
  by_cases hslash : ∃ c ∈ path, c ≠ '/'
  · obtain ⟨c, hmem, hc⟩ := hslash
    -- Nothing in front of a character that stays is dropped.
    obtain ⟨front, rest, rfl⟩ := List.append_of_mem hmem
    have hbackslash : c ≠ '\\' := by
      rintro rfl
      exact h hmem
    have hsegments : segments (front ++ c :: rest) ≠ [] :=
      segments_ne_nil ⟨c, hmem, by simp [isSeparator, hc, hbackslash]⟩
    have hcons := dropFinalSlashes_append ('/' :: front) rest hc
    rw [if_neg hsegments, dropFinalSlashes_append front rest hc]
    exact hcons
  · -- There are only slashes.
    have hall : ∀ c ∈ path, c = '/' := by simpa using hslash
    have hpath : path = List.replicate path.length '/' := List.eq_replicate_of_mem hall
    have hsegments : segments path = [] := by
      rw [hpath]
      exact segments_append_slashes [] _
    have hdrop : ('/' :: path).reverse.dropWhile (· = '/') = [] := by
      refine List.dropWhile_eq_nil_iff.2 fun c hc => ?_
      rcases List.mem_cons.1 (List.mem_reverse.1 hc) with rfl | hc
      · rfl
      · exact decide_eq_true (hall c hc)
    unfold dropFinalSlashes
    rw [if_pos hsegments, hdrop]
    rfl

/-- Writing slashes keeps the segments. -/
theorem segments_map_slash (path : List Char) :
    segments (path.map fun c => if c = '\\' then '/' else c) = segments path := by
  unfold segments
  rw [splitOnP_map_slash]

/-- Writing slashes makes no separator and no letter. -/
theorem isSeparator_slash (c : Char) :
    isSeparator (if c = '\\' then '/' else c) = isSeparator c ∧
      (if c = '\\' then '/' else c).isAlpha = c.isAlpha := by
  split
  · next hc =>
    rw [hc]
    exact ⟨rfl, rfl⟩
  · exact ⟨rfl, rfl⟩

/-- Written with slashes, a path is as absolute as before. -/
theorem isAbsoluteChars_map_slash (path : List Char) :
    isAbsoluteChars (path.map fun c => if c = '\\' then '/' else c) = isAbsoluteChars path := by
  have hseparator := fun c => (isSeparator_slash c).1
  have halpha := fun c => (isSeparator_slash c).2
  match path with
  | [] => rfl
  | [c] => simp [isAbsoluteChars, hseparator, halpha]
  | [c, c'] => simp [isAbsoluteChars, hseparator, halpha]
  | c :: c' :: s :: rest =>
    by_cases hcolon : c' = ':'
    · subst hcolon
      simp [isAbsoluteChars, hseparator, halpha]
    · -- A character that is no colon is not written as one.
      have hslash : (if c' = '\\' then '/' else c') ≠ ':' := by
        split
        · decide
        · exact hcolon
      simp [isAbsoluteChars, hseparator, halpha, hcolon, hslash]

/-- A relative name begins with no separator. -/
theorem isSeparator_of_relative {name : List Char} (h : isAbsoluteChars name = false) :
    ∀ c ∈ name.head?, isSeparator c = false := by
  intro c hc
  obtain ⟨rest, rfl⟩ := List.head?_eq_some_iff.1 hc
  simp only [isAbsoluteChars, Bool.or_eq_false_iff] at h
  exact h.1

/-- What begins with no separator does not do so either when slashes are dropped at its end and
something follows, unless there is nothing but separators. -/
theorem head?_dropFinalSlashes {path : List Char}
    (h : ∀ c ∈ path.head?, isSeparator c = false) (hsegments : segments path ≠ [])
    (after : List Char) :
    ∀ c ∈ (dropFinalSlashes path ++ after).head?, isSeparator c = false := by
  obtain ⟨n, hpath⟩ := exists_eq_dropFinalSlashes path
  have hne : dropFinalSlashes path ≠ [] := by
    intro hnil
    rw [← segments_dropFinalSlashes, hnil] at hsegments
    exact hsegments rfl
  intro c hc
  refine h c ?_
  rw [List.head?_append_of_ne_nil _ hne] at hc
  rw [hpath, List.head?_append_of_ne_nil _ hne]
  exact hc

/-- The root of a base for relative names. Without a segment in the base there is nothing to tell a
share from the root directory. -/
def baseRoot (root : Root) (names : List (List Char)) : Root :=
  if root = .share ∧ names = [] then .directory else root

/-- A relative name, put behind an absolute base, has the segments of both. -/
theorem Cut.join {base name rest : List Char} {root : Root} (h : Cut base root rest)
    (hbase : ['\\', '\\', '?', '\\'].isPrefixOf base = false)
    (hname : isAbsoluteChars name = false) :
    ∃ joined, Cut (dropFinalSlashes (slashChars base) ++ '/' :: name)
        (baseRoot root (segments rest)) joined ∧
      segments joined = segments rest ++ segments name := by
  have hhead := isSeparator_of_relative hname
  have hplain := not_mem_map_slash rest
  have hbetween : ∀ path, segments (dropFinalSlashes path ++ '/' :: name) =
      segments path ++ segments name := fun path => by
    rw [segments_append, segments_dropFinalSlashes]
  rw [slashChars_eq hbase, ← segments_map_slash rest]
  cases h with
  | directory hs hrest =>
    have hfront : ∀ c ∈ (rest.map fun c => if c = '\\' then '/' else c).head?,
        isSeparator c = false := by
      intro c hc
      rw [List.head?_map] at hc
      obtain ⟨c', hc', rfl⟩ := Option.map_eq_some_iff.1 hc
      rw [(isSeparator_slash c').1]
      exact hrest c' hc'
    rw [List.map_cons, slash_of_isSeparator hs, dropFinalSlashes_cons_slash hplain]
    generalize (rest.map fun c => if c = '\\' then '/' else c) = path at hplain hfront
    split
    · next hnone => exact ⟨name, .directory rfl hhead, by rw [hnone]; rfl⟩
    · next hsome =>
      exact ⟨_, .directory rfl (head?_dropFinalSlashes hfront hsome _), hbetween path⟩
  | share hs hs' =>
    rw [List.map_cons, List.map_cons, slash_of_isSeparator hs, slash_of_isSeparator hs']
    generalize (rest.map fun c => if c = '\\' then '/' else c) = path at hplain
    have hslash : '\\' ∉ '/' :: path := List.not_mem_cons_of_ne_of_not_mem (by decide) hplain
    rw [dropFinalSlashes_cons_slash hslash, dropFinalSlashes_cons_slash hplain,
      segments_cons_separator rfl]
    unfold baseRoot
    split
    · next hnone =>
      rw [if_pos ⟨rfl, hnone⟩]
      exact ⟨name, .directory rfl hhead, by rw [hnone]; rfl⟩
    · next hsome =>
      rw [if_neg fun hshare => hsome hshare.2]
      exact ⟨_, .share rfl rfl, hbetween path⟩
  | @drive d _ _ hd hs =>
    have hcolon : ∀ path, dropFinalSlashes (d :: ':' :: path) = d :: ':' :: dropFinalSlashes path :=
      fun path => dropFinalSlashes_append [d] path (by decide)
    have hletter : (if d = '\\' then '/' else d) = d := by
      refine if_neg ?_
      rintro rfl
      cases hd
    rw [List.map_cons, List.map_cons, List.map_cons, hletter, slash_of_isSeparator hs]
    generalize (rest.map fun c => if c = '\\' then '/' else c) = path at hplain
    change ∃ joined, Cut (dropFinalSlashes (d :: ':' :: '/' :: path) ++ _) _ _ ∧ _
    rw [hcolon, dropFinalSlashes_cons_slash hplain]
    split
    · next hnone => exact ⟨name, .drive hd rfl, by rw [hnone]; rfl⟩
    · exact ⟨_, .drive hd rfl, hbetween path⟩

/-- A relative name has the identity of the place that its segments lead to after those of the
base. -/
theorem Cut.exists_place_of_relative {base name rest : List Char} {root : Root}
    (h : Cut base root rest) (hbase : ['\\', '\\', '?', '\\'].isPrefixOf base = false)
    (hname : ['\\', '\\', '?', '\\'].isPrefixOf name = false)
    (hrelative : isAbsoluteChars name = false) :
    ∃ p : Place, p.root = baseRoot root (segments rest) ∧
      p.entries = walk (segments rest ++ segments name) ∧ '\\' ∉ p.chars ∧
      identityChars name base = p.chars := by
  have hwritten := slashChars_eq hname
  have hslashed : isAbsoluteChars (slashChars name) = false := by
    rw [hwritten, isAbsoluteChars_map_slash, hrelative]
  obtain ⟨joined, hcut, hsegments⟩ := h.join hbase hslashed
  -- There is no backslash in the base or in the name once they are written with slashes.
  have hjoined : '\\' ∉ dropFinalSlashes (slashChars base) ++ '/' :: slashChars name := by
    obtain ⟨n, hfront⟩ := exists_eq_dropFinalSlashes (slashChars base)
    intro hbackslash
    rcases List.mem_append.1 hbackslash with hmem | hmem
    · have hall : '\\' ∈ slashChars base := by
        rw [hfront]
        exact List.mem_append_left _ hmem
      rw [slashChars_eq hbase] at hall
      exact not_mem_map_slash base hall
    · rw [hwritten] at hmem
      rcases List.mem_cons.1 hmem with hslash | hmem
      · cases hslash
      · exact not_mem_map_slash name hmem
  obtain ⟨p, hroot, hentries, hplain, hidentity⟩ := hcut.exists_place (isPrefixOf_extended hjoined)
  refine ⟨p, hroot, ?_, hplain, ?_⟩
  · rw [hentries, hsegments, hwritten, segments_map_slash]
  · rw [← hidentity []]
    unfold identityChars
    dsimp only
    rw [if_neg (Bool.eq_false_iff.1 hslashed), slashChars_of_not_mem hjoined,
      if_pos hcut.isAbsoluteChars_eq]

/-- Identities are canonical, for every name and every absolute base that are not extended-length.
The identity is the text of a place: a root, and then entries with single slashes between them, none
of which is empty or a dot segment. It is absolute and without backslash. An absolute name leads to
its place from its own root, by its own segments. A relative one does so from the root of the base,
by the segments of the base and then its own. In both cases a step up leaves the entry before it,
and is nothing at the root. The identity is its own identity, whatever the base. -/
theorem identity_canonical {name base : String}
    (hname : ['\\', '\\', '?', '\\'].isPrefixOf name.toList = false)
    (hbase : ['\\', '\\', '?', '\\'].isPrefixOf base.toList = false)
    (habsolute : isAbsolute base = true) :
    ∃ p : Place, identity name base = p.text ∧
      isAbsolute (identity name base) = true ∧ '\\' ∉ (identity name base).toList ∧
      (isAbsolute name = true → ∃ rest, Cut name.toList p.root rest ∧
        p.entries = walk (segments rest)) ∧
      (isAbsolute name = false → ∃ root rest, Cut base.toList root rest ∧
        p.root = baseRoot root (segments rest) ∧
        p.entries = walk (segments rest ++ segments name.toList)) ∧
      ∀ other, identity (identity name base) other = identity name base := by
  cases hcase : isAbsolute name with
  | true =>
    obtain ⟨root, rest, hcut⟩ := exists_cut hcase
    obtain ⟨p, rfl, hentries, hplain, hidentity⟩ := hcut.exists_place hname
    obtain ⟨htext, habs, hslashed, hself⟩ := p.of_identityChars (hidentity _) hplain
    exact ⟨p, htext, habs, hslashed, fun _ => ⟨rest, hcut, hentries⟩, nofun, hself⟩
  | false =>
    obtain ⟨root, rest, hcut⟩ := exists_cut habsolute
    obtain ⟨p, hroot, hentries, hplain, hidentity⟩ :=
      hcut.exists_place_of_relative hbase hname hcase
    obtain ⟨htext, habs, hslashed, hself⟩ := p.of_identityChars hidentity hplain
    exact ⟨p, htext, habs, hslashed, nofun, fun _ => ⟨root, rest, hcut, hroot, hentries⟩, hself⟩

/-- A relative name that goes up past a share, and a drive path that goes up past its drive. -/
theorem climbed_past_roots :
    identity "..\\.././..//b.c" "\\\\host\\\\x/" = "//b.c" ∧
    (∃ p : Place, p.text = "//b.c" ∧ p.root = .share ∧ p.entries = ["b.c".toList]) ∧
    identity "c:\\a\\..\\..\\.\\B.c" "/ws" = "c:/B.c" ∧
    ∀ other, identity "//b.c" other = "//b.c" ∧ identity "c:/B.c" other = "c:/B.c" := by
  have hshare : identity "..\\.././..//b.c" "\\\\host\\\\x/" = "//b.c" := by decide +kernel
  have hdrive : identity "c:\\a\\..\\..\\.\\B.c" "/ws" = "c:/B.c" := by decide +kernel
  obtain ⟨p, htext, -, -, -, hrelative, hself⟩ :=
    @identity_canonical "..\\.././..//b.c" "\\\\host\\\\x/" (by decide) (by decide) (by decide)
  obtain ⟨-, -, -, -, -, -, hself'⟩ :=
    @identity_canonical "c:\\a\\..\\..\\.\\B.c" "/ws" (by decide) (by decide) (by decide)
  rw [hshare] at htext hself
  rw [hdrive] at hself'
  refine ⟨hshare, ⟨p, htext.symm, ?_⟩, hdrive, fun other => ⟨hself other, hself' other⟩⟩
  obtain ⟨root, rest, hcut, hroot, hentries⟩ := hrelative (by decide)
  rw [show "\\\\host\\\\x/".toList = '\\' :: '\\' :: "host\\\\x/".toList by decide] at hcut
  -- The base has two separators in front, and segments after them.
  cases hcut with
  | directory _ hrest => cases hrest '\\' rfl
  | share => exact ⟨hroot.trans (by decide), hentries.trans (by decide)⟩

end LintRelay.Path
