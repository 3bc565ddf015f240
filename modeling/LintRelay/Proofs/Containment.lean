import LintRelay.Proofs.Canonical

/-!
# Containment of identities is by whole entries

Whether a file lies in the tree of a directory is decided by their identities as text: the one
begins with the other and a slash. Here it is shown that this compares the entries of two places one
by one, so that a directory does not hold a sibling whose name only begins like its own.

The text of a place can be read back: its root is told from the rest (`splitRoot_text`), and the
rest falls apart at its slashes (`Place.splitOn_entries`). A text that goes on after a place with a
slash is therefore that of a place with the same root and more entries
(`Place.chars_append_prefix_iff`). Slashes at the end of the directory are dropped before the
comparison. A place with entries has none there (`Place.dropFinalSlashes_chars`), a drive loses the
slash that the comparison puts back, and of the two other roots nothing is left. These hold
everything that begins with a slash, each also what is below the other (`Place.isWithin_text`).
-/

namespace LintRelay

namespace Path

/-! ## Places read from their text -/

/-- Whether a root is that of a drive. -/
def Root.isDrive : Root → Bool
  | .drive _ _ => true
  | .directory | .share => false

/-- Only one root has a given text. -/
theorem Root.text_injective {root other : Root} (h : root.text = other.text) : root = other := by
  cases root <;> cases other <;> simp_all [Root.text]

/-- A root is told from what follows it, unless a further slash does. -/
theorem splitRoot_text (root : Root) {rest : List Char} (hrest : rest.head? ≠ some '/') :
    splitRoot (root.text ++ rest) = (root.text, rest) := by
  cases root with
  | directory => exact splitRoot_slash hrest
  | share => rfl
  | drive letter hletter => simp [Root.text, splitRoot, hletter]

/-- Texts that begin with a root and go on without a slash are equal only part by part. -/
theorem eq_of_text_append {root other : Root} {rest after : List Char}
    (hrest : rest.head? ≠ some '/') (hafter : after.head? ≠ some '/')
    (h : root.text ++ rest = other.text ++ after) : root = other ∧ rest = after := by
  have hsplit := congrArg splitRoot h
  rw [splitRoot_text root hrest, splitRoot_text other hafter] at hsplit
  obtain ⟨hroot, hrest⟩ := Prod.mk.inj hsplit
  exact ⟨Root.text_injective hroot, hrest⟩

namespace Place

variable {p r : Place}

/-- The joined entries of a place fall apart at their slashes. -/
theorem splitOn_entries (h : p.entries ≠ []) :
    (List.intercalate ['/'] p.entries).splitOn '/' = p.entries :=
  List.splitOn_intercalate '/' (fun entry hentry => (p.proper entry hentry).single) h

/-- Nothing comes of joining entries only if there are none. -/
theorem intercalate_entries_eq_nil : List.intercalate ['/'] p.entries = [] ↔ p.entries = [] := by
  constructor
  · intro hnil
    by_contra hne
    -- Joined to nothing, the entries would be one empty entry.
    have hsplit := splitOn_entries hne
    rw [hnil] at hsplit
    have hempty : ([] : List Char) ∈ p.entries := by
      rw [← hsplit]
      exact List.mem_singleton.2 rfl
    exact (p.proper [] hempty).ne_nil rfl
  · intro hnil
    rw [hnil]
    rfl

/-- A place that begins with another one and a slash has its root, and its entries come first. -/
theorem chars_append_prefix_iff (hr : r.entries ≠ []) :
    p.chars = r.chars ∨ r.chars ++ ['/'] <+: p.chars ↔
      p.root = r.root ∧ r.entries <+: p.entries := by
  have hne : List.intercalate ['/'] r.entries ≠ [] := fun hnil =>
    hr (intercalate_entries_eq_nil.1 hnil)
  have hhead : ∀ after, (List.intercalate ['/'] r.entries ++ after).head? ≠ some '/' := by
    intro after
    rw [List.head?_append_of_ne_nil _ hne]
    exact r.head?_entries
  constructor
  · rintro (heq | ⟨after, hafter⟩)
    · obtain ⟨hroot, hentries⟩ := eq_of_text_append p.head?_entries r.head?_entries heq
      have hp : p.entries ≠ [] := fun hnil =>
        hne (hentries ▸ intercalate_entries_eq_nil.2 hnil)
      have hsame : p.entries = r.entries := by
        rw [← splitOn_entries hp, hentries, splitOn_entries hr]
      exact ⟨hroot, hsame ▸ List.prefix_refl _⟩
    · have hparts : r.root.text ++ (List.intercalate ['/'] r.entries ++ '/' :: after) =
          p.root.text ++ List.intercalate ['/'] p.entries := by
        rw [← List.append_assoc]
        exact (List.append_cons _ _ _).trans hafter
      obtain ⟨hroot, hentries⟩ := eq_of_text_append (hhead _) p.head?_entries hparts
      have hp : p.entries ≠ [] := by
        intro hnil
        rw [intercalate_entries_eq_nil.2 hnil] at hentries
        simp at hentries
      -- What follows the slash is cut into the further entries.
      have hsplit := congrArg (List.splitOn '/') hentries
      rw [List.splitOn_append_cons_self, splitOn_entries hr, splitOn_entries hp] at hsplit
      exact ⟨hroot.symm, hsplit ▸ List.prefix_append _ _⟩
  · rintro ⟨hroot, more, hmore⟩
    unfold chars
    rw [← hmore, hroot]
    by_cases hnone : more = []
    · left
      rw [hnone, List.append_nil]
    · right
      rw [intercalate_append hr hnone]
      exact ⟨List.intercalate ['/'] more, by simp⟩

/-! ## The tree of a place -/

/-- A place with entries has no slash at its end. -/
theorem dropFinalSlashes_chars (h : p.entries ≠ []) : dropFinalSlashes p.chars = p.chars := by
  obtain ⟨init, last, hentries⟩ := (List.eq_nil_or_concat p.entries).resolve_left h
  rw [List.concat_eq_append] at hentries
  obtain ⟨hne, -, -, hsingle⟩ := p.proper last (by simp [hentries])
  obtain ⟨before, c, rfl⟩ := (List.eq_nil_or_concat last).resolve_left hne
  rw [List.concat_eq_append] at hentries hsingle
  have hc : c ≠ '/' := fun heq => hsingle (by simp [heq])
  obtain ⟨front, hfront⟩ := exists_intercalate_concat init (before ++ [c])
  have hchars : p.chars = (p.root.text ++ front ++ before) ++ c :: [] := by
    unfold chars
    rw [hentries, hfront]
    simp
  rw [hchars, dropFinalSlashes_append _ [] hc]
  rfl

/-- A place begins with a slash unless it is on a drive. -/
theorem head?_chars : p.chars.head? = some '/' ↔ p.root.isDrive = false := by
  unfold chars
  cases p.root with
  | directory => simp [Root.text, Root.isDrive]
  | share => simp [Root.text, Root.isDrive]
  | drive letter hletter =>
    have hslash : letter ≠ '/' := by
      rintro rfl
      cases hletter
    simp [Root.text, Root.isDrive, hslash]

/-- What begins with a drive is on it. -/
theorem drive_prefix_iff {letter : Char} (hletter : letter.isAlpha = true) :
    p.chars = [letter, ':'] ∨ [letter, ':'] ++ ['/'] <+: p.chars ↔
      p.root = .drive letter hletter := by
  have hslash : letter ≠ '/' := by
    rintro rfl
    cases hletter
  unfold chars
  cases p.root with
  | directory => simp [Root.text, hslash, Ne.symm hslash]
  | share => simp [Root.text, hslash, Ne.symm hslash]
  | drive other hother =>
    constructor
    · rintro (hshort | hbegins)
      · simp [Root.text] at hshort
      · obtain rfl : letter = other := (List.cons_prefix_cons.1 hbegins).1
        rfl
    · intro hroot
      obtain rfl : other = letter := by simpa using hroot
      exact .inr (List.prefix_append _ _)

/-- What lies in the tree of a place: what begins with a slash, if the place is a root other than a
drive, and else what has its root and its entries first. -/
theorem isWithin_text (p r : Place) : isWithin p.text r.text = true ↔
    if r.entries = [] ∧ r.root.isDrive = false then p.root.isDrive = false
    else p.root = r.root ∧ r.entries <+: p.entries := by
  unfold isWithin text
  rw [String.toList_ofList, String.toList_ofList]
  unfold isWithinChars
  by_cases hr : r.entries = []
  · have hchars : r.chars = r.root.text := by
      unfold chars
      rw [hr]
      exact List.append_nil _
    rw [hchars, hr]
    cases hroot : r.root with
    | directory =>
      have hnothing : dropFinalSlashes (Root.text .directory) = [] := by decide
      rw [hnothing, ← head?_chars]
      simp [Root.isDrive]
    | share =>
      have hnothing : dropFinalSlashes (Root.text .share) = [] := by decide
      rw [hnothing, ← head?_chars]
      simp [Root.isDrive]
    | drive letter hletter =>
      have hcolon : dropFinalSlashes (Root.text (.drive letter hletter)) = [letter, ':'] :=
        dropFinalSlashes_append [letter] ['/'] (by decide)
      rw [hcolon, ← drive_prefix_iff hletter]
      simp [Root.isDrive, ← List.isPrefixOf_iff_prefix]
  · have hne : r.chars ≠ [] := by
      unfold chars
      cases r.root <;> simp [Root.text]
    rw [dropFinalSlashes_chars hr, if_neg hne, if_neg fun h => hr h.1,
      ← chars_append_prefix_iff hr, Bool.or_eq_true, decide_eq_true_iff,
      List.isPrefixOf_iff_prefix]

/-- A place lies in its own tree. -/
theorem isWithin_self (p : Place) : isWithin p.text p.text = true := by
  rw [isWithin_text]
  split
  · next hbare => exact hbare.2
  · exact ⟨rfl, List.prefix_refl _⟩

/-- What lies in the tree of a place lies in every tree that the place lies in. -/
theorem isWithin_trans {p q r : Place} (hpq : isWithin p.text q.text = true)
    (hqr : isWithin q.text r.text = true) : isWithin p.text r.text = true := by
  rw [isWithin_text] at hpq hqr ⊢
  by_cases hr : r.entries = [] ∧ r.root.isDrive = false
  · -- The middle place is on no drive, and so is what lies in its tree.
    rw [if_pos hr] at hqr ⊢
    split at hpq
    · exact hpq
    · rw [hpq.1]
      exact hqr
  · rw [if_neg hr] at hqr ⊢
    obtain ⟨hroot, hentries⟩ := hqr
    -- The middle place has entries or is on a drive, since the outer one has or is.
    have hq : ¬ (q.entries = [] ∧ q.root.isDrive = false) := by
      rintro ⟨hnil, hdrive⟩
      rw [hnil, List.prefix_nil] at hentries
      rw [hroot] at hdrive
      exact hr ⟨hentries, hdrive⟩
    rw [if_neg hq] at hpq
    exact ⟨hpq.1.trans hroot, hentries.trans hpq.2⟩

/-- A place is, or lies below, a sibling of a directory whose name begins like that of the directory
and is longer. -/
def Beside (p d : Place) : Prop :=
  ∃ parent name more, more ≠ [] ∧ d.entries = parent ++ [name] ∧
    parent ++ [name ++ more] <+: p.entries

/-- What lies beside a directory does not lie in its tree. -/
theorem Beside.isWithin_eq_false {p d : Place} (h : p.Beside d) :
    isWithin p.text d.text = false := by
  obtain ⟨parent, name, more, hmore, hdirectory, hsibling⟩ := h
  refine Bool.eq_false_iff.2 fun hwithin => hmore ?_
  have hne : d.entries ≠ [] := by
    rw [hdirectory]
    simp
  rw [isWithin_text, if_neg fun hbare => hne hbare.1, hdirectory] at hwithin
  -- Both names stand at the same place among the entries.
  have hlength : (parent ++ [name]).length = (parent ++ [name ++ more]).length := by simp
  have hboth := List.prefix_of_prefix_length_le hwithin.2 hsibling (Nat.le_of_eq hlength)
  have heq := hboth.eq_of_length hlength
  simpa using heq

end Place

/-- Containment of identities is by whole entries, for all places. What lies in the tree of a place
with entries, or of a drive, is what has its root and its entries first. In the tree of the two
other roots lies what begins with a slash. So containment is reflexive and transitive. A directory
never holds a place with a longer name beside it that begins like its own, and a file that is beside
all excluded directories in this way is kept if it lies in the workspace. -/
theorem isWithin_by_entries :
    (∀ p r : Place, r.entries ≠ [] ∨ r.root.isDrive = true →
      (isWithin p.text r.text = true ↔ p.root = r.root ∧ r.entries <+: p.entries)) ∧
    (∀ p r : Place, r.entries = [] → r.root = .directory ∨ r.root = .share →
      (isWithin p.text r.text = true ↔ p.text.toList.head? = some '/')) ∧
    (∀ p : Place, isWithin p.text p.text = true) ∧
    (∀ p q r : Place, isWithin p.text q.text = true → isWithin q.text r.text = true →
      isWithin p.text r.text = true) ∧
    (∀ p d : Place, p.Beside d → isWithin p.text d.text = false) ∧
    ∀ (r : PassRequest) (p : Place),
      (∀ dir ∈ r.excluded, ∃ d : Place, r.identity dir = d.text ∧ p.Beside d) →
      r.keeps p.text = isWithin p.text (r.identity "") := by
  refine ⟨fun p r hr => ?_, fun p r hr hroot => ?_, Place.isWithin_self,
    fun _ _ _ => Place.isWithin_trans, fun _ _ => Place.Beside.isWithin_eq_false,
    fun r p hbeside => ?_⟩
  · have hsolid : ¬ (r.entries = [] ∧ r.root.isDrive = false) := by
      rintro ⟨hnil, hdrive⟩
      rcases hr with hne | hisDrive
      · exact hne hnil
      · rw [hdrive] at hisDrive
        cases hisDrive
    rw [Place.isWithin_text, if_neg hsolid]
  · have hdrive : r.root.isDrive = false := by rcases hroot with h | h <;> rw [h] <;> rfl
    have hchars : p.text.toList = p.chars := String.toList_ofList
    rw [Place.isWithin_text, if_pos ⟨hr, hdrive⟩, hchars, Place.head?_chars]
  · rw [Bool.eq_iff_iff, PassRequest.keeps_iff]
    refine and_iff_left fun dir hdir => ?_
    obtain ⟨d, hidentity, hd⟩ := hbeside dir hdir
    rw [hidentity]
    exact hd.isWithin_eq_false

namespace Neighbours

/-- A file in a directory whose name begins like those of two others. -/
def file : Place :=
  ⟨.drive 'C' (by decide), ["ws".toList, "generated".toList, "x.c".toList], by decide⟩

/-- One of the others. -/
def gen : Place := ⟨.drive 'C' (by decide), ["ws".toList, "gen".toList], by decide⟩

/-- The other one. -/
def generate : Place := ⟨.drive 'C' (by decide), ["ws".toList, "generate".toList], by decide⟩

/-- A pass that leaves both of them out. -/
def request : PassRequest where
  file := "src/a.c"
  root := "C:\\ws"
  shadow := ""
  text := ""
  trigger := .onSave
  excluded := ["gen", ".\\gen/..\\generate//"]
  debug := false

/-- The file lies in the workspace and in neither of the two directories. It is kept, and would not
be if its own directory were left out. -/
theorem keeps_generated :
    isWithin file.text gen.text = false ∧ isWithin file.text generate.text = false ∧
    isWithin file.text "C:/ws" = true ∧ request.keeps file.text = true ∧
    { request with excluded := ["generated"] }.keeps file.text = false := by
  obtain ⟨hentries, -, -, -, hbeside, hkeeps⟩ := isWithin_by_entries
  have hgen : file.Beside gen :=
    ⟨["ws".toList], "gen".toList, "erated".toList, by decide, by decide, by decide⟩
  have hgenerate : file.Beside generate :=
    ⟨["ws".toList], "generate".toList, "d".toList, by decide, by decide, by decide⟩
  have hworkspace : isWithin file.text "C:/ws" = true :=
    (hentries file ⟨.drive 'C' (by decide), ["ws".toList], by decide⟩ (by decide)).2 (by decide)
  have hroot : request.identity "" = "C:/ws" := by decide +kernel
  refine ⟨hbeside _ _ hgen, hbeside _ _ hgenerate, hworkspace, ?_, by decide +kernel⟩
  rw [hkeeps request file, hroot, hworkspace]
  intro dir hdir
  have hnames : dir = "gen" ∨ dir = ".\\gen/..\\generate//" := by simpa [request] using hdir
  rcases hnames with rfl | rfl
  · exact ⟨gen, by decide +kernel, hgen⟩
  · exact ⟨generate, by decide +kernel, hgenerate⟩

end Neighbours

end Path

end LintRelay
