import LintRelay.Variables
import LintRelay.Proofs.Scan

/-!
# What a text with references expands to

A text is written as a sequence of pieces: plain text and the three forms of references (`Piece`).
Here it is shown that every such text expands piece by piece (`substitute_written`), although the
scanner sees no pieces: it reads from one `$` to the next, takes the longest name, and takes
everything up to a brace as a fallback. The pieces can only be told apart if a reference without
braces is not followed by a character of a name (`Separated`).

The scanner has fuel for as many characters as there are. Each step uses up at least one, so that it
never runs out (`substituteFrom_congr`), and the rest of the theory is about `substitute`, which has
one equation for each way to go on.

The checks are made on the expanded text. That a result holds no opening brace (`expand_written`)
needs that turning backslashes into slashes does not make one.
-/

namespace LintRelay.Variables

/-! ## Steps of the scanner -/

section Steps

variable {vars : Variables} {cs rest after name : List Char} {ref : Reference}

/-- What follows a name is the end of the text that it stands in. -/
theorem suffix_of_name? (h : name? cs = some (name, rest)) : rest <:+ cs := by
  cases cs with
  | nil => cases h
  | cons c others =>
    rw [name?] at h
    split at h
    · obtain ⟨-, rfl⟩ := Prod.mk.inj (Option.some.inj h)
      exact (List.dropWhile_suffix _).trans (List.suffix_cons _ _)
    · cases h

/-- What follows a reference is the end of the text that it stands in. -/
theorem suffix_of_reference? (h : reference? cs = some (ref, after)) : after <:+ cs := by
  unfold reference? at h
  split at h
  · next others =>
    have hothers : others <:+ '{' :: others := List.suffix_cons _ _
    split at h
    · next name rest hname =>
      obtain ⟨-, rfl⟩ := Prod.mk.inj (Option.some.inj h)
      exact (List.suffix_cons _ _).trans ((suffix_of_name? hname).trans hothers)
    · next name rest hname =>
      split at h
      · next c closed hdrop =>
        obtain ⟨-, rfl⟩ := Prod.mk.inj (Option.some.inj h)
        have hclosed : c :: closed <:+ rest := hdrop ▸ List.dropWhile_suffix _
        have hrest : rest <:+ ':' :: '-' :: rest := List.suffix_append [':', '-'] rest
        exact (List.suffix_cons _ _).trans
          (hclosed.trans (hrest.trans ((suffix_of_name? hname).trans hothers)))
      · cases h
    · cases h
  · obtain ⟨⟨name, rest⟩, hname, heq⟩ := Option.map_eq_some_iff.1 h
    obtain ⟨-, rfl⟩ := Prod.mk.inj heq
    exact suffix_of_name? hname

/-- Fuel for all characters is as good as more fuel. -/
theorem substituteFrom_congr {n m : Nat} (hn : cs.length ≤ n) (hm : cs.length ≤ m) :
    substituteFrom vars n cs = substituteFrom vars m cs := by
  induction n generalizing m cs with
  | zero =>
    have hnil : cs = [] := List.length_eq_zero_iff.1 (Nat.le_zero.1 hn)
    subst hnil
    cases m <;> rfl
  | succ n ih =>
    cases cs with
    | nil => cases m <;> rfl
    | cons c rest =>
      obtain ⟨m, rfl⟩ := Nat.exists_eq_succ_of_ne_zero (Nat.ne_zero_of_lt hm)
      have hrest : substituteFrom vars n rest = substituteFrom vars m rest :=
        ih (Nat.le_of_succ_le_succ hn) (Nat.le_of_succ_le_succ hm)
      rw [substituteFrom, substituteFrom, hrest]
      split
      · split
        · next ref after href =>
          -- What follows the reference is shorter still.
          have hle : after.length ≤ rest.length := (suffix_of_reference? href).length_le
          rw [ih (Nat.le_trans hle (Nat.le_of_succ_le_succ hn))
            (Nat.le_trans hle (Nat.le_of_succ_le_succ hm))]
        · rfl
      · rfl

/-- A character that does not open a reference stays. -/
theorem substitute_cons {c : Char} (hc : c ≠ '$') :
    substitute vars (c :: rest) = c :: substitute vars rest := by
  unfold substitute
  rw [List.length_cons, substituteFrom, if_neg hc]

/-- A reference is replaced, and the scanner goes on after it. -/
theorem substitute_reference (h : reference? cs = some (ref, after)) :
    substitute vars ('$' :: cs) = value vars ref ++ substitute vars after := by
  unfold substitute
  rw [List.length_cons, substituteFrom, if_pos rfl, h]
  dsimp only
  rw [substituteFrom_congr (suffix_of_reference? h).length_le (Nat.le_refl _)]

/-- Text without `$` stays. -/
theorem substitute_append {text : List Char} (htext : '$' ∉ text) :
    substitute vars (text ++ rest) = text ++ substitute vars rest := by
  induction text with
  | nil => rfl
  | cons c others ih =>
    obtain ⟨hc, hothers⟩ := List.ne_and_not_mem_of_not_mem_cons htext
    rw [List.cons_append, substitute_cons (Ne.symm hc), ih hothers, List.cons_append]

end Steps

/-! ## Pieces -/

/-- A name of a variable. -/
structure Name where
  /-- The first character. -/
  first : Char
  /-- The others. -/
  others : List Char
  /-- The first character is no digit. -/
  isStart : isNameStart first = true
  /-- The others are letters, digits and underscores. -/
  isWord : ∀ c ∈ others, isNameChar c = true

namespace Name

/-- The characters of a name. -/
def chars (n : Name) : List Char := n.first :: n.others

/-- A name is read up to where it ends. -/
theorem name?_append (n : Name) {rest : List Char}
    (hrest : ∀ c ∈ rest.head?, isNameChar c = false) :
    name? (n.chars ++ rest) = some (n.chars, rest) := by
  have htake := Text.takeWhile_append_of_stop n.isWord hrest
  have hdrop := Text.dropWhile_append_of_stop n.isWord hrest
  rw [chars, List.cons_append, name?, if_pos n.isStart, htake, hdrop]

end Name

/-- A piece of a text that refers to variables. -/
inductive Piece where
  /-- Plain text. -/
  | literal (text : List Char) (plain : '$' ∉ text)
  /-- `${name}` -/
  | braced (name : Name)
  /-- `${name:-fallback}` -/
  | guarded (name : Name) (fallback : List Char) (closed : '}' ∉ fallback)
  /-- `$name` -/
  | bare (name : Name)

namespace Piece

/-- How a piece is written. -/
def text : Piece → List Char
  | literal text _ => text
  | braced name => '$' :: '{' :: (name.chars ++ ['}'])
  | guarded name fallback _ => '$' :: '{' :: (name.chars ++ ':' :: '-' :: (fallback ++ ['}']))
  | bare name => '$' :: name.chars

/-- Whether a piece is a reference without braces. -/
def isBare : Piece → Bool
  | bare _ => true
  | literal _ _ | braced _ | guarded _ _ _ => false

/-- What stands for a reference: the value of the variable if there is one that is not empty, and
else the fallback. -/
def standIn (vars : Variables) (name : Name) (fallback : List Char) : List Char :=
  (((vars.get? (String.ofList name.chars)).map String.toList).filter (· ≠ [])).getD fallback

/-- What a piece expands to. -/
def expansion (vars : Variables) : Piece → List Char
  | literal text _ => text
  | braced name | bare name => standIn vars name []
  | guarded name fallback _ => standIn vars name fallback

end Piece

/-- How a sequence of pieces is written. -/
def written (pieces : List Piece) : List Char := pieces.flatMap Piece.text

/-- The pieces can be told apart: after a reference without braces comes no character of a name. -/
def Separated : List Piece → Prop
  | [] => True
  | piece :: pieces =>
    (piece.isBare = true → (written pieces).head?.any isNameChar = false) ∧ Separated pieces

instance decidableSeparated : (pieces : List Piece) → Decidable (Separated pieces)
  | [] => isTrue trivial
  | _ :: pieces =>
    have := decidableSeparated pieces
    inferInstanceAs (Decidable (_ ∧ _))

/-- The value that a reference is replaced by is what stands for it. -/
theorem value_eq_standIn (vars : Variables) (n : Name) (fallback : List Char) :
    value vars ⟨n.chars, fallback⟩ = Piece.standIn vars n fallback := by
  unfold value Piece.standIn
  dsimp only
  split
  · next v hv =>
    rw [hv, Option.map_some, Option.filter_some]
    by_cases hempty : v.toList = []
    · rw [if_pos hempty, if_neg (by simp [hempty]), Option.getD_none]
    · rw [if_neg hempty, if_pos (by simp [hempty]), Option.getD_some]
  · next hnone => rw [hnone, Option.map_none, Option.filter_none, Option.getD_none]

section Pieces

variable (n : Name)

/-- A name in braces is read. -/
theorem reference?_braced (rest : List Char) :
    reference? ('{' :: (n.chars ++ '}' :: rest)) = some (⟨n.chars, []⟩, rest) := by
  have hname : name? (n.chars ++ '}' :: rest) = some (n.chars, '}' :: rest) :=
    n.name?_append (by simp [isNameChar])
  simp only [reference?, hname]

/-- A name and a fallback in braces are read. -/
theorem reference?_guarded {fallback : List Char} (hclosed : '}' ∉ fallback) (rest : List Char) :
    reference? ('{' :: (n.chars ++ ':' :: '-' :: (fallback ++ '}' :: rest))) =
      some (⟨n.chars, fallback⟩, rest) := by
  have hname : name? (n.chars ++ ':' :: '-' :: (fallback ++ '}' :: rest)) =
      some (n.chars, ':' :: '-' :: (fallback ++ '}' :: rest)) :=
    n.name?_append (by simp [isNameChar])
  -- The fallback ends at the first brace that closes.
  have hrun : ∀ c ∈ fallback, decide (c ≠ '}') = true := by
    intro c hc
    exact decide_eq_true fun h => hclosed (h ▸ hc)
  have hstop : ∀ c ∈ ('}' :: rest).head?, decide (c ≠ '}') = false := by simp
  have hdrop := Text.dropWhile_append_of_stop hrun hstop
  have htake := Text.takeWhile_append_of_stop hrun hstop
  simp only [reference?, hname, hdrop, htake]

/-- A name without braces is read up to where it ends. -/
theorem reference?_bare {rest : List Char} (hrest : ∀ c ∈ rest.head?, isNameChar c = false) :
    reference? (n.chars ++ rest) = some (⟨n.chars, []⟩, rest) := by
  have hname := n.name?_append hrest
  have hbrace : ∀ others, n.chars ++ rest ≠ '{' :: others := by
    intro others heq
    have hfirst : n.first = '{' := (List.cons.inj heq).1
    have hstart := n.isStart
    rw [hfirst] at hstart
    cases hstart
  unfold reference?
  split
  · next others heq => exact absurd heq (hbrace others)
  · rw [hname, Option.map_some]

end Pieces

/-- One piece expands to its own expansion, and the scanner goes on after it. -/
theorem substitute_piece (vars : Variables) (piece : Piece) {rest : List Char}
    (hrest : piece.isBare = true → ∀ c ∈ rest.head?, isNameChar c = false) :
    substitute vars (piece.text ++ rest) = piece.expansion vars ++ substitute vars rest := by
  cases piece with
  | literal text hplain => exact substitute_append hplain
  | braced name =>
    have href := reference?_braced name rest
    simp only [Piece.text, List.cons_append, List.append_assoc, List.nil_append]
    rw [substitute_reference href, value_eq_standIn, Piece.expansion]
  | guarded name fallback hclosed =>
    have href := reference?_guarded name hclosed rest
    simp only [Piece.text, List.cons_append, List.append_assoc, List.nil_append]
    rw [substitute_reference href, value_eq_standIn, Piece.expansion]
  | bare name =>
    have href := reference?_bare name (hrest rfl)
    rw [Piece.text, List.cons_append, substitute_reference href, value_eq_standIn, Piece.expansion]

/-- A text expands piece by piece. -/
theorem substitute_written (vars : Variables) {pieces : List Piece} (h : Separated pieces) :
    substitute vars (written pieces) = pieces.flatMap (Piece.expansion vars) := by
  induction pieces with
  | nil => rfl
  | cons piece pieces ih =>
    obtain ⟨hpiece, hpieces⟩ := h
    have hnext : piece.isBare = true → ∀ c ∈ (written pieces).head?, isNameChar c = false := by
      intro hbare c hc
      have hany := hpiece hbare
      rw [Option.mem_def.1 hc] at hany
      exact hany
    have hwritten : written (piece :: pieces) = piece.text ++ written pieces := List.flatMap_cons
    rw [hwritten, substitute_piece vars piece hnext, ih hpieces, List.flatMap_cons]

/-! ## Results -/

section Results

variable {vars : Variables} {input out : String}

/-- A text is refused as unterminated if an opening brace is left in its expansion. -/
theorem expand_eq_unterminated_iff : vars.expand input = .error (.unterminated input) ↔
    ['$', '{'] <:+: substitute vars input.toList := by
  have hcontains : Text.contains "$\x7b" (substitute vars input.toList) = true ↔ _ :=
    Text.contains_iff_infix
  refine Iff.trans ?_ hcontains
  unfold expand
  dsimp only
  split
  · next hopen => exact iff_of_true rfl hopen
  · next hopen =>
    refine iff_of_false ?_ hopen
    split <;> nofun

/-- A text is refused as empty if nothing is left of it. -/
theorem expand_eq_empty_iff : vars.expand input = .error (.empty input) ↔
    substitute vars input.toList = [] := by
  unfold expand
  dsimp only
  split
  · next hopen =>
    -- What holds a brace is not empty.
    refine iff_of_false nofun fun hnil => ?_
    rw [hnil] at hopen
    cases hopen
  · split
    · next hnil => exact iff_of_true rfl hnil
    · next hne => exact iff_of_false nofun hne

/-- Every other text has its expansion with slashes as the result. -/
theorem expand_eq_ok_iff : vars.expand input = .ok out ↔
    ¬ ['$', '{'] <:+: substitute vars input.toList ∧ substitute vars input.toList ≠ [] ∧
      out = Path.slash (String.ofList (substitute vars input.toList)) := by
  rw [← expand_eq_unterminated_iff, Ne, ← expand_eq_empty_iff, Path.slash, String.toList_ofList]
  unfold expand
  dsimp only
  split
  · exact iff_of_false nofun fun h => h.1 rfl
  · split
    · exact iff_of_false nofun fun h => h.2.1 rfl
    · constructor
      · intro h
        exact ⟨nofun, nofun, (Except.ok.inj h).symm⟩
      · rintro ⟨-, -, rfl⟩
        rfl

/-- Slashes for backslashes make no opening brace. -/
theorem infix_of_infix_slashChars {cs : List Char} (h : ['$', '{'] <:+: Path.slashChars cs) :
    ['$', '{'] <:+: cs := by
  unfold Path.slashChars at h
  split at h
  · exact h
  · have hsame : ∀ {c d : Char}, d ≠ '/' → d = (if c = '\\' then '/' else c) → c = d := by
      intro c d hd heq
      split at heq
      · exact absurd heq hd
      · exact heq.symm
    obtain ⟨l, hl, hmap⟩ := List.infix_map_iff.1 h
    -- What the two characters come from are themselves.
    obtain ⟨c, l', rfl, hc, hl'⟩ := List.map_eq_cons_iff.1 hmap.symm
    obtain ⟨d, l'', rfl, hd, hnil⟩ := List.map_eq_cons_iff.1 hl'
    rw [List.map_eq_nil_iff] at hnil
    rw [← hsame (by decide) hc.symm, ← hsame (by decide) hd.symm, ← hnil]
    exact hl

/-- Only of nothing there is nothing with slashes. -/
theorem slashChars_eq_nil_iff {cs : List Char} : Path.slashChars cs = [] ↔ cs = [] := by
  unfold Path.slashChars
  split
  · exact Iff.rfl
  · exact List.map_eq_nil_iff

/-- Backslashes are left only in an extended-length path. -/
theorem prefix_of_mem_slashChars {cs : List Char} (h : '\\' ∈ Path.slashChars cs) :
    ['\\', '\\', '?', '\\'] <+: Path.slashChars cs := by
  unfold Path.slashChars at h ⊢
  split
  · next hextended => exact List.isPrefixOf_iff_prefix.1 hextended
  · next hextended =>
    rw [if_neg hextended] at h
    obtain ⟨c, -, hc⟩ := List.mem_map.1 h
    split at hc
    · cases hc
    · next hne => exact absurd hc hne

end Results

/-- Expansion, for all variables and all sequences of pieces that can be told apart: the text that
the pieces are written as is refused as unterminated if an opening brace is in the expansions of the
pieces put together, refused as empty if they are empty, and else its result is what they are, with
slashes. The result of any text at all is not empty, holds no opening brace, and holds a backslash
only if it is an extended-length path. -/
theorem expand_written :
    (∀ (vars : Variables) (pieces : List Piece), Separated pieces →
      ∀ input : String, input.toList = written pieces →
        (vars.expand input = .error (.unterminated input) ↔
          ['$', '{'] <:+: pieces.flatMap (Piece.expansion vars)) ∧
        (vars.expand input = .error (.empty input) ↔
          pieces.flatMap (Piece.expansion vars) = []) ∧
        ∀ out, vars.expand input = .ok out ↔
          ¬ ['$', '{'] <:+: pieces.flatMap (Piece.expansion vars) ∧
          pieces.flatMap (Piece.expansion vars) ≠ [] ∧
          out = Path.slash (String.ofList (pieces.flatMap (Piece.expansion vars)))) ∧
    ∀ (vars : Variables) (input out : String), vars.expand input = .ok out →
      out ≠ "" ∧ ¬ ['$', '{'] <:+: out.toList ∧
      ('\\' ∈ out.toList → ['\\', '\\', '?', '\\'] <+: out.toList) := by
  refine ⟨fun vars pieces hseparated input hinput => ?_, fun vars input out hout => ?_⟩
  · have hpieces : substitute vars input.toList = pieces.flatMap (Piece.expansion vars) := by
      rw [hinput, substitute_written vars hseparated]
    rw [← hpieces]
    exact ⟨expand_eq_unterminated_iff, expand_eq_empty_iff, fun _ => expand_eq_ok_iff⟩
  · obtain ⟨hopen, hne, rfl⟩ := expand_eq_ok_iff.1 hout
    rw [Path.slash, String.toList_ofList, String.toList_ofList]
    refine ⟨fun hempty => hne ?_, fun h => hopen (infix_of_infix_slashChars h),
      prefix_of_mem_slashChars⟩
    have hchars : Path.slashChars (substitute vars input.toList) = [] :=
      String.ofList_eq_empty_iff.1 hempty
    exact slashChars_eq_nil_iff.1 hchars

namespace Sample

/-- Variables with values that look like references or are empty. -/
def vars : Variables :=
  (((∅ : Variables).insert "HOME" "C:\\$X").insert "X" "$").insert "NONE" ""

def home : Name := ⟨'H', "OME".toList, rfl, List.all_eq_true.1 rfl⟩

def vacant : Name := ⟨'N', "ONE".toList, rfl, List.all_eq_true.1 rfl⟩

def unset : Name := ⟨'_', "9".toList, rfl, List.all_eq_true.1 rfl⟩

def x : Name := ⟨'X', [], rfl, List.all_eq_true.1 rfl⟩

/-- A text with references one after the other, and a fallback that looks like another. -/
def pieces : List Piece :=
  [.literal "-I".toList (by decide), .bare home, .braced vacant, .bare unset,
    .guarded vacant "\\$X:-\x7b".toList (by decide), .literal "\x7d\\x".toList (by decide)]

/-- A value that forms an opening brace with the text that follows it. -/
def fused : List Piece := [.bare x, .literal "\x7bHOME\x7d".toList (by decide)]

/-- The value of a variable and the fallback stand in the result as they are. Where a value makes an
opening brace, the text is refused. Nothing is left of unset and empty variables. -/
theorem expand_sample :
    Separated pieces ∧ vars.expand "-I$HOME$\x7bNONE\x7d$_9$\x7bNONE:-\\$X:-\x7b\x7d\x7d\\x" =
      .ok "-IC:/$X/$X:-\x7b\x7d/x" ∧
    Separated fused ∧
      vars.expand "$X\x7bHOME\x7d" = .error (.unterminated "$X\x7bHOME\x7d") ∧
    vars.expand "$\x7bNONE\x7d$_9" = .error (.empty "$\x7bNONE\x7d$_9") ∧
    ¬ ['$', '{'] <:+: "-IC:/$X/$X:-\x7b\x7d/x".toList := by
  obtain ⟨hwritten, hresult⟩ := expand_written
  have hseparated : Separated pieces := by decide
  have hfused : Separated fused := by decide
  have hok : vars.expand "-I$HOME$\x7bNONE\x7d$_9$\x7bNONE:-\\$X:-\x7b\x7d\x7d\\x" =
      .ok "-IC:/$X/$X:-\x7b\x7d/x" :=
    ((hwritten vars pieces hseparated _ (by decide)).2.2 _).2
      ⟨by decide +kernel, by decide, by decide +kernel⟩
  refine ⟨hseparated, hok, hfused, ?_, ?_, (hresult _ _ _ hok).2.1⟩
  · exact (hwritten vars fused hfused _ (by decide)).1.2 (by decide)
  · have hbare : Separated [.braced vacant, .bare unset] := by decide
    exact (hwritten vars _ hbare _ (by decide)).2.1.2 (by decide)

end Sample

end LintRelay.Variables
