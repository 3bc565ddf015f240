import LintRelay.Proofs.Server.Triggers
import Mathlib.Data.List.Induction

/-!
# The texts of open documents

The editor tells the server of the documents that it has open: they are opened, changed, saved and
closed. What it has open is told by its notices alone (`buffer`): a change goes through its texts in
turn, and leaves the last. `told` lists the notices that a server takes among all that comes in.

The server takes over the texts as it is told, but of the texts of a change the first
(`Notice.stored`). Every other input leaves the documents as they are, and every pass is over a
document as its turn leaves it (`Reaction.Leaves`, shown for each handler and then for each turn).
So presence and version of a document are always those in the editor, and the text is so if and only
if its latest text did not come from a change whose first text is not its last (`Lags`).
-/

namespace LintRelay.Server

/-! ## What the editor has open -/

/-- The document under a URI in the editor, after a notice. -/
def Notice.edit (uri : Uri) (buffer : Option Document) : Notice → Option Document
  | .opened other text version => if other = uri then some ⟨uri, text, version⟩ else buffer
  | .changed other version texts =>
    if other = uri then
      buffer.map fun d => ⟨uri, texts.foldl (fun _ text => text) d.text, version⟩
    else buffer
  | .saved other (some text) =>
    if other = uri then buffer.map fun d => ⟨uri, text, d.version⟩ else buffer
  | .closed other => if other = uri then none else buffer
  | .ready | .saved _ none | .settingsChanged _ | .filesChanged _ | .built _ => buffer

/-- The document under a URI in the editor, as its notices tell. -/
def buffer (notices : List Notice) (uri : Uri) : Option Document :=
  notices.foldl (Notice.edit uri) none

/-- A notice is in order after others: a change has a text, and the document is open. -/
def Notice.InOrder (before : List Notice) : Notice → Prop
  | .changed uri _ texts => texts ≠ [] ∧ (buffer before uri).isSome = true
  | _ => True

/-- The editor changes only documents that it has open, and tells their text. -/
def Orderly (notices : List Notice) : Prop :=
  ∀ {before after : List Notice} {n : Notice}, notices = before ++ n :: after → n.InOrder before

instance (before : List Notice) : (n : Notice) → Decidable (n.InOrder before)
  | .changed uri _ texts =>
    inferInstanceAs (Decidable (texts ≠ [] ∧ (buffer before uri).isSome = true))
  | .ready | .opened _ _ _ | .saved _ _ | .closed _ | .settingsChanged _ | .filesChanged _
  | .built _ => .isTrue trivial

instance (notices : List Notice) : Decidable (Orderly notices) :=
  decidable_of_iff (∀ i : Fin notices.length, (notices.get i).InOrder (notices.take i)) <| by
    constructor
    · rintro h before after n rfl
      have hi := h ⟨before.length, by simp⟩
      simpa using hi
    · intro h i
      have hsplit : notices = notices.take i ++ notices.get i :: notices.drop (i + 1) := by simp
      exact h hsplit

/-- Whether a notice tells that a document has a text, or that it has none. -/
def Notice.renews (uri : Uri) : Notice → Bool
  | .opened other _ _ | .changed other _ _ | .saved other (some _) | .closed other => other = uri
  | .ready | .saved _ none | .settingsChanged _ | .filesChanged _ | .built _ => false

/-- The latest text of a document came from a change whose first text is not its last. -/
def Lags (notices : List Notice) (uri : Uri) : Prop :=
  ∃ before version texts after, notices = before ++ .changed uri version texts :: after ∧
    texts.head? ≠ texts.getLast? ∧ ∀ n ∈ after, n.renews uri = false

section Concat

variable {notices : List Notice} {n : Notice} {uri : Uri}

/-- What the editor has open after one more notice. -/
theorem buffer_concat : buffer (notices ++ [n]) uri = n.edit uri (buffer notices uri) := by
  unfold buffer
  rw [List.foldl_append]
  rfl

/-- What is orderly with one more notice is so without it, and the notice is in order. -/
theorem Orderly.of_concat (h : Orderly (notices ++ [n])) : Orderly notices ∧ n.InOrder notices := by
  refine ⟨fun {before after m} hsplit => ?_, h rfl⟩
  have hwhole : notices ++ [n] = before ++ m :: (after ++ [n]) := by
    rw [hsplit, List.append_assoc, List.cons_append]
  exact h hwhole

/-- A document lags after one more notice if the notice is such a change, or leaves it alone when it
lags. -/
theorem lags_concat : Lags (notices ++ [n]) uri ↔
    (∃ version texts, n = .changed uri version texts ∧ texts.head? ≠ texts.getLast?) ∨
      n.renews uri = false ∧ Lags notices uri := by
  constructor
  · rintro ⟨before, version, texts, after, hsplit, htexts, hafter⟩
    rcases List.eq_nil_or_concat after with rfl | ⟨init, last, rfl⟩
    · obtain ⟨-, hn⟩ := List.append_inj' hsplit rfl
      exact .inl ⟨version, texts, (List.cons.inj hn).1, htexts⟩
    · rw [List.concat_eq_append, ← List.cons_append, ← List.append_assoc] at hsplit
      obtain ⟨hnotices, hn⟩ := List.append_inj' hsplit rfl
      obtain rfl := (List.cons.inj hn).1
      refine .inr ⟨hafter n (by simp), before, version, texts, init, hnotices, htexts, ?_⟩
      exact fun m hm => hafter m (by simp [hm])
  · rintro (⟨version, texts, rfl, htexts⟩ | ⟨hn, hlags⟩)
    · exact ⟨notices, version, texts, [], rfl, htexts, by simp⟩
    · obtain ⟨before, version, texts, after, rfl, htexts, hafter⟩ := hlags
      refine ⟨before, version, texts, after ++ [n], by simp, htexts, fun m hm => ?_⟩
      rcases List.mem_append.1 hm with hm | hm
      · exact hafter m hm
      · rw [List.mem_singleton.1 hm, hn]

end Concat

/-! ## What the server keeps -/

/-- The document that the server keeps under a URI, after a notice. Of the texts of a change it
takes the first. -/
def Notice.stored (uri : Uri) (kept : Option Document) : Notice → Option Document
  | .opened other text version => if other = uri then some ⟨uri, text, version⟩ else kept
  | .changed other version (text :: _) =>
    if other = uri then some ⟨uri, text, version⟩ else kept
  | .saved other (some text) =>
    if other = uri then kept.map fun d => ⟨uri, text, d.version⟩ else kept
  | .closed other => if other = uri then none else kept
  | .ready | .changed _ _ [] | .saved _ none | .settingsChanged _ | .filesChanged _ | .built _ =>
    kept

/-- The document that the server keeps under a URI, as it is told. -/
def taken (notices : List Notice) (uri : Uri) : Option Document :=
  notices.foldl (Notice.stored uri) none

/-- What the server keeps under a URI follows what the editor has there: it is there when that is,
at the same version, and it is the same unless it lags. -/
structure Follows (kept edited : Option Document) (lags : Prop) : Prop where
  /-- The version is the same. -/
  version : kept.map (·.version) = edited.map (·.version)
  /-- The text is the same unless it lags. -/
  eq_iff : kept = edited ↔ ¬ lags

/-- Going through texts in turn ends with the last. -/
theorem foldl_texts (texts : List String) (text : String) :
    texts.foldl (fun _ text => text) text = texts.getLast?.getD text := by
  induction texts generalizing text with
  | nil => rfl
  | cons first rest ih => rw [List.foldl_cons, ih, List.getLast?_cons, Option.getD_some]

/-- A notice that tells no text of a document leaves what the server keeps. -/
theorem Notice.stored_of_renews {n : Notice} {uri : Uri} (h : n.renews uri = false)
    (kept : Option Document) : n.stored uri kept = kept := by
  unfold stored
  split <;> simp_all [renews]

/-- A notice that tells no text of a document changes neither side. -/
theorem Follows.aside {notices : List Notice} {n : Notice} {uri : Uri} {kept : Option Document}
    (h : Follows kept (buffer notices uri) (Lags notices uri)) (hn : n.renews uri = false) :
    Follows (n.stored uri kept) (buffer (notices ++ [n]) uri) (Lags (notices ++ [n]) uri) := by
  have hedited : n.edit uri (buffer notices uri) = buffer notices uri := by
    unfold Notice.edit
    split <;> simp_all [Notice.renews]
  have hlags : Lags (notices ++ [n]) uri ↔ Lags notices uri := by
    rw [lags_concat]
    refine ⟨fun hlags => hlags.elim ?_ And.right, fun hlags => .inr ⟨hn, hlags⟩⟩
    rintro ⟨version, texts, rfl, -⟩
    simp [Notice.renews] at hn
  rw [Notice.stored_of_renews hn, buffer_concat, hedited]
  exact ⟨h.version, h.eq_iff.trans (not_congr hlags.symm)⟩

/-- Every notice in order lets the server follow the editor. -/
theorem Follows.step {notices : List Notice} {n : Notice} {uri : Uri} {kept : Option Document}
    (h : Follows kept (buffer notices uri) (Lags notices uri)) (hn : n.InOrder notices) :
    Follows (n.stored uri kept) (buffer (notices ++ [n]) uri) (Lags (notices ++ [n]) uri) := by
  cases hrenews : n.renews uri with
  | false => exact h.aside hrenews
  | true =>
    -- The notice alone decides the text on both sides, and whether it lags.
    have hlags : Lags (notices ++ [n]) uri ↔
        ∃ version texts, n = .changed uri version texts ∧ texts.head? ≠ texts.getLast? := by
      rw [lags_concat]
      simp [hrenews]
    have hsame : ∀ {d : Option Document},
        (∀ other version texts, n ≠ .changed other version texts) →
          Follows d d (Lags (notices ++ [n]) uri) := by
      intro d hother
      refine ⟨rfl, iff_of_true rfl fun hlag => ?_⟩
      obtain ⟨version, texts, hchanged, -⟩ := hlags.1 hlag
      exact hother _ _ _ hchanged
    rw [buffer_concat]
    cases n with
    | opened other text version =>
      obtain rfl : other = uri := of_decide_eq_true hrenews
      unfold Notice.stored Notice.edit
      dsimp only
      rw [if_pos rfl, if_pos rfl]
      exact hsame (by simp)
    | closed other =>
      obtain rfl : other = uri := of_decide_eq_true hrenews
      unfold Notice.stored Notice.edit
      dsimp only
      rw [if_pos rfl, if_pos rfl]
      exact hsame (by simp)
    | saved other text =>
      cases text with
      | none => cases hrenews
      | some text =>
        obtain rfl : other = uri := of_decide_eq_true hrenews
        -- The saved text is that of both, and the versions were the same before.
        have hmap : ∀ d : Option Document, d.map (fun d => (⟨other, text, d.version⟩ : Document)) =
            (d.map (·.version)).map fun version => ⟨other, text, version⟩ := by
          intro d
          rw [Option.map_map]
          rfl
        unfold Notice.stored Notice.edit
        dsimp only
        rw [if_pos rfl, if_pos rfl, hmap, hmap, h.version]
        exact hsame (by simp)
    | changed other version texts =>
      obtain rfl : other = uri := of_decide_eq_true hrenews
      obtain ⟨hne, hopen⟩ := hn
      obtain ⟨d, hd⟩ := Option.isSome_iff_exists.1 hopen
      obtain ⟨first, rest, rfl⟩ := List.exists_cons_of_ne_nil hne
      unfold Notice.stored Notice.edit
      dsimp only
      rw [if_pos rfl, if_pos rfl, hd, Option.map_some, foldl_texts, List.getLast?_cons,
        Option.getD_some, hlags]
      refine ⟨rfl, ?_⟩
      simp [List.getLast?_cons]
    | ready => cases hrenews
    | settingsChanged settings => cases hrenews
    | filesChanged uris => cases hrenews
    | built document => cases hrenews

/-! ## Turns and the documents that they leave -/

/-- What is done leaves some documents, and its passes are over documents as they are left. -/
structure Reaction.Leaves (r : Reaction) (documents : Uri → Option Document) : Prop where
  /-- The documents that are left. -/
  document : ∀ uri, r.session.document? uri = documents uri
  /-- A pass is over one of them, with its text. -/
  pass : ∀ {p : PassRecord}, .passed p ∈ r.events →
    p.request.text = p.document.text ∧ documents p.document.uri = some p.document

namespace Reaction.Leaves

/-- Without passes, what counts is the documents that are left. -/
theorem of_mute {r : Reaction} {documents : Uri → Option Document}
    (h : ∀ uri, r.session.document? uri = documents uri)
    (hmute : ∀ p, Event.passed p ∉ r.events) : r.Leaves documents :=
  ⟨h, fun {p} hp => absurd hp (hmute p)⟩

/-- What is done next and leaves documents as they are. -/
theorem andThen {r : Reaction} {documents : Uri → Option Document} {next : Session → Reaction}
    (h : r.Leaves documents) (hnext : (next r.session).Leaves r.session.document?) :
    (r.andThen next).Leaves documents where
  document uri := (hnext.document uri).trans (h.document uri)
  pass {p} hp := by
    rcases List.mem_append.1 hp with hp | hp
    · exact h.pass hp
    · rw [← h.document]
      exact hnext.pass hp

end Reaction.Leaves

namespace Session

variable (w : World) {s : Session}

/-- What leaves documents alone, without passes, leaves them as they are. -/
theorem aside_leaves {r : Reaction} (h : r.session.documents = s.documents)
    (hmute : ∀ p, Event.passed p ∉ r.events) : r.Leaves s.document? := by
  refine .of_mute (fun uri => ?_) hmute
  unfold document?
  rw [h]

/-- Nothing is done, in a session with the same documents. -/
theorem quiet_leaves {s' : Session} (h : s'.documents = s.documents) :
    s'.quiet.Leaves s.document? :=
  aside_leaves h fun _ => List.not_mem_nil

/-- Messages leave documents as they are. -/
theorem send_leaves {s' : Session} (h : s'.documents = s.documents) (messages : List Message) :
    (s'.send messages).Leaves s.document? :=
  aside_leaves h (by simp [send])

/-- Notes leave documents as they are. -/
theorem note_leaves {s' : Session} (h : s'.documents = s.documents) (n : Note) :
    (s'.note n).Leaves s.document? :=
  aside_leaves h (by simp [note])

/-- Looking up settings leaves documents as they are. -/
theorem settingsOf_leaves (uri : Uri) : (s.settingsOf w uri).2.Leaves s.document? := by
  obtain ⟨table, messages, hresolved, -⟩ := s.settingsOf_spec w uri
  rw [hresolved]
  exact send_leaves rfl messages

/-- A pass over an open document leaves documents as they are. -/
theorem pass_leaves {d : Document} (hd : s.document? d.uri = some d) (file : String)
    (settings : Settings) (trigger : Trigger) (forced : Bool) :
    (s.pass w d file settings trigger forced).Leaves s.document? := by
  obtain ⟨table, messages, hprepared, -⟩ :=
    s.lintersOf_spec w d.uri settings (workspaceRoot s.folders file)
  unfold pass
  dsimp only
  rw [hprepared]
  refine (send_leaves rfl messages).andThen ?_
  split
  · exact note_leaves rfl _
  · refine ⟨fun _ => rfl, fun {p} hp => ?_⟩
    rw [perform_events, conclude_events] at hp
    rcases List.mem_cons.1 hp with hp | hp
    · obtain rfl := Event.passed.inj hp
      exact ⟨rfl, hd⟩
    · simp at hp

/-- Analyzing a document leaves documents as they are. -/
theorem validate_leaves (hkeyed : s.Keyed) (uri : Uri) (trigger : Trigger) (forced : Bool) :
    (s.validate w uri trigger forced).Leaves s.document? := by
  unfold validate
  split
  · next file d _ hd =>
    obtain rfl := hkeyed.uri_eq hd
    have hresolve := s.settingsOf_leaves w d.uri
    refine hresolve.andThen ?_
    dsimp only
    split
    · exact note_leaves rfl _
    · exact pass_leaves w ((hresolve.document d.uri).trans hd) file _ trigger forced
  · exact quiet_leaves rfl

/-- Analyzing documents leaves them as they are. -/
theorem validateEach_leaves (hkeyed : s.Keyed) (trigger : Trigger) (forced : Bool)
    (uris : List Uri) : (validateEach w trigger forced s uris).Leaves s.document? := by
  induction uris generalizing s with
  | nil => exact quiet_leaves rfl
  | cons uri rest ih =>
    exact (validate_leaves w hkeyed uri trigger forced).andThen
      (ih ((s.validate_does w uri trigger forced).keyed hkeyed))

/-- Passes that have waited leave documents as they are. -/
theorem wakeEach_leaves (hkeyed : s.Keyed) (waiting : List Waiting) :
    (wakeEach w s waiting).Leaves s.document? := by
  induction waiting generalizing s with
  | nil => exact quiet_leaves rfl
  | cons p rest ih =>
    have hwake : (s.wake w p).Leaves s.document? := by
      unfold wake
      split
      · split
        · exact validate_leaves w hkeyed p.uri .onType false
        · exact quiet_leaves rfl
      · exact quiet_leaves rfl
    exact hwake.andThen (ih ((s.wake_does w p).keyed hkeyed))

/-- What goes on with the settings of a document, and leaves documents as they are. -/
theorem resolve_leaves (hkeyed : s.Keyed) (uri : Uri) (next : Settings → Session → Reaction)
    (h : ∀ settings {s' : Session}, s'.Keyed → (next settings s').Leaves s'.document?) :
    ((s.settingsOf w uri).2.andThen (next (s.settingsOf w uri).1)).Leaves s.document? :=
  (s.settingsOf_leaves w uri).andThen (h _ ((Act.resolve (w := w) uri).keyed hkeyed))

/-- A command leaves documents as they are. -/
theorem command_leaves (hkeyed : s.Keyed) {name : String} {arguments : List Json} {r : Reaction}
    (h : s.command w name arguments = .ok r) : r.Leaves s.document? := by
  unfold command at h
  split at h
  · split at h
    · next uri _ =>
      obtain rfl := Except.ok.inj h
      exact validate_leaves w hkeyed uri .onSave true
    · cases h
  · split at h
    · obtain rfl := Except.ok.inj h
      exact validateEach_leaves w hkeyed .onSave true _
    · cases h

/-- The documents that are left when one is stored. -/
theorem store_leaves (uri : Uri) (text : String) (version : Int) :
    (s.store ⟨uri, text, version⟩).Leaves fun other =>
      if uri = other then some ⟨other, text, version⟩ else s.document? other := by
  refine .of_mute (fun other => ?_) (by simp [store, note])
  change (s.documents.insert uri.text ⟨uri, text, version⟩).get? other.text =
    if uri = other then some ⟨other, text, version⟩ else s.documents.get? other.text
  by_cases huri : uri = other
  · simp [huri]
  · simp [huri, Uri.text_ne huri]

/-- The documents that are left when one is closed. -/
theorem closed_leaves (uri : Uri) :
    (s.closed w uri).Leaves fun other => if uri = other then none else s.document? other := by
  refine .of_mute (fun other => ?_) fun p hp => ?_
  · change (s.documents.erase uri.text).get? other.text =
      if uri = other then none else s.documents.get? other.text
    by_cases huri : uri = other
    · simp [huri]
    · simp [huri, Uri.text_ne huri]
  · rcases List.mem_append.1 hp with hp | hp
    · simp [send] at hp
    · simp at hp

/-- A change leaves its first text, if it has one. -/
theorem changed_leaves (hkeyed : s.Keyed) (uri : Uri) (version : Int) (texts : List String) :
    (s.changed w uri version texts).Leaves fun other =>
      (Notice.changed uri version texts).stored other (s.document? other) := by
  cases texts with
  | nil => exact quiet_leaves rfl
  | cons text rest =>
    have hstored : (s.store ⟨uri, text, version⟩).session.Keyed :=
      (Act.store (w := w) _).keyed hkeyed
    unfold changed
    refine (store_leaves uri text version).andThen (resolve_leaves w hstored uri
      (fun settings s' => if settings.run = .onType then (s'.await uri version).quiet else s'.quiet)
      ?_)
    intro settings s' _
    split
    · exact quiet_leaves rfl
    · exact quiet_leaves rfl

/-- A saved text replaces that of the document, if it is open, and keeps its version. -/
theorem storeSaved_leaves (hkeyed : s.Keyed) (uri : Uri) (text : Option String) :
    (s.storeSaved uri text).Leaves fun other =>
      (Notice.saved uri text).stored other (s.document? other) := by
  cases text with
  | none => exact quiet_leaves rfl
  | some text =>
    unfold storeSaved Notice.stored
    cases hd : s.document? uri with
    | none =>
      dsimp only
      refine .of_mute (fun other => ?_) fun _ => List.not_mem_nil
      split
      · next huri =>
        rw [← huri, hd]
        exact hd
      · rfl
    | some d =>
      obtain rfl := hkeyed.uri_eq hd
      dsimp only
      refine .of_mute (fun other => ?_) (by simp [store, note])
      rw [(s.store_leaves d.uri text d.version).document]
      split
      · next huri => rw [← huri, hd, Option.map_some]
      · rfl

/-- A saved document is left with the text that it was saved with. -/
theorem saved_leaves (hkeyed : s.Keyed) (uri : Uri) (text : Option String) :
    (s.saved w uri text).Leaves fun other =>
      (Notice.saved uri text).stored other (s.document? other) := by
  have hstored := (s.storeSaved_does w uri text).keyed hkeyed
  rw [saved_eq]
  refine (storeSaved_leaves hkeyed uri text).andThen (resolve_leaves w hstored uri
    (fun settings s' => s'.afterSave w uri settings) ?_)
  intro settings s' hkeyed'
  obtain ⟨forced, hnext⟩ | hnext := s'.afterSave_eq w uri settings
  · rw [hnext]
    exact validate_leaves w hkeyed' uri .onSave forced
  · rw [hnext]
    exact quiet_leaves rfl

/-- Analyzing all documents anew leaves them as they are. -/
theorem flush_validateAll_leaves (hkeyed : s.Keyed) (shared : Settings) (trigger : Trigger)
    (forced : Bool) :
    ((s.flush shared).andThen fun s => s.validateAll w trigger forced).Leaves s.document? :=
  (note_leaves rfl _).andThen (validateEach_leaves w
    ((Act.flush (w := w) shared).keyed hkeyed) trigger forced _)

/-- The end of a build leaves documents as they are. -/
theorem built_leaves (hkeyed : s.Keyed) (document : Option Uri) :
    (s.built w document).Leaves s.document? := by
  have hgo : ∀ (settings : Settings) {s' : Session}, s'.Keyed →
      (if settings.run = .onBuild then s'.validateAll w .onBuild true else s'.quiet).Leaves
        s'.document? := by
    intro settings s' hkeyed'
    split
    · exact validateEach_leaves w hkeyed' .onBuild true _
    · exact quiet_leaves rfl
  cases document with
  | some uri => exact resolve_leaves w hkeyed uri _ hgo
  | none => exact hgo s.shared hkeyed

/-- The documents that are left when a notice is handled. -/
theorem handle_leaves (hkeyed : s.Keyed) (n : Notice) :
    (s.handle w n).Leaves fun uri => n.stored uri (s.document? uri) := by
  cases n with
  | ready => exact send_leaves rfl _
  | opened uri text version =>
    have hstored : (s.store ⟨uri, text, version⟩).session.Keyed :=
      (Act.store (w := w) _).keyed hkeyed
    unfold handle opened
    exact (store_leaves uri text version).andThen (validate_leaves w hstored uri .onSave false)
  | changed uri version texts => exact changed_leaves w hkeyed uri version texts
  | saved uri text => exact saved_leaves w hkeyed uri text
  | closed uri => exact closed_leaves w uri
  | settingsChanged settings => exact flush_validateAll_leaves w hkeyed _ .onSave false
  | filesChanged uris =>
    change (s.filesChanged w uris).Leaves s.document?
    unfold filesChanged
    split
    · exact flush_validateAll_leaves w hkeyed _ .onSave true
    · exact quiet_leaves rfl
  | built document => exact built_leaves w hkeyed document

end Session

/-! ## Courses -/

namespace Connection

/-- The notice that a server takes from what comes in: one that can be read, while it is running. -/
def hears (c : Connection) : Input → Option Notice
  | .notice method params => if c.phase = .running then Notice.read? method params else none
  | .request _ _ | .elapse _ => none

variable {c : Connection}

/-- The documents that are left by a turn: those that a notice leaves, and without one those that
there were. -/
theorem take_leaves (hkeyed : c.session.Keyed) (w : World) (input : Input) :
    (c.take w input).reaction.Leaves fun uri =>
      (c.hears input).toList.foldl (Notice.stored uri) (c.session.document? uri) := by
  cases input with
  | request method params =>
    exact request_keeps (P := fun r => r.Leaves c.session.document?) (Session.quiet_leaves rfl)
      (fun _ => Session.quiet_leaves rfl) (Session.command_leaves w hkeyed) method params
  | elapse milliseconds =>
    change (c.advance w milliseconds).reaction.Leaves c.session.document?
    unfold advance
    split
    · exact Session.quiet_leaves rfl
    · exact Session.wakeEach_leaves w (s := c.session.tick milliseconds) hkeyed _
  | notice method params =>
    cases hhears : c.hears (.notice method params) with
    | none =>
      change (if c.phase = .running then Notice.read? method params else none) = none at hhears
      change (c.notify w method params).reaction.Leaves c.session.document?
      rw [notify_reaction fun hrunning => (if_pos hrunning).symm.trans hhears]
      exact Session.quiet_leaves rfl
    | some n =>
      change (if c.phase = .running then Notice.read? method params else none) = some n at hhears
      split at hhears
      · next hrunning =>
        rw [take_notice hrunning hhears]
        exact Session.handle_leaves w hkeyed n
      · cases hhears

end Connection

/-- The notices that a server takes from what comes in on a connection, in order. -/
def toldFrom (c : Connection) : List (World × Input) → List Notice
  | [] => []
  | (w, input) :: rest => (c.hears input).toList ++ toldFrom (c.take w input).connection rest

/-- The notices that a server is told, in order. -/
def told (inputs : List (World × Input)) : List Notice := toldFrom .fresh inputs

/-- What a server is told with one more input. -/
theorem told_concat (inputs : List (World × Input)) (w : World) (input : Input) :
    told (inputs ++ [(w, input)]) =
      told inputs ++ ((Course.of inputs).connection.hears input).toList := by
  have hrun : ∀ course : Course, toldFrom course.connection (inputs ++ [(w, input)]) =
      toldFrom course.connection inputs ++
        ((inputs.foldl Course.next course).connection.hears input).toList := by
    induction inputs with
    | nil => exact fun course => List.append_nil _
    | cons first rest ih =>
      intro course
      rw [List.cons_append, List.foldl_cons]
      unfold toldFrom
      rw [List.append_assoc]
      exact congrArg _ (ih (course.next first))
  exact hrun ⟨.fresh, []⟩

/-- The documents of a server are those that it has taken from what it was told. -/
theorem Course.document?_eq_taken (inputs : List (World × Input)) (uri : Uri) :
    (of inputs).connection.session.document? uri = taken (told inputs) uri := by
  induction inputs using List.reverseRecOn with
  | nil => simp [of, Connection.fresh, Session.empty, Session.document?, told, toldFrom, taken]
  | append_singleton inputs last ih =>
    obtain ⟨w, input⟩ := last
    have hleaves := Connection.take_leaves (keyed inputs) w input
    rw [of_append, told_concat]
    unfold taken at ih ⊢
    rw [List.foldl_append, ← ih]
    exact hleaves.document uri

/-- What the server has taken from orderly notices follows what they tell of the editor. -/
theorem Orderly.follows {notices : List Notice} (h : Orderly notices) (uri : Uri) :
    Follows (taken notices uri) (buffer notices uri) (Lags notices uri) := by
  induction notices using List.reverseRecOn with
  | nil => exact ⟨rfl, iff_of_true rfl (by simp [Lags])⟩
  | append_singleton notices n ih =>
    obtain ⟨hbefore, hn⟩ := h.of_concat
    have hstep := (ih hbefore).step hn
    unfold taken at hstep ⊢
    rw [List.foldl_append]
    exact hstep

/-- Until another notice tells its text, the server keeps the first text of a change. -/
theorem taken_of_change {before after : List Notice} {uri : Uri} {version : Int} {first : String}
    {rest : List String} (hafter : ∀ n ∈ after, n.renews uri = false) :
    taken (before ++ .changed uri version (first :: rest) :: after) uri =
      some ⟨uri, first, version⟩ := by
  induction after using List.reverseRecOn with
  | nil =>
    unfold taken
    rw [List.foldl_append, List.foldl_cons, List.foldl_nil]
    exact if_pos rfl
  | append_singleton after n ih =>
    have hn := hafter n (by simp)
    have ih := ih fun m hm => hafter m (by simp [hm])
    unfold taken at ih ⊢
    rw [← List.cons_append, ← List.append_assoc, List.foldl_append, ih]
    exact Notice.stored_of_renews hn _

/-- The server follows the editor, whatever comes in and in whatever order, if the editor changes
only what it has open and tells the text. A document is there if it is open in the editor, at the
same version. Its text is that in the editor if and only if its latest text did not come from a
change whose first text is not its last: of the texts of a change the server keeps the first. Every
pass is over the text that the server has after the turn in which it is run. -/
theorem texts_follow_editor {inputs : List (World × Input)} (horderly : Orderly (told inputs))
    (uri : Uri) :
    ((Course.of inputs).connection.session.document? uri).map (·.version) =
      (buffer (told inputs) uri).map (·.version) ∧
    ((Course.of inputs).connection.session.document? uri = buffer (told inputs) uri ↔
      ¬ Lags (told inputs) uri) ∧
    (∀ {before after : List Notice} {version : Int} {first : String} {rest : List String},
      told inputs = before ++ .changed uri version (first :: rest) :: after →
      (∀ n ∈ after, n.renews uri = false) →
      (Course.of inputs).connection.session.document? uri = some ⟨uri, first, version⟩) ∧
    ∀ (w : World) (input : Input) {p : PassRecord},
      .passed p ∈ ((Course.of inputs).connection.take w input).events →
      p.request.text = p.document.text ∧
        (Course.of (inputs ++ [(w, input)])).connection.session.document? p.document.uri =
          some p.document := by
  obtain ⟨hversion, heq⟩ := horderly.follows uri
  rw [Course.document?_eq_taken]
  refine ⟨hversion, heq, fun {before after version first rest} hsplit hafter => ?_,
    fun w input p hp => ?_⟩
  · rw [hsplit]
    exact taken_of_change hafter
  · have hleaves := Connection.take_leaves (Course.keyed inputs) w input
    obtain ⟨htext, hdocument⟩ := hleaves.pass hp
    refine ⟨htext, ?_⟩
    rw [Course.of_append]
    exact (hleaves.document _).trans hdocument

namespace TwoTexts

/-- A source file. -/
def source : Uri := ⟨"file:///ws/a.c"⟩

/-- It is changed to two texts in turn. -/
def change : Input :=
  .notice "textDocument/didChange" (some (.object
    [("contentChanges", .array
        [.object [("text", .string "int a;")], .object [("text", .string "  int a;")]]),
      ("textDocument", .object [("uri", .string source.text), ("version", .nat 2)])]))

/-- It is opened and changed. -/
def inputs : List (World × Input) :=
  [(.bare, .introduces ⟨"file:///ws"⟩ (.object [("run", .string "onSave")])),
    (.bare, .opens ⟨source, "", 1⟩), (.bare, change)]

end TwoTexts

open TwoTexts in
/-- A change to two texts leaves the server with the first, at the version of the last, and a save
has the first analyzed. -/
theorem second_text_missed :
    Orderly (told inputs) ∧
    (Course.of inputs).connection.session.document? source = some ⟨source, "int a;", 2⟩ ∧
    buffer (told inputs) source = some ⟨source, "  int a;", 2⟩ ∧
    Lags (told inputs) source ∧
    ∃ p, .passed p ∈ ((Course.of inputs).connection.take .bare (.saves source)).events ∧
      p.request.text = p.document.text ∧ p.document = ⟨source, "int a;", 2⟩ := by
  have horderly : Orderly (told inputs) := by decide +kernel
  have hbuffer : buffer (told inputs) source = some ⟨source, "  int a;", 2⟩ := by decide +kernel
  have htold : told inputs = [.opened source "" 1] ++
      .changed source 2 ["int a;", "  int a;"] :: [] := by rfl
  obtain ⟨-, heq, hfirst, hpass⟩ := texts_follow_editor horderly source
  have hdocument := hfirst htold fun _ hn => absurd hn List.not_mem_nil
  refine ⟨horderly, hdocument, hbuffer, ?_, ?_⟩
  · refine Classical.byContradiction fun hlags => ?_
    have hsame := heq.2 hlags
    rw [hdocument, hbuffer] at hsame
    exact absurd hsame (by decide)
  · have hsaved : (((Course.of inputs).connection.take .bare (.saves source)).events.filterMap
        Event.pass?).map (·.document) = [⟨source, "int a;", 2⟩] := by decide +kernel
    obtain ⟨p, hp, hsource⟩ := List.mem_map.1 (hsaved ▸ List.mem_singleton.2 rfl)
    obtain ⟨e, he, hpass?⟩ := List.mem_filterMap.1 hp
    rw [Event.eq_passed hpass?] at he
    exact ⟨p, he, (hpass .bare (.saves source) he).1, hsource⟩

end LintRelay.Server
