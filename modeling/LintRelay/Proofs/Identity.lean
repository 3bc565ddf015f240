import LintRelay.Server.Session

/-!
# Identities of documents

The path of a file URI begins with a slash (`Uri.filePath?_rooted`), and the identity of such a path
does not depend on the directory that relative names are taken from (`Path.identity_of_rooted`). A
pass and the closing of a document therefore mean the same identity, although they compute it from
different directories (`Server.document_requestOf`).
-/

namespace LintRelay

/-- Decoding leaves a slash at the front as it is. -/
theorem Uri.decode_slash (text : List Char) : decode ('/' :: text) = '/' :: decode text := by
  have hbytes : decodeBytes ('/' :: text) = 47 :: decodeBytes text := by
    rw [decodeBytes]
    · rfl
    · simp
  unfold decode Text.decodeUtf8
  rw [hbytes, String.toList_ofList, String.toList_ofList]
  rfl

/-- A file path that comes from a URI begins with a slash. -/
theorem Uri.filePath?_rooted {u : Uri} {file : String} (h : u.filePath? = some file) :
    ∃ rest, file.toList = '/' :: rest := by
  unfold filePath? at h
  split at h
  · simp at h
  · next segments hsegments =>
    split at h
    · -- There is at least one segment, and each comes after a slash.
      obtain ⟨first, others, rfl⟩ : ∃ first others, segments = first :: others := by
        unfold segments? at hsegments
        split at hsegments
        · next rest _ =>
          obtain rfl := Option.some.inj hsegments
          exact List.exists_cons_of_ne_nil (List.splitOn_ne_nil _ _)
        · simp at hsegments
      rw [List.flatMap_cons, List.cons_append, decode_slash] at h
      obtain rfl := Option.some.inj h
      rw [String.toList_ofList]
      split
      · exact ⟨_, rfl⟩
      · exact ⟨_, rfl⟩
    · simp at h

/-- The identity of a path that begins with a slash does not depend on a directory. -/
theorem Path.identity_of_rooted {name : String} {rest : List Char}
    (h : name.toList = '/' :: rest) (base base' : String) :
    identity name base = identity name base' := by
  unfold identity identityChars
  rw [h]
  simp [slashChars, isAbsoluteChars, isSeparator]

namespace Server

/-- The identity of the file that a URI names. -/
def identityOf? (uri : Uri) : Option String := uri.filePath?.map documentIdentity

/-- The identity of the document of a pass is that of the file that its URI names. -/
theorem document_requestOf {uri : Uri} {file : String} (h : uri.filePath? = some file)
    (d : Document) (root shadow : String) (settings : Settings) (trigger : Trigger) :
    identityOf? uri = some (Session.requestOf d file root shadow settings trigger).document := by
  obtain ⟨rest, hrest⟩ := Uri.filePath?_rooted h
  unfold identityOf?
  rw [h, Option.map_some]
  exact congrArg some (Path.identity_of_rooted hrest file root)

end Server

end LintRelay
