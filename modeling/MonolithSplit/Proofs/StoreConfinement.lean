import Mathlib
import MonolithSplit.Store.Location
import MonolithSplit.Proofs.ResourceMap

/-!
# Resource files stay in the store's directory

An id has a path exactly when it is non-empty and made of ASCII letters, digits, `_` and `-`
(`isValidId_iff_idChars`); other letters and digits, `.` and the separator are refused. The file
name of such an id is one plain component, so the path of its file is read as the components of
the store's directory followed by that name (`components_joinPath`): a resource's file is always
a file of the store's directory, whatever the root. A lookup reads that one file and a write
changes no other. The listing derives its ids from the directory's file names by the same check,
and a listed id's path is the file it was listed from, so listing and lookup accept the same ids
(`resource_files_stay_in_store`).

Statement vocabulary: `IsIdChar` (the characters of an id, by code point) and `IsPlainName`
(a name that is one component of its own).
-/

namespace MonolithSplit.Store

open MonolithSplit.Model

/-- The characters an id may hold: ASCII letters and digits, `_` and `-`. -/
def IsIdChar (c : Char) : Prop :=
  ('a' ≤ c ∧ c ≤ 'z') ∨ ('A' ≤ c ∧ c ≤ 'Z') ∨ ('0' ≤ c ∧ c ≤ '9') ∨ c = '_' ∨ c = '-'

/-- A name that is one component of its own: not empty, neither `.` nor `..`, and without a
separator, so in particular not absolute. -/
structure IsPlainName (name : String) : Prop where
  ne_empty : name ≠ ""
  ne_dot : name ≠ "."
  ne_dotDot : name ≠ ".."
  separator_not_mem : separator ∉ name.toList

/-! ## Valid ids -/

theorem idChar_iff (c : Char) : (c.isAlphanum || c == '_' || c == '-') = true ↔ IsIdChar c := by
  simp only [Char.isAlphanum, Char.isAlpha, Char.isUpper, Char.isLower, Char.isDigit, IsIdChar,
    Char.le_def, Bool.or_eq_true, Bool.and_eq_true, decide_eq_true_eq, beq_iff_eq, ge_iff_le]
  tauto

/-- An id is valid exactly when it is non-empty and every character is an ASCII letter or digit,
`_` or `-`. -/
theorem isValidId_iff_idChars (id : String) :
    isValidId id = true ↔ id ≠ "" ∧ ∀ c ∈ id.toList, IsIdChar c := by
  simp only [isValidId, Bool.and_eq_true, Bool.not_eq_true', String.isEmpty_eq_false_iff,
    String.all_bool_eq, List.all_eq_true, idChar_iff, ne_eq]

instance (c : Char) : Decidable (IsIdChar c) :=
  decidable_of_iff _ (idChar_iff c)

theorem IsIdChar.ne_separator {c : Char} (h : IsIdChar c) : c ≠ separator := by
  rintro rfl
  simp [IsIdChar, separator, Char.le_def] at h

/-- The file name of a valid id is one plain component. -/
theorem isPlainName_fileName {id : String} (h : isValidId id = true) :
    IsPlainName (fileName id) := by
  obtain ⟨-, hchars⟩ := (isValidId_iff_idChars id).mp h
  -- the suffix alone is longer than `.` and `..`
  have hlong : ∀ t : String, t.length < 5 → fileName id ≠ t := by
    intro t ht heq
    have hsuffix : ".json".length = 5 := rfl
    have hlen := congrArg String.length heq
    rw [fileName, String.length_append, hsuffix] at hlen
    omega
  refine ⟨hlong "" (by decide), hlong "." (by decide), hlong ".." (by decide), ?_⟩
  simp only [fileName, String.toList_append, List.mem_append, not_or]
  exact ⟨fun hmem => (hchars _ hmem).ne_separator rfl, by simp [separator]⟩

/-! ## Splitting a path into parts -/

theorem exists_splitParts_eq_cons (cs : List Char) :
    ∃ first rest, splitParts cs = first :: rest := by
  cases cs with
  | nil => exact ⟨[], [], rfl⟩
  | cons c cs =>
      unfold splitParts
      split
      · exact ⟨[], _, rfl⟩
      · split
        · exact ⟨[c], [], rfl⟩
        · exact ⟨_, _, rfl⟩

/-- A separator splits a text into the parts before it and the parts after it. -/
theorem splitParts_append_separator (xs ys : List Char) :
    splitParts (xs ++ separator :: ys) = splitParts xs ++ splitParts ys := by
  induction xs with
  | nil => simp [splitParts]
  | cons c xs ih =>
      by_cases hc : c = separator
      · simp [splitParts, hc, ih]
      · obtain ⟨first, rest, hxs⟩ := exists_splitParts_eq_cons xs
        simp [splitParts, hc, ih, hxs]

theorem splitParts_of_separator_not_mem {cs : List Char} (h : separator ∉ cs) :
    splitParts cs = [cs] := by
  induction cs with
  | nil => rfl
  | cons c cs ih =>
      have hc : c ≠ separator := fun hc => h (hc ▸ List.mem_cons_self)
      simp [splitParts, hc, ih (fun hm => h (List.mem_cons_of_mem c hm))]

/-- Only the empty text splits into one empty part. -/
theorem eq_nil_of_splitParts {cs : List Char} (h : splitParts cs = [[]]) : cs = [] := by
  cases cs with
  | nil => rfl
  | cons c cs =>
      obtain ⟨first, rest, hcs⟩ := exists_splitParts_eq_cons cs
      unfold splitParts at h
      split at h
      · simp [hcs] at h
      · rw [hcs] at h
        simp at h

@[simp] theorem partComponent?_nil : partComponent? [] = none := by
  simp [partComponent?]

@[simp] theorem components_empty : components "" = [] := by
  simp [components, splitParts, leadingComponent?]

theorem components_eq_of_splitParts {p : String} {first : List Char} {rest : List (List Char)}
    (h : splitParts p.toList = first :: rest) :
    components p = (leadingComponent? first rest).toList ++ rest.filterMap partComponent? := by
  rw [components, h]

/-- The first part is read alike whatever follows, once something does. -/
theorem leadingComponent?_append {first : List Char} {rest : List (List Char)}
    (h : first ≠ [] ∨ rest ≠ []) (more : List (List Char)) :
    leadingComponent? first (rest ++ more) = leadingComponent? first rest := by
  by_cases hf : first = []
  · have hr : rest ≠ [] := h.resolve_left (not_not.mpr hf)
    simp [leadingComponent?, hf, hr]
  · simp [leadingComponent?, hf]

/-- The characters of a plain name are neither empty nor `.` nor `..`. -/
theorem IsPlainName.toList_ne {name : String} (h : IsPlainName name) :
    name.toList ≠ [] ∧ name.toList ≠ ['.'] ∧ name.toList ≠ ['.', '.'] :=
  ⟨by simpa using h.ne_empty, fun e => h.ne_dot (String.toList_inj.mp e),
    fun e => h.ne_dotDot (String.toList_inj.mp e)⟩

theorem partComponent?_of_isPlainName {name : String} (h : IsPlainName name) :
    partComponent? name.toList = some (.normal name) := by
  obtain ⟨hnil, hdot, hdotdot⟩ := h.toList_ne
  simp [partComponent?, hnil, hdot, hdotdot]

/-- A text and a separator after it split as the text, with an empty part after. -/
theorem splitParts_append_slash {t : String} {first : List Char} {rest : List (List Char)}
    (h : splitParts t.toList = first :: rest) :
    splitParts (t ++ "/").toList = first :: (rest ++ [[]]) := by
  have hsep : (t ++ "/").toList = t.toList ++ [separator] := by simp [separator]
  rw [hsep, splitParts_append_separator, h]
  rfl

/-! ## Joining a name to a path -/

/-- A plain name after a separator is one more component. -/
theorem components_separator_name (t : String) {name : String} (h : IsPlainName name) :
    components (t ++ "/" ++ name) = components (t ++ "/") ++ [.normal name] := by
  obtain ⟨first, rest, ht⟩ := exists_splitParts_eq_cons t.toList
  have hjoined : splitParts (t ++ "/" ++ name).toList = first :: (rest ++ [name.toList]) := by
    have hsep : (t ++ "/" ++ name).toList = t.toList ++ separator :: name.toList := by
      simp [separator]
    rw [hsep, splitParts_append_separator, ht, splitParts_of_separator_not_mem h.separator_not_mem]
    rfl
  rw [components_eq_of_splitParts hjoined, components_eq_of_splitParts (splitParts_append_slash ht)]
  have hlead : leadingComponent? first (rest ++ [name.toList]) =
      leadingComponent? first (rest ++ [[]]) := by
    simp [leadingComponent?]
  rw [hlead, List.filterMap_append, List.filterMap_append]
  simp [partComponent?_of_isPlainName h]

/-- A trailing separator is no component. -/
theorem components_append_separator {t : String} (ht : t ≠ "") :
    components (t ++ "/") = components t := by
  obtain ⟨first, rest, hsplit⟩ := exists_splitParts_eq_cons t.toList
  -- a non-empty text has a non-empty first part or a second part
  have hmore : first ≠ [] ∨ rest ≠ [] := by
    by_cases hf : first = []
    · refine .inr fun hr => ht ?_
      subst hf hr
      simpa using eq_nil_of_splitParts hsplit
    · exact .inl hf
  rw [components_eq_of_splitParts (splitParts_append_slash hsplit),
    components_eq_of_splitParts hsplit, leadingComponent?_append hmore]
  simp

theorem components_of_isPlainName {name : String} (h : IsPlainName name) :
    components name = [.normal name] := by
  rw [components_eq_of_splitParts (splitParts_of_separator_not_mem h.separator_not_mem)]
  obtain ⟨hnil, hdot, -⟩ := h.toList_ne
  simp [leadingComponent?, hnil, hdot, partComponent?_of_isPlainName h]

theorem exists_eq_append_of_endsWith {base : String} (h : base.endsWith "/" = true) :
    ∃ t : String, base = t ++ "/" := by
  rw [String.endsWith_eq_endsWith_toSlice, String.Slice.endsWith_string_iff,
    String.copy_toSlice] at h
  obtain ⟨pre, hpre⟩ := h
  refine ⟨String.ofList pre, ?_⟩
  rw [← String.toList_inj, String.toList_append, String.toList_ofList]
  exact hpre.symm

/-- Joining a plain name to a path adds it as the last component: the joined path names a
file of the directory the path names. -/
theorem components_joinPath (base : String) {name : String} (h : IsPlainName name) :
    components (joinPath base name) = components base ++ [.normal name] := by
  have habs : name.startsWith "/" = false := by
    rw [Bool.eq_false_iff]
    intro hstart
    rw [String.startsWith_eq_startsWith_toSlice, String.Slice.startsWith_string_iff,
      String.copy_toSlice] at hstart
    exact h.separator_not_mem (hstart.subset (by simp [separator]))
  unfold joinPath
  rw [if_neg (by simp [habs])]
  by_cases hempty : base = ""
  · subst hempty
    simp [components_of_isPlainName h]
  · by_cases hends : base.endsWith "/" = true
    · -- the base already ends in a separator: it is some text and that separator
      rw [if_pos (by simp [hends])]
      obtain ⟨t, rfl⟩ := exists_eq_append_of_endsWith hends
      rw [components_separator_name _ h]
    · rw [if_neg (by simp [hempty, hends]), components_separator_name _ h,
        components_append_separator hempty]

example : components (joinPath "/srv/./data/" "resources") =
    [.rootDir, .normal "srv", .normal "data", .normal "resources"] := by
  cbv

/-! ## The path of a resource's file -/

theorem pathFor_eq_ok_iff {dir id p : String} :
    pathFor dir id = .ok p ↔ isValidId id = true ∧ p = joinPath dir (fileName id) := by
  unfold pathFor
  split
  · rename_i hvalid
    simp [hvalid, eq_comm]
  · rename_i hvalid
    simp [hvalid]

/-- An id has a path exactly when it is valid. -/
theorem exists_pathFor_iff {dir id : String} :
    (∃ p, pathFor dir id = .ok p) ↔ isValidId id = true := by
  simp [pathFor_eq_ok_iff]

/-- A resource's file is a file of the store's directory. -/
theorem components_pathFor {dir id p : String} (h : pathFor dir id = .ok p) :
    components p = components dir ++ [.normal (fileName id)] := by
  obtain ⟨hvalid, rfl⟩ := pathFor_eq_ok_iff.mp h
  exact components_joinPath dir (isPlainName_fileName hvalid)

theorem isPlainName_resources : IsPlainName "resources" :=
  ⟨by decide, by decide, by decide, by simp [separator]⟩

/-! ## What a lookup and a write touch -/

/-- A lookup reads only the file of its id: two stores alike in that file, and in whether the
directory is made, answer it alike. -/
theorem get_eq_of_file_eq {s s' : ResourceStore} (id : String) (hmade : s.made = s'.made)
    (hfile : s.entryAt? (fileName id) = s'.entryAt? (fileName id)) : s.get id = s'.get id := by
  simp [ResourceStore.get, hmade, hfile]

/-- A write changes no file but its resource's. -/
theorem write_entryAt?_of_ne (s : ResourceStore) (r : Resource) {name : String}
    (h : name ≠ fileName r.id) : (s.write r).1.entryAt? name = s.entryAt? name := by
  unfold ResourceStore.write
  split
  · split
    · rfl
    · split
      · rfl
      · exact ResourceStore.entryAt?_setEntry_of_ne _ _ h
  · rfl

/-! ## Listing and lookup accept the same ids -/

/-- An id the listing takes from a file name has a path, and it is that file's. -/
theorem pathFor_of_idOfFileName? {name id : String} (h : idOfFileName? name = some id)
    (dir : String) : pathFor dir id = .ok (joinPath dir name) := by
  obtain ⟨hvalid, rfl⟩ := idOfFileName?_eq_some_iff.mp h
  exact pathFor_eq_ok_iff.mpr ⟨hvalid, rfl⟩

/-- Resource ids never leave the store's directory. An id has a path exactly when it is
non-empty and made of ASCII letters, digits, `_` and `-`; the path is then
`<root>/resources/<id>.json`, whose last part is one plain component, so it is read as the
components of the root, then `resources`, then the file name. A lookup reads that file alone
and a write changes no other. Every id the listing derives from a file name has a path, that
of the file it came from, and every id with a path is listed from its file. -/
theorem resource_files_stay_in_store (root id : String) :
    ((∃ p, pathFor (resourcesDir root) id = .ok p) ↔
        id ≠ "" ∧ ∀ c ∈ id.toList, IsIdChar c) ∧
      (∀ p, pathFor (resourcesDir root) id = .ok p →
        p = joinPath (joinPath root "resources") (fileName id) ∧ IsPlainName (fileName id) ∧
          components p = components root ++ [.normal "resources", .normal (fileName id)]) ∧
      (∀ s s' : ResourceStore, s.made = s'.made →
        s.entryAt? (fileName id) = s'.entryAt? (fileName id) → s.get id = s'.get id) ∧
      (∀ (s : ResourceStore) (r : Resource), r.id = id →
        ∀ name ≠ fileName id, (s.write r).1.entryAt? name = s.entryAt? name) ∧
      (∀ name, idOfFileName? name = some id →
        pathFor (resourcesDir root) id = .ok (joinPath (resourcesDir root) name)) ∧
      ((∃ p, pathFor (resourcesDir root) id = .ok p) → idOfFileName? (fileName id) = some id) := by
  refine ⟨?_, ?_, ?_, ?_, ?_, ?_⟩
  · rw [exists_pathFor_iff, isValidId_iff_idChars]
  · intro p hp
    obtain ⟨hvalid, rfl⟩ := pathFor_eq_ok_iff.mp hp
    refine ⟨rfl, isPlainName_fileName hvalid, ?_⟩
    rw [components_pathFor hp, resourcesDir, components_joinPath root isPlainName_resources]
    simp
  · intro s s' hmade hfile
    exact get_eq_of_file_eq id hmade hfile
  · rintro s r rfl name hname
    exact write_entryAt?_of_ne s r hname
  · intro name hname
    exact pathFor_of_idOfFileName? hname _
  · intro hpath
    exact idOfFileName?_eq_some_iff.mpr ⟨exists_pathFor_iff.mp hpath, rfl⟩

end MonolithSplit.Store
