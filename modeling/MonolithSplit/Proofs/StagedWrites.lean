import MonolithSplit.Store.Staging
import MonolithSplit.Proofs.ResourceMap

/-!
# Writes through staging files are atomic

Puts that stage their text in a file of their own and rename it onto `<id>.json` can interleave
their steps in any way, with lookups and listings between any two steps
(`staged_writes_are_atomic`). Started on an empty or missing directory:

* a lookup of an id the store can keep finds the resource whose rename onto its file came last,
  whole, or nothing before the first such rename; once every put has ended, that is the last
  resource put under the id;
* a listing succeeds and reads only resource files: one summary per id renamed onto, that of the
  resource renamed last, in increasing order of id. A staging file, empty or written, is never
  read;
* every put of an id the store can keep succeeds, a put of a valid id whose file name the file
  system does not take fails at its rename, and a put of an invalid id is refused; and every put
  on its way can take its remaining steps and end so.

The argument splits the directory in two. Its files named `<…>.json` (`jsonFiles`) are what a
sequential store holds after the renames, as puts, in order: `Holds` of the sequential store, with
the renames as its calls. Its other files are the staging files of the puts on their way, as they
stand. Each step keeps both (`Staging.Inv.step`), and so does each run (`Staging.Inv.run`).
Lookups and listings read only the first part. A put with no other on its way writes as the
sequential store's write does (`run_putSteps`).
-/

namespace MonolithSplit.Store

open MonolithSplit.Model

/-! ## Resource files -/

namespace ResourceStore

/-- The files named `<…>.json`, the only ones a lookup or a listing reads. -/
def jsonFiles (s : ResourceStore) : ResourceStore :=
  { s with entries := s.entries.filter fun kv => kv.1.endsWith ".json" }

variable {s : ResourceStore} {name : String} {e : Entry}

theorem idOfFileName?_of_not_json (h : name.endsWith ".json" = false) : idOfFileName? name = none := by
  simp [idOfFileName?, h]

theorem entryAt?_jsonFiles (h : name.endsWith ".json" = true) :
    s.jsonFiles.entryAt? name = s.entryAt? name := by
  have hp : (fun kv : String × Entry =>
      decide (kv.1.endsWith ".json" = true ∧ decide (kv.1 = name) = true)) =
      fun kv => decide (kv.1 = name) := by
    funext kv
    by_cases hk : kv.1 = name
    · simp [hk, h]
    · simp [hk]
  simp only [entryAt?, jsonFiles, List.find?_filter, hp]

@[simp] theorem get_jsonFiles (s : ResourceStore) (id : String) : s.jsonFiles.get id = s.get id := by
  simp only [get, entryAt?_jsonFiles (fileName_endsWith id)]
  rfl

theorem ids_jsonFiles (s : ResourceStore) : s.jsonFiles.ids = s.ids := by
  -- a name that does not end in `.json` stands for no id
  have hf : (fun kv : String × Entry =>
      if kv.1.endsWith ".json" = true then idOfFileName? kv.1 else none) =
      fun kv => idOfFileName? kv.1 := by
    funext kv
    cases h : kv.1.endsWith ".json"
    · simp [idOfFileName?_of_not_json h]
    · rfl
  simp only [ids, jsonFiles, List.filterMap_filter, hf]

@[simp] theorem list_jsonFiles (s : ResourceStore) : s.jsonFiles.list = s.list := by
  simp only [list, ids_jsonFiles, entryAt?_jsonFiles, fileName_endsWith]

/-! ### What each change of the directory does to its files -/

theorem mem_setEntry {kv : String × Entry} :
    kv ∈ (s.setEntry name e).entries ↔ kv = (name, e) ∨ kv ∈ s.entries ∧ kv.1 ≠ name := by
  simp [setEntry]

theorem mem_removeEntry {kv : String × Entry} :
    kv ∈ (s.removeEntry name).entries ↔ kv ∈ s.entries ∧ kv.1 ≠ name := by
  simp [removeEntry]

theorem names_nodup_setEntry (h : (s.entries.map Prod.fst).Nodup) :
    ((s.setEntry name e).entries.map Prod.fst).Nodup := by
  simp only [setEntry, List.map_cons, List.nodup_cons]
  refine ⟨fun hmem => ?_, h.sublist (List.filter_sublist.map _)⟩
  obtain ⟨kv, hkv, hname⟩ := List.mem_map.mp hmem
  have hne := (List.mem_filter.mp hkv).2
  simp [hname] at hne

theorem names_nodup_removeEntry (h : (s.entries.map Prod.fst).Nodup) :
    ((s.removeEntry name).entries.map Prod.fst).Nodup :=
  h.sublist (List.filter_sublist.map _)

/-- A file outside the resource files comes and goes without touching them. -/
theorem jsonFiles_removeEntry_of_not_json (h : name.endsWith ".json" = false) :
    (s.removeEntry name).jsonFiles.entries = s.jsonFiles.entries := by
  simp only [removeEntry, jsonFiles, List.filter_filter]
  refine List.filter_congr fun kv _ => ?_
  by_cases hk : kv.1 = name
  · simp [hk, h]
  · simp [hk]

theorem jsonFiles_setEntry_of_not_json (h : name.endsWith ".json" = false) :
    (s.setEntry name e).jsonFiles.entries = s.jsonFiles.entries := by
  -- the new file is not a resource file, and the rest is the directory less that name
  simp only [setEntry, jsonFiles, List.filter_cons, h, Bool.false_eq_true, if_false]
  exact jsonFiles_removeEntry_of_not_json h

/-- A resource file set in the directory is set among its resource files. -/
theorem jsonFiles_setEntry_of_json (h : name.endsWith ".json" = true) :
    (s.setEntry name e).jsonFiles.entries = (s.jsonFiles.setEntry name e).entries := by
  simp only [setEntry, jsonFiles, List.filter_cons, h, if_true, List.filter_filter, Bool.and_comm]

theorem name_ne_of_entryAt?_none (h : s.entryAt? name = none) {kv : String × Entry}
    (hkv : kv ∈ s.entries) : kv.1 ≠ name := by
  simp only [entryAt?, Option.map_eq_none_iff, List.find?_eq_none] at h
  simpa using h kv hkv

theorem removeEntry_of_entryAt?_none (h : s.entryAt? name = none) : s.removeEntry name = s := by
  simp only [removeEntry]
  rw [List.filter_eq_self.mpr fun kv hkv => by simpa using name_ne_of_entryAt?_none h hkv]

theorem removeEntry_setEntry (s : ResourceStore) (name : String) (e : Entry) :
    (s.setEntry name e).removeEntry name = s.removeEntry name := by
  simp [setEntry, removeEntry, List.filter_filter]

end ResourceStore

/-! ## The steps of a put -/

/-- The staging file of a put on its way, as it stands: empty until the text is written. -/
def StagedPut.entry (p : StagedPut) : String × Entry :=
  (p.temp, .file (if p.written then storedText p.resource else ""))

/-- How a put of `r` ends, by its id alone: refused for an id that is not valid, failed for a file
name the file system does not take, and otherwise done. -/
def putFailure (r : Resource) : Option StoreError :=
  if isValidId r.id then (if isTooLong (fileName r.id) then some (.io nameTooLong) else none)
  else some (.invalidId r.id)

/-- A put on its way as it stands once the put staging in `temp` has written its text. -/
def StagedPut.afterWrite (temp : String) (q : StagedPut) : StagedPut :=
  if q.temp = temp then { q with written := true } else q

@[simp] theorem StagedPut.afterWrite_temp (temp : String) (q : StagedPut) :
    (q.afterWrite temp).temp = q.temp := by
  unfold StagedPut.afterWrite
  split <;> rfl

@[simp] theorem StagedPut.afterWrite_resource (temp : String) (q : StagedPut) :
    (q.afterWrite temp).resource = q.resource := by
  unfold StagedPut.afterWrite
  split <;> rfl

theorem StagingStep.resources_append (steps more : List StagingStep) :
    StagingStep.resources (steps ++ more) =
      StagingStep.resources steps ++ StagingStep.resources more := by
  simp [StagingStep.resources]

namespace Staging

/-- The resource whose rename onto the file of an id came last. -/
def lastRenamed (st : Staging) (id : String) : Option Resource :=
  (st.renamed.filter (·.id = id)).getLast?

variable {st st' : Staging} {p : StagedPut} {temp : String}

theorem staged?_eq_some (h : st.staged? temp = some p) : p ∈ st.staged ∧ p.temp = temp := by
  refine ⟨List.mem_of_find?_eq_some h, ?_⟩
  simpa using List.find?_some h

theorem staged?_of_mem (hnodup : (st.staged.map StagedPut.temp).Nodup) (hp : p ∈ st.staged) :
    st.staged? p.temp = some p :=
  find?_key_of_mem StagedPut.temp hnodup hp

theorem create_eq_some {r : Resource} (h : st.create r temp = some st') :
    (isValidId r.id = false ∧
        st' = { st with finished := st.finished ++ [(r, some (.invalidId r.id))] }) ∨
      (isValidId r.id = true ∧ st.dir.entryAt? temp = none ∧ temp.endsWith ".json" = false ∧
        st' = { st with
          dir := st.dir.opened.setEntry temp (.file "")
          staged := st.staged ++ [⟨r, temp, false⟩] }) := by
  unfold create at h
  split at h
  · rename_i hvalid
    split at h
    · rename_i hfresh
      cases h
      simp only [Bool.and_eq_true, Option.isNone_iff_eq_none, Bool.not_eq_true'] at hfresh
      exact .inr ⟨hvalid, hfresh.1, hfresh.2, rfl⟩
    · cases h
  · rename_i hinvalid
    cases h
    exact .inl ⟨by simpa using hinvalid, rfl⟩

theorem write_eq_some (h : st.write temp = some st') :
    ∃ p, st.staged? temp = some p ∧ p.written = false ∧
      st' = { st with
        dir := st.dir.setEntry temp (.file (storedText p.resource))
        staged := st.staged.map (StagedPut.afterWrite temp) } := by
  unfold write at h
  split at h
  · rename_i p hp
    split at h
    · cases h
    · rename_i hw
      cases h
      exact ⟨p, hp, by simpa using hw, rfl⟩
  · cases h

/-- A rename takes a put whose text is written: it fails for a name too long or a directory in
the way, and otherwise moves the staging file onto the resource's. -/
theorem rename_eq_some (h : st.rename temp = some st') :
    ∃ p e, st.staged? temp = some p ∧ st.dir.entryAt? temp = some e ∧ p.written = true ∧
      (isTooLong (fileName p.resource.id) = true ∧
          st' = st.finish (st.dir.removeEntry temp) p (some (.io nameTooLong)) ∨
        isTooLong (fileName p.resource.id) = false ∧
          st.dir.entryAt? (fileName p.resource.id) = some .directory ∧
          st' = st.finish (st.dir.removeEntry temp) p (some (.io isADirectory)) ∨
        isTooLong (fileName p.resource.id) = false ∧
          st.dir.entryAt? (fileName p.resource.id) ≠ some .directory ∧
          st' = { st.finish ((st.dir.removeEntry temp).setEntry (fileName p.resource.id) e) p none with
            renamed := st.renamed ++ [p.resource] }) := by
  unfold rename at h
  split at h
  · rename_i p e hp he
    refine ⟨p, e, hp, he, ?_⟩
    split at h
    · rename_i hw
      refine ⟨hw, ?_⟩
      dsimp only at h
      split at h
      · rename_i hlong
        cases h
        exact .inl ⟨hlong, rfl⟩
      · rename_i hlong
        split at h
        · rename_i hdir
          cases h
          exact .inr (.inl ⟨by simpa using hlong, hdir, rfl⟩)
        · rename_i hdir
          cases h
          exact .inr (.inr ⟨by simpa using hlong, hdir, rfl⟩)
    · cases h
  · cases h

/-! ## The invariant -/

/-- What every state a run reaches keeps, for the steps it took. -/
structure Inv (steps : List StagingStep) (st : Staging) : Prop where
  /-- The resource files are those a sequential store holds after the renames, as puts. -/
  files : Holds st.dir.jsonFiles (st.renamed.map .put)
  names_nodup : (st.dir.entries.map Prod.fst).Nodup
  /-- The other files are the staging files of the puts on their way, as they stand. -/
  staging : ∀ kv : String × Entry, kv.1.endsWith ".json" = false →
    (kv ∈ st.dir.entries ↔ kv ∈ st.staged.map StagedPut.entry)
  temps_nodup : (st.staged.map StagedPut.temp).Nodup
  /-- A put on its way stages outside the resource files, for a valid id of a resource the steps
  began to put. -/
  staged : ∀ p ∈ st.staged, p.temp.endsWith ".json" = false ∧ isValidId p.resource.id = true ∧
    p.resource ∈ StagingStep.resources steps
  renamed : ∀ r ∈ st.renamed, r ∈ StagingStep.resources steps
  /-- A put that ended failed as its id says. -/
  finished : ∀ x ∈ st.finished, x.2 = putFailure x.1

theorem Inv.ofStore (made : Bool) : Inv [] (ofStore ⟨[], made⟩) where
  files := holds_empty made
  names_nodup := List.nodup_nil
  staging := by simp [Staging.ofStore]
  temps_nodup := List.nodup_nil
  staged := by simp [Staging.ofStore]
  renamed := by simp [Staging.ofStore]
  finished := by simp [Staging.ofStore]

variable {steps : List StagingStep}

/-- More steps taken keep the invariant of fewer. -/
theorem Inv.mono {steps' : List StagingStep} (h : Inv steps st)
    (hsub : ∀ r ∈ StagingStep.resources steps, r ∈ StagingStep.resources steps') : Inv steps' st :=
  { h with
    staged := fun p hp => ⟨(h.staged p hp).1, (h.staged p hp).2.1, hsub _ (h.staged p hp).2.2⟩
    renamed := fun r hr => hsub r (h.renamed r hr) }

theorem Inv.append (h : Inv steps st) (more : List StagingStep) : Inv (steps ++ more) st :=
  h.mono fun r hr => by simp [StagingStep.resources_append, hr]

/-- The staging file of a put on its way is in the directory, as it stands. -/
theorem Inv.entry_mem (h : Inv steps st) (hp : p ∈ st.staged) : p.entry ∈ st.dir.entries :=
  (h.staging p.entry (h.staged p hp).1).mpr (List.mem_map_of_mem hp)

theorem Inv.entryAt?_temp (h : Inv steps st) (hp : p ∈ st.staged) :
    st.dir.entryAt? p.temp = some p.entry.2 :=
  entryAt?_of_mem h.names_nodup (h.entry_mem hp)

/-- No resource file is a directory. -/
theorem Inv.not_directory (h : Inv steps st) (id : String) :
    st.dir.entryAt? (fileName id) ≠ some .directory := by
  rw [← ResourceStore.entryAt?_jsonFiles (fileName_endsWith id)]
  exact h.files.not_directory _

/-! ### Each step keeps it -/

theorem Inv.create {r : Resource} (h : Inv steps st) (hs : st.create r temp = some st') :
    Inv (steps ++ [.create r temp]) st' := by
  have h' := h.append [.create r temp]
  rcases create_eq_some hs with ⟨hinvalid, rfl⟩ | ⟨hvalid, hfresh, htemp, rfl⟩
  · -- refused: only the record of ended puts grows
    refine { h' with finished := fun x hx => ?_ }
    rcases List.mem_append.mp hx with hx | hx
    · exact h.finished x hx
    · obtain rfl := List.mem_singleton.mp hx
      simp [putFailure, hinvalid]
  · -- a new empty staging file, under a name no file has
    have hfree : ∀ kv ∈ st.dir.entries, kv.1 ≠ temp := fun kv hkv =>
      ResourceStore.name_ne_of_entryAt?_none hfresh hkv
    have hold : temp ∉ st.staged.map StagedPut.temp := fun hmem => by
      obtain ⟨q, hq, rfl⟩ := List.mem_map.mp hmem
      exact hfree q.entry (h.entry_mem hq) rfl
    refine ⟨Holds.of_entries h.files (ResourceStore.jsonFiles_setEntry_of_not_json htemp),
      ResourceStore.names_nodup_setEntry h.names_nodup, fun kv hkv => ?_, ?_, fun q hq => ?_,
      h'.renamed, h.finished⟩
    · rw [ResourceStore.mem_setEntry, List.map_append, List.mem_append, ← h.staging kv hkv]
      have hfree' : kv ∈ st.dir.entries → kv.1 ≠ temp := hfree kv
      simp only [List.map_cons, List.map_nil, List.mem_singleton, StagedPut.entry,
        Bool.false_eq_true, if_false]
      tauto
    · simpa [List.nodup_append] using ⟨h.temps_nodup, fun q hq heq => hold (heq ▸ List.mem_map_of_mem hq)⟩
    · rcases List.mem_append.mp hq with hq | hq
      · exact h'.staged q hq
      · obtain rfl := List.mem_singleton.mp hq
        exact ⟨htemp, hvalid, by simp [StagingStep.resources]⟩

theorem Inv.write (h : Inv steps st) (hs : st.write temp = some st') :
    Inv (steps ++ [.write temp]) st' := by
  have h' := h.append [.write temp]
  obtain ⟨p, hp, hw, rfl⟩ := write_eq_some hs
  obtain ⟨hpmem, rfl⟩ := staged?_eq_some hp
  have htemp := (h.staged p hpmem).1
  -- the put written is the one staging there; every other put keeps its file
  have hentry : ∀ q ∈ st.staged, (q.afterWrite p.temp).entry =
      if q.temp = p.temp then (p.temp, .file (storedText p.resource)) else q.entry := fun q hq => by
    by_cases hq' : q.temp = p.temp
    · obtain rfl : q = p := List.inj_on_of_nodup_map h.temps_nodup hq hpmem hq'
      simp [StagedPut.afterWrite, StagedPut.entry]
    · simp [StagedPut.afterWrite, hq']
  have hmap_temp : (st.staged.map (StagedPut.afterWrite p.temp)).map StagedPut.temp =
      st.staged.map StagedPut.temp := by
    simp [List.map_map, Function.comp_def]
  refine ⟨Holds.of_entries h.files (ResourceStore.jsonFiles_setEntry_of_not_json htemp),
    ResourceStore.names_nodup_setEntry h.names_nodup, fun kv hkv => ?_, hmap_temp ▸ h.temps_nodup,
    fun q' hq' => ?_, h'.renamed, h.finished⟩
  · rw [ResourceStore.mem_setEntry, h.staging kv hkv]
    constructor
    · rintro (rfl | ⟨hmem, hne⟩)
      · exact List.mem_map.mpr ⟨_, List.mem_map_of_mem hpmem, by simp [hentry p hpmem]⟩
      · obtain ⟨q, hq, rfl⟩ := List.mem_map.mp hmem
        have hne' : q.temp ≠ p.temp := hne
        exact List.mem_map.mpr ⟨_, List.mem_map_of_mem hq, by simp [hentry q hq, hne']⟩
    · intro hmem
      obtain ⟨q', hq', rfl⟩ := List.mem_map.mp hmem
      obtain ⟨q, hq, rfl⟩ := List.mem_map.mp hq'
      rw [hentry q hq]
      split
      · exact .inl rfl
      · exact .inr ⟨List.mem_map_of_mem hq, by assumption⟩
  · obtain ⟨q, hq, rfl⟩ := List.mem_map.mp hq'
    simpa using h'.staged q hq

/-- Ending a put on its way keeps the invariant, when the directory left has the other staging
files, resource files as a sequential store's after `renamed`, and the put fails as its id says. -/
theorem Inv.finish (h : Inv steps st) {dir : ResourceStore}
    {renamed : List Resource} {failure : Option StoreError}
    (hfiles : Holds dir.jsonFiles (renamed.map .put))
    (hnodup : (dir.entries.map Prod.fst).Nodup)
    (hdir : ∀ kv : String × Entry, kv.1.endsWith ".json" = false →
      (kv ∈ dir.entries ↔ kv ∈ st.dir.entries ∧ kv.1 ≠ p.temp))
    (hrenamed : ∀ r ∈ renamed, r ∈ StagingStep.resources steps)
    (hfailure : failure = putFailure p.resource) :
    Inv steps ⟨dir, st.staged.filter (·.temp ≠ p.temp), renamed,
      st.finished ++ [(p.resource, failure)]⟩ := by
  refine ⟨hfiles, hnodup, fun kv hkv => ?_, h.temps_nodup.sublist (List.filter_sublist.map _),
    fun q hq => h.staged q (List.mem_filter.mp hq).1, hrenamed, fun x hx => ?_⟩
  · rw [hdir kv hkv, h.staging kv hkv]
    simp only [List.mem_map, List.mem_filter, decide_eq_true_eq]
    constructor
    · rintro ⟨⟨q, hq, rfl⟩, hne⟩
      exact ⟨q, ⟨hq, hne⟩, rfl⟩
    · rintro ⟨q, ⟨hq, hne⟩, rfl⟩
      exact ⟨⟨q, hq, rfl⟩, hne⟩
  · rcases List.mem_append.mp hx with hx | hx
    · exact h.finished x hx
    · obtain rfl := List.mem_singleton.mp hx
      exact hfailure

theorem Inv.rename (h : Inv steps st) (hs : st.rename temp = some st') :
    Inv (steps ++ [.rename temp]) st' := by
  have h' := h.append [.rename temp]
  obtain ⟨p, e, hp, he, hw, hcases⟩ := rename_eq_some hs
  obtain ⟨hpmem, rfl⟩ := staged?_eq_some hp
  obtain ⟨htemp, hvalid, hfrom⟩ := h.staged p hpmem
  -- removing the staging file leaves the resource files and the other staging files
  have hremoved : ∀ kv : String × Entry, kv.1.endsWith ".json" = false →
      (kv ∈ (st.dir.removeEntry p.temp).entries ↔ kv ∈ st.dir.entries ∧ kv.1 ≠ p.temp) :=
    fun kv _ => ResourceStore.mem_removeEntry
  have hfiles_removed : Holds (st.dir.removeEntry p.temp).jsonFiles (st.renamed.map .put) :=
    Holds.of_entries h.files (ResourceStore.jsonFiles_removeEntry_of_not_json htemp)
  rcases hcases with ⟨hlong, rfl⟩ | ⟨-, hdir, -⟩ | ⟨hfit, -, rfl⟩
  · exact h'.finish hfiles_removed (ResourceStore.names_nodup_removeEntry h.names_nodup)
      hremoved h'.renamed (by simp [putFailure, hvalid, hlong])
  · exact absurd hdir (h.not_directory _)
  · -- the staging file, its text written, becomes the resource's file
    have hetext : e = .file (storedText p.resource) := by
      have := h.entryAt?_temp hpmem
      rw [he] at this
      simpa [StagedPut.entry, hw] using this
    subst hetext
    have hjson : (((st.dir.removeEntry p.temp).setEntry (fileName p.resource.id)
        (.file (storedText p.resource))).jsonFiles).entries =
        (st.dir.jsonFiles.opened.setEntry (fileName p.resource.id)
          (.file (storedText p.resource))).entries := by
      rw [ResourceStore.jsonFiles_setEntry_of_json (fileName_endsWith _)]
      simp only [ResourceStore.setEntry, ResourceStore.opened,
        ResourceStore.jsonFiles_removeEntry_of_not_json htemp]
    refine h'.finish (Holds.of_entries ?_ hjson)
      (ResourceStore.names_nodup_setEntry (ResourceStore.names_nodup_removeEntry h.names_nodup))
      (fun kv hkv => ?_) (fun r hr => ?_) (by simp [putFailure, hvalid, hfit])
    · rw [List.map_append]
      exact h.files.put_stored ⟨hvalid, hfit⟩
    · -- a staging file is never a resource file
      have hne : kv.1 ≠ fileName p.resource.id := fun heq => by
        rw [heq, fileName_endsWith] at hkv
        cases hkv
      dsimp only [Staging.finish]
      rw [ResourceStore.mem_setEntry, hremoved kv hkv]
      constructor
      · rintro (rfl | ⟨hmem, -⟩)
        · exact absurd rfl hne
        · exact hmem
      · intro hmem
        exact .inr ⟨hmem, hne⟩
    · rcases List.mem_append.mp hr with hr | hr
      · exact h'.renamed r hr
      · obtain rfl := List.mem_singleton.mp hr
        exact h'.staged p hpmem |>.2.2

/-- Every step keeps the invariant. -/
theorem Inv.step {s : StagingStep} (h : Inv steps st) (hs : st.step s = some st') :
    Inv (steps ++ [s]) st' := by
  cases s with
  | create r temp => exact h.create hs
  | write temp => exact h.write hs
  | rename temp => exact h.rename hs

/-- Every run keeps the invariant. -/
theorem Inv.run {more : List StagingStep} (h : Inv steps st) (hr : st.run more = some st') :
    Inv (steps ++ more) st' := by
  induction more generalizing steps st with
  | nil =>
      cases hr
      simpa using h
  | cons s more ih =>
      simp only [Staging.run, Option.bind_eq_some_iff] at hr
      obtain ⟨st₁, hs, hr⟩ := hr
      simpa using ih (h.step hs) hr

/-! ## What lookups and listings read -/

theorem puts_map_put (rs : List Resource) : StoreCall.puts (rs.map .put) = rs := by
  simp [StoreCall.puts, List.filterMap_map]

theorem lastPut_renamed (st : Staging) (id : String) :
    lastPut (st.renamed.map .put) id = st.lastRenamed id := by
  rw [lastPut, puts_map_put, lastRenamed]

section Answers

variable (hback : ∀ r ∈ StagingStep.resources steps, Resource.readText (storedText r) = .ok r)
include hback

theorem Inv.back (h : Inv steps st) :
    ∀ r ∈ StoreCall.puts (st.renamed.map .put), Resource.readText (storedText r) = .ok r := by
  rw [puts_map_put]
  exact fun r hr => hback r (h.renamed r hr)

/-- A lookup of an id the store can keep finds the resource renamed last onto its file. -/
theorem Inv.get (h : Inv steps st) {id : String} (hid : Storable id) :
    st.dir.get id = .ok (st.lastRenamed id) := by
  rw [← ResourceStore.get_jsonFiles, h.files.get (h.back hback) hid, lastPut_renamed]

/-- A listing reads the resource files alone: one summary per id renamed onto, in increasing
order of id, that of the resource renamed last. -/
theorem Inv.list (h : Inv steps st) :
    ∃ L, st.dir.list = .ok L ∧ (L.map Summary.id).Pairwise (· < ·) ∧
      (∀ id, id ∈ L.map Summary.id ↔ Storable id ∧ (st.lastRenamed id).isSome) ∧
      ∀ x ∈ L, ∃ r, st.lastRenamed x.id = some r ∧ x = Resource.summary r := by
  obtain ⟨L, hlist, hids, hsummary⟩ := h.files.list (h.back hback)
  refine ⟨L, by rw [← ResourceStore.list_jsonFiles, hlist], hids ▸ h.files.ids_sorted,
    fun id => ?_, fun x hx => ?_⟩
  · rw [hids, h.files.mem_ids, lastPut_renamed]
  · obtain ⟨r, hr, hx⟩ := hsummary x hx
    exact ⟨r, by rwa [← lastPut_renamed], hx⟩

end Answers

/-! ## Every put on its way can end -/

/-- A put whose text is written renames, and ends as its id says. -/
theorem Inv.rename_ends (h : Inv steps st) (hp : p ∈ st.staged) (hw : p.written = true) :
    ∃ st', st.rename p.temp = some st' ∧
      st'.finished = st.finished ++ [(p.resource, putFailure p.resource)] := by
  obtain ⟨-, hvalid, -⟩ := h.staged p hp
  unfold Staging.rename
  rw [staged?_of_mem h.temps_nodup hp, h.entryAt?_temp hp]
  simp only [hw, if_true]
  cases hlong : isTooLong (fileName p.resource.id)
  · -- a name that fits: no directory stands in the way
    have hnodir := h.not_directory p.resource.id
    simp only [Bool.false_eq_true, if_false]
    exact ⟨_, rfl, by simp [Staging.finish, putFailure, hvalid, hlong]⟩
  · exact ⟨_, rfl, by simp [Staging.finish, putFailure, hvalid, hlong]⟩

/-- A put on its way takes its remaining steps, whatever came before them, and ends as its id
says. -/
theorem Inv.ends (h : Inv steps st) (hp : p ∈ st.staged) :
    ∃ st', st.run p.remaining = some st' ∧
      st'.finished = st.finished ++ [(p.resource, putFailure p.resource)] := by
  cases hw : p.written with
  | true =>
      obtain ⟨st', hr, hf⟩ := h.rename_ends hp hw
      exact ⟨st', by simp [StagedPut.remaining, hw, Staging.run, Staging.step, hr], hf⟩
  | false =>
      -- the text is written first, and the put, now written, is still on its way
      have hwrite : st.write p.temp = some { st with
          dir := st.dir.setEntry p.temp (.file (storedText p.resource))
          staged := st.staged.map (StagedPut.afterWrite p.temp) } := by
        simp [Staging.write, staged?_of_mem h.temps_nodup hp, hw, StagedPut.afterWrite]
      have h₁ := h.write hwrite
      have hp₁ : p.afterWrite p.temp ∈ (st.staged.map (StagedPut.afterWrite p.temp)) :=
        List.mem_map_of_mem hp
      obtain ⟨st', hr, hf⟩ := h₁.rename_ends hp₁ (by simp [StagedPut.afterWrite])
      refine ⟨st', ?_, by simpa using hf⟩
      simpa [StagedPut.remaining, hw, Staging.run, Staging.step, hwrite] using hr

end Staging

/-! ## A put alone writes as the sequential store does -/

/-- A put with no other on its way, its steps taken with nothing between them, writes as the
store's sequential write: the same directory and the same failure. -/
theorem run_putSteps (dir : ResourceStore) (renamed : List Resource)
    (finished : List (Resource × Option StoreError)) (r : Resource) {temp : String}
    (hfresh : dir.entryAt? temp = none) (htemp : temp.endsWith ".json" = false) :
    (Staging.mk dir [] renamed finished).run (putSteps r temp) =
      some ⟨(dir.write r).1, [], if (dir.write r).2.isNone then renamed ++ [r] else renamed,
        finished ++ [(r, (dir.write r).2)]⟩ := by
  cases hvalid : isValidId r.id
  · simp [putSteps, hvalid, Staging.run, Staging.step, Staging.create, ResourceStore.write]
  · -- the empty staging file, then its text, then the rename
    let written := (dir.opened.setEntry temp (.file "")).setEntry temp (.file (storedText r))
    have hcreate : (Staging.mk dir [] renamed finished).create r temp =
        some ⟨dir.opened.setEntry temp (.file ""), [⟨r, temp, false⟩], renamed, finished⟩ := by
      simp [Staging.create, hvalid, hfresh, htemp]
    have hwrite : (Staging.mk (dir.opened.setEntry temp (.file "")) [⟨r, temp, false⟩] renamed
        finished).write temp = some ⟨written, [⟨r, temp, true⟩], renamed, finished⟩ := by
      simp [Staging.write, Staging.staged?, written]
    -- the staging file is gone once renamed, and the directory is as the write makes it
    have hremoved : written.removeEntry temp = dir.opened := by
      rw [ResourceStore.removeEntry_setEntry, ResourceStore.removeEntry_setEntry]
      exact ResourceStore.removeEntry_of_entryAt?_none hfresh
    have hne : fileName r.id ≠ temp := fun h => by
      rw [← h, fileName_endsWith] at htemp
      cases htemp
    have htarget : written.entryAt? (fileName r.id) = dir.entryAt? (fileName r.id) := by
      rw [ResourceStore.entryAt?_setEntry_of_ne _ _ hne, ResourceStore.entryAt?_setEntry_of_ne _ _ hne,
        ResourceStore.entryAt?_opened]
    have hrename : (Staging.mk written [⟨r, temp, true⟩] renamed finished).rename temp =
        some ⟨(dir.write r).1, [], if (dir.write r).2.isNone then renamed ++ [r] else renamed,
          finished ++ [(r, (dir.write r).2)]⟩ := by
      have hstaged : (Staging.mk written [⟨r, temp, true⟩] renamed finished).staged? temp =
          some ⟨r, temp, true⟩ := by
        simp [Staging.staged?]
      have hentry : written.entryAt? temp = some (.file (storedText r)) := by
        simp [written]
      simp only [Staging.rename, hstaged, hentry, if_true, htarget, hremoved]
      cases hlong : isTooLong (fileName r.id)
      · cases hd : dir.entryAt? (fileName r.id) with
        | none => simp [ResourceStore.write, hvalid, hlong, hd, Staging.finish]
        | some e =>
            cases e with
            | file c => simp [ResourceStore.write, hvalid, hlong, hd, Staging.finish]
            | directory => simp [ResourceStore.write, hvalid, hlong, hd, Staging.finish]
      · simp [ResourceStore.write, hvalid, hlong, Staging.finish]
    simp [putSteps, hvalid, Staging.run, Staging.step, hcreate, hwrite, hrename]

/-! ## Staged writes are atomic -/

/-- How a directory written through staging files answers, given the resources renamed and the
puts ended so far. -/
structure AtomicWrites (st : Staging) : Prop where
  /-- A lookup of an id the store can keep finds the resource renamed last onto its file, whole,
  or nothing before the first such rename. -/
  get_stored : ∀ id, Storable id → st.dir.get id = .ok (st.lastRenamed id)
  /-- A lookup of an id that is not valid is refused with the id. -/
  get_invalid : ∀ id, isValidId id = false → st.dir.get id = .error (.invalidId id)
  /-- A listing reads no staging file: it succeeds with one summary per id renamed onto, in
  strictly increasing order of id, that of the resource renamed last. -/
  list : ∃ L, st.dir.list = .ok L ∧ (L.map Summary.id).Pairwise (· < ·) ∧
    (∀ id, id ∈ L.map Summary.id ↔ Storable id ∧ (st.lastRenamed id).isSome) ∧
    ∀ x ∈ L, ∃ r, st.lastRenamed x.id = some r ∧ x = Resource.summary r
  /-- Every put that ended with an id the store can keep succeeded. -/
  stored_succeeds : ∀ x ∈ st.finished, Storable x.1.id → x.2 = none
  /-- A put of a valid id whose file name the file system does not take failed at its rename. -/
  long_fails : ∀ x ∈ st.finished, isValidId x.1.id = true → isTooLong (fileName x.1.id) = true →
    x.2 = some (.io nameTooLong)
  /-- A put of an id that is not valid was refused with the id. -/
  invalid_refused : ∀ x ∈ st.finished, isValidId x.1.id = false → x.2 = some (.invalidId x.1.id)
  /-- Every put on its way can take its remaining steps, and then ends as its id says. -/
  ends : ∀ p ∈ st.staged, ∃ st', st.run p.remaining = some st' ∧
    st'.finished = st.finished ++ [(p.resource, putFailure p.resource)]

/-- Started on an empty or missing directory, every interleaving of the steps of any puts, whose
resources read back from their text, leaves a directory that answers atomically: lookups and
listings see only whole resources renamed onto their files, the last rename of an id winning,
and every put ends as its id says. -/
theorem staged_writes_are_atomic (made : Bool) (steps : List StagingStep) {st : Staging}
    (hrun : (Staging.ofStore ⟨[], made⟩).run steps = some st)
    (hback : ∀ r ∈ StagingStep.resources steps, Resource.readText (storedText r) = .ok r) :
    AtomicWrites st := by
  have h := (Staging.Inv.ofStore made).run hrun
  rw [List.nil_append] at h
  refine ⟨fun id hid => h.get hback hid, fun id hid => ResourceStore.get_of_not_valid _ hid,
    h.list hback, fun x hx hs => ?_, fun x hx hv hl => ?_, fun x hx hv => ?_,
    fun p hp => h.ends hp⟩
  -- a put's failure is read off its id
  · simp [h.finished x hx, putFailure, hs.1, hs.2]
  · simp [h.finished x hx, putFailure, hv, hl]
  · simp [h.finished x hx, putFailure, hv]

/-- Two puts of one id interleaved: the second renames first, while the first, its text written,
is still on its way. -/
theorem staged_writes_are_atomic_sample :
    let steps := [StagingStep.create ⟨"a", "A", none, []⟩ "t1",
      .create ⟨"a", "B", none, []⟩ "t2", .write "t2", .write "t1", .rename "t2"]
    (∀ r ∈ StagingStep.resources steps, Resource.readText (storedText r) = .ok r) ∧
      ∃ st, (Staging.ofStore ⟨[], false⟩).run steps = some st ∧ AtomicWrites st := by
  intro steps
  have hback : ∀ r ∈ StagingStep.resources steps, Resource.readText (storedText r) = .ok r := by
    intro r hr
    simp only [steps, StagingStep.resources, List.filterMap_cons, List.filterMap_nil,
      List.mem_cons, List.not_mem_nil, or_false] at hr
    rcases hr with rfl | rfl <;> cbv
  have hsome : ((Staging.ofStore ⟨[], false⟩).run steps).isSome = true := by cbv
  obtain ⟨st, hst⟩ := Option.isSome_iff_exists.mp hsome
  exact ⟨hback, st, hst, staged_writes_are_atomic false steps hst hback⟩

/-- A put of a valid id of 251 letters, alone on an empty directory, fails at its rename: the file
name is longer than the file system takes. The directory it made stays, empty. -/
theorem staged_put_of_long_id_fails :
    let r : Resource := ⟨String.ofList (List.replicate 251 'r'), "S", none, []⟩
    isValidId r.id = true ∧
      (Staging.ofStore ⟨[], false⟩).run (putSteps r ".tmp") =
        some ⟨⟨[], true⟩, [], [], [(r, some (.io nameTooLong))]⟩ := by
  intro r
  have hvalid : isValidId r.id = true := isValidId_replicate_r 250
  have hlong : 250 < r.id.utf8ByteSize := by
    rw [utf8ByteSize_replicate_r]
    omega
  have htemp : ".tmp".endsWith ".json" = false := by cbv
  refine ⟨hvalid, ?_⟩
  rw [Staging.ofStore, run_putSteps _ _ _ r rfl htemp, write_of_long _ hvalid hlong]
  rfl

end MonolithSplit.Store
