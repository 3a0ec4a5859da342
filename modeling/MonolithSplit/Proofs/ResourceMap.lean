import Mathlib
import MonolithSplit.Store
import MonolithSplit.Model.Snapshot

/-!
# The resource store is a finite map

Started on an empty or missing directory and driven by any sequence of puts, gets and listings,
the store answers as a finite map from id to resource: the map that keeps, under each id, the
last resource put with that id (`store_calls_answer_as_map`).

* A put whose id is not valid is refused with the id, and touches nothing; so is a get.
* A valid id whose file name fits the file system is an id the store can keep (`Storable`). A
  put of such an id succeeds, and a get of it finds the last resource put under it, or nothing.
* A listing gives one summary per id kept, in increasing order of id, each with the name of the
  last resource put under it and the number of its live entities.
* A valid id whose file name does not fit cannot be kept: its put fails once it reaches the file
  system, and its get fails once the directory exists.

Reading a resource back decodes the text it was written as. That the decoding gives the resource
again is the one assumption, made of each resource put.

The argument is one invariant, `Holds`: the directory's files are, each once, the files of the
last resources put under the ids the store can keep. It holds of the empty store and every call
keeps it. Statement vocabulary: `StoreCall`, `ResourceStore.afterCalls` (a sequence of calls run
in order) and `lastPut`.
-/

namespace MonolithSplit.Store

open MonolithSplit.Json MonolithSplit.Model

/-! ## Calls and the map they build -/

/-- A call on the resource store. -/
inductive StoreCall where
  | put (r : Resource)
  | get (id : String)
  | list

/-- The resources put by a sequence of calls, in order. -/
def StoreCall.puts (calls : List StoreCall) : List Resource :=
  calls.filterMap fun
    | .put r => some r
    | _ => none

/-- The last resource put with the given id. -/
def lastPut (calls : List StoreCall) (id : String) : Option Resource :=
  ((StoreCall.puts calls).filter (·.id = id)).getLast?

/-- An id the store can keep: valid, with a file name the file system takes. -/
def Storable (id : String) : Prop :=
  isValidId id = true ∧ isTooLong (fileName id) = false

namespace ResourceStore

/-- The store after a call: only a put changes it. -/
def apply (s : ResourceStore) : StoreCall → ResourceStore
  | .put r => (s.write r).1
  | .get _ => s
  | .list => s

/-- The store after a sequence of calls, made in order. -/
def afterCalls (s : ResourceStore) (calls : List StoreCall) : ResourceStore :=
  calls.foldl apply s

end ResourceStore

theorem puts_append_put (calls : List StoreCall) (r : Resource) :
    StoreCall.puts (calls ++ [.put r]) = StoreCall.puts calls ++ [r] := by
  simp [StoreCall.puts]

theorem lastPut_append_put (calls : List StoreCall) (r : Resource) (id : String) :
    lastPut (calls ++ [.put r]) id = if r.id = id then some r else lastPut calls id := by
  by_cases h : r.id = id <;> simp [lastPut, puts_append_put, h]

theorem lastPut_append_of_ne_put {calls : List StoreCall} {c : StoreCall}
    (hc : ∀ r, c ≠ .put r) (id : String) : lastPut (calls ++ [c]) id = lastPut calls id := by
  cases c with
  | put r => exact absurd rfl (hc r)
  | get _ => simp [lastPut, StoreCall.puts]
  | list => simp [lastPut, StoreCall.puts]

theorem lastPut_id {calls : List StoreCall} {id : String} {r : Resource}
    (h : lastPut calls id = some r) : r.id = id := by
  have hmem := List.mem_of_getLast? h
  simpa using (List.mem_filter.mp hmem).2

theorem lastPut_mem {calls : List StoreCall} {id : String} {r : Resource}
    (h : lastPut calls id = some r) : r ∈ StoreCall.puts calls :=
  (List.mem_filter.mp (List.mem_of_getLast? h)).1

/-! ## File names -/

theorem fileName_injective {a b : String} (h : fileName a = fileName b) : a = b :=
  (String.append_left_inj _).mp h

@[simp] theorem fileName_endsWith (id : String) : (fileName id).endsWith ".json" = true := by
  rw [String.endsWith_eq_endsWith_toSlice, String.Slice.endsWith_string_iff]
  simp [fileName]

/-- A file name fits the file system exactly when its id takes at most 250 bytes. -/
theorem isTooLong_fileName_iff (id : String) :
    isTooLong (fileName id) = true ↔ 250 < id.utf8ByteSize := by
  have hsuffix : ".json".utf8ByteSize = 5 := rfl
  simp only [isTooLong, fileName, String.utf8ByteSize_append, hsuffix, maxNameBytes,
    decide_eq_true_eq]
  omega

/-- A text of letters `r` takes one byte per letter. -/
theorem utf8ByteSize_replicate_r (n : Nat) :
    (String.ofList (List.replicate n 'r')).utf8ByteSize = n := by
  rw [String.utf8ByteSize_ofList]
  induction n with
  | zero => rfl
  | succ n ih =>
      rw [List.replicate_succ, String.utf8Len_cons, ih]
      rfl

theorem isValidId_replicate_r (n : Nat) :
    isValidId (String.ofList (List.replicate (n + 1) 'r')) = true := by
  simp [isValidId, String.all_bool_eq]

/-- A file name stands for an id exactly when it is the file name of that id, a valid one. -/
theorem idOfFileName?_eq_some_iff {name id : String} :
    idOfFileName? name = some id ↔ isValidId id = true ∧ name = fileName id := by
  have hlen : ".json".toList.length = 5 := rfl
  constructor
  · intro h
    unfold idOfFileName? at h
    split at h
    · rename_i hends
      -- the name is its first `length - 5` characters followed by `.json`
      rw [String.endsWith_eq_endsWith_toSlice, String.Slice.endsWith_string_iff,
        String.copy_toSlice] at hends
      obtain ⟨pre, hpre⟩ := hends
      have hlength : pre.length = name.length - 5 := by
        have := congrArg List.length hpre
        simp only [List.length_append, String.length_toList, hlen] at this
        omega
      have htake : name.toList.take (name.length - 5) = pre := by
        rw [← hpre, ← hlength, List.take_left']
        rfl
      dsimp only at h
      split at h
      · cases h
        rename_i hvalid
        refine ⟨by simpa [htake] using hvalid, ?_⟩
        rw [htake, fileName, ← String.toList_inj, String.toList_append, String.toList_ofList]
        exact hpre.symm
      · cases h
    · cases h
  · rintro ⟨hvalid, rfl⟩
    have hends := fileName_endsWith id
    have htake : String.ofList ((fileName id).toList.take ((fileName id).length - 5)) = id := by
      simp only [fileName, String.toList_append, String.length_append]
      have : id.length + String.length ".json" - 5 = id.toList.length := by
        simp only [String.length_toList]
        rfl
      rw [this, List.take_left, String.ofList_toList]
    simp [idOfFileName?, hends, htake, hvalid]

/-! ## The invariant -/

/-- The files of the store are, each name once, the files of the last resources put under the
ids it can keep. -/
structure Holds (s : ResourceStore) (calls : List StoreCall) : Prop where
  names_nodup : (s.entries.map Prod.fst).Nodup
  of_mem : ∀ kv ∈ s.entries, ∃ r, kv = (fileName r.id, .file (storedText r)) ∧ Storable r.id ∧
    lastPut calls r.id = some r
  mem : ∀ id r, Storable id → lastPut calls id = some r →
    (fileName id, .file (storedText r)) ∈ s.entries

theorem holds_empty (made : Bool) : Holds ⟨[], made⟩ [] :=
  ⟨List.nodup_nil, by simp, by simp [lastPut, StoreCall.puts]⟩

/-- In a list whose keys are distinct, the member found under a member's key is that member. -/
theorem find?_key_of_mem {α : Type} (key : α → String) {l : List α} (hnodup : (l.map key).Nodup)
    {x : α} (hx : x ∈ l) : l.find? (fun y => key y = key x) = some x := by
  induction l with
  | nil => cases hx
  | cons y l ih =>
      simp only [List.map_cons, List.nodup_cons] at hnodup
      rcases List.mem_cons.mp hx with rfl | hx
      · simp
      · have hne : key y ≠ key x := fun h => hnodup.1 (h ▸ List.mem_map.mpr ⟨_, hx, rfl⟩)
        simpa [List.find?_cons, hne] using ih hnodup.2 hx

theorem entryAt?_of_mem {s : ResourceStore} (hnodup : (s.entries.map Prod.fst).Nodup)
    {name : String} {e : Entry} (hmem : (name, e) ∈ s.entries) : s.entryAt? name = some e := by
  have hfind := find?_key_of_mem Prod.fst hnodup hmem
  simp only at hfind
  simp [ResourceStore.entryAt?, hfind]

theorem entryAt?_eq_none {s : ResourceStore} {name : String}
    (h : ∀ kv ∈ s.entries, kv.1 ≠ name) : s.entryAt? name = none := by
  simp only [ResourceStore.entryAt?, Option.map_eq_none_iff, List.find?_eq_none]
  intro kv hkv
  simpa using h kv hkv

/-- In a store that holds, the file of an id it can keep is that of the last resource put. -/
theorem Holds.entryAt? {s : ResourceStore} {calls : List StoreCall} (h : Holds s calls)
    {id : String} (hid : Storable id) :
    s.entryAt? (fileName id) = (lastPut calls id).map fun r => .file (storedText r) := by
  cases hlast : lastPut calls id with
  | some r => exact entryAt?_of_mem h.names_nodup (h.mem id r hid hlast)
  | none =>
      refine entryAt?_eq_none fun kv hkv hname => ?_
      obtain ⟨r, rfl, -, hr⟩ := h.of_mem kv hkv
      rw [fileName_injective hname, hlast] at hr
      cases hr

theorem Holds.not_directory {s : ResourceStore} {calls : List StoreCall} (h : Holds s calls)
    (name : String) : s.entryAt? name ≠ some .directory := by
  intro hdir
  simp only [ResourceStore.entryAt?, Option.map_eq_some_iff] at hdir
  obtain ⟨kv, hfind, hkv⟩ := hdir
  obtain ⟨r, rfl, -⟩ := h.of_mem kv (List.mem_of_find?_eq_some hfind)
  cases hkv

/-- The invariant depends on the store's files alone. -/
theorem Holds.of_entries {s s' : ResourceStore} {calls : List StoreCall} (h : Holds s calls)
    (he : s'.entries = s.entries) : Holds s' calls := by
  refine ⟨he ▸ h.names_nodup, fun kv hkv => h.of_mem kv (he ▸ hkv), fun id r hid hr => ?_⟩
  rw [he]
  exact h.mem id r hid hr

/-! ## Each call keeps the invariant -/

section Steps

variable {s : ResourceStore} {calls : List StoreCall}

/-- A call that stores nothing keeps the files, and the last puts of ids that can be kept. -/
theorem Holds.of_same_files {s' : ResourceStore} {c : StoreCall} (h : Holds s calls)
    (hfiles : s'.entries = s.entries)
    (hlast : ∀ id, Storable id → lastPut (calls ++ [c]) id = lastPut calls id) :
    Holds s' (calls ++ [c]) := by
  refine ⟨hfiles ▸ h.names_nodup, fun kv hkv => ?_, fun id r hid hr => ?_⟩
  · obtain ⟨r, hkv, hstor, hr⟩ := h.of_mem kv (hfiles ▸ hkv)
    exact ⟨r, hkv, hstor, (hlast r.id hstor).trans hr⟩
  · exact hfiles ▸ h.mem id r hid ((hlast id hid).symm.trans hr)

theorem Holds.put_stored {r : Resource} (h : Holds s calls) (hr : Storable r.id) :
    Holds (s.opened.setEntry (fileName r.id) (.file (storedText r))) (calls ++ [.put r]) := by
  refine ⟨?_, fun kv hkv => ?_, fun id r' hid hr' => ?_⟩
  · -- the new name, then the old names less it
    simp only [ResourceStore.setEntry, ResourceStore.opened, List.map_cons, List.nodup_cons]
    refine ⟨fun hmem => ?_, (h.names_nodup.sublist (List.filter_sublist.map _))⟩
    obtain ⟨kv, hkv, hname⟩ := List.mem_map.mp hmem
    exact absurd hname (by simpa using (List.mem_filter.mp hkv).2)
  · simp only [ResourceStore.setEntry, ResourceStore.opened, List.mem_cons, List.mem_filter]
      at hkv
    rcases hkv with rfl | ⟨hkv, hne⟩
    · exact ⟨r, rfl, hr, by simp [lastPut_append_put]⟩
    · obtain ⟨r', rfl, hstor, hlast⟩ := h.of_mem kv hkv
      have hid : r.id ≠ r'.id := fun e => by simp [e] at hne
      exact ⟨r', rfl, hstor, by rw [lastPut_append_put, if_neg hid, hlast]⟩
  · simp only [ResourceStore.setEntry, ResourceStore.opened, List.mem_cons, List.mem_filter]
    rw [lastPut_append_put] at hr'
    by_cases hid' : r.id = id
    · rw [if_pos hid'] at hr'
      cases hr'
      subst hid'
      exact .inl rfl
    · rw [if_neg hid'] at hr'
      exact .inr ⟨h.mem id r' hid hr', by simpa using fun e => hid' (fileName_injective e).symm⟩

/-- Every call keeps the invariant. -/
theorem Holds.apply (h : Holds s calls) (c : StoreCall) : Holds (s.apply c) (calls ++ [c]) := by
  cases c with
  | get id => exact h.of_same_files rfl fun _ _ => lastPut_append_of_ne_put (by simp) _
  | list => exact h.of_same_files rfl fun _ _ => lastPut_append_of_ne_put (by simp) _
  | put r =>
      -- a put the store refuses leaves the files, and concerns an id it cannot keep
      have hrefused : ∀ s', s'.entries = s.entries → ¬ Storable r.id →
          Holds s' (calls ++ [.put r]) := fun s' hfiles hnot =>
        h.of_same_files hfiles fun id hid => by
          rw [lastPut_append_put, if_neg fun e : r.id = id => hnot (e ▸ hid)]
      simp only [ResourceStore.apply, ResourceStore.write]
      split
      · rename_i hvalid
        split
        · rename_i hlong
          exact hrefused _ rfl fun hs => by simp [hs.2] at hlong
        · rename_i hfit
          split
          · rename_i hdir
            exact absurd hdir (h.not_directory _)
          · exact h.put_stored ⟨hvalid, by simpa using hfit⟩
      · rename_i hinvalid
        exact hrefused _ rfl fun hs => by simp [hs.1] at hinvalid

/-- The invariant holds after any sequence of calls. -/
theorem Holds.afterCalls (h : Holds s calls) (more : List StoreCall) :
    Holds (s.afterCalls more) (calls ++ more) := by
  induction more generalizing s calls with
  | nil => simpa [ResourceStore.afterCalls] using h
  | cons c more ih =>
      have := ih (h.apply c)
      simpa [ResourceStore.afterCalls] using this

end Steps

/-! ## What each call answers -/

section Answers

variable {s : ResourceStore} {calls : List StoreCall}

/-- A put of an id that is not valid is refused with the id, and changes nothing. -/
theorem write_of_not_valid (s : ResourceStore) {r : Resource} (h : isValidId r.id = false) :
    s.write r = (s, some (.invalidId r.id)) := by
  simp [ResourceStore.write, h]

/-- A put of a valid id too long for the file system makes the directory, then fails, storing
nothing. -/
theorem write_of_long (s : ResourceStore) {r : Resource} (hv : isValidId r.id = true)
    (hlong : 250 < r.id.utf8ByteSize) : s.write r = (s.opened, some (.io nameTooLong)) := by
  have htoo : isTooLong (fileName r.id) = true := (isTooLong_fileName_iff _).mpr hlong
  simp [ResourceStore.write, hv, htoo]

/-- A get of a valid id too long for the file system fails once the directory is there, and
finds nothing before. -/
theorem get_of_long (s : ResourceStore) {id : String} (hv : isValidId id = true)
    (hlong : 250 < id.utf8ByteSize) :
    s.get id = if s.made then .error (.io nameTooLong) else .ok none := by
  have htoo : isTooLong (fileName id) = true := (isTooLong_fileName_iff _).mpr hlong
  simp [ResourceStore.get, hv, htoo]

/-- A put of a valid id makes the directory, whatever becomes of the write; any other put
leaves the directory as it was. -/
theorem write_made (s : ResourceStore) (r : Resource) :
    (s.write r).1.made = (s.made || isValidId r.id) := by
  unfold ResourceStore.write
  cases hv : isValidId r.id with
  | false => simp
  | true =>
      simp only [if_true, Bool.or_true]
      split
      · rfl
      · split <;> rfl

/-- After a sequence of calls the directory exists exactly when it did before or a valid id was
put. -/
theorem afterCalls_made (s : ResourceStore) (calls : List StoreCall) :
    (s.afterCalls calls).made = (s.made || (StoreCall.puts calls).any fun r => isValidId r.id) := by
  induction calls generalizing s with
  | nil => simp [ResourceStore.afterCalls, StoreCall.puts]
  | cons c calls ih =>
      have hstep : s.afterCalls (c :: calls) = (s.apply c).afterCalls calls := rfl
      rw [hstep, ih]
      cases c with
      | put r => simp [ResourceStore.apply, write_made, StoreCall.puts, Bool.or_assoc]
      | get _ => simp [ResourceStore.apply, StoreCall.puts]
      | list => simp [ResourceStore.apply, StoreCall.puts]

/-- In a store that holds, a put of an id the store can keep succeeds. -/
theorem Holds.write_stored (h : Holds s calls) {r : Resource} (hr : Storable r.id) :
    (s.write r).2 = none := by
  simp only [ResourceStore.write, hr.1, hr.2, if_true, Bool.false_eq_true, if_false]
  split
  · rename_i hdir
    exact absurd hdir (h.not_directory _)
  · rfl

/-- In a store that holds, a get of an id it can keep finds the last resource put under it. -/
theorem Holds.get (h : Holds s calls)
    (hback : ∀ r ∈ StoreCall.puts calls, Resource.readText (storedText r) = .ok r) {id : String}
    (hid : Storable id) : s.get id = .ok (lastPut calls id) := by
  simp only [ResourceStore.get, hid.1, hid.2, if_true, Bool.false_eq_true, if_false,
    h.entryAt? hid]
  cases hlast : lastPut calls id with
  | none => rfl
  | some r => simp [Entry.read, hback r (lastPut_mem hlast), Except.mapError, Except.map]

/-- The ids a store that holds lists are those it keeps. -/
theorem Holds.mem_ids (h : Holds s calls) (id : String) :
    id ∈ s.ids ↔ Storable id ∧ (lastPut calls id).isSome := by
  simp only [ResourceStore.ids, (List.mergeSort_perm _ _).mem_iff, List.mem_filterMap,
    idOfFileName?_eq_some_iff]
  constructor
  · rintro ⟨kv, hkv, -, hname⟩
    obtain ⟨r, rfl, hstor, hr⟩ := h.of_mem kv hkv
    obtain rfl := fileName_injective hname
    exact ⟨hstor, by simp [hr]⟩
  · rintro ⟨hid, hsome⟩
    obtain ⟨r, hr⟩ := Option.isSome_iff_exists.mp hsome
    exact ⟨_, h.mem id r hid hr, hid.1, rfl⟩

/-- A store that holds lists its ids in strictly increasing order. -/
theorem Holds.ids_sorted (h : Holds s calls) : s.ids.Pairwise (· < ·) := by
  -- distinct names stand for distinct ids
  have hnodup : (s.entries.filterMap fun kv => idOfFileName? kv.1).Nodup := by
    have hmap : (s.entries.filterMap fun kv => idOfFileName? kv.1) =
        (s.entries.map Prod.fst).filterMap idOfFileName? := by
      simp [List.filterMap_map]
    rw [hmap]
    refine h.names_nodup.filterMap fun a a' b ha ha' => ?_
    rw [Option.mem_def, idOfFileName?_eq_some_iff] at ha ha'
    rw [ha.2, ha'.2]
  have hsorted := @List.pairwise_mergeSort _ (fun a b : String => decide (a ≤ b))
    (fun a b c hab hbc => by simpa using le_trans (of_decide_eq_true hab) (of_decide_eq_true hbc))
    (fun a b => by simpa using le_total a b)
    (s.entries.filterMap fun kv => idOfFileName? kv.1)
  refine (hsorted.and ((List.mergeSort_perm _ _).nodup_iff.mpr hnodup)).imp ?_
  rintro a b ⟨hle, hne⟩
  exact lt_of_le_of_ne (of_decide_eq_true hle) hne

/-- Summaries made for a list of ids, each carrying its id, are one per id, in order. -/
theorem mapM_eq_ok {l : List String} {f : String → Except StoreError Summary}
    {P : Summary → Prop} (h : ∀ id ∈ l, ∃ x, f id = .ok x ∧ x.id = id ∧ P x) :
    ∃ L, l.mapM f = .ok L ∧ L.map Summary.id = l ∧ ∀ x ∈ L, P x := by
  induction l with
  | nil => exact ⟨[], rfl, rfl, by simp⟩
  | cons id l ih =>
      obtain ⟨x, hx, hid, hP⟩ := h id (by simp)
      obtain ⟨L, hL, hids, hPL⟩ := ih fun id' hid' => h id' (by simp [hid'])
      refine ⟨x :: L, ?_, by simp [hid, hids], ?_⟩
      · simp only [List.mapM_cons, hx, hL]
        rfl
      · intro y hy
        rcases List.mem_cons.mp hy with rfl | hy
        · exact hP
        · exact hPL y hy

/-- A store that holds lists, for each id it keeps and in the order of the ids, the summary of
the last resource put under it. -/
theorem Holds.list (h : Holds s calls)
    (hback : ∀ r ∈ StoreCall.puts calls, Resource.readText (storedText r) = .ok r) :
    ∃ L, s.list = .ok L ∧ L.map Summary.id = s.ids ∧
      ∀ x ∈ L, ∃ r, lastPut calls x.id = some r ∧ x = Resource.summary r := by
  refine mapM_eq_ok fun id hid => ?_
  obtain ⟨hstor, hsome⟩ := (h.mem_ids id).mp hid
  obtain ⟨r, hr⟩ := Option.isSome_iff_exists.mp hsome
  have hrid := lastPut_id hr
  refine ⟨Resource.summary r, ?_, hrid, r, by rw [← hrid] at hr; simpa [Resource.summary] using hr,
    rfl⟩
  simp [h.entryAt? hstor, hr, Entry.read, hback r (lastPut_mem hr), Except.mapError,
    Except.map]

end Answers

/-- The live entities of a resource are those with no deletion time, as many as its snapshot
has entities. -/
theorem liveEntities_length (r : Resource) :
    r.liveEntities.length = (r.entities.filter fun e => e.deletedAt.isNone).length ∧
      r.liveEntities.length = r.snapshot.entities.length := by
  refine ⟨?_, by simp [Resource.snapshot]⟩
  simp [Resource.liveEntities, Entity.isDeleted]

/-! ## The store as a finite map -/

/-- How a store answers as the map keeping the last resource put under each id by `calls`. -/
structure AnswersAsMap (s : ResourceStore) (calls : List StoreCall) : Prop where
  /-- A put of an id that is not valid is refused with the id, and changes nothing. -/
  put_invalid : ∀ r : Resource, isValidId r.id = false → s.write r = (s, some (.invalidId r.id))
  /-- A get of an id that is not valid is refused with the id. -/
  get_invalid : ∀ id, isValidId id = false → s.get id = .error (.invalidId id)
  /-- A put of an id the store can keep succeeds. -/
  put_stored : ∀ r : Resource, Storable r.id → (s.write r).2 = none
  /-- A get of an id the store can keep finds the last resource put under it, or nothing. -/
  get_stored : ∀ id, Storable id → s.get id = .ok (lastPut calls id)
  /-- A valid id of more than 250 bytes is never stored: its put makes the directory and fails
  with the file name too long, leaving every file as it was. -/
  put_long : ∀ r : Resource, isValidId r.id = true → 250 < r.id.utf8ByteSize →
    s.write r = (s.opened, some (.io nameTooLong))
  /-- A get of such an id fails with the file name too long once the directory exists, and
  finds nothing before. -/
  get_long : ∀ id, isValidId id = true → 250 < id.utf8ByteSize →
    s.get id = if s.made then .error (.io nameTooLong) else .ok none
  /-- The directory exists once a valid id has been put, whether or not that put succeeded. -/
  made_of_put : (∃ r ∈ StoreCall.puts calls, isValidId r.id = true) → s.made = true
  /-- A listing gives, in strictly increasing order of id, one summary for each id put and
  kept, with the name of its last resource and the number of that resource's entities with no
  deletion time, which is the number of entities of its snapshot. -/
  list : ∃ L, s.list = .ok L ∧ (L.map Summary.id).Pairwise (· < ·) ∧
    (∀ id, id ∈ L.map Summary.id ↔ Storable id ∧ (lastPut calls id).isSome) ∧
    ∀ x ∈ L, ∃ r, lastPut calls x.id = some r ∧ x.name = r.name ∧
      x.entityCount = (r.entities.filter fun e => e.deletedAt.isNone).length ∧
      x.entityCount = r.snapshot.entities.length

/-- Started on an empty or missing directory, after any sequence of puts, gets and listings
whose resources read back from their text, the store answers as the map keeping the last
resource put under each id. -/
theorem store_calls_answer_as_map (made : Bool) (calls : List StoreCall)
    (hback : ∀ r ∈ StoreCall.puts calls, Resource.readText (storedText r) = .ok r) :
    AnswersAsMap ((⟨[], made⟩ : ResourceStore).afterCalls calls) calls := by
  have h := (holds_empty made).afterCalls calls
  rw [List.nil_append] at h
  obtain ⟨L, hlist, hids, hsummary⟩ := h.list hback
  refine ⟨fun r hr => write_of_not_valid _ hr, fun id hid => ResourceStore.get_of_not_valid _ hid,
    fun r hr => h.write_stored hr, fun id hid => h.get hback hid,
    fun r hv hlong => write_of_long _ hv hlong, fun id hv hlong => get_of_long _ hv hlong,
    fun hput => ?_, L, hlist, hids ▸ h.ids_sorted, fun id => hids ▸ h.mem_ids id, fun x hx => ?_⟩
  · -- the directory flag records whether a valid id was ever put
    obtain ⟨r, hr, hv⟩ := hput
    rw [afterCalls_made]
    simpa using Or.inr ⟨r, hr, hv⟩
  · obtain ⟨r, hr, rfl⟩ := hsummary x hx
    obtain ⟨hcount, hsnap⟩ := liveEntities_length r
    exact ⟨r, hr, rfl, hcount, hsnap⟩

/-- Two resources put, one looked up, then the listing: each resource reads back from its text. -/
theorem store_calls_answer_as_map_sample :
    let calls := [StoreCall.put ⟨"b", "B", none, []⟩, .get "b", .put ⟨"a", "A", none, []⟩, .list]
    (∀ r ∈ StoreCall.puts calls, Resource.readText (storedText r) = .ok r) ∧
      AnswersAsMap ((⟨[], false⟩ : ResourceStore).afterCalls calls) calls := by
  intro calls
  have hback : ∀ r ∈ StoreCall.puts calls, Resource.readText (storedText r) = .ok r := by
    intro r hr
    simp only [calls, StoreCall.puts, List.filterMap_cons, List.filterMap_nil, List.mem_cons,
      List.not_mem_nil, or_false] at hr
    rcases hr with rfl | rfl <;> cbv
  exact ⟨hback, store_calls_answer_as_map false calls hback⟩

/-- An id of 251 letters is valid, but its file name is longer than the file system takes: once
a put has made the directory, a get of it fails, though nothing was put under it. -/
theorem get_of_long_id_fails :
    let calls := [StoreCall.put ⟨"a", "A", none, []⟩]
    let id := String.ofList (List.replicate 251 'r')
    isValidId id = true ∧ lastPut calls id = none ∧
      ((⟨[], false⟩ : ResourceStore).afterCalls calls).get id = .error (.io nameTooLong) := by
  intro calls id
  have hvalid : isValidId id = true := isValidId_replicate_r 250
  have hlong : 250 < id.utf8ByteSize := by
    rw [utf8ByteSize_replicate_r]
    omega
  have hne : "a" ≠ id := by
    have hlen : ∀ n, (String.ofList (List.replicate n 'r')).length = n := by simp
    intro h
    have := congrArg String.length h
    rw [hlen] at this
    cases this
  -- the put of "a" made the directory, so the long name reaches the file system
  have hmade : ((⟨[], false⟩ : ResourceStore).afterCalls calls).made = true := by
    simp [afterCalls_made, calls, StoreCall.puts, isValidId]
  refine ⟨hvalid, by simp [calls, lastPut, StoreCall.puts, hne], ?_⟩
  rw [get_of_long _ hvalid hlong, hmade, if_pos rfl]

end MonolithSplit.Store
