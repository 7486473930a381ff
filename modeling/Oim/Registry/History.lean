import Oim.Lib.LastWrite
import Oim.Registry.Server

/-!
# What the registry knows

The registry after any history of calls, seen in two ways: as the database that
the calls have built, and as the values that were last written to each list of
path elements (`LastWrite.lastWrite`).  `lookup_serveAll` and `lookup_join` say
that these are the same thing, so everything else here is about histories.

* `lookup_filter` — calls that do not write a key can be left out of its history.
* `exists_of_lookup` — every binding of the database is that of some canonical list
  of elements, with a value that is not empty.
-/

namespace Oim.Registry

open LastWrite

/-! ## Histories -/

/-- A call of the registry. -/
inductive Call where
  | setValue (ctx : PeerContext) (value : Option Value)
  | getValues (ctx : PeerContext) (path : String)
  | connect (ctx : PeerContext) (md : Option Metadata) (method : String)

/-- Who makes the call. -/
def Call.ctx : Call → PeerContext
  | .setValue ctx _ => ctx
  | .getValues ctx _ => ctx
  | .connect ctx _ _ => ctx

/-- The database after a call. -/
def serve (db : MemDB) : Call → MemDB
  | .setValue ctx value => (setValue db ctx value).2
  | .getValues _ _ => db
  | .connect _ _ _ => db

/-- The database after all calls, starting empty. -/
def serveAll (calls : List Call) : MemDB := calls.foldl serve ∅

theorem serveAll_append_singleton (calls : List Call) (call : Call) :
    serveAll (calls ++ [call]) = serve (serveAll calls) call := by
  simp [serveAll]

/-- The elements and the value that a call writes, if it is let through. -/
def Call.write : Call → Option (List String × String)
  | .setValue ctx value => (checkSetValue ctx value).toOption
  | _ => none

/-- The same, with the key in the database. -/
def Call.store (call : Call) : Option (String × String) :=
  call.write.map fun w => (joinRegistryPath w.1, w.2)

/-- The value that was last written to the elements; empty if there is none or it
was deleted. -/
def written (calls : List Call) (elements : List String) : String :=
  (lastWrite (calls.filterMap Call.write) elements).getD ""

/-- What a call that writes has shown. -/
theorem Call.write_eq_some {call : Call} {es : List String} {v : String}
    (h : call.write = some (es, v)) :
    Canonical es ∧ es ≠ [] ∧ ∃ peer, getPeer call.ctx = .ok peer ∧
      (peer = "user.admin" ∨ ∃ id, es = [id, registryAddress] ∧ peer = "controller." ++ id) := by
  cases call with
  | getValues => exact absurd h (by simp [write])
  | connect => exact absurd h (by simp [write])
  | setValue ctx value =>
    have hok : checkSetValue ctx value = .ok (es, v) := by
      cases hc : checkSetValue ctx value with
      | error e => simp [write, hc, Except.toOption] at h
      | ok w => simpa [write, hc, Except.toOption] using h
    obtain ⟨path, -, hsplit, hne, peer, hpeer, hallowed⟩ := checkSetValue_ok hok
    exact ⟨(canonical_of_split hsplit).2, hne, peer, hpeer, allowed_iff.1 hallowed⟩

theorem Call.store_eq_some {call : Call} {k v : String} (h : call.store = some (k, v)) :
    ∃ es, call.write = some (es, v) ∧ k = joinRegistryPath es := by
  obtain ⟨⟨es, v'⟩, hw, heq⟩ := Option.map_eq_some_iff.1 h
  obtain ⟨rfl, rfl⟩ := Prod.mk.inj heq
  exact ⟨es, hw, rfl⟩

/-! ## The database holds the last writes -/

theorem lookup_store (db : MemDB) (key value k : String) :
    AList.lookup k (db.store key value) =
      if key = k then (if value = "" then none else some value) else AList.lookup k db := by
  unfold MemDB.store
  by_cases hk : key = k
  · subst hk
    rw [if_pos rfl]
    split_ifs <;> simp
  · rw [if_neg hk]
    split_ifs
    · rw [AList.lookup_erase_ne (Ne.symm hk)]
    · rw [AList.lookup_insert_ne (Ne.symm hk)]

theorem serve_eq (db : MemDB) (call : Call) :
    serve db call = match call.store with
      | none => db
      | some w => db.store w.1 w.2 := by
  cases call with
  | getValues => rfl
  | connect => rfl
  | setValue ctx value =>
    simp only [serve, setValue, Call.store, Call.write]
    cases checkSetValue ctx value <;> rfl

/-- **The database is the history of writes.**  A key is bound to the value it
was last given, unless that is empty. -/
theorem lookup_serveAll (calls : List Call) (k : String) :
    AList.lookup k (serveAll calls) =
      (lastWrite (calls.filterMap Call.store) k).filter fun v => v ≠ "" := by
  induction calls using List.reverseRecOn with
  | nil => rfl
  | append_singleton calls call ih =>
    rw [serveAll_append_singleton, serve_eq, List.filterMap_append]
    cases hs : call.store with
    | none => simpa [hs] using ih
    | some w =>
      have hone : [call].filterMap Call.store = [w] := by simp [hs]
      simp only [hone, lookup_store, lastWrite_append_singleton]
      split_ifs with hk hv
      · simp [hv, Option.filter]
      · simp [hv, Option.filter]
      · exact ih

/-- Calls that do not write `k` do not matter for `k`. -/
theorem lookup_filter {calls : List Call} {keep : Call → Bool} {k : String}
    (h : ∀ call ∈ calls, ∀ v, call.store = some (k, v) → keep call = true) :
    (serveAll (calls.filter keep)).lookup k = (serveAll calls).lookup k := by
  unfold MemDB.lookup
  rw [lookup_serveAll, lookup_serveAll, lastWrite_filter h]

/-- The binding of a joined path is the last value written to its elements. -/
theorem lastWrite_join (calls : List Call) {es : List String} (hes : Canonical es) :
    lastWrite (calls.filterMap Call.store) (joinRegistryPath es) =
      lastWrite (calls.filterMap Call.write) es := by
  have hstore : calls.filterMap Call.store =
      (calls.filterMap Call.write).map fun w => (joinRegistryPath w.1, w.2) := by
    rw [List.map_filterMap]
    rfl
  rw [hstore]
  refine lastWrite_map fun w hw heq => ?_
  obtain ⟨call, -, hcall⟩ := List.mem_filterMap.1 hw
  exact join_inj (Call.write_eq_some hcall).1.clean hes.clean heq

/-- **`Lookup` on the level of path elements.** -/
theorem lookup_join (calls : List Call) {es : List String} (hes : Canonical es) :
    (serveAll calls).lookup (joinRegistryPath es) = written calls es := by
  unfold MemDB.lookup written
  rw [lookup_serveAll, lastWrite_join calls hes]
  cases lastWrite (calls.filterMap Call.write) es with
  | none => rfl
  | some v =>
    by_cases hv : v = ""
    · simp [hv, Option.filter]
    · simp [hv, Option.filter]

/-- Every binding has a list of elements. -/
theorem exists_of_lookup {calls : List Call} {k v : String}
    (h : AList.lookup k (serveAll calls) = some v) :
    ∃ es, Canonical es ∧ k = joinRegistryPath es ∧ written calls es = v ∧ v ≠ "" := by
  rw [lookup_serveAll, Option.filter_eq_some_iff] at h
  obtain ⟨hw, hv⟩ := h
  obtain ⟨call, -, hcall⟩ := List.mem_filterMap.1 (exists_mem_of_lastWrite hw)
  obtain ⟨es, hes, rfl⟩ := Call.store_eq_some hcall
  have hcan := (Call.write_eq_some hes).1
  refine ⟨es, hcan, rfl, ?_, by simpa using hv⟩
  rw [written, ← lastWrite_join calls hcan, hw]
  rfl

/-- Elements that were given a value are canonical, and bound to that value. -/
theorem lookup_of_written {calls : List Call} {es : List String} (h : written calls es ≠ "") :
    Canonical es ∧
      AList.lookup (joinRegistryPath es) (serveAll calls) = some (written calls es) := by
  have hcan : Canonical es := by
    unfold written at h
    cases hl : lastWrite (calls.filterMap Call.write) es with
    | none => rw [hl] at h; exact absurd rfl h
    | some v =>
      obtain ⟨call, -, hcall⟩ := List.mem_filterMap.1 (exists_mem_of_lastWrite hl)
      exact (Call.write_eq_some hcall).1
  refine ⟨hcan, ?_⟩
  have hlook := lookup_join calls hcan
  unfold MemDB.lookup at hlook
  cases hl : AList.lookup (joinRegistryPath es) (serveAll calls) with
  | none => rw [hl] at hlook; exact absurd hlook.symm h
  | some v => rw [hl] at hlook; exact congrArg some hlook

end Oim.Registry
