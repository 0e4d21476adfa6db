/-
The exported keys of the stock KV caches over the life of a worker (`_get_device_kv_exports`, `release_kv_device_exports`).

MODEL. The state is the worker's attribute and the log of the ACL calls that succeeded. A key is closed by the call of
`ipc_mem_close`, whose own failure the source ignores. The export call may answer, be refused, or raise; it is asked at most
once per allocation in a call. `closed` is a ghost: the table in the attribute was closed by a call that then failed.
- `get_returns`: a call returns what `getDeviceKvExports` says.
- `device_exports_open`: in every run in which no layout comes back to a closed table, and no export raises after another of
  its call, a returned table has only open keys, each of its own allocation, the last call that exported made it with one
  export of each, and no other key is open.
- `closed_table_returned`: a layout, a layout that fails, and the first again.
-/
import Cruise.Lib.Dict
import Cruise.Lib.Handles
import Cruise.Lib.Run
import Cruise.Worker.DeviceCapture

namespace Cruise.Worker

open Cruise.Lib

/-! ## Exports -/

def Signature.allocation (entry : Signature) : Int × Int := (entry.allocation_ptr, entry.allocation_bytes)

abbrev AclLog := List (HandleCall String (Int × Int))

/-- what `acl.rt.ipc_mem_get_export_key` does; a key that is no string is `none` -/
inductive ExportAnswer where
  | raises
  | answers (key : Option String) (status : Int)
deriving DecidableEq

/-- the key of an answer that is not refused -/
def ExportAnswer.key : ExportAnswer → Option String
  | .raises => none
  | .answers key status => if status ≠ 0 ∨ key = some "" then none else key

/-- where the export loop stands -/
structure Exporting where
  exported_by_storage : List (Int × String)
  keys : List String
  acl : AclLog

/-- one pass of the export loop; an exit leaves the log as it is then -/
def exportEntry (get_export_key : Int → Int → ExportAnswer) (s : Exporting) (entry : Signature) : Except AclLog Exporting :=
  match s.exported_by_storage.lookup entry.allocation_ptr with
  | some key => .ok { s with keys := s.keys ++ [key] }
  | none =>
    let answer := get_export_key entry.allocation_ptr entry.allocation_bytes
    match answer.key with
    | some key => .ok {
        exported_by_storage := s.exported_by_storage ++ [(entry.allocation_ptr, key)]
        keys := s.keys ++ [key]
        acl := s.acl ++ [.opens key entry.allocation] }
    | none =>
      if answer = .raises then .error s.acl
      else .error (s.acl ++ (s.exported_by_storage.map Prod.snd).map .closes)

/-- the signatures of a layout, as far as they are accepted -/
def checkedSignature (address_range : Int → Option (Int × Int)) (kv_caches : List (KvTensor × KvTensor)) :
    Option (List Signature) :=
  match (cacheTensors kv_caches).mapM (cacheSignature address_range) with
  | none => none
  | some [] => none
  | some (first :: rest) =>
    let signature := first :: rest
    if ∃ entry ∈ signature, entry.view_bytes ≠ first.view_bytes then none
    else if ∃ entry ∈ signature, entry.allocation_bytes ≠ first.allocation_bytes then none
    else some signature

/-- `_DeviceKVExportTable.close`: each key once -/
def DeviceKVExportTable.close (table : DeviceKVExportTable) : AclLog := table.keys.eraseDups.map .closes

structure KvExports where
  acl : AclLog
  /-- `worker._resident_epoch_device_kv_exports` -/
  current : Option DeviceKVExportTable
  closed : Bool

namespace KvExports

def fresh : KvExports := ⟨[], none, false⟩

/-- the export of a layout that is not the current one -/
def exportAll (w : KvExports) (get_export_key : Int → Int → ExportAnswer) (signature : List Signature) :
    KvExports × Option DeviceKVExportTable :=
  match signature.foldlM (exportEntry get_export_key) ⟨[], [], w.acl⟩ with
  | .error acl => ({ w with acl }, none)
  | .ok s =>
    let table : DeviceKVExportTable := {
      signature
      source_bytes := (signature.head?.map fun entry => entry.allocation_bytes).getD 0
      source_offsets := signature.map fun entry => entry.source_offset
      keys := s.keys }
    (⟨s.acl, some table, false⟩, some table)

/-- `_get_device_kv_exports` -/
def get (w : KvExports) (address_range : Int → Option (Int × Int)) (get_export_key : Int → Int → ExportAnswer)
    (kv_caches : List (KvTensor × KvTensor)) : KvExports × Option DeviceKVExportTable :=
  match checkedSignature address_range kv_caches with
  | none => (w, none)
  | some signature =>
    match w.current with
    | none => w.exportAll get_export_key signature
    | some table =>
      if table.signature = signature then (w, some table)
      else { w with acl := w.acl ++ table.close, closed := true }.exportAll get_export_key signature

/-- `release_kv_device_exports` -/
def release (w : KvExports) : KvExports :=
  ⟨w.acl ++ (w.current.map DeviceKVExportTable.close).getD [], none, false⟩

end KvExports

/-! ### The same function -/

theorem exportKeys_foldlM (get_export_key : Int → Int → ExportAnswer) (l : List Signature) (s : Exporting)
    (dict : List (Int × String)) (hdict : ∀ ptr, dict.lookup ptr = s.exported_by_storage.lookup ptr) :
    ((l.foldlM (exportEntry get_export_key) s).toOption.map fun s' => s'.keys) =
      (exportKeys (fun base size => (get_export_key base size).key) dict l).map (s.keys ++ ·) := by
  induction l generalizing s dict with
  | nil =>
    show some s.keys = some (s.keys ++ [])
    rw [List.append_nil]
  | cons entry rest ih =>
    rw [List.foldlM_cons, exportKeys, hdict]
    unfold exportEntry
    cases hlookup : s.exported_by_storage.lookup entry.allocation_ptr with
    | some key =>
      refine (ih { s with keys := s.keys ++ [key] } dict hdict).trans ?_
      rw [Option.map_map]
      refine congrArg (Option.map · _) (funext fun keys => ?_)
      exact List.append_assoc _ _ _
    | none =>
      dsimp only
      cases hkey : (get_export_key entry.allocation_ptr entry.allocation_bytes).key with
      | none =>
        dsimp only
        split_ifs <;> rfl
      | some key =>
        have hne : key ≠ "" := by
          rintro rfl
          cases hanswer : get_export_key entry.allocation_ptr entry.allocation_bytes with
          | raises =>
            rw [hanswer] at hkey
            cases hkey
          | answers key status =>
            rw [hanswer] at hkey
            unfold ExportAnswer.key at hkey
            dsimp only at hkey
            split_ifs at hkey with hrefused
            exact hrefused (Or.inr hkey)
        dsimp only
        rw [if_neg hne]
        have hgrown (ptr : Int) : ((entry.allocation_ptr, key) :: dict).lookup ptr =
            (s.exported_by_storage ++ [(entry.allocation_ptr, key)]).lookup ptr := by
          rw [List.lookup_append, ← hdict, List.lookup_cons, List.lookup_cons, List.lookup_nil]
          by_cases hptr : ptr = entry.allocation_ptr
          · subst hptr
            rw [hdict, hlookup, beq_self_eq_true]
            rfl
          · rw [beq_eq_false_iff_ne.2 hptr, Option.or_none]
        refine (ih ⟨_, s.keys ++ [key], _⟩ _ hgrown).trans ?_
        rw [Option.map_map]
        refine congrArg (Option.map · _) (funext fun keys => ?_)
        exact List.append_assoc _ _ _

/-- **What a call returns.** -/
theorem get_returns (w : KvExports) (address_range : Int → Option (Int × Int)) (get_export_key : Int → Int → ExportAnswer)
    (kv_caches : List (KvTensor × KvTensor)) : (w.get address_range get_export_key kv_caches).2 =
      getDeviceKvExports address_range (fun base size => (get_export_key base size).key) w.current kv_caches := by
  have hexport (w : KvExports) (first : Signature) (rest : List Signature) :
      (w.exportAll get_export_key (first :: rest)).2 =
        (exportKeys (fun base size => (get_export_key base size).key) [] (first :: rest)).map fun keys =>
          { signature := first :: rest, source_bytes := first.allocation_bytes
            source_offsets := (first :: rest).map fun entry => entry.source_offset, keys } := by
    have hkeys := exportKeys_foldlM get_export_key (first :: rest) ⟨[], [], w.acl⟩ [] fun _ => rfl
    simp only [List.nil_append, Option.map_id'] at hkeys
    rw [← hkeys]
    unfold KvExports.exportAll
    cases (first :: rest).foldlM (exportEntry get_export_key) ⟨[], [], w.acl⟩ <;> rfl
  unfold KvExports.get checkedSignature getDeviceKvExports
  cases (cacheTensors kv_caches).mapM (cacheSignature address_range) with
  | none => rfl
  | some signature =>
    cases signature with
    | nil => rfl
    | cons first rest =>
      dsimp only
      split_ifs with hview hsize
      · rfl
      · rfl
      · dsimp only
        cases w.current with
        | none => exact hexport _ _ _
        | some table =>
          dsimp only
          rw [Option.filter_some]
          by_cases hsame : table.signature = first :: rest
          · rw [if_pos hsame, if_pos (decide_eq_true hsame)]
          · rw [if_neg hsame, if_neg (by simpa using hsame)]
            exact hexport _ _ _

/-! ## One export -/

/-- the exports a dict of the loop stands for -/
def madeExports (source_bytes : Int) (exported_by_storage : List (Int × String)) : List ((Int × Int) × String) :=
  exported_by_storage.map fun item => ((item.1, source_bytes), item.2)

/-- where the loop stands after the entries in `done` -/
structure Exported (get_export_key : Int → Int → ExportAnswer) (source_bytes : Int) (base : AclLog) (done : List Signature)
    (s : Exporting) : Prop where
  once : (s.exported_by_storage.map Prod.fst).Nodup
  ptrs : ∀ ptr, ptr ∈ s.exported_by_storage.map Prod.fst ↔ ptr ∈ done.map Signature.allocation_ptr
  keys : List.Forall₂ (fun entry key => s.exported_by_storage.lookup entry.allocation_ptr = some key) done s.keys
  answered : ∀ entry ∈ done, (get_export_key entry.allocation_ptr source_bytes).key.isSome = true
  acl : s.acl = base ++ (madeExports source_bytes s.exported_by_storage).map fun item => .opens item.2 item.1

section Loop

variable {get_export_key : Int → Int → ExportAnswer} {source_bytes : Int} {base : AclLog} {done : List Signature}
variable {s : Exporting} {entry : Signature}

theorem exported_start : Exported get_export_key source_bytes base [] ⟨[], [], base⟩ where
  once := .nil
  ptrs := fun _ => Iff.rfl
  keys := .nil
  answered := fun _ h => (by cases h)
  acl := (List.append_nil base).symm

/-- an allocation that has been exported -/
theorem Exported.known (he : Exported get_export_key source_bytes base done s) {key : String}
    (hlookup : s.exported_by_storage.lookup entry.allocation_ptr = some key) :
    Exported get_export_key source_bytes base (done ++ [entry]) { s with keys := s.keys ++ [key] } := by
  have hmem := (he.ptrs _).1 (key_of_lookup hlookup)
  obtain ⟨other, hother, hptr⟩ := List.mem_map.1 hmem
  refine ⟨he.once, fun ptr => ?_, List.rel_append he.keys (.cons hlookup .nil), fun e hmem' => ?_, he.acl⟩
  · rw [he.ptrs, List.map_append, List.mem_append, List.map_singleton, List.mem_singleton]
    exact ⟨Or.inl, fun h => h.elim id fun h => h ▸ hmem⟩
  · rcases List.mem_append.1 hmem' with h | h
    · exact he.answered e h
    · obtain rfl := List.mem_singleton.1 h
      exact hptr ▸ he.answered other hother

/-- an allocation that is exported now -/
theorem Exported.exports (he : Exported get_export_key source_bytes base done s)
    (hsize : entry.allocation_bytes = source_bytes) {key : String}
    (hlookup : s.exported_by_storage.lookup entry.allocation_ptr = none)
    (hkey : (get_export_key entry.allocation_ptr entry.allocation_bytes).key = some key) :
    Exported get_export_key source_bytes base (done ++ [entry])
      ⟨s.exported_by_storage ++ [(entry.allocation_ptr, key)], s.keys ++ [key], s.acl ++ [.opens key entry.allocation]⟩ := by
  have hnew : entry.allocation_ptr ∉ s.exported_by_storage.map Prod.fst := by
    intro hmem
    obtain ⟨known, hknown⟩ := lookup_exists hmem
    rw [hlookup] at hknown
    cases hknown
  have hkept {e : Signature} {k : String} (h : s.exported_by_storage.lookup e.allocation_ptr = some k) :
      (s.exported_by_storage ++ [(entry.allocation_ptr, key)]).lookup e.allocation_ptr = some k := by
    rw [List.lookup_append, h, Option.some_or]
  refine ⟨?_, fun ptr => ?_, List.rel_append (he.keys.imp fun _ _ => hkept) (.cons ?_ .nil), fun e hmem => ?_, ?_⟩
  · rw [List.map_append]
    refine List.nodup_append.2 ⟨he.once, List.nodup_singleton _, fun a ha b hb hab => ?_⟩
    obtain rfl : b = entry.allocation_ptr := List.mem_singleton.1 hb
    exact hnew (hab ▸ ha)
  · rw [List.map_append, List.mem_append, he.ptrs, List.map_append, List.mem_append]
    rfl
  · rw [List.lookup_append, hlookup, List.lookup_cons, beq_self_eq_true]
    rfl
  · rcases List.mem_append.1 hmem with h | h
    · exact he.answered e h
    · obtain rfl := List.mem_singleton.1 h
      rw [← hsize, hkey]
      rfl
  · show s.acl ++ _ = _
    rw [he.acl, madeExports, madeExports, List.map_append, List.map_append, ← hsize, List.append_assoc]
    rfl

/-- one pass of the loop -/
theorem Exported.step (he : Exported get_export_key source_bytes base done s)
    (hsize : entry.allocation_bytes = source_bytes) {s' : Exporting} (h : exportEntry get_export_key s entry = .ok s') :
    Exported get_export_key source_bytes base (done ++ [entry]) s' := by
  unfold exportEntry at h
  cases hlookup : s.exported_by_storage.lookup entry.allocation_ptr with
  | some key =>
    rw [hlookup] at h
    cases h
    exact he.known hlookup
  | none =>
    rw [hlookup] at h
    dsimp only at h
    cases hkey : (get_export_key entry.allocation_ptr entry.allocation_bytes).key with
    | none =>
      rw [hkey] at h
      dsimp only at h
      split_ifs at h
    | some key =>
      rw [hkey] at h
      cases h
      exact he.exports hsize hlookup hkey

/-- what is open then, if nothing was before -/
theorem Exported.isOpen (he : Exported get_export_key source_bytes base done s)
    (hbase : ∀ key allocation, ¬IsOpen base key allocation) {key : String} {allocation : Int × Int} :
    IsOpen s.acl key allocation ↔ (allocation, key) ∈ madeExports source_bytes s.exported_by_storage := by
  rw [he.acl, isOpen_append, isOpen_opens]
  exact or_iff_left fun h => hbase _ _ h.1

/-- the allocations exported are those of the entries -/
theorem Exported.allocations (he : Exported get_export_key source_bytes base done s)
    (hsize : ∀ entry ∈ done, entry.allocation_bytes = source_bytes) (allocation : Int × Int) :
    allocation ∈ (madeExports source_bytes s.exported_by_storage).map Prod.fst ↔
      allocation ∈ done.map Signature.allocation := by
  have hmade : (madeExports source_bytes s.exported_by_storage).map Prod.fst =
      (s.exported_by_storage.map Prod.fst).map fun ptr => (ptr, source_bytes) := by
    unfold madeExports
    rw [List.map_map, List.map_map]
    rfl
  have hdone : done.map Signature.allocation = (done.map Signature.allocation_ptr).map fun ptr => (ptr, source_bytes) := by
    rw [List.map_map]
    exact List.map_congr_left fun entry hentry => Prod.ext rfl (hsize entry hentry)
  rw [hmade, hdone]
  simp only [List.mem_map (f := fun ptr => (ptr, source_bytes)), he.ptrs]

/-- a key that was exported is a key of the table -/
theorem Exported.open_key (he : Exported get_export_key source_bytes base done s) {key : String} {allocation : Int × Int}
    (hmem : (allocation, key) ∈ madeExports source_bytes s.exported_by_storage) : key ∈ s.keys := by
  obtain ⟨⟨ptr, known⟩, hitem, heq⟩ := List.mem_map.1 hmem
  obtain rfl : known = key := congrArg Prod.snd heq
  obtain ⟨entry, hentry, hptr⟩ := List.mem_map.1 ((he.ptrs ptr).1 (List.mem_map_of_mem hitem))
  obtain ⟨key', hkey', hlookup⟩ := forall₂_mem he.keys.flip hentry
  have hlookup : s.exported_by_storage.lookup entry.allocation_ptr = some key' := hlookup
  rw [hptr, (lookup_iff_mem he.once).2 hitem] at hlookup
  cases hlookup
  exact hkey'

/-- an export that fails without raising closes what the call has exported -/
theorem Exported.exit (he : Exported get_export_key source_bytes base done s)
    (hbase : ∀ key allocation, ¬IsOpen base key allocation) {acl : AclLog}
    (h : exportEntry get_export_key s entry = .error acl)
    (hraises : get_export_key entry.allocation_ptr entry.allocation_bytes = .raises → done = []) (key : String)
    (allocation : Int × Int) : ¬IsOpen acl key allocation := by
  unfold exportEntry at h
  cases hlookup : s.exported_by_storage.lookup entry.allocation_ptr with
  | some key =>
    rw [hlookup] at h
    cases h
  | none =>
    rw [hlookup] at h
    dsimp only at h
    cases hkey : (get_export_key entry.allocation_ptr entry.allocation_bytes).key with
    | some key =>
      rw [hkey] at h
      cases h
    | none =>
      rw [hkey] at h
      dsimp only at h
      by_cases hraised : get_export_key entry.allocation_ptr entry.allocation_bytes = .raises
      · rw [if_pos hraised] at h
        cases h
        rw [he.isOpen hbase]
        intro hmem
        obtain ⟨item, hitem, -⟩ := List.mem_map.1 hmem
        have hptr := (he.ptrs _).1 (List.mem_map_of_mem hitem)
        rw [hraises hraised] at hptr
        cases hptr
      · rw [if_neg hraised] at h
        cases h
        rw [isOpen_closes, he.isOpen hbase]
        rintro ⟨hmem, hnot⟩
        obtain ⟨item, hitem, heq⟩ := List.mem_map.1 hmem
        refine hnot (List.mem_map.2 ⟨item, hitem, ?_⟩)
        exact congrArg Prod.snd heq

end Loop

/-! ## Whole calls -/

/-- the exports of the call that made a table: one of each of its allocations, and their keys are the table's -/
structure MadeBy (exports : List ((Int × Int) × String)) (table : DeviceKVExportTable) : Prop where
  once : (exports.map Prod.fst).Nodup
  allocations : ∀ allocation, allocation ∈ exports.map Prod.fst ↔ allocation ∈ table.signature.map Signature.allocation
  keys : List.Forall₂ (fun entry key => (entry.allocation, key) ∈ exports) table.signature table.keys

/-- a table as it must be when it is handed out: the last exports of all are those that made it, and nothing was open
before them -/
structure Handed (acl : AclLog) (table : DeviceKVExportTable) : Prop where
  keys : List.Forall₂ (fun entry key => IsOpen acl key entry.allocation) table.signature table.keys
  made : ∃ (before : AclLog) (exports : List ((Int × Int) × String)), MadeBy exports table ∧
    acl = before ++ exports.map (fun item => .opens item.2 item.1) ∧ ∀ key allocation, ¬IsOpen before key allocation

structure ExportInvariant (w : KvExports) : Prop where
  /-- no key is open but those of the table -/
  opened : ∀ key allocation, IsOpen w.acl key allocation → w.closed = false ∧ ∃ table ∈ w.current, key ∈ table.keys
  table : ∀ table ∈ w.current, w.closed = false → Handed w.acl table

/-- an export raises after another of the same call -/
def RaisesLate (get_export_key : Int → Int → ExportAnswer) (signature : List Signature) : Prop :=
  ∃ done entry rest, signature = done ++ entry :: rest ∧ done ≠ [] ∧
    (∀ e ∈ done, (get_export_key e.allocation_ptr e.allocation_bytes).key.isSome = true) ∧
    get_export_key entry.allocation_ptr entry.allocation_bytes = .raises

theorem checkedSignature_bytes {address_range : Int → Option (Int × Int)} {kv_caches : List (KvTensor × KvTensor)}
    {signature : List Signature} (h : checkedSignature address_range kv_caches = some signature) :
    ∃ source_bytes, ∀ entry ∈ signature, entry.allocation_bytes = source_bytes := by
  unfold checkedSignature at h
  cases hsignature : (cacheTensors kv_caches).mapM (cacheSignature address_range) with
  | none =>
    rw [hsignature] at h
    cases h
  | some entries =>
    rw [hsignature] at h
    cases entries with
    | nil => cases h
    | cons first rest =>
      dsimp only at h
      split_ifs at h with hview hsize
      cases h
      push Not at hsize
      exact ⟨_, hsize⟩

/-- the exports of a whole layout -/
theorem Exported.madeBy {get_export_key : Int → Int → ExportAnswer} {source_bytes : Int} {base : AclLog}
    {signature : List Signature} {s : Exporting} (he : Exported get_export_key source_bytes base signature s)
    (hsize : ∀ entry ∈ signature, entry.allocation_bytes = source_bytes) (bytes : Int) (source_offsets : List Int) :
    MadeBy (madeExports source_bytes s.exported_by_storage) ⟨signature, bytes, source_offsets, s.keys⟩ := by
  refine ⟨?_, he.allocations hsize, ?_⟩
  · unfold madeExports
    rw [List.map_map]
    have hnodup := he.once.map (f := fun ptr => (ptr, source_bytes)) fun _ _ h => congrArg Prod.fst h
    rwa [List.map_map] at hnodup
  · refine List.Forall₂.imp (fun entry key hlookup => ?_)
      ((List.forall₂_and_left (p := (· ∈ signature)) signature s.keys).2 ⟨fun _ h => h, he.keys⟩)
    exact List.mem_map.2 ⟨_, mem_of_lookup hlookup.2, Prod.ext (Prod.ext rfl (hsize entry hlookup.1).symm) rfl⟩

/-- an export of a whole layout with no key open -/
theorem exportAll_invariant {w : KvExports} {get_export_key : Int → Int → ExportAnswer} {signature : List Signature}
    {source_bytes : Int} (hsize : ∀ entry ∈ signature, entry.allocation_bytes = source_bytes)
    (hnone : ∀ key allocation, ¬IsOpen w.acl key allocation) (hclosed : w.current.isSome = true → w.closed = true)
    (hraises : ¬RaisesLate get_export_key signature) :
    ExportInvariant (w.exportAll get_export_key signature).1 ∧
      ∀ table ∈ (w.exportAll get_export_key signature).2, table.signature = signature ∧
        Handed (w.exportAll get_export_key signature).1.acl table := by
  have hloop {done : List Signature} (hsub : ∀ entry ∈ done, entry ∈ signature) {s : Exporting}
      (h : done.foldlM (exportEntry get_export_key) ⟨[], [], w.acl⟩ = .ok s) :
      Exported get_export_key source_bytes w.acl done s := by
    refine foldlM_inv _ (Exported get_export_key source_bytes w.acl) done (fun pre entry post s s' hl he hs => ?_)
      exported_start h
    exact he.step (hsize entry (hsub entry (hl ▸ List.mem_append_right _ List.mem_cons_self))) hs
  unfold KvExports.exportAll
  cases hfold : signature.foldlM (exportEntry get_export_key) ⟨[], [], w.acl⟩ with
  | ok s =>
    have he := hloop (fun _ h => h) hfold
    have hhanded : Handed s.acl ⟨signature, (signature.head?.map fun entry => entry.allocation_bytes).getD 0,
        signature.map fun entry => entry.source_offset, s.keys⟩ := by
      have hmade := he.madeBy hsize ((signature.head?.map fun entry => entry.allocation_bytes).getD 0)
        (signature.map fun entry => entry.source_offset)
      exact ⟨hmade.keys.imp fun entry key hmem => (he.isOpen hnone).2 hmem, w.acl, _, hmade, he.acl, hnone⟩
    refine ⟨⟨fun key allocation hopen => ⟨rfl, _, rfl, ?_⟩, ?_⟩, ?_⟩
    · exact he.open_key ((he.isOpen hnone).1 hopen)
    · rintro table ⟨⟩ -
      exact hhanded
    · rintro table ⟨⟩
      exact ⟨rfl, hhanded⟩
  | error acl =>
    obtain ⟨done, entry, rest, s, hl, hdone, hentry⟩ := foldlM_exit _ hfold
    have he := hloop (fun e h => hl ▸ List.mem_append_left _ h) hdone
    have hnothing := he.exit hnone hentry fun hraised => ?_
    · refine ⟨⟨fun key allocation hopen => absurd hopen (hnothing key allocation), fun table htable hopen => ?_⟩,
        fun table h => by cases h⟩
      have hsome : w.current.isSome = true := Option.isSome_of_mem htable
      exact absurd (hclosed hsome) (by simpa using hopen)
    · by_contra hne
      refine hraises ⟨done, entry, rest, hl, hne, fun e h => ?_, hraised⟩
      rw [hsize e (hl ▸ List.mem_append_left _ h)]
      exact he.answered e h

/-! ## The life of a worker -/

inductive ExportEvent where
  | get (address_range : Int → Option (Int × Int)) (get_export_key : Int → Int → ExportAnswer)
    (kv_caches : List (KvTensor × KvTensor))
  | release

/-- the layout a call comes with -/
def ExportEvent.layout : ExportEvent → Option (List Signature)
  | .get address_range _ kv_caches => checkedSignature address_range kv_caches
  | .release => none

def KvExports.next (w : KvExports) : ExportEvent → KvExports × Option DeviceKVExportTable
  | .get address_range get_export_key kv_caches => w.get address_range get_export_key kv_caches
  | .release => (w.release, none)

def ExportStep (w : KvExports) (event : ExportEvent) (w' : KvExports) : Prop := (w.next event).1 = w'

/-- no layout comes back to a table that a failed call has closed, and no export raises after another of its call -/
def ExportAllowed (w : KvExports) : ExportEvent → Prop
  | .get address_range get_export_key kv_caches =>
    ∀ signature ∈ checkedSignature address_range kv_caches,
      if w.current.map DeviceKVExportTable.signature = some signature then w.closed = false
      else ¬RaisesLate get_export_key signature
  | .release => True

/-- closing the table leaves no key open -/
theorem ExportInvariant.close {w : KvExports} (hi : ExportInvariant w) (key : String) (allocation : Int × Int) :
    ¬IsOpen (w.acl ++ (w.current.map DeviceKVExportTable.close).getD []) key allocation := by
  cases hcurrent : w.current with
  | none =>
    intro h
    rw [Option.map_none, Option.getD_none, List.append_nil] at h
    obtain ⟨-, table, htable, -⟩ := hi.opened key allocation h
    rw [hcurrent] at htable
    cases htable
  | some table =>
    rw [Option.map_some, Option.getD_some, DeviceKVExportTable.close, isOpen_closes, List.mem_eraseDups]
    rintro ⟨h, hnot⟩
    obtain ⟨-, other, hother, hmem⟩ := hi.opened key allocation h
    rw [hcurrent] at hother
    cases hother
    exact hnot hmem

theorem fresh_exports : ExportInvariant .fresh where
  opened := fun _ _ h => absurd h isOpen_nil
  table := fun _ h => (by cases h)

/-- **One call.** -/
theorem exports_next {w : KvExports} (hi : ExportInvariant w) {event : ExportEvent} (hallowed : ExportAllowed w event) :
    ExportInvariant (w.next event).1 ∧ ∀ table ∈ (w.next event).2, event.layout = some table.signature ∧
      Handed (w.next event).1.acl table := by
  cases event with
  | release =>
    refine ⟨⟨fun key allocation h => absurd h (hi.close key allocation), fun table h => by cases h⟩, fun table h => by cases h⟩
  | get address_range get_export_key kv_caches =>
    unfold KvExports.next ExportEvent.layout KvExports.get
    dsimp only
    cases hlayout : checkedSignature address_range kv_caches with
    | none => exact ⟨hi, fun table h => by cases h⟩
    | some signature =>
      obtain ⟨source_bytes, hsize⟩ := checkedSignature_bytes hlayout
      have hallowed := hallowed signature hlayout
      have hclose := hi.close
      dsimp only
      cases hcurrent : w.current with
      | none =>
        rw [hcurrent] at hallowed hclose
        rw [if_neg (by simp)] at hallowed
        have hnone (key : String) (allocation : Int × Int) : ¬IsOpen w.acl key allocation := by
          simpa using hclose key allocation
        obtain ⟨hnext, htable⟩ := exportAll_invariant hsize hnone (fun h => by rw [hcurrent] at h; cases h) hallowed
        exact ⟨hnext, fun table h => ⟨congrArg some (htable table h).1.symm, (htable table h).2⟩⟩
      | some table =>
        rw [hcurrent] at hallowed hclose
        dsimp only
        by_cases hsame : table.signature = signature
        · rw [if_pos hsame]
          rw [Option.map_some, if_pos (congrArg some hsame)] at hallowed
          refine ⟨hi, ?_⟩
          rintro _ ⟨⟩
          exact ⟨congrArg some hsame.symm, hi.table table hcurrent hallowed⟩
        · rw [if_neg hsame]
          rw [Option.map_some, if_neg fun h => hsame (Option.some.inj h)] at hallowed
          obtain ⟨hnext, htable⟩ := exportAll_invariant (w := ⟨w.acl ++ table.close, some table, true⟩)
            hsize hclose (fun _ => rfl) hallowed
          exact ⟨hnext, fun table h => ⟨congrArg some (htable table h).1.symm, (htable table h).2⟩⟩

/-- what is wanted after every call -/
structure ExportsSafe (w : KvExports) (event : ExportEvent) : Prop where
  table : ∀ table ∈ (w.next event).2, event.layout = some table.signature ∧ Handed (w.next event).1.acl table
  opened : ∀ key allocation, IsOpen (w.next event).1.acl key allocation → ∃ table ∈ (w.next event).1.current, key ∈ table.keys

/-- **The keys handed out are open, and no others are.** -/
theorem device_exports_open {w : KvExports} (h : Run ExportStep ExportAllowed .fresh w) {event : ExportEvent}
    (hallowed : ExportAllowed w event) : ExportsSafe w event := by
  have hi : ExportInvariant w := h.invariant fresh_exports fun w event w' hi hs hallowed => by
    obtain rfl := hs
    exact (exports_next hi hallowed).1
  obtain ⟨hnext, htable⟩ := exports_next hi hallowed
  exact ⟨htable, fun key allocation hopen => (hnext.opened key allocation hopen).2⟩

/-! ### Two layouts -/

/-- one layer of one block each, in allocations of its own -/
def layoutAt (ptr : Int) : List (KvTensor × KvTensor) :=
  [(⟨true, true, 1 :: BLOCK_SHAPE, ptr, ptr, 131072, 0⟩, ⟨true, true, 1 :: BLOCK_SHAPE, 2 * ptr, 2 * ptr, 131072, 0⟩)]

def ownAllocation (ptr : Int) : Option (Int × Int) := some (ptr, 131072)

/-- a runtime that exports keys by allocation -/
def exportsAll (ptr _size : Int) : ExportAnswer := .answers (some (if ptr = 1048576 then "key" else "value")) 0

def exportsNothing (_ptr _size : Int) : ExportAnswer := .answers none 507899

theorem layoutAt_signature : checkedSignature ownAllocation (layoutAt 1048576) =
    some [⟨1048576, 131072, 1048576, 131072, 0⟩, ⟨2097152, 131072, 2097152, 131072, 0⟩] := by decide

/-- after the first layout -/
def openExports : KvExports where
  acl := [.opens "key" (1048576, 131072), .opens "value" (2097152, 131072)]
  current := some {
    signature := [⟨1048576, 131072, 1048576, 131072, 0⟩, ⟨2097152, 131072, 2097152, 131072, 0⟩]
    source_bytes := 131072
    source_offsets := [0, 0]
    keys := ["key", "value"] }
  closed := false

/-- after another that fails -/
def closedExports : KvExports :=
  { openExports with acl := openExports.acl ++ ["key", "value"].map .closes, closed := true }

theorem first_exported : (KvExports.fresh.next (.get ownAllocation exportsAll (layoutAt 1048576))).1 = openExports := by
  unfold KvExports.next KvExports.get
  dsimp only
  rw [layoutAt_signature]
  rfl

theorem second_refused : (openExports.next (.get ownAllocation exportsNothing (layoutAt 4194304))).1 = closedExports := by
  unfold KvExports.next KvExports.get
  dsimp only
  rw [show checkedSignature ownAllocation (layoutAt 4194304) =
    some [⟨4194304, 131072, 4194304, 131072, 0⟩, ⟨8388608, 131072, 8388608, 131072, 0⟩] by decide]
  rfl

/-- an export that never raises, with a layout the worker has no table of -/
theorem exportAllowed_new {w : KvExports} {address_range : Int → Option (Int × Int)}
    {get_export_key : Int → Int → ExportAnswer} {kv_caches : List (KvTensor × KvTensor)}
    (hraises : ∀ ptr size, get_export_key ptr size ≠ .raises)
    (hnew : checkedSignature address_range kv_caches ≠ w.current.map DeviceKVExportTable.signature) :
    ExportAllowed w (.get address_range get_export_key kv_caches) := by
  intro signature hlayout
  rw [if_neg fun hsame => hnew (Eq.trans hlayout hsame.symm)]
  rintro ⟨done, entry, rest, -, -, -, hraised⟩
  exact hraises _ _ hraised

/-- a layout, another that is refused, a release, and the first layout again -/
theorem device_exports_open_again : ∃ w, Run ExportStep ExportAllowed .fresh w ∧ w.acl.length = 6 ∧
    (w.next (.get ownAllocation exportsAll (layoutAt 1048576))).2.map DeviceKVExportTable.keys = some ["key", "value"] ∧
    ExportsSafe w (.get ownAllocation exportsAll (layoutAt 1048576)) := by
  have hexports (ptr size : Int) : exportsAll ptr size ≠ .raises := fun h => by cases h
  have hrefused (ptr size : Int) : exportsNothing ptr size ≠ .raises := fun h => by cases h
  have hfirst : ExportAllowed .fresh (.get ownAllocation exportsAll (layoutAt 1048576)) :=
    exportAllowed_new hexports (by decide)
  have hsecond : ExportAllowed openExports (.get ownAllocation exportsNothing (layoutAt 4194304)) :=
    exportAllowed_new hrefused (by decide)
  have hagain : ExportAllowed closedExports.release (.get ownAllocation exportsAll (layoutAt 1048576)) :=
    exportAllowed_new hexports (by decide)
  have hrun : Run ExportStep ExportAllowed .fresh closedExports.release :=
    ((Run.refl.tail first_exported hfirst).tail second_refused hsecond).tail
      (show ExportStep closedExports .release closedExports.release from rfl) trivial
  refine ⟨_, hrun, rfl, ?_, device_exports_open hrun hagain⟩
  unfold KvExports.next KvExports.get
  dsimp only
  rw [layoutAt_signature]
  rfl

/-- **A table of closed keys.** -/
theorem closed_table_returned : ¬∀ (w : KvExports) (event : ExportEvent),
    Run ExportStep (fun _ _ => True) .fresh w → ExportsSafe w event := by
  intro h
  have hrun : Run ExportStep (fun _ _ => True) .fresh closedExports :=
    (Run.refl.tail first_exported trivial).tail second_refused trivial
  have hreturned : closedExports.next (.get ownAllocation exportsAll (layoutAt 1048576)) =
      (closedExports, closedExports.current) := by
    unfold KvExports.next KvExports.get
    dsimp only
    rw [layoutAt_signature]
    rfl
  have hsafe := (h _ (.get ownAllocation exportsAll (layoutAt 1048576)) hrun).table
  rw [hreturned] at hsafe
  obtain ⟨-, hhanded⟩ := hsafe _ rfl
  obtain ⟨hkey, -⟩ := List.forall₂_cons.1 hhanded.keys
  exact (isOpen_closes.1 hkey).2 List.mem_cons_self

end Cruise.Worker
