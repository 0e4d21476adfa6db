/-
Two checks of one bundle: the materializer's before it uses a bundle again (`validate_existing_bundle`), and the runtime's
before it starts on it (`_validate_external_weights`, deep, behind the digest of the manifest).

- `existing_bundle_iff`, `external_weights_iff`: either accepts exactly the directories of which the manifest has one record
  for each file, with its size and digest.
- `bundle_checks_agree`: **the two accept the same bundles**, for every configuration the loader accepts.
- `published_weights_accepted`: what runs of the materializer leave, such a configuration's deep check accepts.
-/
import Cruise.Assets.Publish
import Cruise.Assets.RuntimeLoad

namespace Cruise.Assets

open Cruise.Lib

/-! ## Records and files -/

/-- a record of a manifest and its file -/
structure Binds (sha256 : Bytes → String) (record : Json) (file : String × Bytes) : Prop where
  named : record.get "name" = some (.str file.1)
  bytes : (record.get "bytes").any (·.equalsInt file.2.length) = true
  sha256 : (record.get "sha256").any (·.equalsStr (sha256 file.2)) = true

/-- the records are of the files of the directory, one of each -/
def Describes (sha256 : Bytes → String) (records : List Json) (directory : Directory) : Prop :=
  ∃ files : Directory, files.Perm directory ∧ List.Forall₂ (Binds sha256) records files

section Records

variable {sha256 : Bytes → String} {records : List Json} {directory : Directory} {names files : List String}

theorem items_of_get {record value : Json} {key : String} (h : record.get key = some value) : record.items.isSome = true := by
  unfold Json.get at h
  obtain ⟨items, hitems, -⟩ := Option.bind_eq_some_iff.1 h
  rw [hitems]
  rfl

theorem manifestNames_named
    (h : List.Forall₂ (fun (record : Json) name => record.get "name" = some (.str name)) records names) :
    manifestNames records = names.map .str := by
  unfold manifestNames
  induction h with
  | nil => rfl
  | cons hname _ ih =>
    rw [List.filter_cons_of_pos (p := fun record : Json => record.items.isSome) (items_of_get hname), List.map_cons, hname,
      Option.getD_some, ih, List.map_cons]

/-- distinct names have one record each -/
theorem named_unique (h : List.Forall₂ (fun (record : Json) name => record.get "name" = some (.str name)) records names)
    (hnames : names.Nodup) {record other : Json} (hrecord : record ∈ records) (hother : other ∈ records)
    (hsame : other.get "name" = record.get "name") : other = record := by
  have hdistinct : (records.map fun record => record.get "name").Nodup := by
    have heq : (records.map fun record => record.get "name") = names.map fun name => some (.str name) :=
      forall₂_map_eq h fun _ _ hname => hname
    rw [heq]
    exact hnames.map fun a b hequal => Json.str.inj (Option.some.inj hequal)
  exact List.inj_on_of_nodup_map hdistinct hother hrecord hsame

theorem sameNames_congr {values : List Json} (h : names.Perm files) : sameNames values names = sameNames values files := by
  unfold sameNames
  rw [h.all_eq]
  congr 1
  exact congrArg _ (funext fun name => h.any_eq)

theorem sameNames_perm (h : names.Perm files) : sameNames (names.map .str) files = true := by
  unfold sameNames
  rw [Bool.and_eq_true, List.all_eq_true, List.all_eq_true]
  constructor
  · intro value hvalue
    obtain ⟨name, hname, rfl⟩ := List.mem_map.1 hvalue
    exact List.any_eq_true.2 ⟨name, h.mem_iff.1 hname, Json.equalsStr_iff.2 rfl⟩
  · intro name hname
    exact List.any_eq_true.2 ⟨.str name, List.mem_map_of_mem (h.mem_iff.2 hname), Json.equalsStr_iff.2 rfl⟩

/-- as many records as files, with the same set of names: every record is an object, and named -/
theorem records_named (hfiles : files.Nodup) (hcount : records.length = files.length)
    (hsame : sameNames (manifestNames records) files = true) :
    ∀ record ∈ records, ∃ name ∈ files, record.get "name" = some (.str name) := by
  unfold sameNames at hsame
  rw [Bool.and_eq_true, List.all_eq_true, List.all_eq_true] at hsame
  have hsub : files.map .str ⊆ manifestNames records := by
    intro value hvalue
    obtain ⟨name, hname, rfl⟩ := List.mem_map.1 hvalue
    obtain ⟨value, hvalue, hequal⟩ := List.any_eq_true.1 (hsame.2 name hname)
    exact Json.equalsStr_iff.1 hequal ▸ hvalue
  have hle : records.length ≤ (records.filter fun record => record.items.isSome).length := by
    have hnodup : (files.map Json.str).Nodup := hfiles.map fun a b h => Json.str.inj h
    have hlength := (hnodup.subperm hsub).length_le
    unfold manifestNames at hlength
    rwa [List.length_map, List.length_map, ← hcount] at hlength
  have hall : records.filter (fun record => record.items.isSome) = records :=
    List.filter_sublist.eq_of_length_le hle
  intro record hrecord
  have hname : (record.get "name").getD .null ∈ manifestNames records := by
    unfold manifestNames
    rw [hall]
    exact List.mem_map_of_mem hrecord
  obtain ⟨name, hmem, hequal⟩ := List.any_eq_true.1 (hsame.1 _ hname)
  have hequal := Json.equalsStr_iff.1 hequal
  refine ⟨name, hmem, ?_⟩
  cases hget : record.get "name" with
  | none =>
    rw [hget] at hequal
    cases hequal
  | some value =>
    rw [hget, Option.getD_some] at hequal
    rw [hequal]

theorem describes_of (hkeys : (directory.map Prod.fst).Nodup) (hcount : records.length = directory.length)
    (hsame : sameNames (manifestNames records) (directory.map Prod.fst) = true)
    (hbinds : ∀ record ∈ records, ∀ name, record.get "name" = some (.str name) → ∃ file ∈ directory, Binds sha256 record file) :
    Describes sha256 records directory := by
  have hlength : records.length = (directory.map Prod.fst).length := hcount.trans (List.length_map _).symm
  have hbound : ∀ record ∈ records, ∃ file : String × Bytes, Binds sha256 record file ∧ file ∈ directory := by
    intro record hrecord
    obtain ⟨name, -, hname⟩ := records_named hkeys hlength hsame record hrecord
    obtain ⟨file, hfile, hbind⟩ := hbinds record hrecord name hname
    exact ⟨file, hbind, hfile⟩
  obtain ⟨found, hfound⟩ := forall₂_exists hbound
  have hnamed : List.Forall₂ (fun (record : Json) name => record.get "name" = some (.str name)) records
      (found.map Prod.fst) :=
    List.forall₂_map_right_iff.2 (hfound.imp fun _ _ h => h.1.named)
  have hperm := names_perm hkeys hlength hsame hnamed
  have hsub : found ⊆ directory := by
    intro file hfile
    obtain ⟨_, -, h⟩ := forall₂_mem hfound hfile
    exact h.2
  have hnodup : found.Nodup := List.Nodup.of_map _ (hperm.nodup_iff.2 hkeys)
  refine ⟨found, (hnodup.subperm hsub).perm_of_length_le ?_, hfound.imp fun _ _ h => h.1⟩
  rw [← hfound.length_eq, hcount]

theorem Describes.named (h : Describes sha256 records directory) : records.length = directory.length ∧
    (manifestNames records).all hashable = true ∧
      ∀ names : List String, names.Perm (directory.map Prod.fst) → sameNames (manifestNames records) names = true := by
  obtain ⟨found, hperm, hbinds⟩ := h
  have hnamed : List.Forall₂ (fun (record : Json) name => record.get "name" = some (.str name)) records
      (found.map Prod.fst) :=
    List.forall₂_map_right_iff.2 (hbinds.imp fun _ _ h => h.named)
  rw [manifestNames_named hnamed]
  refine ⟨hbinds.length_eq.trans hperm.length_eq, ?_, fun names hnames => ?_⟩
  · rw [List.all_map, List.all_eq_true]
    exact fun _ _ => rfl
  · exact sameNames_perm ((hperm.map _).trans hnames.symm)

/-- the record that is found under a name is the only one that has it -/
theorem recordOf_named {record : Json} {name : String} (hrecord : record ∈ records)
    (hname : record.get "name" = some (.str name))
    (hunique : ∀ other ∈ records, other.get "name" = some (.str name) → other = record) :
    recordOf records name = some record := by
  have hfound : (recordOf records name).isSome = true := by
    unfold recordOf
    rw [List.find?_isSome]
    refine ⟨record, List.mem_filter.2 ⟨List.mem_reverse.2 hrecord, items_of_get hname⟩, ?_⟩
    rw [hname]
    exact Json.equalsStr_iff.2 rfl
  obtain ⟨other, hother⟩ := Option.isSome_iff_exists.1 hfound
  rw [hother]
  unfold recordOf at hother
  have hmem := List.mem_reverse.1 (List.mem_of_mem_filter (List.mem_of_find?_eq_some hother))
  have hmatch := List.find?_some hother
  obtain ⟨value, hvalue, hequal⟩ := (Option.any_eq_true _ _).1 hmatch
  rw [Json.equalsStr_iff.1 hequal] at hvalue
  rw [hunique other hmem hvalue]

theorem checkFile_ok_iff {file : String × Bytes} : checkFile sha256 records file = .ok () ↔
    ∃ record, recordOf records file.1 = some record ∧ (record.get "bytes").any (·.equalsInt file.2.length) = true ∧
      (record.get "sha256").any (·.equalsStr (sha256 file.2)) = true := by
  unfold checkFile
  cases recordOf records file.1 with
  | none =>
    refine iff_of_false (fun h => by cases h) ?_
    rintro ⟨_, h, -⟩
    cases h
  | some record =>
    dsimp only
    constructor
    · intro h
      split_ifs at h with hbytes hdigest
      exact ⟨record, rfl, Bool.not_eq_false _ ▸ hbytes, Bool.not_eq_false _ ▸ hdigest⟩
    · rintro ⟨_, hrecord, hbytes, hdigest⟩
      cases hrecord
      rw [hbytes, hdigest, if_neg Bool.noConfusion, if_neg Bool.noConfusion]

end Records

/-! ## What the two checks accept -/

/-- a directory of the expected size, with a manifest that describes it -/
structure Bundle (sha256 : Bytes → String) (text : Bytes) (directory : Directory) : Prop where
  manifest : ∃ value records, (decodeText text).bind Json.loads = some value ∧ value.get "files" = some (.arr records) ∧
    Describes sha256 records directory
  files : directory.length = EXPECTED_EXTERNAL_FILES
  bytes : (directory.map fun file => file.2.length).sum = EXPECTED_EXTERNAL_BYTES

/-- a file system in which the directory and the manifest stand at the two paths -/
structure Shows (fs : FileSystem) (assets : RuntimeAssets) (directory : Directory) (text : Bytes) : Prop where
  names : (fs.fileNames assets.external_weights).Perm (directory.map Prod.fst)
  file : ∀ file ∈ directory, fs.file (assets.external_weights ++ [file.1]) = some file.2
  manifest : fs.file assets.external_weights_manifest = some text

section Checks

variable {sha256 : Bytes → String} {text : Bytes} {directory : Directory} {records : List Json}

theorem checked_files (hkeys : (directory.map Prod.fst).Nodup) (hlength : records.length = directory.length)
    (hsame : sameNames (manifestNames records) (directory.map Prod.fst) = true)
    (hfiles : ∀ file ∈ directory, checkFile sha256 records file = .ok ()) : Describes sha256 records directory := by
  have hcount : records.length = (directory.map Prod.fst).length := hlength.trans (List.length_map _).symm
  obtain ⟨names, hnames⟩ := forall₂_exists (records_named hkeys hcount hsame)
  have hnamed : List.Forall₂ (fun (record : Json) name => record.get "name" = some (.str name)) records names :=
    hnames.imp fun _ _ h => h.2
  have hdistinct : names.Nodup := (names_perm hkeys hcount hsame hnamed).nodup_iff.2 hkeys
  refine describes_of hkeys hlength hsame fun record hrecord name hname => ?_
  obtain ⟨name', hmem, hname'⟩ := records_named hkeys hcount hsame record hrecord
  rw [hname, Option.some.injEq, Json.str.injEq] at hname'
  subst hname'
  obtain ⟨file, hfile, rfl⟩ := List.mem_map.1 hmem
  obtain ⟨found, hfound, hbytes, hdigest⟩ := checkFile_ok_iff.1 (hfiles file hfile)
  rw [recordOf_named hrecord hname fun other hother hsame => named_unique hnamed hdistinct hrecord hother
    (hsame.trans hname.symm)] at hfound
  cases hfound
  exact ⟨file, hfile, hname, hbytes, hdigest⟩

theorem described_files (hkeys : (directory.map Prod.fst).Nodup) (h : Describes sha256 records directory) :
    ∀ file ∈ directory, checkFile sha256 records file = .ok () := by
  obtain ⟨found, hperm, hbinds⟩ := h
  have hdistinct : (found.map Prod.fst).Nodup := (hperm.map _).nodup_iff.2 hkeys
  have hnamed : List.Forall₂ (fun (record : Json) name => record.get "name" = some (.str name)) records
      (found.map Prod.fst) :=
    List.forall₂_map_right_iff.2 (hbinds.imp fun _ _ h => h.named)
  intro file hfile
  obtain ⟨record, hrecord, hbind⟩ := forall₂_mem hbinds (hperm.mem_iff.2 hfile)
  refine checkFile_ok_iff.2 ⟨record, ?_, hbind.bytes, hbind.sha256⟩
  exact recordOf_named hrecord hbind.named fun other hother hsame =>
    named_unique hnamed hdistinct hrecord hother (hsame.trans hbind.named.symm)

/-- **What the materializer uses again.** -/
theorem existing_bundle_iff (hkeys : (directory.map Prod.fst).Nodup) :
    validateExistingBundle sha256 (some (.directory directory)) (some text) = .ok () ↔
      sha256 text = EXPECTED_MANIFEST_SHA256 ∧ Bundle sha256 text directory := by
  have hsorted := List.perm_insertionSort (fun a b : String × Bytes => a.1 ≤ b.1) directory
  have hkeys' : ((directory.insertionSort fun a b => a.1 ≤ b.1).map Prod.fst).Nodup := (hsorted.map _).nodup_iff.2 hkeys
  unfold validateExistingBundle
  constructor
  · intro h
    dsimp only at h
    by_cases hdigest : sha256 text = EXPECTED_MANIFEST_SHA256
    swap
    · rw [if_pos hdigest] at h
      cases h
    rw [if_neg (not_not.2 hdigest)] at h
    split at h
    · cases h
    · rename_i value hvalue
      by_cases hitems : value.items.isNone = true
      · rw [if_pos hitems] at h
        cases h
      rw [if_neg hitems] at h
      split at h
      · rename_i records hrecords
        split_ifs at h with hcount hfiles hbytes _ hsame
        rw [forM_ok_iff] at h
        rw [Bool.not_eq_false] at hsame
        have hlength : records.length = (directory.insertionSort fun a b => a.1 ≤ b.1).length :=
          (not_not.1 hcount).trans (not_not.1 hfiles).symm
        obtain ⟨found, hperm, hbinds⟩ := checked_files hkeys' hlength hsame h
        refine ⟨hdigest, ⟨value, records, hvalue, hrecords, found, hperm.trans hsorted, hbinds⟩, ?_, ?_⟩
        · rw [← hsorted.length_eq]
          exact not_not.1 hfiles
        · rw [← (hsorted.map _).sum_eq]
          exact not_not.1 hbytes
      · cases h
  · rintro ⟨hdigest, ⟨value, records, hvalue, hrecords, hdescribes⟩, hfiles, hbytes⟩
    have hdescribes' : Describes sha256 records (directory.insertionSort fun a b => a.1 ≤ b.1) := by
      obtain ⟨found, hperm, hbinds⟩ := hdescribes
      exact ⟨found, hperm.trans hsorted.symm, hbinds⟩
    obtain ⟨hcount, hhashable, hsame⟩ := hdescribes'.named
    have hitems : ¬value.items.isNone = true := by
      rw [← Option.not_isSome, items_of_get hrecords]
      exact Bool.noConfusion
    rw [hsorted.length_eq] at hcount
    dsimp only
    rw [if_neg (not_not.2 hdigest), hvalue]
    dsimp only
    rw [if_neg hitems, hrecords]
    dsimp only
    rw [hcount, hsorted.length_eq, if_neg (not_not.2 hfiles), if_neg (not_not.2 hfiles), (hsorted.map _).sum_eq,
      if_neg (not_not.2 hbytes), hhashable, if_neg Bool.noConfusion, hsame _ (List.Perm.refl _), if_neg Bool.noConfusion,
      forM_ok_iff]
    exact described_files hkeys' hdescribes'

end Checks

section Runtime

variable {sha256 : Bytes → String} {text : Bytes} {directory : Directory} {records : List Json} {fs : FileSystem}
  {config : CruiseRuntimeConfig}

theorem Shows.distinct (h : Shows fs config.assets directory text) : (directory.map Prod.fst).Nodup :=
  h.names.nodup_iff.1 ((fs.names_nodup _).filter _)

theorem Shows.bytes (h : Shows fs config.assets directory text) :
    ((fs.fileNames config.assets.external_weights).map fun name => fs.size (config.assets.external_weights ++ [name])).sum =
      (directory.map fun file => file.2.length).sum := by
  rw [(h.names.map _).sum_eq, List.map_map]
  congr 1
  refine List.map_congr_left fun file hfile => ?_
  show ((fs.file (config.assets.external_weights ++ [file.1])).getD []).length = _
  rw [h.file file hfile, Option.getD_some]

theorem checkRecord_binds (h : Shows fs config.assets directory text) {record : Json} {file : String × Bytes}
    (hfile : file ∈ directory) (hname : record.get "name" = some (.str file.1)) :
    checkRecord sha256 fs config.assets.external_weights record = .ok () ↔ Binds sha256 record file := by
  unfold checkRecord
  rw [hname]
  dsimp only
  rw [h.file file hfile]
  dsimp only
  constructor
  · intro h
    split_ifs at h with hbytes hdigest
    exact ⟨hname, Bool.not_eq_false _ ▸ hbytes, Bool.not_eq_false _ ▸ hdigest⟩
  · intro hbind
    rw [hbind.bytes, hbind.sha256, if_neg Bool.noConfusion, if_neg Bool.noConfusion]

/-- **What the runtime starts on**, as far as the weights go. -/
theorem external_weights_iff (h : Shows fs config.assets directory text)
    (hfiles : config.integrity.external_weight_files = EXPECTED_EXTERNAL_FILES)
    (hbytes : config.integrity.external_weight_bytes = EXPECTED_EXTERNAL_BYTES) :
    validateExternalWeights sha256 (fun text => (decodeText text).bind Json.loads) fs config true = .ok () ↔
      Bundle sha256 text directory := by
  have hlength : (fs.fileNames config.assets.external_weights).length = directory.length := by
    rw [h.names.length_eq, List.length_map]
  unfold validateExternalWeights
  dsimp only
  rw [h.bytes, hlength, hfiles, hbytes, if_neg (show ¬true = false by decide)]
  unfold validateManifest
  rw [h.manifest, Option.bind_some]
  constructor
  · intro haccepted
    split_ifs at haccepted with hcount hsum
    dsimp only at haccepted
    split at haccepted
    · cases haccepted
    · rename_i value hvalue
      split_ifs at haccepted
      split at haccepted
      · rename_i records hrecords
        split_ifs at haccepted with hsize _ hsame
        rw [forM_ok_iff] at haccepted
        rw [Bool.not_eq_false] at hsame
        rw [not_not, hlength] at hsize
        have hnames : sameNames (manifestNames records) (directory.map Prod.fst) = true := sameNames_congr h.names ▸ hsame
        have hdescribes : Describes sha256 records directory := by
          refine describes_of h.distinct hsize hnames fun record hrecord name hname => ?_
          obtain ⟨name', hmem, hname'⟩ := records_named h.distinct (hsize.trans (List.length_map _).symm) hnames record hrecord
          obtain ⟨file, hfile, rfl⟩ := List.mem_map.1 hmem
          exact ⟨file, hfile, (checkRecord_binds h hfile hname').1 (haccepted record hrecord)⟩
        exact ⟨⟨value, records, hvalue, hrecords, hdescribes⟩, by exact_mod_cast not_not.1 hcount,
          by exact_mod_cast not_not.1 hsum⟩
      · cases haccepted
  · rintro ⟨⟨value, records, hvalue, hrecords, hdescribes⟩, hcount, hsum⟩
    obtain ⟨hsize, hhashable, hsame⟩ := hdescribes.named
    have hitems : ¬value.items.isNone = true := by
      rw [← Option.not_isSome, items_of_get hrecords]
      exact Bool.noConfusion
    rw [hcount, hsum, if_neg (not_not.2 rfl), if_neg (not_not.2 rfl)]
    dsimp only
    rw [hvalue]
    dsimp only
    rw [if_neg hitems, hrecords]
    dsimp only
    rw [hsize, hlength, if_neg (not_not.2 rfl), hhashable, if_neg Bool.noConfusion, hsame _ h.names, if_neg Bool.noConfusion,
      forM_ok_iff]
    obtain ⟨found, hperm, hbinds⟩ := hdescribes
    intro record hrecord
    obtain ⟨file, hfile, hbind⟩ := forall₂_mem hbinds.flip hrecord
    have hbind : Binds sha256 record file := hbind
    exact (checkRecord_binds h (hperm.mem_iff.1 hfile) hbind.named).2 hbind

/-- the runtime's two checks of a bundle, under a configuration that is loaded -/
theorem runtime_checks_iff {resolve : Path → Path} {home : String → Option Path} {source_fs fs : FileSystem} {source : Path}
    {config : LoadedConfig} {directory : Directory} {text : Bytes}
    (hload : loadRuntimeConfig resolve home source_fs source = .ok config) (hshows : Shows fs config.assets directory text) :
    (checkHash sha256 fs (config.assets.external_weights_manifest, config.integrity.external_weights_manifest_sha256) =
          .ok () ∧
        validateExternalWeights sha256 (fun text => (decodeText text).bind Json.loads) fs config.toCruiseRuntimeConfig true =
          .ok ()) ↔
      sha256 text = EXPECTED_MANIFEST_SHA256 ∧ Bundle sha256 text directory := by
  obtain ⟨hmanifest, hfiles, hbytes⟩ := (load_ok hload).weights
  have hdigest : checkHash sha256 fs (config.assets.external_weights_manifest,
      config.integrity.external_weights_manifest_sha256) = .ok () ↔ sha256 text = EXPECTED_MANIFEST_SHA256 := by
    rw [checkHash_ok_iff, hmanifest, sha256File, hshows.manifest, Option.map_some, Option.some.injEq]
  rw [external_weights_iff hshows hfiles hbytes, hdigest]

end Runtime

/-- **One bundle, two checks.** The materializer uses a bundle again exactly if the runtime accepts its manifest's digest and
its weights, under any configuration that is loaded. -/
theorem bundle_checks_agree {sha256 : Bytes → String} {resolve : Path → Path} {home : String → Option Path}
    {source_fs fs : FileSystem} {source : Path} {config : LoadedConfig} {directory : Directory} {text : Bytes}
    (hload : loadRuntimeConfig resolve home source_fs source = .ok config) (hshows : Shows fs config.assets directory text) :
    validateExistingBundle sha256 (some (.directory directory)) (some text) = .ok () ↔
      checkHash sha256 fs (config.assets.external_weights_manifest, config.integrity.external_weights_manifest_sha256) =
          .ok () ∧
        validateExternalWeights sha256 (fun text => (decodeText text).bind Json.loads) fs config.toCruiseRuntimeConfig true =
          .ok () := by
  rw [existing_bundle_iff hshows.distinct, runtime_checks_iff hload hshows]

/-- **What the materializer leaves, the runtime accepts**: after any runs that meet the condition of `later_runs_usable`, a
directory at the target has its manifest, and the deep check passes wherever the two stand for a loaded configuration. -/
theorem published_weights_accepted {sha256 : Bytes → String} {first store : AssetStore} {resolve : Path → Path}
    {home : String → Option Path} {source_fs : FileSystem} {source : Path} {config : LoadedConfig}
    (hfirst : Usable sha256 first)
    (hrun : Run (fun store (r : RunInput) after =>
        after = (main sha256 r.inv_freq r.model r.fault r.asset_root r.manifest_path store).2)
      (fun store r => ¬HalfDone sha256 r.inv_freq r.model r.fault r.asset_root r.manifest_path store) first store)
    (hload : loadRuntimeConfig resolve home source_fs source = .ok config) (htarget : store.target ≠ none) :
    ∃ directory text, store.target = some (.directory directory) ∧ store.manifest = some text ∧
      ∀ fs, Shows fs config.assets directory text →
        checkHash sha256 fs (config.assets.external_weights_manifest, config.integrity.external_weights_manifest_sha256) =
            .ok () ∧
          validateExternalWeights sha256 (fun text => (decodeText text).bind Json.loads) fs config.toCruiseRuntimeConfig true =
            .ok () := by
  rcases later_runs_usable hfirst hrun with habsent | haccepted
  · exact absurd habsent htarget
  · unfold Accepted at haccepted
    cases hnode : store.target with
    | none => exact absurd hnode htarget
    | some node =>
      cases hmanifest : store.manifest with
      | none =>
        rw [hnode, hmanifest] at haccepted
        cases node <;> cases haccepted
      | some text =>
        cases node with
        | other =>
          rw [hnode, hmanifest] at haccepted
          cases haccepted
        | directory directory =>
          rw [hnode, hmanifest] at haccepted
          refine ⟨directory, text, rfl, rfl, fun fs hshows => (runtime_checks_iff hload hshows).2 ?_⟩
          exact (existing_bundle_iff hshows.distinct).1 haccepted

/-! ### The frozen checkpoint, published by the second of three runs -/

def bundleNames (directory : Directory) (path : Path) : List String :=
  if path = ["w"] ∧ (directory.map Prod.fst).Nodup then directory.map Prod.fst else []

theorem bundleNames_nodup (directory : Directory) (path : Path) : (bundleNames directory path).Nodup := by
  unfold bundleNames
  split_ifs with h
  · exact h.2
  · exact List.nodup_nil

/-- a file system with a bundle at `/w` and `/m`, and nothing else -/
def bundleFiles (directory : Directory) (text : Bytes) : FileSystem where
  file := fun path =>
    if path = ["m"] then some text
    else if path.dropLast = ["w"] then path.getLast?.bind fun name => directory.lookup name
    else none
  executable := fun _ => false
  is_dir := fun path => path = ["w"]
  names := bundleNames directory
  resolve := id
  names_nodup := bundleNames_nodup directory

theorem bundle_file {directory : Directory} (text : Bytes) (hkeys : (directory.map Prod.fst).Nodup) {file : String × Bytes}
    (h : file ∈ directory) : (bundleFiles directory text).file (["w"] ++ [file.1]) = some file.2 := by
  unfold bundleFiles
  dsimp only
  rw [if_neg (by simp), if_pos List.dropLast_concat, List.getLast?_concat, Option.bind_some]
  exact (lookup_iff_mem hkeys).2 h

theorem bundle_shown {directory : Directory} (text : Bytes) (hkeys : (directory.map Prod.fst).Nodup) :
    Shows (bundleFiles directory text) letterConfig.assets directory text := by
  refine ⟨?_, fun file hfile => bundle_file text hkeys hfile, rfl⟩
  have hnames : (bundleFiles directory text).names ["w"] = directory.map Prod.fst := if_pos ⟨rfl, hkeys⟩
  have hall : (directory.map Prod.fst).filter (fun name => (bundleFiles directory text).is_file (["w"] ++ [name])) =
      directory.map Prod.fst := by
    rw [List.filter_eq_self]
    intro name hname
    obtain ⟨file, hfile, rfl⟩ := List.mem_map.1 hname
    unfold FileSystem.is_file
    rw [bundle_file text hkeys hfile]
    rfl
  show (((bundleFiles directory text).names ["w"]).filter
    fun name => (bundleFiles directory text).is_file (["w"] ++ [name])).Perm _
  rw [hnames, hall]

/-- nothing raises -/
def frozenRun : RunInput :=
  ⟨frozenTable, frozenModel, fun _ => none, ["srv"], ["srv"] ++ ["manifests", s!"{EXPECTED_MANIFEST_SHA256}.json"]⟩

theorem frozen_published : ∃ after directory text,
    after = (main frozenDigest frozenRun.inv_freq frozenRun.model frozenRun.fault frozenRun.asset_root frozenRun.manifest_path
      {}).2 ∧ after.target = some (.directory directory) ∧ after.manifest = some text ∧ (directory.map Prod.fst).Nodup ∧
      validateExistingBundle frozenDigest (some (.directory directory)) (some text) = .ok () := by
  have hundisturbed : Undisturbed frozenRun.fault := fun _ _ => rfl
  have hfreq : frozenTable.bytes.length = 256 := List.length_replicate
  obtain ⟨staging, hstaged⟩ := stage_returns (s := {}) frozenModel_frozen hundisturbed rfl hfreq
    fun records => frozenDigest_manifest records _
  have hrenames : Renames frozenDigest frozenRun.inv_freq frozenRun.model frozenRun.fault frozenRun.asset_root
      frozenRun.manifest_path {} staging := ⟨rfl, rfl, rfl, rfl, hstaged, rfl⟩
  obtain ⟨records, files, text, hfiles, htext, hcomplete⟩ := stage_ok hstaged
  have hmoved := @publish_moved frozenRun.fault ⟨none, none, staging⟩ rfl
  dsimp only at hmoved
  obtain ⟨htarget, -, ⟨hreplace, -⟩ | ⟨-, hmanifest⟩⟩ := hmoved
  · exact absurd rfl hreplace
  · refine ⟨_, files, text, hrenames.main_eq.symm, ?_, hmanifest.trans htext, hfiles.distinct, ?_⟩
    · rw [hfiles.output_dir, Option.map_some] at htarget
      exact htarget
    · exact staged_accepted hfiles hcomplete

/-- everything is staged, and the first move raises -/
def interruptedRun : RunInput :=
  { frozenRun with fault := fun operation => if operation = .rename then some [] else none }

theorem interrupted_empty : (main frozenDigest interruptedRun.inv_freq interruptedRun.model interruptedRun.fault
    interruptedRun.asset_root interruptedRun.manifest_path {}).2 = {} := by
  have hrename : interruptedRun.fault .rename ≠ none := Option.some_ne_none _
  obtain ⟨htarget, hmanifest, hstaging⟩ := @main_keeps frozenDigest interruptedRun.inv_freq interruptedRun.model
    interruptedRun.fault interruptedRun.asset_root interruptedRun.manifest_path {} (Or.inr hrename)
  exact AssetStore.ext htarget hmanifest (hstaging.elim id id)

/-- a run is stopped at its first move, the next one publishes, and a third one uses what is there -/
theorem published_weights_accepted_third : ∃ published reused directory text,
    published = (main frozenDigest frozenRun.inv_freq frozenRun.model frozenRun.fault frozenRun.asset_root
      frozenRun.manifest_path (main frozenDigest interruptedRun.inv_freq interruptedRun.model interruptedRun.fault
        interruptedRun.asset_root interruptedRun.manifest_path {}).2).2 ∧
      reused = (main frozenDigest frozenRun.inv_freq frozenRun.model frozenRun.fault frozenRun.asset_root
        frozenRun.manifest_path published).2 ∧
      reused.target = some (.directory directory) ∧ reused.manifest = some text ∧
      checkHash frozenDigest (bundleFiles directory text) (letterConfig.assets.external_weights_manifest,
          letterConfig.integrity.external_weights_manifest_sha256) = .ok () ∧
        validateExternalWeights frozenDigest (fun text => (decodeText text).bind Json.loads) (bundleFiles directory text)
          letterConfig.toCruiseRuntimeConfig true = .ok () := by
  obtain ⟨published, directory, text, hpublished, htarget, hmanifest, hkeys, -⟩ := frozen_published
  obtain ⟨reused, hreused⟩ : ∃ reused, reused = (main frozenDigest frozenRun.inv_freq frozenRun.model frozenRun.fault
    frozenRun.asset_root frozenRun.manifest_path published).2 := ⟨_, rfl⟩
  have hstands : published.target ≠ none := by
    rw [htarget]
    exact Option.some_ne_none _
  obtain ⟨hsame, hbeside, -⟩ := @main_keeps frozenDigest frozenRun.inv_freq frozenRun.model frozenRun.fault
    frozenRun.asset_root frozenRun.manifest_path published (Or.inl hstands)
  rw [← hreused, htarget] at hsame
  rw [← hreused, hmanifest] at hbeside
  -- neither the second move of the one that publishes raises, nor does another run come to it
  have hstopped : ¬HalfDone frozenDigest interruptedRun.inv_freq interruptedRun.model interruptedRun.fault
      interruptedRun.asset_root interruptedRun.manifest_path {} :=
    fun hdone => hdone.elim fun _ hdone => Option.some_ne_none _ hdone.1.rename
  have hdone (store : AssetStore) : ¬HalfDone frozenDigest frozenRun.inv_freq frozenRun.model frozenRun.fault
      frozenRun.asset_root frozenRun.manifest_path store :=
    fun hdone => hdone.elim fun _ hdone => hdone.2.1 rfl
  have hrun : Run (fun store (r : RunInput) after =>
        after = (main frozenDigest r.inv_freq r.model r.fault r.asset_root r.manifest_path store).2)
      (fun store r => ¬HalfDone frozenDigest r.inv_freq r.model r.fault r.asset_root r.manifest_path store) {} reused :=
    .tail (e := frozenRun) (.tail (e := frozenRun) (.tail (e := interruptedRun) .refl interrupted_empty.symm hstopped)
      hpublished (hdone _)) hreused (hdone _)
  have hfirst : Usable frozenDigest {} := Or.inl rfl
  have hused : reused.target ≠ none := by
    rw [hsame]
    exact Option.some_ne_none _
  obtain ⟨directory', text', htarget', hmanifest', haccepted⟩ :=
    published_weights_accepted hfirst hrun (letter_loads (oneFile_file _ _)) hused
  rw [hsame] at htarget'
  rw [hbeside] at hmanifest'
  cases htarget'
  cases hmanifest'
  rw [interrupted_empty]
  exact ⟨published, reused, directory, text, hpublished, hreused, hsame, hbeside, haccepted _ (bundle_shown text hkeys)⟩

theorem bundle_checks_agree_frozen : ∃ directory text,
    validateExistingBundle frozenDigest (some (.directory directory)) (some text) = .ok () ∧
      (validateExistingBundle frozenDigest (some (.directory directory)) (some text) = .ok () ↔
        checkHash frozenDigest (bundleFiles directory text) (letterConfig.assets.external_weights_manifest,
          letterConfig.integrity.external_weights_manifest_sha256) = .ok () ∧
        validateExternalWeights frozenDigest (fun text => (decodeText text).bind Json.loads) (bundleFiles directory text)
          letterConfig.toCruiseRuntimeConfig true = .ok ()) := by
  obtain ⟨-, directory, text, -, -, -, hkeys, haccepted⟩ := frozen_published
  exact ⟨directory, text, haccepted, bundle_checks_agree (letter_loads (oneFile_file _ _)) (bundle_shown text hkeys)⟩

end Cruise.Assets
