/-
The bridge's checks against the controller's.

The bridge checks its arguments before it calls Feed, the controller checks its tensors before it touches any resident
state. `fed_validated`: in plain and transfer-file mode, what passed the first check passes the second one.
- `bridgeSlot_eq`: the two computations of a slot agree on the block table the bridge feeds.
- `fed_import_accepted`: a mask that `ReadTransfer` accepted masks active rows only.
- `fed_accepted`: so a call that is fed is neither refused for its tensors nor answered with 201 to 206.
-/
import Cruise.Controller.Refusals
import Cruise.Native.FeedModes

namespace Cruise.Native

open Cruise.Lib Cruise.Controller

/-! ## Slots and blocks -/

theorem bridgeSlot_eq {block_table : ℕ → Int} (h : ∀ i < 8, block_table i = i) (r : Row) {position : Int}
    (h0 : 0 ≤ position) (h1 : position < kLogicalCapacity) :
    bridgeSlot r position = computeSlot block_table r position := by
  have hr : r.val < 4 := r.isLt
  have hcapacity : (kLogicalCapacity : Int) = 8 := rfl
  have hblock : position / (kBlockSize : Int) = 0 := Int.ediv_eq_zero_of_lt h0 (by simp only [kBlockSize]; omega)
  have hoffset : position % (kBlockSize : Int) = position := Int.emod_eq_of_lt h0 (by simp only [kBlockSize]; omega)
  unfold bridgeSlot computeSlot
  rw [if_neg (by omega), if_neg (by omega)]
  simp only [hblock, hoffset, Int.toNat_zero, Nat.add_zero]
  rw [if_neg (by decide), h _ (by simp only [kBlocksPerRequest]; omega), if_neg]
  simp only [kBlocksPerRequest, kPhysicalBlocks]
  omega

theorem checkBlockTable_fed {inp : Inputs} (h : ∀ i < 8, inp.block_table i = i) : checkBlockTable inp = .ok () := by
  have hrange : List.range (4 * kBlocksPerRequest) = [0, 1, 2, 3, 4, 5, 6, 7] := rfl
  unfold checkBlockTable
  simp [hrange, h, kPhysicalBlocks]
  rfl

/-! ## Validation -/

section Fed

variable {rin : RowInputs} {max_steps : Int} {importing : Bool} {import_mask : ℕ} {inp : Inputs}

/-- **What the bridge feeds, the controller validates.** -/
theorem fed_validated (hreads : ReadsRequest rin max_steps importing import_mask inp)
    (hsteps : 1 ≤ max_steps ∧ max_steps ≤ kMaxEpochSteps)
    (hrows : ∀ r, rin.row_generations r ≠ 0 → rowAccepted rin max_steps r = true)
    (hslot : ∀ r, inp.slot r = if importing then computeSlot inp.block_table r (inp.position r)
      else bridgeSlot r (inp.position r)) : Validated inp := by
  have hcapacity : (kLogicalCapacity : Int) = 8 := rfl
  have hvocab : (kVocabSize : Int) = 152064 := rfl
  have haccepted (r : Row) (hr : rin.row_generations r ≠ 0) : 0 ≤ (rin.row_generations r).toInt ∧
      (0 ≤ (rin.token_ids r).toInt ∧ (rin.token_ids r).toInt < kVocabSize) ∧ 0 ≤ (rin.positions r).toInt ∧
      (rin.positions r).toInt + max_steps ≤ kLogicalCapacity ∧
      (rin.sequence_lengths r).toInt = (rin.positions r).toInt + 1 ∧
      0 ≤ (rin.eos_token_ids r).toInt ∧ (rin.eos_token_ids r).toInt < kVocabSize := by
    have h := hrows r hr
    simp only [rowAccepted, Bool.not_eq_true', Bool.or_eq_false_iff, decide_eq_false_iff_not] at h
    omega
  have hgeneration (r : Row) (hr : rin.row_generations r ≠ 0) : 0 < (rin.row_generations r).toInt := by
    have hne : (rin.row_generations r).toInt ≠ 0 := fun h => hr (Int32.toInt_inj.1 h)
    have := (haccepted r hr).1
    omega
  have hposition (r : Row) : 0 ≤ inp.position r ∧ inp.position r < kLogicalCapacity := by
    rw [hreads.position, requestPosition]
    split_ifs with hr
    · decide
    · have := haccepted r hr
      omega
  refine ⟨by rw [hreads.max_steps]; exact hsteps, hreads.sampling_mode, hreads.graph_variant, ?_,
    checkBlockTable_fed hreads.block_table, fun r => ⟨?_, ?_, hposition r, fun hon => ?_, fun hoff => ?_, ?_⟩⟩
  · intro r
    rw [hreads.eos, requestEos]
    split_ifs with hr
    · decide
    · exact (haccepted r hr).2.2.2.2.2
  · rw [hreads.active, requestActive]
    split_ifs
    · exact Or.inl rfl
    · exact Or.inr rfl
  · rw [hreads.token, requestToken]
    split_ifs with hr
    · decide
    · exact (haccepted r hr).2.1
  · rw [hreads.active, requestActive] at hon
    split_ifs at hon with hr
    · cases hon
    · have h := haccepted r hr
      refine ⟨?_, ?_, ?_⟩
      · rw [hreads.row_generation]
        exact hgeneration r hr
      · rw [hreads.length, hreads.position, requestLength, requestPosition, if_neg hr, if_neg hr]
        exact h.2.2.2.2.1
      · rw [hreads.position, hreads.max_steps, requestPosition, if_neg hr]
        exact h.2.2.2.1
  · rw [hreads.active, requestActive] at hoff
    split_ifs at hoff with hr
    swap
    · cases hoff
    have hlength : inp.length r = 0 := by rw [hreads.length, requestLength, if_pos hr]
    have hzero : inp.row_generation r = 0 := by
      rw [hreads.row_generation, hr]
      rfl
    rw [InactiveRow, if_pos hlength]
    exact hzero
  · rw [hslot]
    split_ifs
    · rfl
    · exact bridgeSlot_eq hreads.block_table r (hposition r).1 (hposition r).2

/-! ## Import -/

/-- the header's words are in the range of their fields -/
theorem transferHeader_fits (stream : Mem) :
    Fits transferHeaderFields (unpack transferHeaderFields (loadBytes stream 0 CRUISE_RESIDENT_TRANSFER_HEADER_BYTES)) :=
  unpack_fits (by decide) (by rw [loadBytes_length]; decide)

/-- the rows an accepted transfer selects are the request's -/
theorem readTransfer_selected {env : BridgeEnv} {path : String} {transfer_id : UInt64} {gens : Row → Int32}
    {payload : Mem} {mask checksum : ℕ} (h : readTransfer env path transfer_id gens = some (payload, mask, checksum)) :
    1 ≤ mask ∧ mask < 16 ∧ ∀ r, selected mask r = true → 0 < (gens r).toInt := by
  unfold readTransfer at h
  split_ifs at h
  rcases hf : env.file path with _ | ⟨bytes, stream⟩
  · rw [hf] at h
    cases h
  · rw [hf] at h
    simp only at h
    split_ifs at h with hbad hsel
    cases h
    simp only [not_or, not_le, not_not] at hbad
    obtain ⟨-, -, -, -, -, -, hzero, hlt, -⟩ := hbad
    have hnonneg : 0 ≤ (readTransferHeader stream).import_mask := (fits_getD (transferHeader_fits stream) 5 .I rfl).1
    refine ⟨by omega, by omega, fun r hr => ?_⟩
    simp only [not_exists] at hsel
    have := hsel r
    rw [if_pos hr] at this
    omega

theorem importRows_accepts {inp : Inputs} (h : ∀ r, masked inp r = true → inp.active r = 1 ∧ 0 < inp.row_generation r)
    (l : List Row) (d : Device) : (importRows inp d l).2 = .ok () := by
  induction l generalizing d with
  | nil => rfl
  | cons r rest ih =>
    unfold importRows
    by_cases hm : masked inp r = false
    · rw [if_pos hm]
      exact ih d
    · have hrow := h r (by simpa using hm)
      rw [if_neg hm, if_neg (by omega)]
      exact ih _

/-- **A transfer the bridge accepts, the controller imports.** -/
theorem fed_import_accepted (hreads : ReadsRequest rin max_steps importing import_mask inp)
    (hmask : importing = true → 1 ≤ import_mask ∧ import_mask < 16 ∧
      ∀ r, selected import_mask r = true → 0 < (rin.row_generations r).toInt) (d : Device) :
    ∃ checksum, (importPhase inp d).2 = .ok checksum := by
  unfold importPhase
  by_cases himport : inp.importing = false
  · rw [if_pos himport]
    exact ⟨0, rfl⟩
  · rw [if_neg himport]
    obtain ⟨h1, h16, hsel⟩ := hmask (by rw [← hreads.importing]; simpa using himport)
    have hword : inp.import_mask.toInt = import_mask := by
      rw [hreads.import_mask]
      interval_cases import_mask <;> rfl
    rw [if_neg (by rw [hword]; omega)]
    have hrows : (importRows inp d rows).2 = .ok () := by
      refine importRows_accepts (fun r hr => ?_) rows d
      have hr : selected import_mask r = true := by
        rw [masked, hreads.import_mask] at hr
        clear hreads hword hsel
        revert r
        interval_cases import_mask <;> decide
      have hpos := hsel r hr
      have hne : rin.row_generations r ≠ 0 := by
        intro h0
        rw [h0] at hpos
        exact absurd hpos (by decide)
      refine ⟨?_, by rw [hreads.row_generation]; exact hpos⟩
      rw [hreads.active, requestActive, if_neg hne]
    generalize importRows inp d rows = result at hrows
    obtain ⟨d', status⟩ := result
    obtain rfl : status = .ok () := hrows
    exact ⟨_, rfl⟩

end Fed

/-! ## Both -/

/-- allocations change whether the inputs are read, not what is read -/
theorem readInputs_allocated {plat : Platform} {inputs : List (Option FlowMsg)} {inp : Inputs}
    (h : readInputs plat inputs = some inp) :
    readInputs { plat with alloc_outputs := true, alloc_slot := true } inputs = some inp := by
  unfold readInputs at h ⊢
  by_cases hlen : inputs.length ≠ kInputCount
  · rw [if_pos hlen] at h
    cases h
  rw [if_neg hlen] at h ⊢
  cases ho : plat.alloc_outputs with
  | false =>
    rw [ho] at h
    cases h
  | true =>
    simp only [ho, Bool.not_true, Bool.false_eq_true, if_false] at h ⊢
    cases hctl : int32Data (inputs[7]?).join kControlInputElements with
    | none =>
      simp only [hctl] at h
      cases h
    | some control =>
      simp only [hctl] at h ⊢
      generalize (BitVec.ofInt 32 (control (2 + 4)) &&& kImportGraphFlag != 0) = importing at h ⊢
      cases importing with
      | false => exact h
      | true =>
        -- an import whose slots could not be allocated reads nothing
        cases hs : plat.alloc_slot with
        | true => simpa only [hs] using h
        | false =>
          simp only [hs, if_true, Bool.false_eq_true, if_false] at h
          split at h
          · cases h
          · cases h

/-- a UDF whose allocations succeed reads a fed call, and its validation passes -/
theorem fed_inputs_validated {env : BridgeEnv} {engine : Option Engine} {args : Args} {out : Outputs} {call : FeedCall}
    (h : (residentEpochExecute env engine args out).fed = some call) (plat : Platform) (ho : plat.alloc_outputs = true)
    (hs : plat.alloc_slot = true) :
    ∃ inp, readInputs plat (call.inputs.map GeTensor.flowMsg) = some inp ∧ Validated inp := by
  obtain ⟨eng, eng', rin, source, -, hrin, hload, hwrites, rfl, -⟩ := fed_call h
  have hsteps := checkArgs_steps hrin
  obtain ⟨inp, hread, hreads, hslot⟩ :=
    feedCall_reads eng'.tiling source rin args.max_steps.toInt hsteps (loadImport_mask hload).1 plat ho hs
  exact ⟨inp, hread, fed_validated hreads hsteps (rowWrites_ok hwrites).1 hslot⟩

/-- **What the bridge feeds, the controller accepts.** In plain and transfer-file mode the tensors of a fed call pass the
tensor ABI of a UDF whose allocations succeed and its whole validation, and no call of the UDF on them is answered with
one of the validation's statuses. -/
theorem fed_accepted (env : BridgeEnv) (engine : Option Engine) (args : Args) (out : Outputs) (call : FeedCall)
    (h : (residentEpochExecute env engine args out).fed = some call) (hmode : args.ipc_metadata = none) :
    (∀ plat : Platform, plat.alloc_outputs = true → plat.alloc_slot = true →
      ∃ inp, readInputs plat (call.inputs.map GeTensor.flowMsg) = some inp ∧ Validated inp) ∧
    ∀ (plat : Platform) (udf : Env) (s : Resident) (o : Emission),
      (proc plat udf s (call.inputs.map GeTensor.flowMsg)).emitted = some o →
        ¬ (201 ≤ o.control 3 ∧ o.control 3 ≤ 206) := by
  refine ⟨fun plat ho hs => fed_inputs_validated h plat ho hs, fun plat udf s o ho => ?_⟩
  obtain ⟨eng, eng', rin, source, heng, hrin, hload, hwrites, rfl, -⟩ := fed_call h
  have hsteps := checkArgs_steps hrin
  obtain ⟨hmask, hdevice⟩ := loadImport_mask hload
  obtain ⟨hrows, -, -⟩ := rowWrites_ok hwrites
  have hsource : source.importing = true → 1 ≤ source.import_mask ∧ source.import_mask < 16 ∧
      ∀ r, selected source.import_mask r = true → 0 < (rin.row_generations r).toInt := by
    intro himporting
    unfold loadImport at hload
    rw [hmode] at hload
    cases hpath : args.transfer_path with
    | none =>
      simp only [hpath] at hload
      cases hload
      cases himporting
    | some path =>
      simp only [hpath] at hload
      rcases htransfer : readTransfer env path args.transfer_id rin.row_generations with _ | ⟨payload, mask, checksum⟩
      · simp only [htransfer] at hload
        cases hload
      · simp only [htransfer] at hload
        cases hload
        exact readTransfer_selected htransfer
  obtain ⟨inp, d, hread, -, rfl, -⟩ := proc_emitted ho
  obtain ⟨inp', hread', hreads, hslot⟩ := feedCall_reads eng'.tiling source rin args.max_steps.toInt hsteps hmask
    { plat with alloc_outputs := true, alloc_slot := true } rfl rfl
  obtain rfl : inp = inp' := Option.some.inj ((readInputs_allocated hread).symm.trans hread')
  rw [epoch_status]
  exact epoch_refusal (fed_validated hreads hsteps hrows hslot) (fed_import_accepted hreads hsource d)

theorem fed_accepted_last_row : ∃ call, (residentEpochExecute .plain (some .plain) lastRowArgs .zero).fed = some call ∧
    (∀ plat : Platform, plat.alloc_outputs = true → plat.alloc_slot = true →
      ∃ inp, readInputs plat (call.inputs.map GeTensor.flowMsg) = some inp ∧ Validated inp) ∧
    ∀ (plat : Platform) (udf : Env) (s : Resident) (o : Emission),
      (proc plat udf s (call.inputs.map GeTensor.flowMsg)).emitted = some o →
        ¬ (201 ≤ o.control 3 ∧ o.control 3 ≤ 206) := by
  have hfed : (residentEpochExecute .plain (some .plain) lastRowArgs .zero).fed.isSome = true := by decide +kernel
  obtain ⟨call, hcall⟩ := Option.isSome_iff_exists.1 hfed
  exact ⟨call, hcall, fed_accepted .plain (some .plain) lastRowArgs .zero call hcall rfl⟩

end Cruise.Native
