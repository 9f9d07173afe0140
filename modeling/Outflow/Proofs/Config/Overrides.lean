import Outflow.Proofs.Config.Layers

/-!
# What an override leaves behind

Variables are applied to settings one after the other, and the check comes last.  An error undoes
nothing: what was set before it stays.  So settings that could be used are left as they were if
the chunk size was not set, and they can still be used unless it was set to zero.

## Key results

- `Leaves.merge_eq` / `exists_leaves`: what is left, and what is reported, in each case
- `merge_leaves`: what of that holds for settings that could be used
- `merge_keeps_zero`: an override that fails and leaves settings that cannot be used
-/

namespace Outflow

namespace RunnerConfig

variable {c left : RunnerConfig} {vars : Lookup} {result : Except ConfigError Unit}

theorem validate_eq_ok_iff (c : RunnerConfig) : c.validate = .ok () ↔ Valid c := by
  rw [← fault?_eq_none_iff, validate]
  cases c.fault? <;> simp

/-- What the variables leave of some settings, and whether all went well. -/
inductive Leaves (c : RunnerConfig) (vars : Lookup) :
    RunnerConfig → Except ConfigError Unit → Prop
  /-- The chunk size cannot be read.  Nothing has been set. -/
  | chunkSize {value : String} {e : Text.NumeralError} :
      vars chunkSizeVar = some value → sizeOf value = .error e →
      Leaves c vars c (.error (.env chunkSizeVar value e.message))
  /-- The grace period cannot be read.  The chunk size has been set. -/
  | gracePeriod {size : UInt64} {value : String} {e : Duration.UnitsError} :
      Overlaid (vars chunkSizeVar) sizeOf c.chunkSize.toNat size.toNat →
      vars gracePeriodVar = some value → graceOf value = .error e →
      Leaves c vars { c with chunkSize := size } (.error (.env gracePeriodVar value e.message))
  /-- The settings do not pass the check.  Both variables have been applied. -/
  | refused {left : RunnerConfig} {reason : String} :
      Merged c vars left → left.fault? = some reason →
      Leaves c vars left (.error (.invalid reason))
  | applied {left : RunnerConfig} :
      Merged c vars left → Valid left → Leaves c vars left (.ok ())

/-! ### The cases are right, and they are all -/

theorem Leaves.merge_eq (h : Leaves c vars left result) : c.merge vars = (left, result) := by
  cases h with
  | chunkSize hv he => exact merge_of_chunkSize_error hv he
  | gracePeriod hs hv he => exact merge_of_gracePeriod_error hs hv he
  | refused hmerged hfault => rw [merge_of_merged hmerged, validate_of_fault hfault]
  | applied hmerged hvalid => rw [merge_of_merged hmerged, validate_of_valid hvalid]

theorem exists_leaves (c : RunnerConfig) (vars : Lookup) :
    ∃ left result, Leaves c vars left result := by
  obtain ⟨size, hsize⟩ | ⟨_, _, hv, he⟩ := overlaid_or_chunkSize_error c vars
  · obtain ⟨grace, hgrace⟩ | ⟨_, _, hv, he⟩ := overlaid_or_gracePeriod_error c vars
    · have hmerged : Merged c vars ⟨size, grace, c.captureLimit⟩ := ⟨hsize, hgrace, rfl⟩
      cases hfault : fault? ⟨size, grace, c.captureLimit⟩ with
      | none => exact ⟨_, _, .applied hmerged ((fault?_eq_none_iff _).1 hfault)⟩
      | some reason => exact ⟨_, _, .refused hmerged hfault⟩
    · exact ⟨_, _, .gracePeriod hsize hv he⟩
  · exact ⟨_, _, .chunkSize hv he⟩

theorem merge_eq_iff : c.merge vars = (left, result) ↔ Leaves c vars left result := by
  refine ⟨fun h => ?_, Leaves.merge_eq⟩
  obtain ⟨left', result', hleaves⟩ := exists_leaves c vars
  obtain ⟨rfl, rfl⟩ := Prod.mk.inj (hleaves.merge_eq.symm.trans h)
  exact hleaves

theorem leaves_merge (c : RunnerConfig) (vars : Lookup) :
    Leaves c vars (c.merge vars).1 (c.merge vars).2 :=
  merge_eq_iff.1 rfl

/-! ### What is left -/

/-- The limit is never touched. -/
theorem Leaves.captureLimit (h : Leaves c vars left result) :
    left.captureLimit = c.captureLimit := by
  cases h with
  | chunkSize _ _ => rfl
  | gracePeriod _ _ _ => rfl
  | refused hmerged _ => exact hmerged.captureLimit
  | applied hmerged _ => exact hmerged.captureLimit

/-- Either the variable of the chunk size has been applied, or nothing has. -/
theorem Leaves.overlaid_chunkSize (h : Leaves c vars left result) :
    Overlaid (vars chunkSizeVar) sizeOf c.chunkSize.toNat left.chunkSize.toNat ∨
      (∃ value e, vars chunkSizeVar = some value ∧ sizeOf value = .error e) ∧ left = c := by
  cases h with
  | chunkSize hv he => exact .inr ⟨⟨_, _, hv, he⟩, rfl⟩
  | gracePeriod hs _ _ => exact .inl hs
  | refused hmerged _ => exact .inl hmerged.chunkSize
  | applied hmerged _ => exact .inl hmerged.chunkSize

/-- Of settings that could be used, the chunk size is left at zero just if its variable says so. -/
theorem Leaves.chunkSize_eq_zero_iff (hc : Valid c) (h : Leaves c vars left result) :
    left.chunkSize = 0 ↔ ∃ value, vars chunkSizeVar = some value ∧ sizeOf value = .ok 0 := by
  have hpos : c.chunkSize ≠ 0 := fun hzero => by
    have hone := hc.chunkSize_pos
    rw [hzero] at hone
    exact absurd hone (by decide)
  obtain hover | ⟨⟨value, e, hv, he⟩, rfl⟩ := h.overlaid_chunkSize
  · cases hv : vars chunkSizeVar with
    | none =>
      rw [hv] at hover
      obtain hsame : left.chunkSize = c.chunkSize := UInt64.toNat_inj.1 hover
      exact iff_of_false (hsame ▸ hpos) (fun ⟨_, hnone, _⟩ => nomatch hnone)
    | some value =>
      rw [hv] at hover
      have hread : sizeOf value = .ok left.chunkSize.toNat := hover
      constructor
      · intro hzero
        exact ⟨value, rfl, by rw [hread, hzero]; rfl⟩
      · rintro ⟨_, hvalue, hzero⟩
        obtain rfl := Option.some.inj hvalue
        exact UInt64.toNat_inj.1 (Except.ok.inj (hread.symm.trans hzero))
  · refine iff_of_false hpos ?_
    rintro ⟨_, hvalue, hzero⟩
    obtain rfl := Option.some.inj (hv.symm.trans hvalue)
    exact nomatch he.symm.trans hzero

/-- Settings that could be used still can be, unless the chunk size is left at zero. -/
theorem Leaves.valid_iff (hc : Valid c) (h : Leaves c vars left result) :
    Valid left ↔ left.chunkSize ≠ 0 := by
  constructor
  · intro hleft hzero
    have hone := hleft.chunkSize_pos
    rw [hzero] at hone
    exact absurd hone (by decide)
  · intro hne
    have hpos : left.chunkSize.toNat ≠ 0 := fun hzero => hne (UInt64.toNat_inj.1 hzero)
    refine ⟨UInt64.le_iff_toNat_le.2 ?_, fun limit hlimit => ?_⟩
    · rw [UInt64.toNat_one]
      omega
    · exact hc.maxBytes_pos limit (h.captureLimit ▸ hlimit)

/-- If there is no chunk size to set, an error leaves settings that could be used as they were. -/
theorem Leaves.eq_of_error {e : ConfigError} (hc : Valid c) (h : Leaves c vars left (.error e))
    (hunset : ∀ value size, vars chunkSizeVar = some value → sizeOf value ≠ .ok size) :
    left = c := by
  have hsame : left.chunkSize = c.chunkSize := by
    obtain hover | ⟨-, rfl⟩ := h.overlaid_chunkSize
    · cases hv : vars chunkSizeVar with
      | none =>
        rw [hv] at hover
        exact UInt64.toNat_inj.1 hover
      | some value =>
        rw [hv] at hover
        exact absurd hover (hunset value _ hv)
    · rfl
  -- Such settings pass the check, so the error is one of reading.
  have hvalid : Valid left := by
    refine (h.valid_iff hc).2 fun hzero => ?_
    obtain ⟨value, hv, hread⟩ := (h.chunkSize_eq_zero_iff hc).1 hzero
    exact hunset value 0 hv hread
  cases h with
  | chunkSize _ _ => rfl
  | gracePeriod _ _ _ => exact congrArg (fun size => { c with chunkSize := size }) hsame
  | refused _ hfault => exact nomatch hfault.symm.trans ((fault?_eq_none_iff left).2 hvalid)

/-- **A failed override leaves what it has set.**  For settings that pass the check: a chunk size
    that cannot be read leaves them as they were; a grace period that cannot be read leaves them
    with the chunk size applied; and settings that do not pass the check are left with both
    variables applied.  So after an error they are as they were if there was no chunk size to set,
    and whatever happens they still pass the check unless the chunk size was set to zero. -/
theorem merge_leaves {c : RunnerConfig} (hc : c.validate = .ok ()) (vars : Lookup) :
    (∀ left result, c.merge vars = (left, result) ↔ Leaves c vars left result) ∧
    (∀ e, (c.merge vars).2 = .error e →
      (∀ value size, vars chunkSizeVar = some value → sizeOf value ≠ .ok size) →
      (c.merge vars).1 = c) ∧
    ((c.merge vars).1.validate = .ok () ↔
      ∀ value, vars chunkSizeVar = some value → sizeOf value ≠ .ok 0) := by
  have hvalid : Valid c := (validate_eq_ok_iff c).1 hc
  have hleaves : Leaves c vars (c.merge vars).1 (c.merge vars).2 := leaves_merge c vars
  refine ⟨fun left result => merge_eq_iff, fun e he hunset => ?_, ?_⟩
  · rw [he] at hleaves
    exact hleaves.eq_of_error hvalid hunset
  · rw [validate_eq_ok_iff, hleaves.valid_iff hvalid, ne_eq, hleaves.chunkSize_eq_zero_iff hvalid]
    simp only [not_exists, not_and, ne_eq]

/-- Variables of which the grace period cannot be read. -/
def soon (size : String) : Lookup := fun name =>
  if name = chunkSizeVar then some size
  else if name = gracePeriodVar then some "soon"
  else none

/-- The chunk size stays when the grace period cannot be read. -/
theorem merge_leaves_chunk_size :
    default.validate = .ok () ∧
    default.merge (soon "512") =
      (⟨512, .ofSecs 1, none⟩, .error (.env gracePeriodVar "soon" "expected number at 0")) := by
  have hsize : Overlaid (soon "512" chunkSizeVar) sizeOf default.chunkSize.toNat
      (512 : UInt64).toNat := rfl
  have hgrace : graceOf "soon" = .error (.numberExpected 0) := rfl
  exact ⟨rfl, ((merge_leaves rfl (soon "512")).1 _ _).2 (.gracePeriod hsize rfl hgrace)⟩

/-- An override that fails can leave other settings than it found, and such as do not pass the
    check. -/
theorem merge_keeps_zero :
    default.validate = .ok () ∧
    (default.merge (soon "0")).2 =
      .error (.env gracePeriodVar "soon" "expected number at 0") ∧
    (default.merge (soon "0")).1 ≠ default ∧
    (default.merge (soon "0")).1.validate ≠ .ok () := by
  have hmerge : default.merge (soon "0") =
      (⟨0, .ofSecs 1, none⟩, .error (.env gracePeriodVar "soon" "expected number at 0")) := rfl
  rw [hmerge]
  exact ⟨rfl, rfl, by decide, fun h => nomatch h⟩

end RunnerConfig

end Outflow
