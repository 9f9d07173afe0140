import Outflow.Report

/-!
# The exit status of a run

The status of a run is computed in 32 bits, and the system keeps eight bits of it.  Neither loses
anything: every status fits an octet, and only a success has the status zero.

## Key results

- `toInt_statusOfCode`: what a code comes to, told in integers
- `exitStatus_nonneg` / `exitStatus_le`: a status fits an octet
- `exitStatus_faithful`: the status, the report and the code of the child agree
-/

namespace Outflow

namespace Outcome

/-! ### Codes -/

/-- Turning the sign of a code stops short at the least code alone. -/
theorem toInt_saturatingNeg (code : Int32) :
    (saturatingNeg code).toInt = min (-code.toInt) 2147483647 := by
  have hleast : Int32.minValue.toInt = -2147483648 := rfl
  have hgreatest : Int32.maxValue.toInt = 2147483647 := rfl
  have hlow : Int32.minValue.toInt ≤ code.toInt := code.minValue_le_toInt
  have hhigh : code.toInt ≤ Int32.maxValue.toInt := code.toInt_le
  unfold saturatingNeg
  by_cases h : code = Int32.minValue
  · subst h
    rfl
  · have hne : code.toInt ≠ Int32.minValue.toInt := fun he => h (Int32.toInt_inj.1 he)
    rw [if_neg h, Int32.toInt_neg, Int.bmod_eq_of_le (by omega) (by omega)]
    omega

/-- What is said of a signal leaves room for 128 to be added. -/
theorem toInt_min_saturatingNeg (code : Int32) :
    (min (saturatingNeg code) 127).toInt = min (-code.toInt) 127 := by
  have hneg := toInt_saturatingNeg code
  have hbound : (127 : Int32).toInt = 127 := rfl
  by_cases h : saturatingNeg code ≤ 127
  · have hle : (saturatingNeg code).toInt ≤ 127 := Int32.le_iff_toInt_le.1 h
    rw [show min (saturatingNeg code) 127 = saturatingNeg code from if_pos h]
    omega
  · have hlt : ¬ (saturatingNeg code).toInt ≤ 127 := fun hle => h (Int32.le_iff_toInt_le.2 hle)
    rw [show min (saturatingNeg code) 127 = 127 from if_neg h]
    omega

/-- The status of a code: nothing overflows. -/
theorem toInt_statusOfCode (code : Int32) :
    (statusOfCode code).toInt =
      if 1 ≤ code.toInt ∧ code.toInt ≤ 255 then code.toInt
      else if code.toInt < 0 then 128 + min (-code.toInt) 127
      else 1 := by
  have hfits : (1 ≤ code ∧ code ≤ 255) ↔ (1 ≤ code.toInt ∧ code.toInt ≤ 255) :=
    and_congr Int32.le_iff_toInt_le Int32.le_iff_toInt_le
  have hsignal : code < 0 ↔ code.toInt < 0 := Int32.lt_iff_toInt_lt
  unfold statusOfCode
  by_cases h : 1 ≤ code ∧ code ≤ 255
  · rw [if_pos h, if_pos (hfits.1 h)]
  · rw [if_neg h, if_neg (mt hfits.2 h)]
    by_cases hneg : code < 0
    · -- The sum is at most 255, far from where 32 bits end.
      have hlt : code.toInt < 0 := hsignal.1 hneg
      have h128 : (128 : Int32).toInt = 128 := rfl
      rw [if_pos hneg, if_pos hlt, Int32.toInt_add, toInt_min_saturatingNeg, h128]
      exact Int.bmod_eq_of_le (by omega) (by omega)
    · rw [if_neg hneg, if_neg (mt hsignal.2 hneg)]
      rfl

example : (statusOfCode Int32.minValue).toInt = 255 := by decide

/-- A code that is kept, or one that stands for a failure, is positive and fits an octet. -/
theorem toInt_statusOfCode_mem (code : Int32) :
    1 ≤ (statusOfCode code).toInt ∧ (statusOfCode code).toInt ≤ 255 := by
  rw [toInt_statusOfCode]
  split
  · assumption
  · split <;> omega

/-! ### Outcomes -/

/-- The status of an error is positive and fits an octet. -/
theorem exitStatus_error_mem (e : RunError) :
    1 ≤ exitStatus (.error e) ∧ exitStatus (.error e) ≤ 255 := by
  cases e with
  | commandFailed args code out err => exact toInt_statusOfCode_mem code
  | spawn args source =>
    simp only [exitStatus]
    split <;> omega
  | _ => simp [exitStatus]

theorem exitStatus_nonneg (outcome : Outcome) : 0 ≤ outcome.exitStatus := by
  cases outcome with
  | ok done => exact Int.le_refl 0
  | error e => exact Int.le_trans (by decide) (exitStatus_error_mem e).1

theorem exitStatus_le (outcome : Outcome) : outcome.exitStatus ≤ 255 := by
  cases outcome with
  | ok done => exact (by decide : (0 : Int) ≤ 255)
  | error e => exact (exitStatus_error_mem e).2

/-- Only a success has exit status zero. -/
theorem exitStatus_eq_zero_iff (outcome : Outcome) :
    outcome.exitStatus = 0 ↔ ∃ done, outcome = .ok done := by
  cases outcome with
  | ok done => exact ⟨fun _ => ⟨done, rfl⟩, fun _ => rfl⟩
  | error e =>
    refine ⟨fun h => ?_, fun ⟨_, h⟩ => nomatch h⟩
    have hpos : 1 ≤ exitStatus (.error e) := (exitStatus_error_mem e).1
    omega

end Outcome

/-! ### Reports -/

theorem RunError.status_ne_success (e : RunError) : e.status ≠ .success := by
  cases e <;> simp [RunError.status]

namespace Report

/-- A report calls a run a success if it is one. -/
theorem status_ofOutcome_eq_success_iff (outcome : Outcome) :
    (ofOutcome outcome).status = .success ↔ ∃ done, outcome = .ok done := by
  cases outcome with
  | ok done => exact ⟨fun _ => ⟨done, rfl⟩, fun _ => rfl⟩
  | error e => exact iff_of_false e.status_ne_success (fun ⟨_, h⟩ => nomatch h)

/-- A report tells of an error unless the run is a success. -/
theorem error_ofOutcome_eq_none_iff (outcome : Outcome) :
    (ofOutcome outcome).error = none ↔ ∃ done, outcome = .ok done := by
  cases outcome with
  | ok done => exact ⟨fun _ => ⟨done, rfl⟩, fun _ => rfl⟩
  | error e => exact iff_of_false (fun h => nomatch h) (fun ⟨_, h⟩ => nomatch h)

end Report

namespace Outcome

/-! ### Codes that a wait returns -/

/-- Of the codes that a wait may return, only zero makes a success. -/
theorem exitStatus_ofExit_eq_zero_iff (args : List String) (code : Int32) (out err : Bytes)
    (duration : Duration) : (ofExit args code out err duration).exitStatus = 0 ↔ code = 0 := by
  rw [exitStatus_eq_zero_iff, ofExit]
  by_cases h : code = 0
  · rw [if_pos h]
    exact iff_of_true ⟨_, rfl⟩ h
  · rw [if_neg h]
    exact iff_of_false (fun ⟨_, hok⟩ => nomatch hok) h

/-- What a code that a wait returns makes of the status. -/
theorem exitStatus_ofExit (args : List String) (code : Int32) (out err : Bytes)
    (duration : Duration) : (ofExit args code out err duration).exitStatus =
      if 0 ≤ code.toInt ∧ code.toInt ≤ 255 then code.toInt
      else if code.toInt < 0 then 128 + min (-code.toInt) 127
      else 1 := by
  by_cases h : code = 0
  · rw [(exitStatus_ofExit_eq_zero_iff args code out err duration).2 h, h]
    rfl
  · have hne : code.toInt ≠ 0 := fun he => h (Int32.toInt_inj.1 he)
    have hcode : (1 ≤ code.toInt ∧ code.toInt ≤ 255) ↔ 0 ≤ code.toInt ∧ code.toInt ≤ 255 := by
      omega
    simp only [ofExit, if_neg h, exitStatus, toInt_statusOfCode, hcode]

/-- A code that fits an octet is handed on. -/
theorem exitStatus_ofExit_of_mem (args : List String) {code : Int32} (out err : Bytes)
    (duration : Duration) (hlow : 0 ≤ code.toInt) (hhigh : code.toInt ≤ 255) :
    (ofExit args code out err duration).exitStatus = code.toInt := by
  rw [exitStatus_ofExit, if_pos ⟨hlow, hhigh⟩]

/-- **Exit statuses are faithful and fit an octet.**  A status lies between 0 and 255, so the
    octet that the system keeps of it is all of it.  It is zero just if the run is a success, just
    if the report says so, and just if the report tells of no error.  The status of a failed
    command is its code if that is one of 1 to 255, 128 and the number of the signal, but at most
    127, for a negative one, and 1 otherwise.  For what a wait returns: the status is zero just if
    the code is, and codes of an octet are handed on. -/
theorem exitStatus_faithful (outcome : Outcome) :
    (0 ≤ outcome.exitStatus ∧ outcome.exitStatus ≤ 255 ∧
      outcome.exitStatus % 256 = outcome.exitStatus) ∧
    (outcome.exitStatus = 0 ↔ ∃ done, outcome = .ok done) ∧
    (outcome.exitStatus = 0 ↔ (Report.ofOutcome outcome).status = .success) ∧
    (outcome.exitStatus = 0 ↔ (Report.ofOutcome outcome).error = none) ∧
    (∀ args code out err, exitStatus (.error (.commandFailed args code out err)) =
      if 1 ≤ code.toInt ∧ code.toInt ≤ 255 then code.toInt
      else if code.toInt < 0 then 128 + min (-code.toInt) 127
      else 1) ∧
    ∀ args code out err duration,
      ((ofExit args code out err duration).exitStatus = 0 ↔ code = 0) ∧
      (0 ≤ code.toInt → code.toInt ≤ 255 →
        (ofExit args code out err duration).exitStatus = code.toInt) := by
  have hnonneg : 0 ≤ outcome.exitStatus := exitStatus_nonneg outcome
  have hle : outcome.exitStatus ≤ 255 := exitStatus_le outcome
  have hzero := exitStatus_eq_zero_iff outcome
  refine ⟨⟨hnonneg, hle, by omega⟩, hzero, ?_, ?_, ?_, ?_⟩
  · exact hzero.trans (Report.status_ofOutcome_eq_success_iff outcome).symm
  · exact hzero.trans (Report.error_ofOutcome_eq_none_iff outcome).symm
  · exact fun _ code _ _ => toInt_statusOfCode code
  · intro args code out err duration
    exact ⟨exitStatus_ofExit_eq_zero_iff args code out err duration,
      exitStatus_ofExit_of_mem args out err duration⟩

end Outcome

end Outflow
