import Outflow.Supervision

/-!
# Nothing is sent to a child that is gone

Whatever an operating system does with a child, a child that has been reaped is left alone: its
process number may belong to another process by then.  A child is reaped by the attempt that
learns its exit code, and `Accounted` says that such an attempt is the last one.

`Escalates` lists the courses that shutting a child down can take.  Force is the last resort
of each: it comes after a request to end that could not be delivered, or after the whole of the
grace.

## Key results

- `Accounted.ask`: every request keeps the account of what was tried
- `isReaped_of_shutdown`: shutting a child down succeeds only by reaping it
- `shutdown_escalates`: shutting a child down takes one of the courses
- `length_shutdownNotes`: the log tells of every child that is ended by force
- `askAll_start_escalates`: what this comes to, after any requests
-/

namespace Outflow

namespace Attempt

/-- The exit code that an attempt learns.  The child is reaped with it. -/
def code? : Attempt → Option Int32
  | wait _ (.exited code) => some code
  | wait _ _ => none
  | terminate _ => none
  | kill reply => reply.toOption

/-- Whether the child is ended by force. -/
def isForce : Attempt → Bool
  | kill _ => true
  | _ => false

@[simp] theorem code?_exited (limit : Option Duration) (code : Int32) :
    (wait limit (.exited code)).code? = some code := rfl

@[simp] theorem code?_kill (reply : Except IoError Int32) :
    (kill reply).code? = reply.toOption := rfl

end Attempt

namespace Supervised

variable {σ : Type} {k : Kernel σ} {s : Supervised σ}

/-! ### One attempt -/

/-- The child after an attempt, which was the first to learn its code if it did. -/
def tried (s : Supervised σ) (a : Attempt) (world : σ) : Supervised σ :=
  { s with world, code := a.code?, history := s.history ++ [a] }

@[simp] theorem tried_code (s : Supervised σ) (a : Attempt) (world : σ) :
    (s.tried a world).code = a.code? := rfl

@[simp] theorem tried_world (s : Supervised σ) (a : Attempt) (world : σ) :
    (s.tried a world).world = world := rfl

@[simp] theorem tried_history (s : Supervised σ) (a : Attempt) (world : σ) :
    (s.tried a world).history = s.history ++ [a] := rfl

theorem isReaped_eq_true_iff : s.isReaped = true ↔ ∃ code, s.code = some code :=
  Option.isSome_iff_exists

/-- What a request to end comes to.  It counts as delivered to a child that is gone. -/
def asked (pid : UInt32) : Except IoError Unit → Except CleanupError Unit
  | .ok () => .ok ()
  | .error e => if e = .noSuchProcess then .ok () else .error (.signal pid e)

/-- What ending a child by force comes to. -/
def forced : Except IoError Int32 → Except CleanupError Unit
  | .ok _ => .ok ()
  | .error e => .error (.kill e)

theorem wait_of_code_none (limit : Option Duration) (h : s.code = none) :
    s.wait k limit =
      ((k.wait limit s.world).1,
        s.tried (.wait limit (k.wait limit s.world).1) (k.wait limit s.world).2) := by
  rw [wait, h]
  cases hreply : (k.wait limit s.world).1 <;> simp [tried, Attempt.code?, hreply]

theorem terminate_of_code_none (h : s.code = none) :
    s.terminate k =
      (asked s.pid (k.terminate s.world).1,
        s.tried (.terminate (k.terminate s.world).1) (k.terminate s.world).2) := by
  rw [terminate, h]
  cases hreply : (k.terminate s.world).1 <;> simp [tried, Attempt.code?, asked, hreply]

theorem kill_of_code_none (h : s.code = none) :
    s.kill k =
      (forced (k.kill s.world).1, s.tried (.kill (k.kill s.world).1) (k.kill s.world).2) := by
  rw [kill, h]
  cases hreply : (k.kill s.world).1 <;> simp [tried, Attempt.code?, forced, hreply]

/-! ### A child that has been reaped -/

variable {code : Int32}

theorem wait_of_code (limit : Option Duration) (h : s.code = some code) :
    s.wait k limit = (.exited code, s) := by
  rw [wait, h]

theorem terminate_of_code (h : s.code = some code) : s.terminate k = (.ok (), s) := by
  rw [terminate, h]

theorem kill_of_code (h : s.code = some code) : s.kill k = (.ok (), s) := by
  rw [kill, h]

theorem shutdown_of_code (grace : Duration) (h : s.code = some code) :
    s.shutdown k grace = (.ok (), s) := by
  rw [shutdown, terminate_of_code h]
  simp only [wait_of_code (some grace) h]

theorem ask_of_code (r : Request) (h : s.code = some code) : s.ask k r = s := by
  cases r with
  | wait limit => rw [ask, wait_of_code limit h]
  | terminate => rw [ask, terminate_of_code h]
  | kill => rw [ask, kill_of_code h]
  | shutdown grace => rw [ask, shutdown_of_code grace h]

/-! ### Success leaves the child reaped -/

theorem isReaped_of_wait {limit : Option Duration} (h : (s.wait k limit).1 = .exited code) :
    (s.wait k limit).2.isReaped = true := by
  rw [isReaped_eq_true_iff]
  cases hs : s.code with
  | none =>
    rw [wait_of_code_none limit hs] at h ⊢
    exact ⟨code, by rw [tried_code, h, Attempt.code?_exited]⟩
  | some before =>
    rw [wait_of_code limit hs]
    exact ⟨before, hs⟩

theorem isReaped_of_kill (h : (s.kill k).1 = .ok ()) : (s.kill k).2.isReaped = true := by
  rw [isReaped_eq_true_iff]
  cases hs : s.code with
  | none =>
    rw [kill_of_code_none hs] at h ⊢
    cases hreply : (k.kill s.world).1 with
    | ok code => exact ⟨code, by rw [tried_code, Attempt.code?_kill, Except.toOption]⟩
    | error e => simp [forced, hreply] at h
  | some before =>
    rw [kill_of_code hs]
    exact ⟨before, hs⟩

/-- Shutting a child down succeeds by a wait or by force, and either reaps it. -/
theorem isReaped_of_shutdown {grace : Duration} (h : (s.shutdown k grace).1 = .ok ()) :
    (s.shutdown k grace).2.isReaped = true := by
  unfold shutdown at h ⊢
  generalize s.terminate k = asked at h ⊢
  obtain ⟨_ | _, t⟩ := asked
  · exact isReaped_of_kill h
  · simp only at h ⊢
    generalize hwait : t.wait k (some grace) = waited at h ⊢
    obtain ⟨code | e | _, u⟩ := waited
    · have hreaped := isReaped_of_wait (congrArg Prod.fst hwait)
      rwa [hwait] at hreaped
    · contradiction
    · exact isReaped_of_kill h

/-! ### The account of what was tried -/

/-- The code is what the last attempt learned, and no attempt before it learned any. -/
structure Accounted (s : Supervised σ) : Prop where
  code_eq : s.code = s.history.getLast?.bind Attempt.code?
  earlier : ∀ a ∈ s.history.dropLast, a.code? = none

theorem accounted_start (pid : UInt32) (world : σ) : (start pid world).Accounted :=
  ⟨rfl, by simp [start]⟩

namespace Accounted

/-- As long as the child has not been reaped, no attempt has learned a code. -/
theorem code?_eq_none (h : s.Accounted) (hs : s.code = none) : ∀ a ∈ s.history, a.code? = none := by
  intro a ha
  rcases List.eq_nil_or_concat s.history with hnil | ⟨before, last, hlast⟩
  · simp [hnil] at ha
  · rw [List.concat_eq_append] at hlast
    have hcode := h.code_eq
    have hearlier := h.earlier
    rw [hs, hlast, List.getLast?_concat, Option.bind_some] at hcode
    rw [hlast, List.dropLast_concat] at hearlier
    rw [hlast, List.mem_append, List.mem_singleton] at ha
    rcases ha with hbefore | rfl
    · exact hearlier a hbefore
    · exact hcode.symm

/-- An attempt is made only while the child has not been reaped. -/
theorem tried (h : s.Accounted) (hs : s.code = none) (a : Attempt) (world : σ) :
    (s.tried a world).Accounted := by
  refine ⟨?_, ?_⟩
  · rw [tried_code, tried_history, List.getLast?_concat, Option.bind_some]
  · rw [tried_history, List.dropLast_concat]
    exact h.code?_eq_none hs

theorem wait (h : s.Accounted) (k : Kernel σ) (limit : Option Duration) :
    (s.wait k limit).2.Accounted := by
  cases hs : s.code with
  | none =>
    rw [wait_of_code_none limit hs]
    exact h.tried hs _ _
  | some code =>
    rw [wait_of_code limit hs]
    exact h

theorem terminate (h : s.Accounted) (k : Kernel σ) : (s.terminate k).2.Accounted := by
  cases hs : s.code with
  | none =>
    rw [terminate_of_code_none hs]
    exact h.tried hs _ _
  | some code =>
    rw [terminate_of_code hs]
    exact h

theorem kill (h : s.Accounted) (k : Kernel σ) : (s.kill k).2.Accounted := by
  cases hs : s.code with
  | none =>
    rw [kill_of_code_none hs]
    exact h.tried hs _ _
  | some code =>
    rw [kill_of_code hs]
    exact h

theorem shutdown (h : s.Accounted) (k : Kernel σ) (grace : Duration) :
    (s.shutdown k grace).2.Accounted := by
  have hasked := h.terminate k
  unfold Supervised.shutdown
  generalize s.terminate k = asked at hasked ⊢
  obtain ⟨_ | _, t⟩ := asked
  · exact hasked.kill k
  · -- The request was delivered, so force comes after the wait, if at all.
    have hwaited := Accounted.wait hasked k (some grace)
    simp only
    generalize t.wait k (some grace) = waited at hwaited ⊢
    obtain ⟨code | e | _, u⟩ := waited
    · exact hwaited
    · exact hwaited
    · exact Accounted.kill hwaited k

/-- **Every request keeps the account.** -/
theorem ask (h : s.Accounted) (k : Kernel σ) (r : Request) : (s.ask k r).Accounted := by
  cases r with
  | wait limit => exact h.wait k limit
  | terminate => exact h.terminate k
  | kill => exact h.kill k
  | shutdown grace => exact h.shutdown k grace

/-- The child is reaped exactly if an attempt has learned its code. -/
theorem isReaped_iff (h : s.Accounted) :
    s.isReaped = true ↔ ∃ a ∈ s.history, a.code? ≠ none := by
  rw [isReaped_eq_true_iff]
  constructor
  · rintro ⟨code, hcode⟩
    rw [h.code_eq, Option.bind_eq_some_iff] at hcode
    obtain ⟨a, ha, hcode⟩ := hcode
    exact ⟨a, List.mem_of_getLast? ha, by simp [hcode]⟩
  · rintro ⟨a, ha, hcode⟩
    refine Option.ne_none_iff_exists'.1 fun hs => hcode ?_
    exact h.code?_eq_none hs a ha

/-- Nothing is tried after the attempt that reaped the child. -/
theorem eq_nil_of_reaped (h : s.Accounted) {earlier later : List Attempt} {a : Attempt}
    (hs : s.history = earlier ++ a :: later) (ha : a.code? ≠ none) : later = [] := by
  refine Classical.byContradiction fun hlater => ?_
  have hmem : a ∈ s.history.dropLast := by
    rw [hs, List.dropLast_append_of_ne_nil (List.cons_ne_nil a later),
      List.dropLast_cons_of_ne_nil hlater]
    simp
  exact ha (h.earlier a hmem)

end Accounted

/-- Carry out requests, one after the other. -/
def askAll (k : Kernel σ) (s : Supervised σ) (rs : List Request) : Supervised σ :=
  rs.foldl (ask k) s

theorem accounted_askAll (h : s.Accounted) (k : Kernel σ) (rs : List Request) :
    (s.askAll k rs).Accounted := by
  induction rs generalizing s with
  | nil => exact h
  | cons r rs ih => exact ih (h.ask k r)

theorem askAll_of_code (rs : List Request) (h : s.code = some code) : s.askAll k rs = s := by
  induction rs with
  | nil => rfl
  | cons r rs ih => rw [askAll, List.foldl_cons, ask_of_code r h, ← askAll, ih]

/-! ### Shutting a child down -/

/-- A request to end was delivered, or there was nobody left to take it. -/
def Delivered (reply : Except IoError Unit) : Prop :=
  reply = .ok () ∨ reply = .error .noSuchProcess

/-- The courses that shutting a child down can take: what is tried, and what it comes to. -/
inductive Escalates (grace : Duration) : List Attempt → Except CleanupError Unit → Prop where
  /-- There is nothing to be done about a child that has been reaped. -/
  | gone : Escalates grace [] (.ok ())
  | exited {request : Except IoError Unit} {code : Int32} (h : Delivered request) :
    Escalates grace [.terminate request, .wait (some grace) (.exited code)] (.ok ())
  | unwaited {request : Except IoError Unit} {e : IoError} (h : Delivered request) :
    Escalates grace [.terminate request, .wait (some grace) (.failed e)] (.error (.reap e))
  /-- The child was still there when the whole of the grace had passed. -/
  | overdue {request : Except IoError Unit} {reply : Except IoError Int32}
    (h : Delivered request) :
    Escalates grace [.terminate request, .wait (some grace) .elapsed, .kill reply] (forced reply)
  | undelivered {e : IoError} {reply : Except IoError Int32} (h : e ≠ .noSuchProcess) :
    Escalates grace [.terminate (.error e), .kill reply] (forced reply)

theorem asked_eq_ok_iff {pid : UInt32} {request : Except IoError Unit} :
    asked pid request = .ok () ↔ Delivered request := by
  cases request with
  | ok u => simp [asked, Delivered]
  | error e => simp [asked, Delivered]

theorem exists_of_asked_eq_error {pid : UInt32} {request : Except IoError Unit} {e : CleanupError}
    (h : asked pid request = .error e) : ∃ e, e ≠ .noSuchProcess ∧ request = .error e := by
  cases request with
  | ok u => simp [asked] at h
  | error e =>
    refine ⟨e, fun he => ?_, rfl⟩
    simp [asked, he] at h

/-- **Shutting a child down takes one of the courses.** -/
theorem shutdown_escalates (k : Kernel σ) (s : Supervised σ) (grace : Duration) :
    ∃ tries, Escalates grace tries (s.shutdown k grace).1 ∧
      (s.shutdown k grace).2.history = s.history ++ tries := by
  cases h : s.code with
  | some code =>
    rw [shutdown_of_code grace h]
    exact ⟨[], .gone, (List.append_nil _).symm⟩
  | none =>
    -- Every attempt leaves the child unreaped but the last one, so each is really made.
    generalize hreply : k.terminate s.world = reply
    obtain ⟨request, world⟩ := reply
    have hasked : s.terminate k = (asked s.pid request, s.tried (.terminate request) world) := by
      rw [terminate_of_code_none h, hreply]
    have htried : (s.tried (.terminate request) world).code = none := rfl
    rw [shutdown, hasked]
    cases hdelivered : asked s.pid request with
    | error trouble =>
      obtain ⟨e, he, rfl⟩ := exists_of_asked_eq_error hdelivered
      simp only [kill_of_code_none htried]
      exact ⟨_, .undelivered he, by simp⟩
    | ok u =>
      have hd : Delivered request := asked_eq_ok_iff.1 hdelivered
      generalize hreply : k.wait (some grace) world = reply
      obtain ⟨waited, world'⟩ := reply
      have hwait : (s.tried (.terminate request) world).wait k (some grace) = (waited,
          (s.tried (.terminate request) world).tried (.wait (some grace) waited) world') := by
        rw [wait_of_code_none _ htried, tried_world, hreply]
      simp only [hwait]
      cases waited with
      | exited code =>
        exact ⟨[.terminate request, .wait (some grace) (.exited code)], .exited hd, by simp⟩
      | failed e => exact ⟨_, .unwaited hd, by simp⟩
      | elapsed =>
        have hoverdue : ((s.tried (.terminate request) world).tried
            (.wait (some grace) .elapsed) world').code = none := rfl
        simp only [kill_of_code_none hoverdue]
        exact ⟨_, .overdue hd, by simp⟩

namespace Escalates

variable {grace : Duration} {tries : List Attempt} {answer : Except CleanupError Unit}

/-- Force is the last resort. -/
theorem of_mem_kill (h : Escalates grace tries answer) {reply : Except IoError Int32}
    (hmem : .kill reply ∈ tries) :
    (∃ e, e ≠ .noSuchProcess ∧ tries = [.terminate (.error e), .kill reply]) ∨
    ∃ request, Delivered request ∧
      tries = [.terminate request, .wait (some grace) .elapsed, .kill reply] := by
  cases h with
  | gone => contradiction
  | exited hd => simp at hmem
  | unwaited hd => simp at hmem
  | overdue hd =>
    simp only [List.mem_cons, Attempt.kill.injEq, reduceCtorEq, List.not_mem_nil, or_false,
      false_or] at hmem
    subst hmem
    exact .inr ⟨_, hd, rfl⟩
  | undelivered he =>
    simp only [List.mem_cons, Attempt.kill.injEq, reduceCtorEq, List.not_mem_nil, or_false,
      false_or] at hmem
    subst hmem
    exact .inl ⟨_, he, rfl⟩

/-- Before force is used, and only then, the log says why. -/
theorem length_forceNotes (h : Escalates grace tries answer) (pid : UInt32) :
    (tries.filterMap (forceNote? pid)).length = tries.countP Attempt.isForce := by
  -- A request that is delivered is nothing to tell of.
  have hdelivered : ∀ {request}, Delivered request →
      forceNote? pid (.terminate request) = none := by
    rintro _ (rfl | rfl)
    · rfl
    · simp [forceNote?]
  cases h with
  | gone => rfl
  | exited hd | unwaited hd | overdue hd =>
    rw [List.filterMap_cons_none (hdelivered hd)]
    rfl
  | undelivered he => simp [forceNote?, he, Attempt.isForce]

/-- What a course comes to is trouble with the attempt that it ended with. -/
theorem of_error (h : Escalates grace tries answer) {trouble : CleanupError}
    (hanswer : answer = .error trouble) :
    (∃ e, trouble = .kill e ∧ .kill (.error e) ∈ tries) ∨
    ∃ e, trouble = .reap e ∧ .wait (some grace) (.failed e) ∈ tries := by
  cases h with
  | gone => contradiction
  | exited hd => contradiction
  | @unwaited request e hd =>
    cases hanswer
    exact .inr ⟨e, rfl, by simp⟩
  | @overdue request reply hd =>
    cases reply with
    | ok code => contradiction
    | error e =>
      cases hanswer
      exact .inl ⟨e, rfl, by simp⟩
  | @undelivered e reply he =>
    cases reply with
    | ok code => contradiction
    | error e =>
      cases hanswer
      exact .inl ⟨e, rfl, by simp⟩

end Escalates

/-- **The log tells of every child that is ended by force.**  Shutting a child down says as much in
    the log as it uses force. -/
theorem length_shutdownNotes (k : Kernel σ) (s : Supervised σ) (grace : Duration) :
    (s.shutdownNotes k grace).length = (s.shutdownTries k grace).countP Attempt.isForce := by
  obtain ⟨tries, hcourse, hhistory⟩ := shutdown_escalates k s grace
  have htries : s.shutdownTries k grace = tries := by
    rw [shutdownTries, hhistory, List.drop_left]
  rw [shutdownNotes, htries]
  exact hcourse.length_forceNotes s.pid

/-- **A child that is gone is left alone, and force is the last resort.**  Whatever the system does
    and whatever was asked before: an attempt that reaps the child is the last one, and a child
    that has been reaped is left as it is by every request, each of which then succeeds.  Shutting
    a child down succeeds only if that leaves it reaped.  It ends the child by force only if the
    request to end was refused, or if the child was there for the whole of the grace.  It reports
    no trouble but with that force, or with the wait within the grace. -/
theorem askAll_start_escalates (k : Kernel σ) (pid : UInt32) (world : σ) (rs : List Request)
    (grace : Duration) :
    let s := (start pid world).askAll k rs
    let answer := (s.shutdown k grace).1
    let after := (s.shutdown k grace).2
    (s.isReaped = true ↔ ∃ a ∈ s.history, a.code? ≠ none) ∧
    (∀ earlier a later, s.history = earlier ++ a :: later → a.code? ≠ none → later = []) ∧
    (s.isReaped = true → s.terminate k = (.ok (), s) ∧ s.shutdown k grace = (.ok (), s) ∧
      ∀ more, s.askAll k more = s) ∧
    (answer = .ok () → after.isReaped = true) ∧
    ∃ tries, after.history = s.history ++ tries ∧
      (∀ reply, .kill reply ∈ tries →
        (∃ e, e ≠ .noSuchProcess ∧ tries = [.terminate (.error e), .kill reply]) ∨
        ∃ request, Delivered request ∧
          tries = [.terminate request, .wait (some grace) .elapsed, .kill reply]) ∧
      (∀ pid e, answer ≠ .error (.signal pid e)) ∧
      (∀ e, answer = .error (.kill e) → .kill (.error e) ∈ tries) ∧
      (∀ e, answer = .error (.reap e) → .wait (some grace) (.failed e) ∈ tries) := by
  intro s answer after
  have hs : s.Accounted := accounted_askAll (accounted_start pid world) k rs
  obtain ⟨tries, hcourse, hhistory⟩ := shutdown_escalates k s grace
  -- What a shutdown tries is one of the courses, and they say the rest.
  refine ⟨hs.isReaped_iff, fun earlier a later => hs.eq_nil_of_reaped, fun hreaped => ?_,
    isReaped_of_shutdown, tries, hhistory, fun reply => hcourse.of_mem_kill, ?_, ?_, ?_⟩
  · obtain ⟨code, hcode⟩ := isReaped_eq_true_iff.1 hreaped
    exact ⟨terminate_of_code hcode, shutdown_of_code grace hcode,
      fun more => askAll_of_code more hcode⟩
  · intro p e herror
    simpa using hcourse.of_error herror
  · intro e herror
    simpa using hcourse.of_error herror
  · intro e herror
    simpa using hcourse.of_error herror

/-- A child that does not heed the request to end, and dies by force. -/
def heedless : Kernel Nat where
  terminate n := (.ok (), n + 1)
  kill n := (.ok (-9), n + 1)
  wait _ n := (.elapsed, n + 1)

/-- It is ended by force when the grace has passed, and is left alone from then on. -/
theorem askAll_start_escalates_heedless :
    let s := (start 7 0).askAll heedless [.terminate, .shutdown (.ofSecs 1)]
    s.isReaped = true ∧ s.world = 4 ∧ s.askAll heedless [.terminate, .kill, .wait none] = s := by
  intro s
  obtain ⟨-, -, hgone, -⟩ :=
    askAll_start_escalates heedless 7 0 [.terminate, .shutdown (.ofSecs 1)] (.ofSecs 1)
  exact ⟨rfl, rfl, (hgone rfl).2.2 _⟩

end Supervised

end Outflow
