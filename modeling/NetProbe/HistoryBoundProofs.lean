import NetProbe.PasswordHistoryProofs

/-!
# How long the password history grows

A change of a password cuts the history of the account to the last
`password_history_count` rows; a reset only adds one.  So the bound that the specification
gives holds as long as no reset meets a full history (`WithinBound`), and `reset_exceeds` is
the row too many otherwise.

A change cuts by time.  The rows it keeps are the latest, which are the hashes superseded
last if the clock is ahead of the rows (`ClockAhead`); this is the other half of the
condition.
-/

namespace NetProbePasswordHistory

open NetProbePyText NetProbeConfig NetProbeCoreAuth NetProbeAccountStore NetProbeAuthService
open NetProbeAdminUsers NetProbeAccountRuns UniqueTable Transaction Transaction.Txn LabelledRun
open RecentEntries

/-- The operations that supersede a password. -/
def Op.supersedes : Op → Bool
  | .changePassword .. | .resetPassword .. => true
  | _ => false

/-- The hash of the account before a call that puts another password in force. -/
def supersededBy (u : Uuid) (s : Store) (call : Call) : Option Str :=
  if (Call.password call u).isSome then (s.accounts.rows.find? (byId u)).map (·.password_hash)
  else none

/-- The hashes of an account that the calls of a run superseded, in order. -/
def superseded (env : Env) (u : Uuid) : Store → List Call → List Str
  | _, [] => []
  | s, call :: calls =>
      (supersededBy u s call).toList ++ superseded env u ((call.op.prog env).perform s) calls

/-- The history of an account are the hashes superseded last, at most as many as the count. -/
def BoundedHistory (env : Env) (u : Uuid) (hashes : List Str) (s : Store) : Prop :=
  (historyOf u s).length ≤ historyCount env ∧
    (historyOf u s).map (·.password_hash) = hashes.rtake (historyCount env)

/-- No reset meets a full history, and no change a clock that has fallen behind. -/
def WithinBound (env : Env) (s : Store) (call : Call) : Prop :=
  ∀ u, ClockAhead env u s call.op ∧
    (Resets env s call.op u → (historyOf u s).length < historyCount env)

section Bound

variable {env : Env} {s s' s₀ : Store} {u : Uuid} {calls : List Call} {call : Call}
  {hashes : List Str}
  {password : Str} {row : PasswordHistory}

theorem superseded_concat (hrun : Run (callStep env) s₀ calls s) :
    superseded env u s₀ (calls ++ [call]) =
      superseded env u s₀ calls ++ (supersededBy u s call).toList := by
  induction hrun with
  | nil s => exact List.append_nil _
  | @cons s m s' c calls hstep _ ih =>
      rw [List.cons_append]
      unfold superseded
      rw [← hstep.2, ih, List.append_assoc]

/-- The hash that is superseded goes into the history. -/
theorem supersededBy_replaced (h : Replaced env call u password row s s') :
    supersededBy u s call = some row.password_hash := by
  obtain ⟨user, hmem, hid, hrow⟩ := h.old
  rw [supersededBy]
  rw [h.sets, byId_find hmem hid, hrow]
  rfl

/-- The step lemma. -/
theorem BoundedHistory.step (h : BoundedHistory env u hashes s)
    (hstep : PasswordStep env call u s s')
    (hroom : Resets env s call.op u → (historyOf u s).length < historyCount env) :
    BoundedHistory env u (hashes ++ (supersededBy u s call).toList) s' := by
  obtain ⟨hlength, hrows⟩ := h
  cases hstep with
  | same hpassword hhistory _ =>
      have hnone : supersededBy u s call = none := by
        rw [supersededBy]
        rw [hpassword]
        rfl
      rw [hnone, Option.toList_none, List.append_nil]
      rw [BoundedHistory]
      rw [hhistory]
      exact ⟨hlength, hrows⟩
  | created hpassword hnew hhistory _ =>
      have hfind : s.accounts.rows.find? (byId u) = none := by
        refine List.find?_eq_none.mpr fun a ha hid => ?_
        rw [← show a.id = u from of_decide_eq_true hid, hasAccount_of_mem ha] at hnew
        cases hnew
      have hnone : supersededBy u s call = none := by
        rw [supersededBy]
        rw [hfind, hpassword]
        rfl
      rw [hnone, Option.toList_none, List.append_nil]
      rw [BoundedHistory]
      rw [hhistory]
      exact ⟨hlength, hrows⟩
  | @changed password row hreplaced hhistory =>
      rw [supersededBy_replaced hreplaced, Option.toList_some]
      rw [BoundedHistory]
      rw [hhistory, map_rtake, List.map_append, hrows, length_rtake]
      exact ⟨Nat.min_le_left _ _, rtake_rtake_concat⟩
  | @reset password row hreplaced hhistory haccepted =>
      have hlt := hroom haccepted
      have hfits : (historyOf u s ++ [row]).length ≤ historyCount env := by
        rw [List.length_append]
        exact hlt
      rw [supersededBy_replaced hreplaced, Option.toList_some]
      rw [BoundedHistory]
      rw [hhistory, ← rtake_rtake_concat, ← hrows,
        rtake_of_length_le (by simpa using hfits), List.map_append]
      exact ⟨hfits, rfl⟩

/-- A reset that meets a full history leaves a row too many. -/
theorem reset_exceeds {clock : Clock} {actor : Uuid} {salt : Str} {historyId : Nat}
    {payload : AdminResetPasswordRequest}
    (h : callStep env s ⟨.resetPassword clock actor u salt historyId payload, .ok .done⟩ s')
    (hfull : historyCount env ≤ (historyOf u s).length) :
    historyCount env < (historyOf u s').length := by
  rcases callStep_reset h with ⟨⟨e, he⟩, -⟩ | ⟨user, -, haccepted, hacc, rfl⟩
  · cases he
  · rw [historyOf_resetStore (find_byId haccepted.found).2 hacc, if_pos rfl, List.length_append]
    exact Nat.lt_succ_of_le hfull

/-- A history with room is within its bound, whatever the call and its clock. -/
theorem withinBound_of_short (h : s.history.rows.length < historyCount env) :
    WithinBound env s call := by
  intro u
  have hlt : (historyOf u s).length < historyCount env :=
    lt_of_le_of_lt (List.length_filter_le _ _) h
  refine ⟨?_, fun _ => hlt⟩
  unfold ClockAhead
  split
  · intro _ user _
    refine lastLatest_of_length_le ?_
    rw [List.length_append]
    exact hlt
  · trivial

theorem setsPassword_of_supersedes {op : Op} (h : Op.supersedes op = true) :
    Op.setsPassword op = true := by
  cases op with
  | changePassword | resetPassword => rfl
  | authenticate | resolveSession | revokeSession | createUser | createAdmin |
    updateUser | unlockUser
  | revokeUserSessions => cases h

/-- **Where no reset meets a full history, it is bounded.** -/
theorem history_bounded_within (hempty : s₀.history.rows = [])
    (hops : ∀ call ∈ calls, Op.supersedes call.op = true)
    (hrun : Run (Restrict (callStep env) (WithinBound env)) s₀ calls s) (u : Uuid) :
    BoundedHistory env u (superseded env u s₀ calls) s := by
  have hstart : BoundedHistory env u [] s₀ := by
    have hnone : historyOf u s₀ = [] := by
      unfold historyOf
      rw [hempty]
      rfl
    unfold BoundedHistory
    rw [hnone, List.rtake_nil]
    exact ⟨Nat.zero_le _, rfl⟩
  refine
    (hrun.invariant_of_labels (I := fun calls s => (∀ call ∈ calls, Op.supersedes call.op = true) →
    Run (callStep env) s₀ calls s ∧ BoundedHistory env u (superseded env u s₀ calls) s) ?_
    (fun _ => ⟨.nil s₀, hstart⟩) hops).2
  intro calls m call m' hm ⟨hwithin, hs⟩ hops
  obtain ⟨hbefore, hbounded⟩ := hm fun c hc => hops c (List.mem_append_left _ hc)
  refine ⟨hbefore.append (.single hs), ?_⟩
  rw [superseded_concat hbefore]
  exact hbounded.step
    (password_step (setsPassword_of_supersedes (hops call (by simp))) (hwithin u).1 hs)
    (hwithin u).2

end Bound

/-- A store with an administrator and an operator. -/
def staffed : Store := performAll .sample [createOperator 1] administered

/-- The administrator resets the password, and the owner changes it. -/
def resetAndChange : List Op :=
  [resetOperator 2, changeTo 3 (str "second long secret") (str "third long secret")]

/-- The general result on a reset and a change. -/
theorem reset_and_change_bounded :
    BoundedHistory .sample 2 (superseded .sample 2 staffed (callsOf .sample resetAndChange staffed))
      (performAll .sample resetAndChange staffed) :=
  history_bounded_within (by decide +kernel) (by decide +kernel)
    (.cons ⟨withinBound_of_short (by decide +kernel), callStep_on _ _ _⟩
      (.cons ⟨withinBound_of_short (by decide +kernel), callStep_on _ _ _⟩ (.nil _))) 2

/-- Six resets. -/
def sixResets : List Op :=
  [2, 3, 4, 5, 6, 7].map resetOperator

/-- **The history grows beyond its bound.** Six resets leave six rows where five are kept. -/
theorem history_overflows :
    ¬ ∀ (env : Env) (s₀ s : Store) (calls : List Call) (u : Uuid), s₀.history.rows = [] →
      (∀ call ∈ calls, Op.supersedes call.op = true) → Run (callStep env) s₀ calls s →
        BoundedHistory env u (superseded env u s₀ calls) s := by
  intro h
  have hbounded := h .sample staffed (performAll .sample sixResets staffed)
    (callsOf .sample sixResets staffed) 2 (by decide +kernel) (by decide +kernel)
      (run_callsOf _ _ _)
  have hsix : (historyOf 2 (performAll .sample sixResets staffed)).length = 6 := by decide +kernel
  have hfive : historyCount .sample = 5 := by decide
  have hlength := hbounded.1
  omega

end NetProbePasswordHistory
