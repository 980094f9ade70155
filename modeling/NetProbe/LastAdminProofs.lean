import NetProbe.AdminUsersProofs
import NetProbe.RunProofs

/-!
# The guard of the last administrator, one request after another

`update_user` refuses a patch with `LAST_ADMIN_PROTECTED` to keep at least one administrator
who can log in.  `LeavesNoAdmin` says what the guard is for; `refused_iff` says what it does.
The two agree except in two situations (`GuardGap`):

* the patch locks the only administrator who can log in: the guard looks at `DISABLED` and at
  the role, not at `LOCKED`, and lets it pass;
* the patch is on an administrator who cannot log in, while one other can: the guard counts
  that other one only and refuses the patch, which would not have touched him.

`guard_exact_iff_no_gap` is this equivalence for every store, together with what follows for
runs: a serial run of patches that stays out of the gap keeps an administrator.
-/

namespace NetProbeLastAdmin

open NetProbePyText NetProbeConfig NetProbeCoreAuth NetProbeAccountStore NetProbeAuthService
open NetProbeAdminUsers UniqueTable Transaction Transaction.Txn LabelledRun

/-- Role and status of an account after a patch. -/
def applied (payload : UserUpdateRequest) (a : Account) : Account :=
  { a with role := payload.role.getD a.role, status := payload.status.getD a.status }

/-- With the patch applied nobody would be an administrator who can log in. -/
def LeavesNoAdmin (payload : UserUpdateRequest) (user_id : Uuid) (s : Store) : Prop :=
  ∀ a ∈ s.accounts.rows, usableAdmin (if a.id = user_id then applied payload a else a) = false

instance (payload : UserUpdateRequest) (user_id : Uuid) (s : Store) :
    Decidable (LeavesNoAdmin payload user_id s) :=
  inferInstanceAs (Decidable (∀ a ∈ s.accounts.rows, _))

/-- The situations in which the guard misses its purpose. -/
def GuardGap (payload : UserUpdateRequest) (user : Account) (s : Store) : Prop :=
  (usableAdmins s).length = 1 ∧
    ((usableAdmin user = true ∧ payload.status = some .LOCKED ∧ payload.demotes = false) ∨
      (usableAdmin user = false ∧ countsAdmins payload user = true))

section Guard

variable {py : Python} {settings : Settings} {clock : Clock} {actor user_id : Uuid}
  {payload : UserUpdateRequest} {s : Store} {user : Account}

-- ── The administrators of a store ─────────────────────────────────────────────────

theorem mem_usableAdmins {a : Account} :
    a ∈ usableAdmins s ↔ a ∈ s.accounts.rows ∧ usableAdmin a = true :=
  List.mem_filter

/-- The columns of a patch decide about an administrator as `applied` does. -/
theorem usableAdmin_patched (a : Account) :
    usableAdmin (patched py clock payload a) = usableAdmin (applied payload a) := rfl

/-- If one account is the only administrator who can log in, the list has that one row. -/
theorem usableAdmins_of_only (hmem : user ∈ usableAdmins s)
    (hall : ∀ a ∈ usableAdmins s, a.id = user.id) : (usableAdmins s).length = 1 := by
  have hdistinct := s.accounts.distinct.filter usableAdmin
  rw [usableAdmins] at hmem hall ⊢
  generalize s.accounts.rows.filter usableAdmin = rows at hmem hall hdistinct ⊢
  match rows with
  | [] => cases hmem
  | [_] => rfl
  | a :: b :: rest =>
      -- two rows with the one id would clash
      have hclash := (List.pairwise_cons.mp hdistinct).1 b (by simp)
      have ha := hall a (by simp)
      have hb := hall b (by simp)
      simp [accountClash, ha, hb] at hclash

/-- The only administrator who can log in. -/
theorem eq_of_length_one {a : Account} (h1 : (usableAdmins s).length = 1)
    (hmem : user ∈ usableAdmins s) (ha : a ∈ usableAdmins s) : a = user := by
  obtain ⟨b, hb⟩ := List.length_eq_one_iff.mp h1
  rw [hb, List.mem_singleton] at hmem ha
  rw [hmem, ha]

/-- A patch on an administrator who can log in leaves none exactly if he is the only one and
    the patch takes that from him. -/
theorem leavesNoAdmin_iff_of_usable (hmem : user ∈ s.accounts.rows) (hid : user.id = user_id)
    (husable : usableAdmin user = true) :
    LeavesNoAdmin payload user_id s ↔
      (usableAdmins s).length = 1 ∧ usableAdmin (applied payload user) = false := by
  have hadmin : user ∈ usableAdmins s := mem_usableAdmins.mpr ⟨hmem, husable⟩
  constructor
  · intro h
    refine ⟨usableAdmins_of_only hadmin fun a ha => ?_, ?_⟩
    · by_contra hne
      have ha' := mem_usableAdmins.mp ha
      have := h a ha'.1
      rw [if_neg (by rw [← hid]; exact hne), ha'.2] at this
      cases this
    · have := h user hmem
      rwa [if_pos hid] at this
  · rintro ⟨h1, happlied⟩ a ha
    by_cases haid : a.id = user_id
    · rw [if_pos haid, account_unique ha hmem (haid.trans hid.symm)]
      exact happlied
    · rw [if_neg haid]
      by_contra hne
      have haadmin : a ∈ usableAdmins s := mem_usableAdmins.mpr ⟨ha, by simpa using hne⟩
      exact haid (by rw [eq_of_length_one h1 hadmin haadmin, hid])

/-- A patch on anybody else leaves the administrators who can log in. -/
theorem not_leavesNoAdmin_of_not_usable (hmem : user ∈ s.accounts.rows) (hid : user.id = user_id)
    (husable : usableAdmin user = false) (hadmins : 1 ≤ (usableAdmins s).length) :
    ¬ LeavesNoAdmin payload user_id s := by
  obtain ⟨a, ha⟩ := List.exists_mem_of_length_pos hadmins
  obtain ⟨hrow, hadmin⟩ := mem_usableAdmins.mp ha
  intro h
  have hne : a.id ≠ user_id := by
    intro haid
    rw [account_unique hrow hmem (haid.trans hid.symm), husable] at hadmin
    cases hadmin
  have := h a hrow
  rw [if_neg hne, hadmin] at this
  cases this

/-- What a patch takes from an administrator who can log in. -/
theorem usableAdmin_applied (husable : usableAdmin user = true) :
    usableAdmin (applied payload user) = false ↔
      countsAdmins payload user = true ∨
        (payload.status = some .LOCKED ∧ payload.demotes = false) := by
  have hparts : user.role = .ADMIN ∧ user.status.usable = true ∧ user.deleted_at = none := by
    simpa [usableAdmin, and_assoc] using husable
  rw [usableAdmin, applied, countsAdmins, UserUpdateRequest.demotes]
  rw [hparts.1, hparts.2.2]
  rcases payload with ⟨name, email, role, status, -, -⟩
  cases role with
  | none =>
      cases status with
      | none => simpa using hparts.2.1
      | some status => cases status <;> simp [AccountStatus.usable]
  | some role =>
      cases status with
      | none => cases role <;> simp [hparts.2.1]
      | some status => cases role <;> cases status <;> simp [AccountStatus.usable]

-- ── What the guard does ───────────────────────────────────────────────────────────

/-- **The answer of the guard.** A request on an existing account is refused exactly if the
    guard does not let it pass. -/
theorem refused_iff (hdb : settings.database_enabled = true)
    (hfind : s.accounts.rows.find? (byLiveId user_id) = some user) :
    (updateUser py settings clock actor user_id payload).result s = .error lastAdminProtected ↔
      ¬ GuardPasses payload user s := by
  have hcases := updateUser_cases py settings clock actor user_id payload s
  rw [result]
  cases heval : (updateUser py settings clock actor user_id payload).eval s with
  | ok r =>
      rw [heval] at hcases
      cases hcases with
      | @updated user' row _ hfind' hpass _ =>
          rw [hfind] at hfind'
          cases hfind'
          simp [hpass]
  | error e =>
      rw [heval] at hcases
      cases hcases with
      | noPool hoff => simp [hdb] at hoff
      | notFound _ hnone => simp [hfind] at hnone
      | @guarded user' _ hfind' hlast =>
          rw [hfind] at hfind'
          cases hfind'
          simp [hlast]
      | @raised user' e' _ hfind' hpass he =>
          rw [hfind] at hfind'
          cases hfind'
          simp only [hpass, not_true_eq_false, iff_false]
          rcases he with rfl | rfl | rfl <;> simp [lastAdminProtected]

/-- With an administrator in the store, the guard lets a request pass unless it counts and
    finds exactly one. -/
theorem guardPasses_iff (hadmins : 1 ≤ (usableAdmins s).length) :
    ¬ GuardPasses payload user s ↔
      countsAdmins payload user = true ∧ (usableAdmins s).length = 1 := by
  rw [GuardPasses]
  constructor
  · intro h
    obtain ⟨hc, hn⟩ := Classical.not_imp.mp h
    exact ⟨hc, by omega⟩
  · rintro ⟨hc, h1⟩ h
    have := h hc
    omega

/-- **One request.** The guard refuses exactly the patches that would leave no administrator,
    unless the request falls into the gap. -/
theorem refused_iff_leavesNoAdmin (hdb : settings.database_enabled = true)
    (hmem : user ∈ s.accounts.rows) (hid : user.id = user_id) (hlive : user.deleted_at = none)
    (hadmins : 1 ≤ (usableAdmins s).length) :
    ((updateUser py settings clock actor user_id payload).result s = .error lastAdminProtected ↔
      LeavesNoAdmin payload user_id s) ↔ ¬ GuardGap payload user s := by
  rw [refused_iff hdb (byLiveId_find hmem hid hlive), guardPasses_iff hadmins]
  rw [GuardGap]
  cases husable : usableAdmin user with
  | true =>
      rw [leavesNoAdmin_iff_of_usable hmem hid husable, usableAdmin_applied husable]
      have hexcl : countsAdmins payload user = true →
          ¬ (payload.status = some .LOCKED ∧ payload.demotes = false) := by
        rintro hc ⟨hs, hd⟩
        simp [countsAdmins, hs, hd] at hc
      simp only [true_and, Bool.true_eq_false, false_and, or_false]
      tauto
  | false =>
      have hno : ¬ LeavesNoAdmin payload user_id s :=
        not_leavesNoAdmin_of_not_usable hmem hid husable hadmins
      simp only [hno, iff_false, Bool.false_eq_true, false_and, true_and, false_or]
      tauto

-- ── Serial runs ───────────────────────────────────────────────────────────────────

/-- A patch that passes outside the gap leaves an administrator. -/
theorem patch_keeps_admin (hdb : settings.database_enabled = true)
    (hadmins : 1 ≤ (usableAdmins s).length)
    (hgap : ∀ user, s.accounts.rows.find? (byLiveId user_id) = some user →
      ¬ GuardGap payload user s) :
    1 ≤ (usableAdmins ((updateUser py settings clock actor user_id payload).perform s)).length := by
  have hcases := updateUser_cases py settings clock actor user_id payload s
  cases heval : (updateUser py settings clock actor user_id payload).eval s with
  | error e =>
      rw [perform_of_error heval]
      exact hadmins
  | ok r =>
      obtain ⟨answer, t⟩ := r
      rw [perform_of_ok heval]
      rw [heval] at hcases
      cases hcases with
      | @updated user row _ hfind hpass hacc =>
          obtain ⟨hmem, hid, hlive⟩ := find_byLiveId hfind
          have hexact : (updateUser py settings clock actor user_id payload).result s =
              .error lastAdminProtected ↔ LeavesNoAdmin payload user_id s :=
            (refused_iff_leavesNoAdmin hdb hmem hid hlive hadmins).mpr (hgap user hfind)
          have hstays : ¬ LeavesNoAdmin payload user_id s := fun hno =>
            (refused_iff hdb hfind).mp (hexact.mpr hno) hpass
          rw [LeavesNoAdmin] at hstays
          push Not at hstays
          obtain ⟨a, ha, hadmin⟩ := hstays
          refine List.length_pos_of_mem (mem_usableAdmins.mpr
            ⟨?_, show usableAdmin (if a.id = user_id then patched py clock payload a
              else a) = true from ?_⟩)
          · have hrow := (mem_setAccount_of_accepts hacc
              (x := if a.id = user_id then patched py clock payload a else a)).mpr ⟨a, ha, rfl⟩
            rw [patchedStore, revokedStore]
            split <;> exact hrow
          · by_cases haid : a.id = user_id
            · rw [if_pos haid] at hadmin ⊢
              rw [usableAdmin_patched]
              simpa using hadmin
            · rw [if_neg haid] at hadmin ⊢
              simpa using hadmin

end Guard

/-- A request of a serial run: clock, caller, target and body. -/
structure PatchCall where
  clock : Clock
  actor : Uuid
  user_id : Uuid
  payload : UserUpdateRequest

/-- One request after another. -/
def patchStep (py : Python) (settings : Settings) (s : Store) (call : PatchCall)
    (s' : Store) : Prop :=
  s' = (updateUser py settings call.clock call.actor call.user_id call.payload).perform s

/-- The request stays out of the gap. -/
def OutsideGap (s : Store) (call : PatchCall) : Prop :=
  ∀ user, s.accounts.rows.find? (byLiveId call.user_id) = some user → ¬ GuardGap call.payload user s

/-- **The guard is exact outside the gap, and only there.** For every store with an
    administrator who can log in, every account that is not deleted and every patch, the guard
    refuses exactly the patches that would leave no such administrator if and only if the
    request is not in the gap; and every serial run of requests outside the gap keeps one. -/
theorem guard_exact_iff_no_gap {py : Python} {settings : Settings}
    (hdb : settings.database_enabled = true) :
    (∀ (s : Store) (clock : Clock) (actor : Uuid) (payload : UserUpdateRequest) (user : Account),
      1 ≤ (usableAdmins s).length → user ∈ s.accounts.rows → user.deleted_at = none →
        (((updateUser py settings clock actor user.id payload).result
          s = .error lastAdminProtected ↔
          LeavesNoAdmin payload user.id s) ↔ ¬ GuardGap payload user s)) ∧
      ∀ (s s' : Store) (calls : List PatchCall),
        Run (Restrict (patchStep py settings) OutsideGap) s calls s' →
          1 ≤ (usableAdmins s).length → 1 ≤ (usableAdmins s').length := by
  refine ⟨fun s clock actor payload user hadmins hmem hlive =>
    refused_iff_leavesNoAdmin hdb hmem rfl hlive hadmins, fun s s' calls hrun hadmins => ?_⟩
  refine hrun.invariant (I := fun s => 1 ≤ (usableAdmins s).length) ?_ hadmins
  rintro s call s' hs ⟨hgap, rfl⟩
  exact patch_keeps_admin hdb hs hgap

/-- A store with one administrator. -/
def oneAdmin : Store :=
  { Store.empty with accounts := ⟨[sampleAccount 1 (str "root") .ADMIN .ACTIVE], by decide⟩ }

/-- A store with one administrator who can log in and one who is disabled. -/
def oneOfTwoAdmins : Store :=
  { Store.empty with
    accounts :=
      ⟨[sampleAccount 1 (str "root") .ADMIN .ACTIVE, sampleAccount 2 (str "old") .ADMIN .DISABLED],
        by decide⟩ }

/-- The general result on a store with one administrator: the patch that would disable it is
    refused, and the administrator stays. -/
theorem guard_exact_on_one_admin :
    ((updateUser .asciiOnly { database_enabled := true } ⟨0, 0, 0⟩ 1 1
        (.patch none (some .DISABLED))).result oneAdmin = .error lastAdminProtected ↔
      LeavesNoAdmin (.patch none (some .DISABLED)) 1 oneAdmin) ∧
    1 ≤ (usableAdmins ((updateUser .asciiOnly { database_enabled := true } ⟨0, 0, 0⟩ 1 1
      (.patch none (some .DISABLED))).perform oneAdmin)).length := by
  obtain ⟨hstep, hserial⟩ :=
    @guard_exact_iff_no_gap .asciiOnly { database_enabled := true } rfl
  have hgap : ¬ GuardGap (.patch none (some .DISABLED))
      (sampleAccount 1 (str "root") .ADMIN .ACTIVE) oneAdmin := by
    rw [GuardGap]
    decide
  refine ⟨(hstep oneAdmin ⟨0, 0, 0⟩ 1 (.patch none (some .DISABLED))
    (sampleAccount 1 (str "root") .ADMIN .ACTIVE) (by decide) (by decide) rfl).mpr hgap, ?_⟩
  refine hserial oneAdmin _ [⟨⟨0, 0, 0⟩, 1, 1, .patch none (some .DISABLED)⟩]
    (Run.single ⟨fun user hfind => ?_, rfl⟩) (by decide)
  have huser : user = sampleAccount 1 (str "root") .ADMIN .ACTIVE := (Option.some.inj hfind).symm
  rw [huser]
  exact hgap

/-- The two gaps: the only administrator is locked without being refused, and a patch on a
    disabled administrator is refused though it would leave the other. -/
theorem guard_misses_lock_and_unusable :
    ((updateUser .asciiOnly { database_enabled := true } ⟨0, 0, 0⟩ 1 1
        (.patch none (some .LOCKED))).result oneAdmin ≠ .error lastAdminProtected ∧
      LeavesNoAdmin (.patch none (some .LOCKED)) 1 oneAdmin) ∧
    ((updateUser .asciiOnly { database_enabled := true } ⟨0, 0, 0⟩ 1 2
        (.patch (some .VIEWER) none)).result oneOfTwoAdmins = .error lastAdminProtected ∧
      ¬ LeavesNoAdmin (.patch (some .VIEWER) none) 2 oneOfTwoAdmins) := by
  refine ⟨⟨fun h => ?_, by decide⟩, ?_, by decide⟩
  · have hfind : oneAdmin.accounts.rows.find? (byLiveId 1) =
        some (sampleAccount 1 (str "root") .ADMIN .ACTIVE) := by decide
    exact (refused_iff rfl hfind).mp h fun hc => absurd hc (by decide)
  · have hfind : oneOfTwoAdmins.accounts.rows.find? (byLiveId 2) =
        some (sampleAccount 2 (str "old") .ADMIN .DISABLED) := by decide
    exact (refused_iff rfl hfind).mpr fun h => absurd (h (by decide)) (by decide)

end NetProbeLastAdmin
