import NetProbe.ProbeHandlersProofs
import NetProbe.SemaphoreOrderProofs

/-!
# The limit on concurrent diagnostics

The three probe handlers run their service inside `async with get_diagnostic_semaphore():`.  The
semaphore is one global of the process, made at the first request that reaches it.  Requests are
interleaved at their awaits; each is validated before it comes to the semaphore, may be cancelled
while it waits (the client has gone, or the server stops), and leaves the block by returning, by an
exception or by a cancellation.

Every run of the handlers is a run of tasks on a semaphore (`simulated`), and what holds of those
holds of the handlers: the limit, the return of every permit, the order of service.
-/

namespace NetProbeDiagnosticLimit

open NetProbePyText NetProbeConfig NetProbeUrlSplit NetProbeSecurity NetProbeCoreAuth
open NetProbeHttpService NetProbeTcpService NetProbeDnsService NetProbePersistence
open NetProbeProbeHandlers LabelledRun AsyncSemaphore

-- ── The handlers ──────────────────────────────────────────────────────────────────

/-- `Settings`, with the limit. -/
structure DiagnosticSettings extends Settings where
  max_concurrent_diagnostics : Int := 20

/-- A request to one of the three handlers. -/
inductive Diagnostic where
  | dns (c : DnsCall)
  | port (c : PortCall)
  | http (c : HttpCall)

section Handlers

variable (py : Python) (settings : Settings) (crypto : Crypto)

/-- What a handler checks before it comes to the semaphore. -/
def Diagnostic.validate : Diagnostic → Except ProbeError Unit
  | .dns c => (validateDomain py c.payload.domain).map fun _ => ()
  | .port c => do
      let _ ← validateHost py c.payload.host
      assertPortAllowed settings c.payload.port
  | .http _ => .ok ()

/-- What the client is answered by the handler, validation and probe included. -/
def Diagnostic.answer : Diagnostic → Answer
  | .dns c => respond (dnsLookup py settings crypto c).outcome
  | .port c => respond (portCheck py settings crypto c).outcome
  | .http c => respond (httpCheck py settings crypto c).outcome

end Handlers

/-- `get_diagnostic_semaphore()`.  A negative limit is a `ValueError`, and nothing is kept. -/
def getDiagnosticSemaphore {τ : Type} (settings : DiagnosticSettings)
    (_semaphore : Option (Semaphore τ)) :
    Except ProbeError (Semaphore τ) :=
  match _semaphore with
  | some semaphore => .ok semaphore
  | none =>
      match Semaphore.create settings.max_concurrent_diagnostics with
      | some semaphore => .ok semaphore
      | none => .error .valueError

/-- How a request ended. -/
inductive Ending where
  | answered (a : Answer)
  | cancelled

/-- Where a request is. -/
inductive Phase where
  | received
  | acquiring
  | probing
  | ended (e : Ending)

/-- One turn of the loop.  `cancelled` says whether the block was left by a cancellation. -/
inductive Turn (τ : Type) where
  | start (t : τ)
  | resume (t : τ)
  | leave (t : τ) (cancelled : Bool)
  | cancel (t : τ)

structure ServerState (τ : Type) where
  _semaphore : Option (Semaphore τ)
  phase : τ → Phase
  must_cancel : τ → Bool

section Server

variable {τ : Type} [DecidableEq τ] (py : Python) (settings : DiagnosticSettings) (crypto : Crypto)
  (request : τ → Diagnostic)

/-- No request has started, and there is no semaphore. -/
def start : ServerState τ where
  _semaphore := none
  phase := fun _ => .received
  must_cancel := fun _ => false

def ServerState.moved (s : ServerState τ) (t : τ) (p : Phase) (semaphore : Option (Semaphore τ)) :
    ServerState τ :=
  { s with phase := Function.update s.phase t p, _semaphore := semaphore }

def next (s : ServerState τ) : Turn τ → Option (ServerState τ)
  | .start t =>
      match s.phase t with
      | .received =>
          match (request t).validate py settings.toSettings with
          | .error _ =>
              some
                (s.moved t (.ended (.answered ((request t).answer py settings.toSettings crypto)))
                s._semaphore)
          | .ok () =>
              match getDiagnosticSemaphore settings s._semaphore with
              | .error _ => some (s.moved t (.ended (.answered internalServerError)) s._semaphore)
              | .ok semaphore =>
                  match semaphore.acquire t with
                  | (true, semaphore) => some (s.moved t .probing semaphore)
                  | (false, semaphore) => some (s.moved t .acquiring semaphore)
      | _ => none
  | .resume t =>
      match s.phase t, s._semaphore with
      | .acquiring, some semaphore =>
          match semaphore.resume t (s.must_cancel t) with
          | some (true, semaphore) => some (s.moved t .probing semaphore)
          | some (false, semaphore) => some (s.moved t (.ended .cancelled) semaphore)
          | none => none
      | _, _ => none
  | .leave t cancelled =>
      match s.phase t, s._semaphore with
      | .probing, some semaphore =>
          some (s.moved t (.ended (if cancelled then .cancelled
            else .answered ((request t).answer py settings.toSettings crypto))) semaphore.release)
      | _, _ => none
  | .cancel t =>
      match s.phase t, s._semaphore with
      | .acquiring, some semaphore =>
          some { s with
            _semaphore := semaphore.cancel t
            must_cancel :=
              if semaphore.waiters.lookup t = some .pending then s.must_cancel
              else Function.update s.must_cancel t true }
      | _, _ => none

def Step (s : ServerState τ) (turn : Turn τ) (s' : ServerState τ) : Prop :=
  next py settings crypto request s turn = some s'

end Server

-- ── Tasks on a semaphore ──────────────────────────────────────────────────────────

def Phase.place : Phase → Place
  | .received => .outside
  | .acquiring => .waiting
  | .probing => .inside
  | .ended _ => .left

/-- The tasks and their semaphore; before the first request it is as it will be made. -/
def ServerState.tasks {τ : Type} (settings : DiagnosticSettings) (s : ServerState τ) : State τ where
  semaphore := s._semaphore.getD ⟨settings.max_concurrent_diagnostics, []⟩
  place := fun t => (s.phase t).place
  must_cancel := s.must_cancel

/-- A request that fails its validation never comes to the semaphore. -/
def Turn.act {τ : Type} (py : Python) (settings : DiagnosticSettings) (request : τ → Diagnostic) :
    Turn τ → Act τ
  | .start t =>
      match (request t).validate py settings.toSettings with
      | .ok () => .enter t
      | .error _ => .skip t
  | .resume t => .resume t
  | .leave t _ => .exit t
  | .cancel t => .cancel t

/-- The semaphore a request comes to is the one there is, or the one that is made. -/
theorem getDiagnosticSemaphore_ok {τ : Type} {settings : DiagnosticSettings}
    {_semaphore : Option (Semaphore τ)} (hlimit : 0 ≤ settings.max_concurrent_diagnostics) :
    getDiagnosticSemaphore settings _semaphore =
      .ok (_semaphore.getD ⟨settings.max_concurrent_diagnostics, []⟩) := by
  cases _semaphore with
  | some semaphore => rfl
  | none =>
      simp only [getDiagnosticSemaphore, Semaphore.create, if_neg (Int.not_lt.mpr hlimit)]
      rfl

section Simulation

variable {τ : Type} [DecidableEq τ] {py : Python} {settings : DiagnosticSettings} {crypto : Crypto}
  {request : τ → Diagnostic} {s s' : ServerState τ} {turn : Turn τ}

theorem tasks_moved {t : τ} {p : Phase} {semaphore : Semaphore τ} :
    (s.moved t p (some semaphore)).tasks settings =
    (s.tasks settings).moved t p.place semaphore := by
  have hplace : (fun u => (Function.update s.phase t p u).place) =
      Function.update (fun u => (s.phase u).place) t p.place :=
    funext fun u => Function.apply_update (fun _ => Phase.place) s.phase t p u
  show State.mk semaphore (fun u => (Function.update s.phase t p u).place) s.must_cancel = _
  rw [hplace]
  rfl

theorem tasks_moved_same {t : τ} {p : Phase} :
    (s.moved t p s._semaphore).tasks settings =
      (s.tasks settings).moved t p.place (s.tasks settings).semaphore := by
  have hplace : (fun u => (Function.update s.phase t p u).place) =
      Function.update (fun u => (s.phase u).place) t p.place :=
    funext fun u => Function.apply_update (fun _ => Phase.place) s.phase t p u
  show State.mk (s.tasks settings).semaphore (fun u => (Function.update s.phase t p u).place)
    s.must_cancel = _
  rw [hplace]
  rfl

omit [DecidableEq τ] in
theorem tasks_must_cancel : (s.tasks settings).must_cancel = s.must_cancel := rfl

/-- **A turn of the server is a turn of the tasks on their semaphore.** -/
theorem simulated (hlimit : 0 ≤ settings.max_concurrent_diagnostics)
    (h : Step py settings crypto request s turn s') :
    AsyncSemaphore.Step (s.tasks settings) (turn.act py settings request) (s'.tasks settings) := by
  rw [Step] at h
  rw [AsyncSemaphore.Step]
  cases turn with
  | start t =>
      simp only [next] at h
      split at h
      next hphase =>
        have hplace : (s.tasks settings).place t = .outside := congrArg Phase.place hphase
        rw [Turn.act]
        split at h
        next e hinvalid =>
          cases h
          rw [hinvalid, tasks_moved_same, AsyncSemaphore.next, if_pos hplace]
          rfl
        next hvalid =>
          have hsem : getDiagnosticSemaphore settings s._semaphore =
              .ok (s.tasks settings).semaphore :=
            getDiagnosticSemaphore_ok hlimit
          rw [hsem] at h
          rw [hvalid, AsyncSemaphore.next, if_pos hplace]
          dsimp only at h ⊢
          rcases hacquire : (s.tasks settings).semaphore.acquire t with ⟨granted, sem⟩
          rw [hacquire] at h
          cases granted with
          | true =>
              cases h
              rw [tasks_moved]
              rfl
          | false =>
              cases h
              rw [tasks_moved]
              rfl
      next => cases h
  | resume t =>
      simp only [next] at h
      split at h
      next sem hphase hsem =>
        have hplace : (s.tasks settings).place t = .waiting := congrArg Phase.place hphase
        have hsem' : (s.tasks settings).semaphore = sem := congrArg (Option.getD · _) hsem
        rw [Turn.act, AsyncSemaphore.next, if_pos hplace, hsem', tasks_must_cancel]
        rcases hresume : sem.resume t (s.must_cancel t) with _ | ⟨granted, semaphore⟩
        · rw [hresume] at h
          cases h
        · rw [hresume] at h
          cases granted with
          | true =>
              cases h
              rw [tasks_moved]
              rfl
          | false =>
              cases h
              rw [tasks_moved]
              rfl
      next => cases h
  | leave t cancelled =>
      simp only [next] at h
      split at h
      next sem hphase hsem =>
        have hplace : (s.tasks settings).place t = .inside := congrArg Phase.place hphase
        have hsem' : (s.tasks settings).semaphore = sem := congrArg (Option.getD · _) hsem
        cases h
        rw [Turn.act, AsyncSemaphore.next, if_pos hplace, hsem', tasks_moved]
        rfl
      next => cases h
  | cancel t =>
      simp only [next] at h
      split at h
      next sem hphase hsem =>
        have hplace : (s.tasks settings).place t = .waiting := congrArg Phase.place hphase
        have hsem' : (s.tasks settings).semaphore = sem := congrArg (Option.getD · _) hsem
        cases h
        rw [Turn.act, AsyncSemaphore.next, if_pos hplace, hsem']
        rfl
      next => cases h

end Simulation

-- ── Every run ─────────────────────────────────────────────────────────────────────

/-- Every request whose `acquire` can go on has gone on. -/
def Settled {τ : Type} [DecidableEq τ] (py : Python)
    (settings : DiagnosticSettings) (crypto : Crypto)
    (request : τ → Diagnostic) (s : ServerState τ) : Prop :=
  ∀ t, next py settings crypto request s (.resume t) = none

/-- The requests that wait for a permit, in the order in which they came. -/
def waitingRequests {τ : Type} (s : ServerState τ) : List τ :=
  (s._semaphore.map queue).getD []

def Turn.isLeave {τ : Type} : Turn τ → Bool
  | .leave _ _ => true
  | _ => false

/-- One probe at a time. -/
abbrev oneAtATime : DiagnosticSettings := { max_concurrent_diagnostics := 1 }

theorem length_target : (str "https://example.com/").length ≤ 2048 := by decide

/-- Requests to `http_check`. -/
def checks {τ : Type} : τ → Diagnostic :=
  fun _ => .http (plainCall (str "https://example.com/") length_target)

section Runs

variable {τ : Type} {py : Python} {settings : DiagnosticSettings} {crypto : Crypto}
  {request : τ → Diagnostic} {s s' : ServerState τ} {turn : Turn τ} {turns turns' : List (Turn τ)}
  {t : τ} {l : List τ}

theorem place_inside : (s.tasks settings).place t = .inside ↔ s.phase t = .probing := by
  show (s.phase t).place = .inside ↔ _
  cases s.phase t <;> simp [Phase.place]

theorem place_waiting : (s.tasks settings).place t = .waiting ↔ s.phase t = .acquiring := by
  show (s.phase t).place = .waiting ↔ _
  cases s.phase t <;> simp [Phase.place]

theorem place_outside : (s.tasks settings).place t = .outside ↔ s.phase t = .received := by
  show (s.phase t).place = .outside ↔ _
  cases s.phase t <;> simp [Phase.place]

theorem queue_tasks : queue (s.tasks settings).semaphore = waitingRequests s := by
  show queue (s._semaphore.getD _) = (s._semaphore.map queue).getD []
  cases s._semaphore <;> rfl

variable [DecidableEq τ]

theorem tasks_run (hlimit : 0 ≤ settings.max_concurrent_diagnostics)
    (hrun : Run (Step py settings crypto request) s turns s') :
    Run AsyncSemaphore.Step (s.tasks settings) (turns.map (Turn.act py settings request))
      (s'.tasks settings) := by
  obtain ⟨a, htasks, rfl⟩ : ∃ a, Run AsyncSemaphore.Step (s.tasks settings)
      (turns.map (Turn.act py settings request)) a ∧ s'.tasks settings = a :=
    hrun.simulate (R := fun s a => s.tasks settings = a)
      (fun s turn s' a hR hstep => ⟨_, hR ▸ simulated hlimit hstep, rfl⟩) rfl
  exact htasks

theorem tasks_sound (hlimit : 0 ≤ settings.max_concurrent_diagnostics)
    (hrun : Run (Step py settings crypto request) start turns s) :
    Sound settings.max_concurrent_diagnostics (s.tasks settings) :=
  sound_run hlimit (tasks_run hlimit hrun)

/-- With a negative limit there is never a semaphore, and no request gets past it. -/
theorem refused_run (hlimit : settings.max_concurrent_diagnostics < 0)
    (hrun : Run (Step py settings crypto request) start turns s) :
    s._semaphore = none ∧ ∀ t, s.phase t ≠ .probing := by
  refine hrun.invariant (I := fun s => s._semaphore = none ∧ ∀ t, s.phase t ≠ .probing)
    (fun s turn s' hs hstep => ?_) ⟨rfl, fun t => nofun⟩
  obtain ⟨hnone, hprobing⟩ := hs
  have hmoved : ∀ t e, (s.moved t (.ended e) none)._semaphore = none ∧
      ∀ u, (s.moved t (.ended e) none).phase u ≠ .probing := by
    intro t e
    refine ⟨rfl, fun u => ?_⟩
    show Function.update s.phase t (.ended e) u ≠ .probing
    rcases eq_or_ne u t with rfl | hu
    · rw [Function.update_self]
      nofun
    · rw [Function.update_of_ne hu]
      exact hprobing u
  have hrefused : getDiagnosticSemaphore settings s._semaphore = .error .valueError := by
    rw [hnone]
    simp only [getDiagnosticSemaphore, Semaphore.create, if_pos hlimit]
  rw [Step] at hstep
  cases turn with
  | start t =>
      simp only [next, hrefused] at hstep
      rw [hnone] at hstep
      split at hstep
      · split at hstep
        · exact Option.some.inj hstep ▸ hmoved t _
        · exact Option.some.inj hstep ▸ hmoved t _
      · cases hstep
  | resume t => simp [next, hnone] at hstep
  | leave t cancelled => simp [next, hnone] at hstep
  | cancel t => simp [next, hnone] at hstep

/-- A request that waits, probes or holds a permit passed its validation. -/
theorem validated_run (hrun : Run (Step py settings crypto request) start turns s) :
    ∀ t, s.phase t = .probing ∨ s.phase t = .acquiring →
      (request t).validate py settings.toSettings = .ok () := by
  refine hrun.invariant (I := fun s => ∀ t, s.phase t = .probing ∨ s.phase t = .acquiring →
    (request t).validate py settings.toSettings = .ok ()) (fun s turn s' hs hstep => ?_) ?_
  · have hmoved : ∀ t p semaphore, ((p = .probing ∨ p = .acquiring) →
        (request t).validate py settings.toSettings = .ok ()) →
        ∀ u, (s.moved t p semaphore).phase u = .probing ∨
          (s.moved t p semaphore).phase u = .acquiring →
          (request u).validate py settings.toSettings = .ok () := by
      intro t p semaphore hp u hu
      change Function.update s.phase t p u = .probing ∨
        Function.update s.phase t p u = .acquiring at hu
      rcases eq_or_ne u t with rfl | hne
      · rw [Function.update_self] at hu
        exact hp hu
      · rw [Function.update_of_ne hne] at hu
        exact hs u hu
    rw [Step] at hstep
    cases turn with
    | start t =>
        simp only [next] at hstep
        split at hstep
        next =>
          split at hstep
          next => exact Option.some.inj hstep ▸ hmoved t _ _ (by simp)
          next hvalid =>
            split at hstep
            next => exact Option.some.inj hstep ▸ hmoved t _ _ (by simp)
            next =>
              split at hstep
              · exact Option.some.inj hstep ▸ hmoved t _ _ fun _ => hvalid
              · exact Option.some.inj hstep ▸ hmoved t _ _ fun _ => hvalid
        next => cases hstep
    | resume t =>
        simp only [next] at hstep
        split at hstep
        next hphase hsem =>
          split at hstep
          · exact Option.some.inj hstep ▸ hmoved t _ _ fun _ => hs t (Or.inr hphase)
          · exact Option.some.inj hstep ▸ hmoved t _ _ (by simp)
          · cases hstep
        next => cases hstep
    | leave t cancelled =>
        simp only [next] at hstep
        split at hstep
        · exact Option.some.inj hstep ▸ hmoved t _ _ (by simp)
        · cases hstep
    | cancel t =>
        simp only [next] at hstep
        split at hstep
        · exact Option.some.inj hstep ▸ hs
        · cases hstep
  · rintro t (h | h) <;> cases h

/-- **The limit.** However requests are interleaved, cancelled and ended, no more of them probe than
    the limit allows, and only such as passed their validation. -/
theorem probes_bounded (hrun : Run (Step py settings crypto request) start turns s) (hl : l.Nodup)
    (hprobing : ∀ t ∈ l, s.phase t = .probing) :
    (l.length : Int) ≤ max 0 settings.max_concurrent_diagnostics ∧
      ∀ t ∈ l, (request t).validate py settings.toSettings = .ok () := by
  refine ⟨?_, fun t ht => validated_run hrun t (Or.inl (hprobing t ht))⟩
  rcases Int.lt_or_le settings.max_concurrent_diagnostics 0 with hneg | hlimit
  · have hempty : l = [] := by
      refine List.eq_nil_iff_forall_not_mem.mpr fun t ht => ?_
      exact (refused_run hneg hrun).2 t (hprobing t ht)
    rw [hempty]
    exact le_max_left ..
  · refine le_max_of_le_right ?_
    exact (tasks_sound hlimit hrun).bounded hl fun t ht => place_inside.mpr (hprobing t ht)

/-- The general result while the first of two requests probes. -/
theorem second_waits :
    ∃ s : ServerState Bool,
      Run (Step .asciiOnly oneAtATime .plain checks) start [.start false, .start true] s ∧
        (([false].length : Nat) : Int) ≤ max 0 oneAtATime.max_concurrent_diagnostics ∧
          ∀ t ∈ [false], (checks t).validate .asciiOnly oneAtATime.toSettings = .ok () := by
  have hrun : Run (Step .asciiOnly oneAtATime .plain checks) start [.start false, .start true] _ :=
    .cons rfl (.cons rfl (.nil _))
  refine ⟨_, hrun, probes_bounded hrun (List.nodup_singleton false) fun t ht => ?_⟩
  rw [List.mem_singleton.mp ht]
  rfl

/-- A request that cannot go on is a task that cannot. -/
theorem resume_none (h : next py settings crypto request s (.resume t) = none) :
    AsyncSemaphore.next (s.tasks settings) (.resume t) = none := by
  rw [AsyncSemaphore.next]
  split
  next hplace =>
    have hphase := place_waiting.mp hplace
    cases hsem : s._semaphore with
    | none =>
        have hempty : (s.tasks settings).semaphore = ⟨settings.max_concurrent_diagnostics, []⟩ :=
          congrArg (Option.getD · _) hsem
        rw [hempty]
        rfl
    | some sem =>
        have hsem' : (s.tasks settings).semaphore = sem := congrArg (Option.getD · _) hsem
        rw [hsem', tasks_must_cancel]
        simp only [next, hphase, hsem] at h
        rcases hresume : sem.resume t (s.must_cancel t) with _ | ⟨granted, semaphore⟩
        · rfl
        · rw [hresume] at h
          cases granted with
          | true => cases h
          | false => cases h
  next => rfl

/-- **Every permit comes back.** Once every request that can go on has done so, the free permits are
    those no probe uses, and a request waits only if the probes use them all. -/
theorem permits_return (hlimit : 0 ≤ settings.max_concurrent_diagnostics)
    (hrun : Run (Step py settings crypto request) start turns s)
    (hsettled : Settled py settings crypto request s) :
    ∃ l : List τ, l.Nodup ∧ (∀ t, t ∈ l ↔ s.phase t = .probing) ∧
      (∀ sem, s._semaphore = some sem →
        sem.value = settings.max_concurrent_diagnostics - l.length) ∧
      ∀ t, s.phase t = .acquiring → (l.length : Int) = settings.max_concurrent_diagnostics := by
  obtain ⟨l, hl, hvalue, hwaits⟩ :=
    (tasks_sound hlimit hrun).settled fun t => resume_none (hsettled t)
  refine ⟨l, hl.nodup, fun t => (hl.mem t).trans place_inside, fun sem hsem => ?_,
    fun t ht => hwaits t (place_waiting.mpr ht)⟩
  rw [← hvalue]
  show sem.value = (s._semaphore.getD _).value
  rw [hsem]
  rfl

/-- The general result while the first of two requests probes, and the second waits. -/
theorem second_waits_settled :
    ∃ s : ServerState Bool,
      Run (Step .asciiOnly oneAtATime .plain checks) start [.start false, .start true] s ∧
        s.phase true = .acquiring ∧
        ∃ l : List Bool, l.Nodup ∧ (∀ t, t ∈ l ↔ s.phase t = .probing) ∧
          (∀ sem, s._semaphore = some sem →
            sem.value = oneAtATime.max_concurrent_diagnostics - l.length) ∧
          ∀ t, s.phase t = .acquiring →
            (l.length : Int) = oneAtATime.max_concurrent_diagnostics := by
  have hrun : Run (Step .asciiOnly oneAtATime .plain checks) start [.start false, .start true] _ :=
    .cons rfl (.cons rfl (.nil _))
  refine ⟨_, hrun, rfl, permits_return (by decide) hrun fun t => ?_⟩
  cases t with
  | false => rfl
  | true => rfl

/-- **First come, first served.** While a request waits, no more probes end than requests waited
    before it, and no request that came after it probes. -/
theorem served_in_order (hlimit : 0 ≤ settings.max_concurrent_diagnostics)
    (hrun : Run (Step py settings crypto request) start turns s)
    (hrun' : Run (Step py settings crypto request) s turns' s') (ht : t ∈ waitingRequests s)
    (ht' : t ∈ waitingRequests s') :
    turns'.countP Turn.isLeave + (waitingRequests s').idxOf t ≤ (waitingRequests s).idxOf t ∧
      ∀ u, s.phase u = .received → s'.phase u ≠ .probing := by
  have hs := tasks_sound hlimit hrun
  have htasks := tasks_run hlimit hrun'
  have hqueue : ∀ s : ServerState τ, queue (s.tasks settings).semaphore = waitingRequests s :=
    fun _ => queue_tasks
  rw [← hqueue] at ht ht'
  constructor
  · have hplace : (s.tasks settings).place t ≠ .outside := by
      rw [hs.waits (mem_queue.mp ht)]
      nofun
    have hahead := bounded_waiting hs htasks hplace ht'
    have hcount : (turns'.map (Turn.act py settings request)).countP Act.isExit =
        turns'.countP Turn.isLeave := by
      rw [List.countP_map]
      refine List.countP_congr fun turn _ => ?_
      cases turn with
      | start u =>
          show (Turn.act py settings request (.start u)).isExit = true ↔ _
          rw [Turn.act]
          split <;> exact Iff.rfl
      | resume u => exact Iff.rfl
      | leave u c => exact Iff.rfl
      | cancel u => exact Iff.rfl
    rwa [hcount, queue_tasks, queue_tasks] at hahead
  · intro u hu hprobing
    refine no_overtaking hs htasks ht (place_outside.mpr hu) ht' (Or.inl ?_)
    exact place_inside.mpr hprobing

/-- The general result on the third of four requests. -/
theorem third_is_next :
    ∃ s s' : ServerState (Fin 4),
      Run (Step .asciiOnly oneAtATime .plain checks) start [.start 0, .start 1, .start 2] s ∧
        Run (Step .asciiOnly oneAtATime .plain checks) s [.start 3, .leave 0 false, .resume 1] s' ∧
        List.countP Turn.isLeave ([.start 3, .leave 0 false, .resume 1] : List (Turn (Fin 4))) +
            (waitingRequests s').idxOf 2 ≤ (waitingRequests s).idxOf 2 ∧
          ∀ u, s.phase u = .received → s'.phase u ≠ .probing := by
  have hrun : Run (Step .asciiOnly oneAtATime .plain checks) start
      [.start (0 : Fin 4), .start 1, .start 2] _ := .cons rfl (.cons rfl (.cons rfl (.nil _)))
  refine ⟨_, _, hrun, .cons rfl (.cons rfl (.cons rfl (.nil _))), ?_⟩
  exact served_in_order (by decide) hrun (.cons rfl (.cons rfl (.cons rfl (.nil _)))) (by decide)
    (by decide)

/-- The loop runs every request that can go on, and every probe ends. -/
structure Scheduled (py : Python) (settings : DiagnosticSettings) (crypto : Crypto)
    (request : τ → Diagnostic) (ρ : Nat → ServerState τ) (l : Nat → Option (Turn τ)) : Prop where
  resumes : ∀ n t, (next py settings crypto request (ρ n) (.resume t)).isSome →
    ∃ m, n ≤ m ∧ l m = some (.resume t)
  leaves : ∀ n t, (ρ n).phase t = .probing → ∃ m c, n ≤ m ∧ l m = some (.leave t c)

/-- **Every request probes at last.** With a limit of at least one, a request that waits probes, if
    it is not cancelled, the loop runs what can go on and every probe ends. -/
theorem probes_at_last {ρ : Nat → ServerState τ} {l : Nat → Option (Turn τ)} {n : Nat}
    (hlimit : 1 ≤ settings.max_concurrent_diagnostics)
    (hrun : Endless (Step py settings crypto request) ρ l) (hstart : ρ 0 = start)
    (hsched : Scheduled py settings crypto request ρ l) (hnever : ∀ m, l m ≠ some (.cancel t))
    (hwait : (ρ n).phase t = .acquiring) :
    ∃ m, n ≤ m ∧ (ρ m).phase t = .probing := by
  have hlimit' : 0 ≤ settings.max_concurrent_diagnostics := Int.le_trans (by decide) hlimit
  have htasks : Endless AsyncSemaphore.Step (fun n => (ρ n).tasks settings)
      fun n => (l n).map (Turn.act py settings request) :=
    hrun.map fun _ _ _ hstep => simulated hlimit' hstep
  have hsched' : AsyncSemaphore.Scheduled (fun n => (ρ n).tasks settings)
      fun n => (l n).map (Turn.act py settings request) := by
    refine ⟨fun n t hresume => ?_, fun n t hin => ?_⟩
    · have hcan : (next py settings crypto request (ρ n) (.resume t)).isSome := by
        rw [Option.isSome_iff_ne_none]
        intro hnone
        rw [resume_none hnone] at hresume
        cases hresume
      obtain ⟨m, hm, hl⟩ := hsched.resumes n t hcan
      exact ⟨m, hm, by rw [hl]; rfl⟩
    · obtain ⟨m, c, hm, hl⟩ := hsched.leaves n t (place_inside.mp hin)
      exact ⟨m, hm, by rw [hl]; rfl⟩
  have hnever' : ∀ m, (l m).map (Turn.act py settings request) ≠ some (.cancel t) := by
    intro m hcancel
    obtain ⟨turn, hturn, hact⟩ := Option.map_eq_some_iff.mp hcancel
    cases turn with
    | start u =>
        rw [Turn.act] at hact
        split at hact <;> cases hact
    | resume u => cases hact
    | leave u c => cases hact
    | cancel u =>
        cases hact
        exact hnever m hturn
  obtain ⟨m, hm, hin⟩ :=
    admitted_at_last hlimit htasks (congrArg (ServerState.tasks settings) hstart)
    hsched' hnever' (place_waiting.mpr hwait)
  exact ⟨m, hm, place_inside.mp hin⟩

/-- Two requests, one after the other, and then none. -/
def oneByOne : List (Turn Bool) :=
  [.start false, .start true, .leave false false, .resume true, .leave true false]

/-- The state after `n` turns of them. -/
def oneByOneState (n : Nat) : ServerState Bool :=
  (exec (next .asciiOnly oneAtATime .plain checks) start (oneByOne.take n)).getD start

theorem oneByOneState_end (n : Nat) : oneByOneState (n + 5) = oneByOneState 5 := by
  rw [oneByOneState, List.take_of_length_le (Nat.le_add_left 5 n)]
  rfl

theorem oneByOne_scheduled :
    Scheduled .asciiOnly oneAtATime .plain checks oneByOneState fun n => oneByOne[n]? := by
  have hresumes :
      ∀ n t, (next .asciiOnly oneAtATime .plain checks (oneByOneState n) (.resume t)).isSome →
      n ≤ 3 ∧ t = true := by
    intro n t h
    match n, t with
    | 0, false | 0, true | 1, false | 1, true | 2, false | 2, true | 3, false | 4,
      false | 4, true => cases h
    | 3, true => exact ⟨Nat.le_refl 3, rfl⟩
    | n + 5, false | n + 5, true =>
        rw [oneByOneState_end] at h
        cases h
  have hleaves : ∀ n t, (oneByOneState n).phase t = .probing →
      n ≤ 2 ∧ t = false ∨ n ≤ 4 ∧ t = true := by
    intro n t h
    match n, t with
    | 0, false | 0, true | 1, true | 2, true | 3, false | 3, true | 4, false => cases h
    | 1, false | 2, false => exact Or.inl ⟨by decide, rfl⟩
    | 4, true => exact Or.inr ⟨by decide, rfl⟩
    | n + 5, false | n + 5, true =>
        rw [oneByOneState_end] at h
        cases h
  refine ⟨fun n t h => ?_, fun n t h => ?_⟩
  · obtain ⟨hn, rfl⟩ := hresumes n t h
    exact ⟨3, hn, rfl⟩
  · rcases hleaves n t h with ⟨hn, rfl⟩ | ⟨hn, rfl⟩
    · exact ⟨2, false, hn, rfl⟩
    · exact ⟨4, false, hn, rfl⟩

/-- The general result on the second of two requests. -/
theorem second_probes : ∃ m, 2 ≤ m ∧ (oneByOneState m).phase true = .probing := by
  have hexec : ∃ s', exec (next .asciiOnly oneAtATime .plain checks) start oneByOne = some s' :=
    ⟨_, rfl⟩
  obtain ⟨s', hs'⟩ := hexec
  refine probes_at_last (by decide) (endless_of_exec hs') rfl oneByOne_scheduled (fun m => ?_) rfl
  match m with
  | 0 | 1 | 2 | 3 | 4 | _ + 5 => nofun

end Runs

end NetProbeDiagnosticLimit
