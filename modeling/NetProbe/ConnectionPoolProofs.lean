import NetProbe.ConfigProofs
import NetProbe.EventLoopProofs

/-!
# The connection pool

`get_pool` tests the global `_pool`, awaits `create_pool`, and then assigns the global;
`dispose_engine` awaits `close` of the pool it finds there, and then clears it.  Any number of
calls are interleaved at these awaits.

A pool that a caller of `get_pool` receives has not been closed by a `dispose_engine` that has
returned, in every run (`received`).  That no second pool is open holds as long as an await ends
while the global names no other open pool (`OthersClosed`, `one_pool_while`).
-/

namespace NetProbeConnectionPool

open NetProbePyText NetProbeConfig LabelledRun EventLoop EventLoop.Coroutine

-- ── The two functions ─────────────────────────────────────────────────────────────

/-- What is awaited of the driver. -/
inductive PoolCall (π : Type) where
  | create_pool
  | close (pool : π)
  deriving DecidableEq

/-- What it answers. -/
abbrev PoolCall.Result {π : Type} : PoolCall π → Type
  | .create_pool => π
  | .close _ => Unit

/-- The exceptions: that of `get_pool`, and those raised at an await. -/
inductive PyException (ε : Type) where
  | runtimeError (message : Str)
  | raised (e : ε)

/-- The shared variable is `_pool`. -/
abbrev PoolTask (π ε α : Type) : Type :=
  Coroutine (Option π) (PoolCall π) PoolCall.Result (PyException ε) α

section Functions

variable {π ε : Type}

def getPool (settings : Settings) : PoolTask π ε (Option π) := do
  if !settings.database_enabled then
    raise (.runtimeError (str "데이터베이스 기능이 비활성화되어 있습니다."))
  if (← read).isNone then
    let pool ← await PoolCall.create_pool
    write (some pool)
  read

/-- It returns `None`. -/
def disposeEngine : PoolTask π ε (Option π) := do
  if let some pool ← read then
    await (PoolCall.close pool)
  write none
  return none

end Functions

/-- A call of one of them. -/
inductive SessionCall where
  | getPool
  | disposeEngine
  deriving DecidableEq

def SessionCall.task {π ε : Type} (settings : Settings) : SessionCall → PoolTask π ε (Option π)
  | .getPool => NetProbeConnectionPool.getPool settings
  | .disposeEngine => NetProbeConnectionPool.disposeEngine

-- ── The driver ────────────────────────────────────────────────────────────────────

/-- The pools of asyncpg.  `create_pool` returns a new pool, which is open; if it raises there is
    none.  A pool is closed when its `close` returns, and also when it raises: it is terminated
    then. -/
structure Driver (π ι ω ε : Type) where
  create_pool : ι → ω → Option (Except (PyException ε) π × ω)
  close : π → ι → ω → Option (Except (PyException ε) Unit × ω)
  Created : ω → π → Prop
  Opened : ω → π → Prop
  start : ω
  start_opened : ∀ p, ¬ Opened start p
  create_new : ∀ {i w p w'}, create_pool i w = some (.ok p, w') → ¬ Created w p
  create_created : ∀ {i w p w'}, create_pool i w = some (.ok p, w') →
    ∀ q, Created w' q ↔ Created w q ∨ q = p
  create_opened : ∀ {i w p w'}, create_pool i w = some (.ok p, w') →
    ∀ q, Opened w' q ↔ Opened w q ∨ q = p
  create_raised : ∀ {i w e w'}, create_pool i w = some (.error e, w') →
    ∀ q, (Created w' q ↔ Created w q) ∧ (Opened w' q ↔ Opened w q)
  close_created : ∀ {p i w o w'}, close p i w = some (o, w') → ∀ q, Created w' q ↔ Created w q
  close_opened : ∀ {p i w o w'}, close p i w = some (o, w') → ∀ q, Opened w' q ↔ Opened w q ∧ q ≠ p

def Driver.service {π ι ω ε : Type} (D : Driver π ι ω ε) :
    Service (PoolCall π) PoolCall.Result ι ω (PyException ε) where
  answer
    | .create_pool => D.create_pool
    | .close pool => D.close pool

-- ── The invariants ────────────────────────────────────────────────────────────────

section Invariants

variable {τ π ι ω ε : Type}

/-- What the calls have awaited, with the answers. -/
abbrev History (τ π ε : Type) : Type :=
  τ → List (Event (PoolCall π) PoolCall.Result (PyException ε))

/-- A `close` of the pool has ended so. -/
def ClosedWith (h : History τ π ε) (p : π) (o : Except (PyException ε) Unit) : Prop :=
  ∃ u, ⟨.close p, o⟩ ∈ h u

/-- The global names a pool whose `close` has not returned, and which is open unless a `close` of it
    has raised. -/
structure Named (D : Driver π ι ω ε) (g : Option π) (w : ω) (h : History τ π ε) : Prop where
  created : ∀ p, g = some p → D.Created w p
  closed_created : ∀ p o, ClosedWith h p o → D.Created w p
  not_closed : ∀ p, g = some p → ¬ ClosedWith h p (.ok ())
  opened : ∀ p, g = some p → D.Opened w p ∨ ∃ e, ClosedWith h p (.error e)

/-- A pool that is open is the one the global names. -/
def Sole (D : Driver π ι ω ε) (g : Option π) (w : ω) (_ : History τ π ε) : Prop :=
  ∀ p, D.Opened w p → g = some p

/-- An await ends while the global names no open pool, or the one that was closed. -/
def OthersClosed (D : Driver π ι ω ε) :
    (c : PoolCall π) → Except (PyException ε) c.Result → Option π → ω → Prop
  | .create_pool, .ok _, g, w => ∀ q ∈ g, ¬ D.Opened w q
  | .create_pool, .error _, _, _ => True
  | .close p, _, g, w => ∀ q ∈ g, q ≠ p → ¬ D.Opened w q

variable {D : Driver π ι ω ε} {g : Option π} {w w' : ω} {h h' : History τ π ε} {t : τ} {i : ι}
  {p q : π} {e : PyException ε} {o o' : Except (PyException ε) Unit}

theorem Sole.create_ok (hI : Sole D g w h) (hcreate : D.create_pool i w = some (.ok p, w'))
    (hothers : ∀ q, g = some q → ¬ D.Opened w q) : Sole D (some p) w' h' := by
  intro q hq
  rcases (D.create_opened hcreate q).mp hq with hopen | rfl
  · exact absurd hopen (hothers q (hI q hopen))
  · rfl

theorem Sole.create_raised (hI : Sole D g w h)
    (hcreate : D.create_pool i w = some (.error e, w')) : Sole D g w' h' := by
  intro q hq
  exact hI q ((D.create_raised hcreate q).2.mp hq)

/-- After a `close` no pool is open. -/
theorem Sole.none_open (hI : Sole D g w h) (hclose : D.close p i w = some (o, w'))
    (hothers : ∀ q, g = some q → q ≠ p → ¬ D.Opened w q) : ∀ q, ¬ D.Opened w' q := by
  intro q hq
  obtain ⟨hopen, hne⟩ := (D.close_opened hclose q).mp hq
  exact hothers q (hI q hopen) hne hopen

variable [DecidableEq τ]

theorem closedWith_create {c : Except (PyException ε) π} :
    ClosedWith (record h t ⟨.create_pool, c⟩) q o ↔ ClosedWith h q o := by
  refine exists_congr fun u => ?_
  rw [mem_record]
  refine or_iff_left fun hsame => ?_
  cases hsame.2

theorem closedWith_close :
    ClosedWith (record h t ⟨.close p, o⟩) q o' ↔ ClosedWith h q o' ∨ q = p ∧ o' = o := by
  constructor
  · rintro ⟨u, hu⟩
    rcases mem_record.mp hu with hu | ⟨_, hsame⟩
    · exact Or.inl ⟨u, hu⟩
    · cases hsame
      exact Or.inr ⟨rfl, rfl⟩
  · rintro (⟨u, hu⟩ | ⟨rfl, rfl⟩)
    · exact ⟨u, mem_record.mpr (Or.inl hu)⟩
    · exact ⟨t, mem_record.mpr (Or.inr ⟨rfl, rfl⟩)⟩

/-- A pool stays created. -/
theorem created_later (hlater : Later D.service w w') (hp : D.Created w p) : D.Created w' p := by
  induction hlater with
  | refl => exact hp
  | tail _ hanswer ih =>
      obtain ⟨c, i, o, hanswer⟩ := hanswer
      cases c with
      | create_pool =>
          cases o with
          | ok q => exact (D.create_created hanswer p).mpr (Or.inl ih)
          | error e => exact (D.create_raised hanswer p).1.mpr ih
      | close q => exact (D.close_created hanswer p).mpr ih

theorem Named.create_ok (hI : Named D g w h) (hcreate : D.create_pool i w = some (.ok p, w')) :
    Named D (some p) w' (record h t ⟨.create_pool, .ok p⟩) := by
  refine ⟨fun q hq => ?_, fun q o hclosed => ?_, fun q hq hclosed => ?_, fun q hq => Or.inl ?_⟩
  · cases hq
    exact (D.create_created hcreate p).mpr (Or.inr rfl)
  · exact (D.create_created hcreate q).mpr
      (Or.inl (hI.closed_created q o (closedWith_create.mp hclosed)))
  · cases hq
    exact D.create_new hcreate (hI.closed_created p _ (closedWith_create.mp hclosed))
  · cases hq
    exact (D.create_opened hcreate p).mpr (Or.inr rfl)

theorem Named.create_raised (hI : Named D g w h)
    (hcreate : D.create_pool i w = some (.error e, w')) :
    Named D g w' (record h t ⟨.create_pool, .error e⟩) := by
  refine ⟨fun q hq => ?_, fun q o hclosed => ?_, fun q hq hclosed => ?_, fun q hq => ?_⟩
  · exact (D.create_raised hcreate q).1.mpr (hI.created q hq)
  · exact (D.create_raised hcreate q).1.mpr (hI.closed_created q o (closedWith_create.mp hclosed))
  · exact hI.not_closed q hq (closedWith_create.mp hclosed)
  · refine (hI.opened q hq).imp (D.create_raised hcreate q).2.mpr ?_
    rintro ⟨e', hclosed⟩
    exact ⟨e', closedWith_create.mpr hclosed⟩

theorem Named.close_ok (hI : Named D g w h) (hp : D.Created w p)
    (hclose : D.close p i w = some (.ok (), w')) :
    Named D none w' (record h t ⟨.close p, .ok ()⟩) := by
  refine ⟨fun q hq => ?_, fun q o hclosed => (D.close_created hclose q).mpr ?_, fun q hq => ?_,
    fun q hq => ?_⟩
  · cases hq
  · rcases closedWith_close.mp hclosed with hclosed | ⟨rfl, rfl⟩
    · exact hI.closed_created q o hclosed
    · exact hp
  · cases hq
  · cases hq

theorem Named.close_raised (hI : Named D g w h) (hp : D.Created w p)
    (hclose : D.close p i w = some (.error e, w')) :
    Named D g w' (record h t ⟨.close p, .error e⟩) := by
  refine ⟨fun q hq => ?_, fun q o hclosed => (D.close_created hclose q).mpr ?_,
    fun q hq hclosed => ?_, fun q hq => ?_⟩
  · exact (D.close_created hclose q).mpr (hI.created q hq)
  · rcases closedWith_close.mp hclosed with hclosed | ⟨rfl, rfl⟩
    · exact hI.closed_created q o hclosed
    · exact hp
  · rcases closedWith_close.mp hclosed with hclosed | ⟨_, hsame⟩
    · exact hI.not_closed q hq hclosed
    · cases hsame
  · by_cases hqp : q = p
    · subst hqp
      exact Or.inr ⟨e, closedWith_close.mpr (Or.inr ⟨rfl, rfl⟩)⟩
    · refine (hI.opened q hq).imp (fun hopen => (D.close_opened hclose q).mpr ⟨hopen, hqp⟩) ?_
      rintro ⟨e', hclosed⟩
      exact ⟨e', closedWith_close.mpr (Or.inl hclosed)⟩

end Invariants

-- ── What the two functions do ─────────────────────────────────────────────────────

section Functions

variable {τ π ι ω ε : Type} [DecidableEq τ] {D : Driver π ι ω ε} {settings : Settings}
  {C : (c : PoolCall π) → Except (PyException ε) c.Result → Option π → ω → Prop}
  {I : Option π → ω → History τ π ε → Prop} {g : Option π} {w : ω} {h : History τ π ε} {t : τ}

/-- The postconditions of a call. -/
abbrev PoolPost (τ π ω ε : Type) : Type :=
  Post τ (Option π) (PoolCall π) PoolCall.Result ω (PyException ε) (Option π)

/-- `get_pool` keeps what `create_pool` keeps, and returns the pool the global names. -/
theorem keeps_getPool (hI : I g w h)
    (hcreated : ∀ g w h i p w', I g w h → D.create_pool i w = some (.ok p, w') →
      C .create_pool (.ok p) g w → I (some p) w' (record h t ⟨.create_pool, .ok p⟩))
    (hraised : ∀ g w h i e w', I g w h → D.create_pool i w = some (.error e, w') →
      I g w' (record h t ⟨.create_pool, .error e⟩)) :
    Keeps D.service C I t (fun r g w h => I g w h ∧ ∀ a, r = .ok a → a = g ∧ g ≠ none)
      (getPool settings) g w h := by
  rw [getPool]
  split
  · simp only [keeps_bind, keeps_raise]
    refine ⟨hI, fun a ha => ?_⟩
    cases ha
  · simp only [keeps_bind, keeps_read]
    cases g with
    | some p =>
        simp only [Option.isNone_some, Bool.false_eq_true, if_false, keeps_read]
        refine ⟨hI, fun a ha => ?_⟩
        cases ha
        exact ⟨rfl, Option.some_ne_none p⟩
    | none =>
        simp only [Option.isNone_none, if_true, keeps_bind, keeps_write, keeps_read]
        refine keeps_await hI fun g' w' h' i o w'' hI' _ _ hanswer hC => ?_
        cases o with
        | ok p =>
            refine ⟨hcreated g' w' h' i p w'' hI' hanswer hC, fun a ha => ?_⟩
            cases ha
            exact ⟨rfl, Option.some_ne_none p⟩
        | error e =>
            refine ⟨hraised g' w' h' i e w'' hI' hanswer, fun a ha => ?_⟩
            cases ha

/-- `dispose_engine` clears the global after the `close` of the pool it has found there; if that
    raises it leaves the global alone. -/
theorem keeps_disposeEngine {Q : PoolPost τ π ω ε} (hI : I g w h)
    (hnone : g = none → Q (.ok none) none w h)
    (hclosed : ∀ p, g = some p → ∀ g' w' h' i w'', I g' w' h' → Later D.service w w' → h' t = h t →
      D.close p i w' = some (.ok (), w'') → C (.close p) (.ok ()) g' w' →
        I none w'' (record h' t ⟨.close p, .ok ()⟩) ∧
          Q (.ok none) none w'' (record h' t ⟨.close p, .ok ()⟩))
    (hraised : ∀ p, g = some p → ∀ g' w' h' i e w'', I g' w' h' →
      Later D.service w w' → h' t = h t →
      D.close p i w' = some (.error e, w'') → C (.close p) (.error e) g' w' →
        I g' w'' (record h' t ⟨.close p, .error e⟩) ∧
          Q (.error e) g' w'' (record h' t ⟨.close p, .error e⟩)) :
    Keeps D.service C I t (fun r g w h => I g w h ∧ Q r g w h) disposeEngine g w h := by
  simp only [disposeEngine, keeps_bind, keeps_read]
  cases g with
  | none =>
      simp only [keeps_bind, keeps_write, keeps_pure]
      exact ⟨hI, hnone rfl⟩
  | some p =>
      simp only [keeps_bind, keeps_write, keeps_pure]
      refine keeps_await hI fun g' w' h' i o w'' hI' hlater hown hanswer hC => ?_
      cases o with
      | ok a => exact hclosed p rfl g' w' h' i w'' hI' hlater hown hanswer hC
      | error e => exact hraised p rfl g' w' h' i e w'' hI' hlater hown hanswer hC

end Functions

-- ── Runs ──────────────────────────────────────────────────────────────────────────

/-- The state of the module, of the pools and of the calls. -/
abbrev PoolState (τ π ω ε : Type) : Type :=
  State τ (Option π) (PoolCall π) PoolCall.Result ω (PyException ε) (Option π)

section Runs

variable {τ π ι ω ε : Type} [DecidableEq τ] {D : Driver π ι ω ε} {settings : Settings}
  {C : (c : PoolCall π) → Except (PyException ε) c.Result → Option π → ω → Prop}
  {calls : τ → SessionCall} {s s' : PoolState τ π ω ε} {act : Act τ ι} {acts : List (Act τ ι)}
  {g : Option π} {w : ω} {h : History τ π ε} {t : τ}

/-- No call has started, and no pool has been created. -/
def start (D : Driver π ι ω ε) (settings : Settings) (calls : τ → SessionCall) :
    PoolState τ π ω ε :=
  initial (fun t => (calls t).task settings) none D.start

def InProgress (s : PoolState τ π ω ε) (t : τ) : Prop :=
  ∃ c k, s.phase t = .suspended c k

/-- What is said of a step: at most one pool is open after it; a call of `get_pool` that it ends has
    received a pool that no completed `dispose_engine` has closed, and that is open unless a `close`
    of it has raised; and if it ends a `dispose_engine`, with no `get_pool` in progress, no pool is
    open. -/
structure OnePool (D : Driver π ι ω ε) (calls : τ → SessionCall) (s s' : PoolState τ π ω ε) :
    Prop where
  one_open : ∀ p q, D.Opened s'.world p → D.Opened s'.world q → p = q
  received : ∀ t a, calls t = .getPool → Ends s s' t (.ok a) → ∃ p, a = some p ∧
    (∀ u b o, calls u = .disposeEngine → s'.phase u = .ended (.ok b) → ⟨.close p, o⟩ ∉ s'.trace u) ∧
    (D.Opened s'.world p ∨ ∃ e, ClosedWith s'.trace p (.error e))
  disposed : ∀ t r, calls t = .disposeEngine → Ends s s' t r →
    (∀ u, calls u = .getPool → ¬ InProgress s' u) → ∀ p, ¬ D.Opened s'.world p

/-- What a call that ends says about the pool the global names, and about its own `close`. -/
def Answers (t : τ) : SessionCall → PoolPost τ π ω ε
  | .getPool => fun r g _ _ => ∀ a, r = .ok a → a = g ∧ g ≠ none
  | .disposeEngine => fun r _ _ h => ∀ a, r = .ok a → ∀ p o, ⟨.close p, o⟩ ∈ h t → o = .ok ()

/-- A `dispose_engine` that ends leaves no pool open. -/
def LeavesNone (D : Driver π ι ω ε) : SessionCall → PoolPost τ π ω ε
  | .getPool => fun _ _ _ _ => True
  | .disposeEngine => fun _ _ w _ => ∀ p, ¬ D.Opened w p

theorem keeps_named (call : SessionCall) (hI : Named D g w h) (hown : h t = []) :
    Keeps D.service C (Named D) t (fun r g w h => Named D g w h ∧ Answers t call r g w h)
      (call.task settings) g w h := by
  cases call with
  | getPool =>
      exact keeps_getPool hI (fun _ _ _ _ _ _ hI' hcreate _ => hI'.create_ok hcreate)
        fun _ _ _ _ _ _ hI' hcreate => hI'.create_raised hcreate
  | disposeEngine =>
      refine keeps_disposeEngine hI (fun _ a _ p o hmem => ?_) ?_ ?_
      · rw [hown] at hmem
        cases hmem
      · intro p hp g' w' h' i w'' hI' hlater hown' hclose _
        refine ⟨hI'.close_ok (created_later hlater (hI.created p hp)) hclose,
          fun a _ q o hmem => ?_⟩
        rcases mem_record.mp hmem with hmem | ⟨_, hsame⟩
        · rw [hown', hown] at hmem
          cases hmem
        · cases hsame
          rfl
      · intro p hp g' w' h' i e w'' hI' hlater _ hclose _
        refine ⟨hI'.close_raised (created_later hlater (hI.created p hp)) hclose, fun a ha => ?_⟩
        cases ha

theorem keeps_sole (call : SessionCall) (hI : Sole D g w h) :
    Keeps D.service (OthersClosed D) (Sole D) t
      (fun r g w h => Sole D g w h ∧ LeavesNone D call r g w h) (call.task settings) g w h := by
  cases call with
  | getPool =>
      refine (keeps_getPool hI (fun _ _ _ _ _ _ hI' hcreate hothers => ?_)
        fun _ _ _ _ _ _ hI' hcreate => ?_).mono fun _ _ _ _ hend => ⟨hend.1, trivial⟩
      · exact hI'.create_ok hcreate hothers
      · exact hI'.create_raised hcreate
  | disposeEngine =>
      refine keeps_disposeEngine hI (fun hnone p hopen => ?_) ?_ ?_
      · cases hnone.symm.trans (hI p hopen)
      · intro p _ g' w' h' i w'' hI' _ _ hclose hothers
        have hnone := hI'.none_open hclose hothers
        exact ⟨fun q hq => absurd hq (hnone q), hnone⟩
      · intro p _ g' w' h' i e w'' hI' _ _ hclose hothers
        have hnone := hI'.none_open hclose hothers
        exact ⟨fun q hq => absurd hq (hnone q), hnone⟩

theorem kept_named
    (hrun : Run (Restrict (Step D.service) (Meets D.service C)) (start D settings calls) acts s) :
    Kept D.service C (Named D) (fun t => Answers t (calls t)) s := by
  refine kept_run (kept_initial ⟨?_, ?_, ?_, ?_⟩ fun t g w h hI hown =>
    keeps_named (calls t) hI hown) hrun
  · intro p hp
    cases hp
  · rintro p o ⟨u, hu⟩
    cases hu
  · intro p hp
    cases hp
  · intro p hp
    cases hp

theorem kept_sole (hrun : Run (Restrict (Step D.service) (Meets D.service (OthersClosed D)))
    (start D settings calls) acts s) :
    Kept D.service (OthersClosed D) (Sole D) (fun t => LeavesNone D (calls t)) s := by
  refine kept_run (kept_initial ?_ fun t g w h hI _ => keeps_sole (calls t) hI) hrun
  intro p hp
  exact absurd hp (D.start_opened p)

/-- **What a caller receives**, in every run. -/
theorem received
    (hrun : Run (Restrict (Step D.service) (Meets D.service C)) (start D settings calls) acts s)
    (hstep : Restrict (Step D.service) (Meets D.service C) s act s') {a : Option π}
    (hcall : calls t = .getPool) (hends : Ends s s' t (.ok a)) :
    ∃ p, a = some p ∧
      (∀ u b o, calls u = .disposeEngine → s'.phase u = .ended (.ok b) →
        ⟨.close p, o⟩ ∉ s'.trace u) ∧
      (D.Opened s'.world p ∨ ∃ e, ClosedWith s'.trace p (.error e)) := by
  obtain ⟨hkept, hpost⟩ := (kept_named hrun).step hstep
  have hanswers := hpost t _ hends
  rw [hcall] at hanswers
  obtain ⟨rfl, hsome⟩ := hanswers a rfl
  obtain ⟨p, hp⟩ := Option.ne_none_iff_exists'.mp hsome
  refine ⟨p, hp, fun u b o hdispose hended hmem => ?_, hkept.inv.opened p hp⟩
  obtain ⟨g, w, h, hown, hreturned⟩ := hkept.ended hended
  rw [hdispose] at hreturned
  obtain rfl := hreturned b rfl p o (hown ▸ hmem)
  exact hkept.inv.not_closed p hp ⟨u, hmem⟩

/-- A creation that returns while the global names an open pool leaves two of them open. -/
theorem two_open_of_created
    (hrun : Run (Restrict (Step D.service) (Meets D.service C)) (start D settings calls) acts s)
    {i : ι} {p q : π} (hq : s.shared = some q) (hopen : D.Opened s.world q)
    (hcreate : D.create_pool i s.world = some (.ok p, w)) :
    p ≠ q ∧ D.Opened w p ∧ D.Opened w q := by
  refine ⟨?_, (D.create_opened hcreate p).mpr (Or.inr rfl),
    (D.create_opened hcreate q).mpr (Or.inl hopen)⟩
  rintro rfl
  exact D.create_new hcreate ((kept_named hrun).inv.created p hq)

/-- **One pool**, in every run in which every await ends while the global names no other open
    pool. -/
theorem one_pool_while
    (hrun : Run (Restrict (Step D.service) (Meets D.service (OthersClosed D)))
      (start D settings calls) acts s)
    (hstep : Restrict (Step D.service) (Meets D.service (OthersClosed D)) s act s') :
    OnePool D calls s s' := by
  obtain ⟨hkept, hpost⟩ := (kept_sole hrun).step hstep
  refine ⟨fun p q hp hq => ?_, fun t a hcall hends => received hrun hstep hcall hends,
    fun t r hcall hends _ => ?_⟩
  · exact Option.some.inj ((hkept.inv p hp).symm.trans (hkept.inv q hq))
  · have hnone := hpost t r hends
    rw [hcall] at hnone
    exact hnone

end Runs

-- ── Two runs ──────────────────────────────────────────────────────────────────────

/-- How many pools were created, and which are open. -/
structure Numbered where
  created : Nat
  opened : List Nat

/-- Pools are numbered as they are created, and an await is answered or raises. -/
def numbered : Driver Nat Bool Numbered Unit where
  create_pool
    | true, w => some (.ok w.created, ⟨w.created + 1, w.created :: w.opened⟩)
    | false, w => some (.error (.raised ()), w)
  close
    | p, true, w => some (.ok (), ⟨w.created, w.opened.filter (· ≠ p)⟩)
    | p, false, w => some (.error (.raised ()), ⟨w.created, w.opened.filter (· ≠ p)⟩)
  Created w p := p < w.created
  Opened w p := p ∈ w.opened
  start := ⟨0, []⟩
  start_opened := fun p hp => by cases hp
  create_new := by
    intro i w p w' h
    cases i <;> cases h
    exact Nat.lt_irrefl _
  create_created := by
    intro i w p w' h q
    cases i <;> cases h
    exact Nat.lt_succ_iff_lt_or_eq
  create_opened := by
    intro i w p w' h q
    cases i <;> cases h
    rw [List.mem_cons, or_comm]
  create_raised := by
    intro i w e w' h q
    cases i <;> cases h
    exact ⟨Iff.rfl, Iff.rfl⟩
  close_created := by
    intro p i w o w' h q
    cases i <;> cases h <;> exact Iff.rfl
  close_opened := by
    intro p i w o w' h q
    cases i <;> cases h <;> simp

instance : ∀ c o g w, Decidable (OthersClosed numbered c o g w)
  | .create_pool, .ok _, g, w => inferInstanceAs (Decidable (∀ q ∈ g, ¬ q ∈ w.opened))
  | .create_pool, .error _, _, _ => isTrue trivial
  | .close p, _, g, w => inferInstanceAs (Decidable (∀ q ∈ g, q ≠ p → ¬ q ∈ w.opened))

/-- Two callers, and the end of the application. -/
inductive Caller where
  | first
  | second
  | shutdown
  deriving DecidableEq

def Caller.call : Caller → SessionCall
  | .first | .second => .getPool
  | .shutdown => .disposeEngine

abbrev callersStart : PoolState Caller Nat Numbered Unit :=
  start numbered { database_enabled := true } Caller.call

/-- The general result on two callers one after the other, and the end of the application. -/
theorem one_after_the_other :
    ∃ s s' : PoolState Caller Nat Numbered Unit,
      Run (Restrict (Step numbered.service) (Meets numbered.service (OthersClosed numbered)))
        callersStart
          [.start .first, .resume .first true, .start .second, .start .shutdown] s ∧
        Restrict (Step numbered.service) (Meets numbered.service (OthersClosed numbered)) s
          (.resume .shutdown true) s' ∧
        OnePool numbered Caller.call s s' := by
  have hexec : (exec (fun s act => if Meets numbered.service (OthersClosed numbered) s act then
      next numbered.service s act else none) callersStart
        [.start .first, .resume .first true, .start .second, .start .shutdown]).any (fun s =>
          decide (Meets numbered.service (OthersClosed numbered) s (.resume .shutdown true)) &&
            (next numbered.service s (.resume .shutdown true)).isSome) = true := by
    decide
  obtain ⟨s, hs, hlast⟩ := (Option.any_eq_true _ _).mp hexec
  obtain ⟨hmeets, hnext⟩ := Bool.and_eq_true_iff.mp hlast
  obtain ⟨s', hs'⟩ := Option.isSome_iff_exists.mp hnext
  have hrun := run_of_exec_meets hs
  have hstep : Restrict (Step numbered.service) (Meets numbered.service (OthersClosed numbered)) s
      (.resume .shutdown true) s' := ⟨of_decide_eq_true hmeets, hs'⟩
  exact ⟨s, s', hrun, hstep, one_pool_while hrun hstep⟩

/-- **Two callers find no pool.** Each creates one, and both are open. -/
theorem both_callers_create :
    ¬ ∀ (acts : List (Act Caller Bool)) (act : Act Caller Bool)
      (s s' : PoolState Caller Nat Numbered Unit),
      Run (Step numbered.service) callersStart acts s → Step numbered.service s act s' →
        OnePool numbered Caller.call s s' := by
  intro h
  have hexec : (exec (next numbered.service) callersStart
      [.start .first, .start .second, .resume .first true]).any (fun s =>
        (next numbered.service s (.resume .second true)).any fun s' =>
          decide (0 ∈ s'.world.opened ∧ 1 ∈ s'.world.opened)) = true := by
    decide
  obtain ⟨s, hs, hlast⟩ := (Option.any_eq_true _ _).mp hexec
  obtain ⟨s', hs', hopened⟩ := (Option.any_eq_true _ _).mp hlast
  obtain ⟨hzero, hone⟩ := of_decide_eq_true hopened
  cases (h _ _ s s' (run_of_exec hs) hs').one_open 0 1 hzero hone

end NetProbeConnectionPool
