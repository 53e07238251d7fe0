import Mathlib
import Quinte.Run.LaneAttempts

/-! # The phases

    The lanes of a phase, one after another or side by side: `run_phase` keeps
    to the contract of the process that holds the run lock.  A lane is carried
    along untouched while another one is worked on, and each thread of a
    fan-out owns its own.
-/

namespace Quinte.Run

open Program

/-! ### Several lanes -/

/-- The lanes of these routes. -/
def laneParts (phase : String) (ids : List String) : Set Part :=
  {x | ∃ r ∈ ids, x = .lane phase r}

/-- `me` holds the run lock, and the lane of each `x` looks as `V` says. -/
structure Lined {β : Type} (me : Pid) (phase : String) (id : β → String) (xs : List β)
    (V : β → LaneView → Prop) (s : RunDir) : Prop where
  held : s.locks .run = some me
  lane : ∀ x ∈ xs, V x (laneView s.toLanes phase (id x))

section phases

variable {inputs : Inputs} {me : Pid} {phase : String} {K : Set Part} {s t : RunDir}
  {α β : Type} {id : β → String} {xs : List β} {x : β} {V W : β → LaneView → Prop}

theorem laneParts_cons (phase r : String) (ids : List String) :
    laneParts phase (r :: ids) = {.lane phase r} ∪ laneParts phase ids := by
  ext y
  simp [laneParts]

theorem ownParts_parallel {policy : Policy}
    (hparallel : ¬(phase = "R2" ∧ policy.r2Parallel = false)) (r : String) :
    ownParts policy phase r = {.lane phase r} := by
  ext y
  simp only [ownParts, Set.mem_ofPred_eq, Set.mem_singleton_iff]
  exact ⟨fun h => h.elim (fun heq => heq) fun h' => absurd h'.2 hparallel, Or.inl⟩

namespace Lined

theorem mono (h : Lined me phase id xs V s) (hV : ∀ x ∈ xs, ∀ v, V x v → W x v) :
    Lined me phase id xs W s :=
  ⟨h.held, fun x hx => hV x hx _ (h.lane x hx)⟩

/-- Lanes that stay as they are. -/
theorem kept {policy : Policy} (h : Lined me phase id xs V s) (hkept : Kept policy me K s t)
    (hK : ∀ x ∈ xs, .lane phase (id x) ∈ K) : Lined me phase id xs V t := by
  obtain ⟨hheld, hframe⟩ := hkept h.held
  refine ⟨hheld, fun x hx => ?_⟩
  rw [hframe.lane phase (id x) (hK x hx)]
  exact h.lane x hx

theorem tail (h : Lined me phase id (x :: xs) V s) : Lined me phase id xs V s :=
  ⟨h.held, fun y hy => h.lane y (List.mem_cons_of_mem x hy)⟩

theorem holding (h : Lined me phase id xs V s) (hx : x ∈ xs) (policy : Policy) :
    Holding policy me phase (id x) (fun o => V x o.lane) s :=
  ⟨h.held, s.clock, le_rfl, h.lane x hx⟩

end Lined

theorem Holding.lane {policy : Policy} {r : String} {A : LaneView → Prop}
    (h : Holding policy me phase r (fun o => A o.lane) s) : A (laneView s.toLanes phase r) :=
  let ⟨_, _, hknows⟩ := h.knows; hknows

/-- **One lane of several**: the others stay, also where its program fails. -/
theorem Lined.head {P : α → LaneView → Prop} {p : Proc α}
    (hparallel : ¬(phase = "R2" ∧ inputs.policy.r2Parallel = false))
    (hnodup : ((x :: xs).map id).Nodup)
    (hp : LaneSpec inputs me phase (id x) (fun o => V x o.lane ∧ o.pace.view = none) p
      fun a o => P a o.lane)
    (h : Lined me phase id (x :: xs) V s) :
    Upholds (laneContract inputs me (laneParts phase ((x :: xs).map id)))
      (fun r t => Returns (fun a t => P a (laneView t.toLanes phase (id x))) r t
        ∧ Lined me phase id xs V t) p s := by
  have hown := ownParts_parallel hparallel (id x)
  have hsub : ownParts inputs.policy phase (id x) ⊆ laneParts phase ((x :: xs).map id) := by
    rw [hown, List.map_cons, laneParts_cons]
    exact Set.subset_union_left
  have hrun := Upholds.widen_parts (LaneSpec.parallel hparallel hp s
    (h.holding (List.mem_cons_self ..) inputs.policy)) hsub
  refine hrun.mono fun r t ht => ⟨?_, h.tail.kept ht.2 fun y hy => ⟨?_, ?_⟩⟩
  · cases r with
    | ok a => exact Holding.lane ht.1
    | error e => trivial
  · exact ⟨id y, List.mem_map_of_mem (List.mem_cons_of_mem x hy), rfl⟩
  · rw [hown]
    intro hsame
    have hid : id y = id x := (Part.lane.inj hsame).2
    exact (List.nodup_cons.mp hnodup).1 (hid ▸ List.mem_map_of_mem hy)

/-! ### The fan-out -/

/-- The route of a lane that is about to make an attempt, or has made it. -/
def routeOf {γ : Type} (x : RoutePolicy × γ) : String := x.1.routeId

section fanout

variable {host : Host} {manifest : RunManifest} {pending : List (RoutePolicy × Nat)}

/-- The rest of a program on lanes: what it does to them, and that the first one
    stays. -/
theorem Lined.rest {P : α → RunDir → Prop} {p : Proc α} (hnodup : ((x :: xs).map id).Nodup)
    (hp : Upholds (laneContract inputs me (laneParts phase (xs.map id))) (Returns P) p s)
    (h : Lined me phase id [x] V s) :
    Upholds (laneContract inputs me (laneParts phase ((x :: xs).map id)))
      (Returns fun a t => P a t ∧ Lined me phase id [x] V t) p s := by
  have hsub : laneParts phase (xs.map id) ⊆ laneParts phase ((x :: xs).map id) := by
    rw [List.map_cons, laneParts_cons]
    exact Set.subset_union_right
  refine (Upholds.widen_parts hp hsub).mono fun r t ht => ?_
  cases r with
  | error e => trivial
  | ok a =>
    refine ⟨ht.1, h.kept ht.2 fun y hy => ⟨?_, ?_⟩⟩
    · rw [List.mem_singleton.mp hy]
      exact ⟨id x, List.mem_map_of_mem (List.mem_cons_self ..), rfl⟩
    · rw [List.mem_singleton.mp hy]
      rintro ⟨r, hr, hsame⟩
      have hid : r = id x := (Part.lane.inj hsame).2.symm
      exact (List.nodup_cons.mp hnodup).1 (hid ▸ hr)

/-- Building the lanes opens their attempts. -/
theorem upholds_buildLanes (hparallel : ¬(phase = "R2" ∧ inputs.policy.r2Parallel = false))
    (hnodup : (pending.map routeOf).Nodup)
    (h : Lined me phase routeOf pending (fun x v => v.Next inputs.policy x.2) s) :
    Upholds (laneContract inputs me (laneParts phase (pending.map routeOf)))
      (Returns fun _ t => Lined me phase routeOf pending (fun x v => v.Opened x.2) t)
      (buildLanes me inputs.policy manifest phase pending) s := by
  induction pending generalizing s with
  | nil => exact fun t ht => ⟨(ht h.held).1, fun x hx => nomatch hx⟩
  | cons x rest ih =>
    obtain ⟨route, n⟩ := x
    -- the head waits for its deadline and is built, with no other lane at work on it
    have hlane : LaneSpec inputs me phase route.routeId
        (fun o => o.lane.Next inputs.policy n ∧ o.pace.view = none)
        (do
          waitForRetryDeadline me manifest phase route n
          build phase route.routeId n (inputs.policy.timeoutForPhase phase))
        fun _ o => o.lane.Opened n := by
      refine LaneSpec.bind (spec_waitForRetryDeadline rfl (fun _ _ => fun h => h)
        fun o v ho hv => ?_) fun _ => ?_
      · exact ⟨⟨hv ▸ ho.1.number, ho.1.budget, hv ▸ ho.1.accepted⟩, ho.2⟩
      · exact (spec_build (P := fun _ => True)).post (fun _ _ ho => ho.1) |>.pre
          fun o ho => ⟨⟨ho.1.1, ho.2⟩, trivial⟩
    have hsplit : buildLanes me inputs.policy manifest phase ((route, n) :: rest) = (do
        waitForRetryDeadline me manifest phase route n
        build phase route.routeId n (inputs.policy.timeoutForPhase phase))
          >>= fun _ => buildLanes me inputs.policy manifest phase rest :=
      (Prog.bind_assoc ..).symm
    rw [hsplit]
    refine Upholds.bind laneContract_lawful ((Lined.head (V := fun x v => v.Next inputs.policy x.2)
      hparallel hnodup hlane h).mono fun r t ht => ?_)
    cases r with
    | error e => trivial
    | ok a =>
      -- what was opened stays open while the others are built
      have hopened : Lined me phase routeOf [(route, n)] (fun x v => v.Opened x.2) t :=
        ⟨ht.2.held, fun y hy => List.mem_singleton.mp hy ▸ ht.1⟩
      refine (Lined.rest hnodup (ih (List.nodup_cons.mp hnodup).2 ht.2) hopened).returns
        fun _ u hu => ⟨hu.1.held, fun y hy => ?_⟩
      rcases List.mem_cons.mp hy with rfl | hy
      · exact hu.2.lane _ (List.mem_singleton_self _)
      · exact hu.1.lane y hy

/-- The attempts of the lanes are the next ones. -/
theorem upholds_nextAttempts (hparallel : ¬(phase = "R2" ∧ inputs.policy.r2Parallel = false))
    {routes : List RoutePolicy} (hnodup : (routes.map (·.routeId)).Nodup)
    (h : Lined me phase (·.routeId) routes (fun _ v => v.accepted = none) s) :
    Upholds (laneContract inputs me (laneParts phase (routes.map (·.routeId))))
      (Returns fun pending t => pending.map routeOf = routes.map (·.routeId)
        ∧ Lined me phase routeOf pending (fun x v => v.Next inputs.policy x.2) t)
      (nextAttempts phase inputs.policy routes) s := by
  induction routes generalizing s with
  | nil => exact fun t ht => ⟨rfl, (ht h.held).1, fun x hx => nomatch hx⟩
  | cons route rest ih =>
    have hlane : LaneSpec inputs me phase route.routeId
        (fun o => o.lane.accepted = none ∧ o.pace.view = none)
        (do
          let numbers ← Prog.read (·.attempts phase route.routeId)
          Prog.ofExcept (nextAttempt phase route.routeId inputs.policy.maxAttempts numbers))
        fun n o => o.lane.Next inputs.policy n :=
      ((spec_nextAttempt rfl).pre fun o ho => ⟨fun _ => ho.1, Pace.ready_of_none ho.2⟩).post
        fun _ _ ho => ho.1
    have hsplit : nextAttempts phase inputs.policy (route :: rest) = (do
        let numbers ← Prog.read (·.attempts phase route.routeId)
        Prog.ofExcept (nextAttempt phase route.routeId inputs.policy.maxAttempts numbers))
          >>= fun n => do
            let rest ← nextAttempts phase inputs.policy rest
            return (route, n) :: rest :=
      (Prog.bind_assoc ..).symm
    rw [hsplit]
    refine Upholds.bind laneContract_lawful ((Lined.head
      (V := fun _ v => v.accepted = none) hparallel hnodup hlane h).mono fun r t ht => ?_)
    cases r with
    | error e => trivial
    | ok n =>
      -- the number of the head stays the next one while the others are read
      have hnext : Lined me phase (fun r : RoutePolicy => r.routeId) [route]
          (fun _ v => v.Next inputs.policy n) t :=
        ⟨ht.2.held, fun y hy => List.mem_singleton.mp hy ▸ ht.1⟩
      refine Upholds.then laneContract_lawful
        (Lined.rest hnodup (ih (List.nodup_cons.mp hnodup).2 ht.2) hnext) fun pending u hu => ?_
      obtain ⟨⟨hids, hrest⟩, hfirst⟩ := hu
      have hall : Lined me phase routeOf ((route, n) :: pending)
          (fun x v => v.Next inputs.policy x.2) u := by
        refine ⟨hrest.held, fun y hy => ?_⟩
        rcases List.mem_cons.mp hy with rfl | hy
        · exact hfirst.lane _ (List.mem_singleton_self _)
        · exact hrest.lane y hy
      have hmap : ((route, n) :: pending).map routeOf = (route :: rest).map (·.routeId) := by
        rw [List.map_cons, List.map_cons, hids]
        rfl
      refine fun u' hu' => ⟨hmap, hall.kept hu' fun y hy => ?_⟩
      exact ⟨routeOf y, hmap ▸ List.mem_map_of_mem hy, rfl⟩

/-- What is known of the lanes whose attempts are over. -/
def OverLane (inputs : Inputs) (x : RoutePolicy × Nat × AttemptOutcome) (v : LaneView) : Prop :=
  v.Attempted x.2.1 ∧ v.Sourced (allowedEvidenceRefs inputs.snapshot) x.2.1 x.2.2

/-- Joined lanes are among those that were spawned, and their attempts are over. -/
def Joined (inputs : Inputs) (me : Pid) (phase : String) (ids : List String) (fanout : Fanout)
    (s : RunDir) : Prop :=
  (fanout.finished.map routeOf).Sublist ids
    ∧ Lined me phase routeOf fanout.finished (OverLane inputs) s

theorem joined_none {ids : List String} (held : s.locks .run = some me) (cancelled : Bool) :
    Joined inputs me phase ids { finished := [], joinErrors := [], cancelled := cancelled } s :=
  ⟨List.nil_sublist _, held, fun _ hx => nomatch hx⟩

theorem Joined.kept {ids : List String} {fanout : Fanout}
    (h : Joined inputs me phase ids fanout s)
    (hkept : Kept inputs.policy me (laneParts phase ids) s t) :
    Joined inputs me phase ids fanout t :=
  ⟨h.1, h.2.kept hkept fun _ hx => ⟨_, h.1.subset (List.mem_map_of_mem hx), rfl⟩⟩

/-- **The threads of a fan-out**, each of which owns its lane. -/
theorem upholds_spawnLanes (hparallel : ¬(phase = "R2" ∧ inputs.policy.r2Parallel = false))
    (hnodup : (pending.map routeOf).Nodup)
    (h : Lined me phase routeOf pending (fun x v => v.Opened x.2) s) :
    Upholds (laneContract inputs me (laneParts phase (pending.map routeOf)))
      (Returns (Joined inputs me phase (pending.map routeOf)))
      (spawnLanes me host inputs.policy manifest phase pending) s := by
  induction pending generalizing s with
  | nil => exact fun t ht => joined_none (ht h.held).1 false
  | cons x rest ih =>
    obtain ⟨route, n⟩ := x
    have hown := ownParts_parallel hparallel route.routeId
    have hfresh := (List.nodup_cons.mp hnodup).1
    -- the first lane
    have hlane : LaneSpec inputs me phase route.routeId (fun o => o.lane.Opened n)
        (runAttempt me manifest route phase n (inputs.policy.timeoutForPhase phase)
          inputs.policy.maxAttempts)
        fun outcome o => OverLane inputs (route, n, outcome) o.lane :=
      LaneSpec.parallel hparallel ((spec_runAttempt rfl).pre fun o ho =>
        ⟨ho.1, Pace.ready_of_none ho.2, Pace.calm_of_none ho.2⟩)
    have hfirst := hlane s (h.holding (List.mem_cons_self ..) inputs.policy)
    -- the others
    have hrest : Upholds (laneContract inputs me (laneParts phase (rest.map routeOf)))
        (Returns (Joined inputs me phase (rest.map routeOf)))
        (if rest.isEmpty then return { finished := [], joinErrors := [], cancelled := false }
          else do
            if ← staggered me host manifest then
              return { finished := [], joinErrors := [], cancelled := true }
            else spawnLanes me host inputs.policy manifest phase rest) s := by
      cases rest with
      | nil => exact fun t ht => joined_none (ht h.held).1 false
      | cons y ys =>
        have hwait : LaneSpec inputs me phase (routeOf y)
            (fun o => o.lane.Opened y.2 ∧ o.pace.view = none) (staggered me host manifest)
            fun _ o => o.lane.Opened y.2 :=
          (spec_staggered fun _ _ ho => ho).post fun _ _ ho => ho.1
        refine Upholds.bind laneContract_lawful ((Lined.head (V := fun x v => v.Opened x.2)
          hparallel (List.nodup_cons.mp hnodup).2 hwait h.tail).mono fun r t ht => ?_)
        cases r with
        | error e => trivial
        | ok cancelled =>
          cases cancelled with
          | true => exact fun u hu => joined_none (hu ht.2.held).1 true
          | false =>
            refine ih (List.nodup_cons.mp hnodup).2 ⟨ht.2.held, fun z hz => ?_⟩
            rcases List.mem_cons.mp hz with rfl | hz
            · exact ht.1
            · exact ht.2.lane z hz
    -- both together
    have hdisjoint : Disjoint (ownParts inputs.policy phase route.routeId)
        (laneParts phase (rest.map routeOf)) := by
      rw [hown, Set.disjoint_singleton_left]
      rintro ⟨r, hr, hsame⟩
      have hid : r = routeOf (route, n) := (Part.lane.inj hsame).2.symm
      exact hfresh (hid ▸ hr)
    have hparts := laneParts_cons phase route.routeId (rest.map routeOf)
    have hthreads : (laneContract inputs me _).Threads (laneContract inputs me _)
        (laneContract inputs me _) := threads
      (K := laneParts phase (((route, n) :: rest).map routeOf))
      (hown.trans_subset (hparts.symm ▸ Set.subset_union_left))
      (hparts.symm ▸ Set.subset_union_right) hdisjoint
    have hboth := (Upholds.interleave hthreads Answer.first hfirst hrest).stable
      laneContract_lawful
    refine Upholds.bind laneContract_lawful (hboth.mono fun r t ht => ?_)
    obtain ⟨outcome, fanout, rfl, -⟩ := ht t (Kept.refl t)
    cases fanout with
    | error e => exact fun _ _ => trivial
    | ok fanout =>
      intro u hu
      obtain ⟨outcome', fanout', heq, hover, hjoined⟩ := ht u hu
      obtain ⟨rfl, hfanout⟩ := Prod.mk.inj (Except.ok.inj heq)
      subst hfanout
      cases outcome with
      | error e => exact ⟨hjoined.1.cons _, hjoined.2⟩
      | ok outcome =>
        refine ⟨hjoined.1.cons_cons _, hjoined.2.held, fun y hy => ?_⟩
        rcases List.mem_cons.mp hy with rfl | hy
        · exact Holding.lane hover
        · exact hjoined.2.lane y hy

/-- Lanes whose attempts are over are accepted one after another, whatever
    becomes of those before. -/
theorem upholds_acceptLanes (hparallel : ¬(phase = "R2" ∧ inputs.policy.r2Parallel = false))
    (hparty : phase ≠ "R3") {finished : List (RoutePolicy × Nat × AttemptOutcome)}
    (hnodup : (finished.map routeOf).Nodup)
    (h : Lined me phase routeOf finished (OverLane inputs) s) :
    Upholds (laneContract inputs me (laneParts phase (finished.map routeOf)))
      (Returns fun _ _ => True) (acceptLanes me host inputs.policy manifest phase finished) s := by
  induction finished generalizing s with
  | nil => exact fun _ _ => trivial
  | cons x rest ih =>
    obtain ⟨route, n, outcome⟩ := x
    have hlane : LaneSpec inputs me phase route.routeId
        (fun o => OverLane inputs (route, n, outcome) o.lane ∧ o.pace.view = none)
        (acceptOrRetryLane me host inputs.policy manifest phase route n outcome)
        fun _ _ => True :=
      ((spec_acceptOrRetryLoop rfl hparty).pre fun o ho => ⟨ho.1, Pace.ready_of_none ho.2⟩).post
        fun _ _ _ => trivial
    have hfirst := Lined.head (V := OverLane inputs) (P := fun _ _ => True) hparallel hnodup hlane h
    refine Upholds.bind laneContract_lawful (Upholds.attempt (hfirst.mono fun r t ht => ?_))
    have hrest := Lined.rest (V := fun _ _ => True) hnodup (ih (List.nodup_cons.mp hnodup).2 ht.2)
      ⟨ht.2.held, fun _ _ => trivial⟩
    refine Upholds.then laneContract_lawful hrest fun accepted u _ => ?_
    cases r <;> exact fun _ _ => trivial

/-- **The parallel branch of `run_phase`.** -/
theorem upholds_fanOut (hparallel : ¬(phase = "R2" ∧ inputs.policy.r2Parallel = false))
    (hparty : phase ≠ "R3") {missing : List RoutePolicy}
    (hnodup : (missing.map (·.routeId)).Nodup)
    (h : Lined me phase (·.routeId) missing (fun _ v => v.accepted = none) s) :
    Upholds (laneContract inputs me (laneParts phase (missing.map (·.routeId))))
      (Returns fun _ _ => True) (fanOut me host inputs.policy manifest phase missing) s := by
  refine Upholds.then laneContract_lawful (upholds_nextAttempts hparallel hnodup h)
    fun pending t ht => ?_
  obtain ⟨hids, hnext⟩ := ht
  rw [← hids] at hnodup ⊢
  refine Upholds.then laneContract_lawful (upholds_buildLanes hparallel hnodup hnext)
    fun _ u hopened => ?_
  refine Upholds.then laneContract_lawful (upholds_spawnLanes hparallel hnodup hopened)
    fun fanout v hjoined => ?_
  split
  · exact fun _ _ => trivial
  split
  · exact fun _ _ => trivial
  -- only lanes that have finished are accepted
  have hsub : laneParts phase (fanout.finished.map routeOf)
      ⊆ laneParts phase (pending.map routeOf) :=
    fun _ ⟨r, hr, hx⟩ => ⟨r, hjoined.1.subset hr, hx⟩
  have hown : Upholds _ _ (acceptLanes me host inputs.policy manifest phase fanout.finished) v :=
    upholds_acceptLanes hparallel hparty (hjoined.1.nodup hnodup) hjoined.2
  have haccept := Upholds.widen_parts hown hsub
  refine Upholds.bind laneContract_lawful (haccept.mono fun r w _ => ?_)
  cases r with
  | error e => trivial
  | ok accepted =>
    dsimp only
    split <;> exact fun _ _ => trivial

end fanout

/-! ### One lane at a time -/

/-- One lane of a serial R2. -/
def serialLane (me : Pid) (host : Host) (policy : Policy) (manifest : RunManifest)
    (phase : String) (route : RoutePolicy) : Proc LaneAccepted := do
  let numbers ← Prog.read (·.attempts phase route.routeId)
  let attempt ← Prog.ofExcept (nextAttempt phase route.routeId policy.maxAttempts numbers)
  waitForRetryDeadline me manifest phase route attempt
  waitForR2Pacing me manifest route attempt
  build phase route.routeId attempt (policy.timeoutForPhase phase)
  let outcome ← runAttempt me manifest route phase attempt (policy.timeoutForPhase phase)
    policy.maxAttempts
  persistR2Pacing route attempt policy.r2MinIntervalSeconds "inter_call_pacing"
  acceptOrRetryLane me host policy manifest phase route attempt outcome

theorem runSerial_cons {host : Host} {policy : Policy} {manifest : RunManifest}
    {route : RoutePolicy} {rest : List RoutePolicy} :
    runSerial me host policy manifest phase (route :: rest) =
      serialLane me host policy manifest phase route >>= fun lane => do
        let lanes ← runSerial me host policy manifest phase rest
        return lane :: lanes := by
  simp only [runSerial, serialLane, Prog.bind_assoc]

theorem spec_serialLane {host : Host} {manifest : RunManifest} {route : RoutePolicy}
    (hphase : phase = "R2") (hserial : inputs.policy.r2Parallel = false) :
    LaneSpec inputs me phase route.routeId (fun o => o.lane.accepted = none ∧ o.pace.Ready)
      (serialLane me host inputs.policy manifest phase route) fun _ o => o.pace.Ready := by
  refine LaneSpec.pre (LaneSpec.nextAttempt rfl fun n => ?_) fun o ho => ⟨fun _ => ho.1, ho.2⟩
  refine LaneSpec.bind (spec_waitForRetryDeadline rfl (fun _ _ ho => ho) fun o v ho hv => ?_)
    fun _ => ?_
  · exact ⟨⟨hv ▸ ho.1.number, ho.1.budget, hv ▸ ho.1.accepted⟩, ho.2⟩
  refine LaneSpec.bind ((spec_waitForR2Pacing (L := fun v => v.Next inputs.policy n
    ∧ v.deadline = none) hphase hserial).pre fun o ho => ⟨⟨ho.1.1, ho.2⟩, ho.1.2⟩) fun _ => ?_
  refine LaneSpec.bind (spec_build (P := fun p => p.Ready ∧ p.Calm)) fun _ => ?_
  refine LaneSpec.bind (spec_runAttempt rfl) fun outcome => ?_
  refine LaneSpec.bind (spec_persistR2Pacing (L := fun v => v.Attempted n
    ∧ v.Sourced (allowedEvidenceRefs inputs.snapshot) n outcome) hphase hserial) fun _ => ?_
  exact spec_acceptOrRetryLoop rfl (by simp [hphase])

/-- **The serial branch of `run_phase`.** -/
theorem upholds_runSerial {host : Host} {manifest : RunManifest} {missing : List RoutePolicy}
    (hphase : phase = "R2") (hserial : inputs.policy.r2Parallel = false)
    (hnodup : (missing.map (·.routeId)).Nodup)
    (h : Lined me phase (·.routeId) missing (fun _ v => v.accepted = none) s)
    (hready : (paceOf inputs.policy phase s.toLanes).Ready) :
    Upholds (laneContract inputs me Set.univ) (Returns fun _ _ => True)
      (runSerial me host inputs.policy manifest phase missing) s := by
  induction missing generalizing s with
  | nil => exact fun _ _ => trivial
  | cons route rest ih =>
    rw [runSerial_cons]
    have hstart : Holding inputs.policy me phase route.routeId
        (fun o => o.lane.accepted = none ∧ o.pace.Ready) s :=
      ⟨h.held, s.clock, le_rfl, h.lane route (List.mem_cons_self ..), hready⟩
    have hown : Upholds _ _ (serialLane me host inputs.policy manifest phase route) s :=
      spec_serialLane hphase hserial s hstart
    have hlane := Upholds.widen_parts hown (Set.subset_univ _)
    refine Upholds.bind laneContract_lawful (hlane.mono fun r t ht => ?_)
    cases r with
    | error e => trivial
    | ok lane =>
      obtain ⟨hpace, hkept⟩ := ht
      obtain ⟨since, hle, hnow⟩ := hpace.knows
      -- a lane that comes later is not the one that ran
      have hrest : Lined me phase (·.routeId) rest (fun _ v => v.accepted = none) t := by
        refine h.tail.kept hkept fun other hother => ⟨Set.mem_univ _, ?_⟩
        rintro (hsame | ⟨hpacing, -⟩)
        · have hid : other.routeId = route.routeId := (Part.lane.inj hsame).2
          exact (List.nodup_cons.mp hnodup).1 (List.mem_map.mpr ⟨other, hother, hid⟩)
        · exact nomatch hpacing
      exact Upholds.then laneContract_lawful (ih (List.nodup_cons.mp hnodup).2 hrest hnow)
        fun _ _ _ _ _ => trivial

/-! ### `run_phase` -/

/-- Every lane that was accepted is among the outputs that are loaded. -/
theorem mem_loadExistingPhaseOutputs {routes : List RoutePolicy}
    {accepted : List LaneAccepted} (h : routes.filterMapM (readAccepted s phase) = .ok accepted)
    {route : RoutePolicy} (hroute : route ∈ routes)
    (hsome : s.accepted phase route.routeId ≠ none) :
    ∃ lane ∈ accepted, lane.routeId = route.routeId := by
  induction routes generalizing accepted with
  | nil => exact nomatch hroute
  | cons first rest ih =>
    rw [List.filterMapM_cons] at h
    obtain ⟨lane, hlane, hrest⟩ := Policy.bind_ok.mp h
    -- the lane of a route is read where its output is on disk
    cases lane with
    | none =>
      rcases List.mem_cons.mp hroute with rfl | hroute
      · cases hfile : s.accepted phase route.routeId with
        | none => exact absurd hfile hsome
        | some output =>
          simp only [readAccepted, hfile] at hlane
          split at hlane <;> simp at hlane
      · exact ih hrest hroute
    | some lane =>
      obtain ⟨others, hothers, hok⟩ := Policy.bind_ok.mp hrest
      obtain rfl : lane :: others = accepted := Except.ok.inj hok
      rcases List.mem_cons.mp hroute with rfl | hroute
      · refine ⟨lane, List.mem_cons_self .., ?_⟩
        cases hfile : s.accepted phase route.routeId with
        | none => exact absurd hfile hsome
        | some output =>
          simp only [readAccepted, hfile] at hlane
          split at hlane
          · exact Option.some.inj (Except.ok.inj hlane) ▸ rfl
          · exact nomatch hlane
      · obtain ⟨other, hother, hid⟩ := ih hothers hroute
        exact ⟨other, List.mem_cons_of_mem _ hother, hid⟩

/-- The routes that `run_phase` runs have not been accepted. -/
theorem missing_unaccepted {policy : Policy} {accepted : List LaneAccepted}
    (h : loadExistingPhaseOutputs s phase policy = .ok accepted) :
    ∀ route ∈ policy.roster.filter fun route =>
        !accepted.any fun lane => lane.routeId = route.routeId,
      s.accepted phase route.routeId = none := by
  intro route hroute
  obtain ⟨hroster, hmissing⟩ := List.mem_filter.mp hroute
  by_contra hsome
  obtain ⟨lane, hlane, hid⟩ := mem_loadExistingPhaseOutputs h hroster hsome
  simp only [Bool.not_eq_true', List.any_eq_false, decide_eq_true_eq] at hmissing
  exact hmissing lane hlane hid

/-- What is left of `run_phase` once its lanes have been run. -/
theorem upholds_runPhase {host : Host} {manifest : RunManifest}
    (held : s.locks .run = some me)
    (hrun : ∀ t missing, Kept inputs.policy me K s t → missing.Sublist inputs.policy.roster →
      Lined me phase (·.routeId) missing (fun _ v => v.accepted = none) t →
      Upholds (laneContract inputs me K) (Returns fun _ _ => True)
        (if parallelFanOut inputs.policy phase
          then fanOut me host inputs.policy manifest phase missing
          else runSerial me host inputs.policy manifest phase missing) t) :
    Upholds (laneContract inputs me K) (Returns fun _ _ => True)
      (runPhase me host inputs.policy manifest phase) s := by
  refine Upholds.read laneContract_lawful fun t hkept _ => ?_
  refine Upholds.ofExcept (fun accepted haccepted => ?_) fun _ _ _ _ => trivial
  have hlined : Lined me phase (fun r : RoutePolicy => r.routeId)
      (inputs.policy.roster.filter fun route =>
        !accepted.any fun lane => lane.routeId = route.routeId)
      (fun _ v => v.accepted = none) t :=
    ⟨(hkept held).1, missing_unaccepted haccepted⟩
  dsimp only
  rw [← Prog.ite_bind]
  refine Upholds.then laneContract_lawful (hrun t _ hkept List.filter_sublist hlined)
    fun ran u _ => ?_
  refine Upholds.aside (leaves_ensure _ _) (fun _ v _ => ?_) fun _ _ _ => trivial
  refine Upholds.aside (leaves_read _) (fun _ w _ => ?_) fun _ _ _ => trivial
  exact Upholds.aside (leaves_event (by decide)) (fun _ _ _ _ _ => trivial) fun _ _ _ => trivial

/-- R1 leaves the pacing of R2 alone. -/
theorem upholds_r1 {host : Host} {manifest : RunManifest}
    (hnodup : (inputs.policy.roster.map (·.routeId)).Nodup) (held : s.locks .run = some me) :
    Upholds (laneContract inputs me {.pacing}ᶜ) (Returns fun _ _ => True)
      (runPhase me host inputs.policy manifest "R1") s := by
  refine upholds_runPhase held fun t missing _ hsub hlined => ?_
  have hsubset : laneParts "R1" (missing.map (·.routeId)) ⊆ {.pacing}ᶜ := by
    rintro _ ⟨r, -, rfl⟩
    exact fun hpacing => nomatch hpacing
  refine (Upholds.widen_parts (upholds_fanOut (fun h => absurd h.1 (by decide)) (by decide)
    ((hsub.map _).nodup hnodup) hlined) hsubset).mono fun r u hu => hu.1

/-- R2, side by side or paced. -/
theorem upholds_r2 {host : Host} {manifest : RunManifest}
    (hnodup : (inputs.policy.roster.map (·.routeId)).Nodup) (held : s.locks .run = some me)
    (hready : (paceOf inputs.policy "R2" s.toLanes).Ready) :
    Upholds (laneContract inputs me Set.univ) (Returns fun _ _ => True)
      (runPhase me host inputs.policy manifest "R2") s := by
  refine upholds_runPhase held fun t missing hkept hsub hlined => ?_
  have hmissing := (hsub.map (·.routeId)).nodup hnodup
  cases hr2 : inputs.policy.r2Parallel with
  | true =>
    have hbranch : parallelFanOut inputs.policy "R2" = true := by simp [parallelFanOut, hr2]
    rw [if_pos hbranch]
    exact (Upholds.widen_parts (upholds_fanOut (fun h => nomatch hr2.symm.trans h.2) (by decide)
      hmissing hlined) (Set.subset_univ _)).mono fun r u hu => hu.1
  | false =>
    have hbranch : ¬parallelFanOut inputs.policy "R2" = true := by simp [parallelFanOut, hr2]
    rw [if_neg hbranch]
    refine upholds_runSerial rfl hr2 hmissing hlined ?_
    have hframe := (hkept held).2
    have hpace : paceOf inputs.policy "R2" t.toLanes = paceOf inputs.policy "R2" s.toLanes := by
      simp [paceOf, hr2, hframe.stale, hframe.pacing (Set.mem_univ _) hr2]
    exact hpace ▸ hready

end phases

end Quinte.Run
