import Mathlib
import Quinte.Store.Alone

/-! # The operations of the store keep to the protocol

    For each operation of `Store.Journal`: every step it takes is one the
    protocol allows, whatever other processes do in the meantime, and what
    holds when it returns.  What an operation leaves alone is stated by
    `Keeps`, with the locks it does not touch.
-/

namespace Quinte.Store

open Program

instance : Coe RunDir Control := ⟨RunDir.toControl⟩

/-! ### Rules -/

section rules

variable {R : Regime} {me : Pid} {α β : Type} {Q : Except String β → RunDir → Prop} {s : RunDir}

theorem safe_pure {a : β} (h : ∀ t : RunDir, Keeps R me Set.univ s t → Q (.ok a) t) :
    Safe (storeProtocol R) me Q (pure a : Proc β) s :=
  Safe.pure fun t hrely => h t (keeps_of_rely hrely)

theorem safe_throw {e : String} (h : ∀ t : RunDir, Keeps R me Set.univ s t → Q (.error e) t) :
    Safe (storeProtocol R) me Q (.throw e : Proc β) s :=
  Safe.throw fun t hrely => h t (keeps_of_rely hrely)

theorem safe_read {f : RunDir → α} {k : α → Proc β}
    (h : ∀ t : RunDir, Keeps R me Set.univ s t → StoreInv R t →
      Safe (storeProtocol R) me Q (k (f t)) t) :
    Safe (storeProtocol R) me Q (Prog.read f >>= k) s :=
  Safe.read (fun _ => StoreStep.idle) fun t hrely hinv => h t (keeps_of_rely hrely) hinv

theorem safe_modify {update : RunDir → RunDir} {k : Unit → Proc β}
    (h : ∀ t : RunDir, Keeps R me Set.univ s t → StoreInv R t →
      StoreStep R me t (update t) ∧ Safe (storeProtocol R) me Q (k ()) (update t)) :
    Safe (storeProtocol R) me Q (Prog.modify update >>= k) s :=
  Safe.modify fun t hrely hinv => h t (keeps_of_rely hrely) hinv

theorem safe_modify_end {Q : Except String Unit → RunDir → Prop} {update : RunDir → RunDir}
    (h : ∀ t : RunDir, Keeps R me Set.univ s t → StoreInv R t →
      StoreStep R me t (update t) ∧
        ∀ t' : RunDir, Keeps R me Set.univ (update t) t' → Q (.ok ()) t') :
    Safe (storeProtocol R) me Q (Prog.modify update : Proc Unit) s :=
  Safe.modify_end fun t hrely hinv =>
    ⟨(h t (keeps_of_rely hrely) hinv).1, fun t' hrely' =>
      (h t (keeps_of_rely hrely) hinv).2 t' (keeps_of_rely hrely')⟩

theorem safe_ensure {b : Bool} {e : String} {k : Unit → Proc β}
    (hk : b = true → Safe (storeProtocol R) me Q (k ()) s)
    (he : ∀ t : RunDir, Keeps R me Set.univ s t → Q (.error e) t) :
    Safe (storeProtocol R) me Q (Prog.ensure b e >>= k) s :=
  Safe.ensure hk fun _ t hrely => he t (keeps_of_rely hrely)

/-- A program under a lock other than the one on the active processes. -/
theorem safe_withLock {l : Lock} (hl : l ≠ .activePids) {K : Set Lock} (hK : l ∉ K) {p : Proc α}
    {Post : Except String α → RunDir → Prop}
    (hpost : ∀ r (t t' : RunDir), Keeps R me {l}ᶜ t t' → Post r t → Post r t')
    (h : ∀ t : RunDir, Keeps R me Set.univ s t → StoreInv R t → t.locks l = some me →
      Safe (storeProtocol R) me (fun r t' => Keeps R me K t t' ∧ Post r t') p t) :
    Safe (storeProtocol R) me (fun r t => Keeps R me K s t ∧ Post r t) (Proc.withLock me l p) s := by
  have hcompl : K ⊆ {l}ᶜ := fun l' hl' heq => hK (heq ▸ hl')
  refine Safe.bracket fun t hrely hinv hfree => ?_
  have hfree : t.locks l = none := by simpa using hfree
  have htake : StoreStep R me t (t.toControl.take me l) := StoreStep.take l hfree
  have hkeep : Keeps R me Set.univ s (t.toControl.take me l) :=
    (keeps_of_rely hrely).trans (keeps_take hfree)
  refine ⟨htake, (h _ hkeep (step_inv hinv htake) (t.toControl.take_locks_self me l)).mono ?_⟩
  rintro r u ⟨hu, hr⟩ u' hrely' -
  refine ⟨StoreStep.drop l fun _ _ h => absurd h hl, fun v hrely'' => ?_⟩
  have huv : Keeps R me {l}ᶜ u v :=
    (((keeps_of_rely hrely').mono (Set.subset_univ _)).trans (keeps_drop l)).trans
      ((keeps_of_rely hrely'').mono (Set.subset_univ _))
  exact ⟨((hkeep.mono (Set.subset_univ _)).trans hu).trans (huv.mono hcompl), hpost r u v huv hr⟩

end rules

/-! ### The event ledger -/

section operations

variable {R : Regime} {me : Pid} {s : RunDir}

theorem safe_readEvents (held : s.locks .events = some me) :
    Safe (storeProtocol R) me
      (fun r t => Keeps R me Set.univ s t ∧ r = .ok t.events ∧ Sequenced t.events) readEvents s := by
  refine safe_read fun t ht hinv => Safe.ensure (fun _ => safe_pure fun u hu => ?_) ?_
  · have hevents := hu.inEvents (Set.mem_univ _) (ht.locks _ (Set.mem_univ _) held)
    exact ⟨ht.trans hu, congrArg Except.ok hevents.symm, hevents ▸ hinv.sequences⟩
  · intro hbad
    rw [hinv.sequences] at hbad
    simp at hbad

/-- An event may be logged: in the journaled regime its transition is durable. -/
def Loggable (R : Regime) (data : EventData) (s : Control) : Prop :=
  R = .journaled → ∀ id, data.transitionId? = some id → id ∈ s.replaced

theorem Loggable.keeps {K : Set Lock} {data : EventData} {s t : Control}
    (h : Loggable R data s) (hst : Keeps R me K s t) : Loggable R data t :=
  fun hR id hid => hst.replaced id (h hR id hid)

theorem safe_appendEvent {β : Type} {Q : Except String β → RunDir → Prop} {k : Unit → Proc β}
    {e : Event} (held : s.locks .events = some me) (hseq : e.sequence = s.events.length + 1)
    (hlog : Loggable R e.data s)
    (h : ∀ t : RunDir, Keeps R me {.events}ᶜ s t → Safe (storeProtocol R) me Q (k ()) t) :
    Safe (storeProtocol R) me Q (appendEvent e >>= k) s := by
  refine safe_modify fun t ht hinv => ⟨?_, h _ ?_⟩
  · have hevents := ht.inEvents (Set.mem_univ _) held
    exact StoreStep.log e (ht.locks _ (Set.mem_univ _) held) (by rw [hevents]; exact hseq)
      (hlog.keeps ht)
  · exact (ht.mono (Set.subset_univ _)).trans (keeps_log e)

theorem safe_eventAt {runId eventType : String} {phase partyId : Option String}
    {attempt : Option Nat} {data : EventData} {timestamp : Nat} (hlog : Loggable R data s) :
    Safe (storeProtocol R) me (fun _ t => Keeps R me {.events}ᶜ s t)
      (eventAt me runId eventType phase partyId attempt data timestamp) s := by
  have hlock : Safe (storeProtocol R) me (fun r t => Keeps R me {.events}ᶜ s t ∧ True)
      (eventAt me runId eventType phase partyId attempt data timestamp) s := by
    unfold eventAt
    refine safe_withLock (by decide) (by simp) (fun _ _ _ _ h => h) fun t ht hinv held => ?_
    refine Safe.bind ((safe_readEvents held).mono ?_)
    rintro r u ⟨hu, rfl, hsequenced⟩
    have hu' := hu.mono (Set.subset_univ {Lock.events}ᶜ)
    dsimp only
    split
    case h_1 event _ => exact safe_pure fun v hv => ⟨hu'.trans (hv.mono (Set.subset_univ _)), trivial⟩
    case h_2 =>
      refine safe_ensure (fun _ => ?_) fun v hv =>
        ⟨hu'.trans (hv.mono (Set.subset_univ _)), trivial⟩
      refine safe_appendEvent (hu.locks _ (Set.mem_univ _) held) (nextSequence_eq hsequenced)
        ((hlog.keeps ht).keeps hu) fun v hv => ?_
      exact safe_pure fun w hw => ⟨(hu'.trans hv).trans (hw.mono (Set.subset_univ _)), trivial⟩
  exact hlock.mono fun _ _ h => h.1

/-! ### Recovery -/

/-- The manifest `m` that a process has in hand was the current one once. -/
def Seen (R : Regime) (m : RunManifest) (s : Control) : Prop :=
  ∃ c, s.manifest = some c ∧ (m.status.closing = true → c.status.closing = true) ∧
    (R = .journaled → m.status.rank ≤ c.status.rank)

theorem Seen.current {m : RunManifest} {s : Control} (h : s.manifest = some m) : Seen R m s :=
  ⟨m, h, id, fun _ => le_rfl⟩

theorem Seen.keeps {K : Set Lock} {m : RunManifest} {s t : Control} (h : Seen R m s)
    (hst : Keeps R me K s t) : Seen R m t := by
  obtain ⟨c, hc, hclosing, hrank⟩ := h
  obtain ⟨c', hc', hclosing', hrank'⟩ := hst.status c hc
  exact ⟨c', hc', fun hm => hclosing' (hclosing hm), fun hR => (hrank hR).trans (hrank' hR)⟩

/-- A stale reader never records a transition that has not become durable. -/
theorem loggable_of_pending {m : RunManifest} {p : PendingTransition} {s : Control}
    (hinv : StoreInv R s) (hseen : Seen R m s) (hp : s.pending = some p)
    (hfrom : m.status ≠ p.from) (hto : m.status = p.to) :
    Loggable R (PendingTransition.data p) s := by
  intro hR id hid
  obtain rfl : p.transitionId = id := Option.some.inj hid
  obtain ⟨c, hc, -, hrank⟩ := hseen
  obtain ⟨⟨hreplaced, -⟩ | ⟨-, hcur⟩, hallowed⟩ := (hinv.journaled hR).pending p c hp hc
  · exact hreplaced
  · -- the status of `m` lies above the one the transition leaves
    have hlt := rank_lt_of_allowed hallowed fun heq => hfrom (hto.trans heq.symm)
    have hle := hrank hR
    rw [hto, hcur] at hle
    exact absurd hlt (Nat.not_lt.mpr hle)

/-- What a recovery guarantees: it leaves everything alone but the ledger and
    the pending record, which is gone afterwards if its caller holds the manifest lock. -/
def Recovered {α : Type} (R : Regime) (me : Pid) (s : RunDir) (r : Except String α) (t : RunDir) :
    Prop :=
  Keeps R me {.events}ᶜ s t ∧
    ∀ a, r = .ok a → s.locks .manifest = some me → t.locks .manifest = some me ∧ t.pending = none

/-- Once the record is gone, it stays so for the holder of the manifest lock. -/
theorem Recovered.of_none {α : Type} {r : Except String α} {t u : RunDir}
    (hst : Keeps R me {.events}ᶜ s t) (hp : t.pending = none)
    (htu : Keeps R me {.events}ᶜ t u) : Recovered R me s r u := by
  refine ⟨hst.trans htu, fun _ _ held => ?_⟩
  have held' := hst.locks _ (by simp) held
  exact ⟨htu.locks _ (by simp) held', (htu.inManifest (by simp) held').2.2.2.2 hp⟩

theorem Recovered.of_error {α : Type} {e : String} {t : RunDir}
    (hst : Keeps R me {.events}ᶜ s t) : Recovered (α := α) R me s (.error e) t :=
  ⟨hst, fun _ h => nomatch h⟩

theorem Keeps.others {K : Set Lock} {s t u : Control} (h : Keeps R me K s t)
    (htu : Keeps R me Set.univ t u) : Keeps R me K s u :=
  h.trans (htu.mono (Set.subset_univ K))

theorem Recovered.after {α : Type} {r : Except String α} {t u : RunDir}
    (hst : Keeps R me {.events}ᶜ s t) (h : Recovered R me t r u) : Recovered R me s r u :=
  ⟨hst.trans h.1, fun a hr held => h.2 a hr (hst.locks _ (by simp) held)⟩

theorem safe_removePending : Safe (storeProtocol R) me (Recovered R me s) removePending s := by
  refine safe_modify_end fun u hu _ => ⟨StoreStep.clear, fun v hv => ?_⟩
  exact Recovered.of_none ((hu.trans keeps_clear).mono (Set.subset_univ _)) rfl
    (hv.mono (Set.subset_univ _))

theorem safe_recordPending {m : RunManifest} {p : PendingTransition}
    (hlog : Loggable R (PendingTransition.data p) s) :
    Safe (storeProtocol R) me (Recovered R me s) (recordPending me m p) s := by
  unfold recordPending
  refine safe_withLock (by decide) (by simp) ?_ fun t ht hinv held => ?_
  · rintro r u v huv hr a rfl hs
    obtain ⟨held, hnone⟩ := hr a rfl hs
    exact ⟨huv.locks _ (by simp) held, (huv.inManifest (by simp) held).2.2.2.2 hnone⟩
  · -- under the lock the ledger is read, completed and the record removed
    have hst := (Keeps.refl R me {.events}ᶜ s.toControl).others ht
    have hrecovered : ∀ {r : Except String Unit} {u v : RunDir}, Keeps R me {.events}ᶜ t u →
        Recovered R me u r v → Keeps R me {.events}ᶜ t v ∧ _ :=
      fun htu h => ⟨htu.trans h.1, (Recovered.after (hst.trans htu) h).2⟩
    refine Safe.bind ((safe_readEvents held).mono ?_)
    rintro r u ⟨hu, rfl, hsequenced⟩
    have htu := hu.mono (Set.subset_univ {Lock.events}ᶜ)
    dsimp only
    split
    case h_1 => exact safe_removePending.mono fun r v hv => hrecovered htu hv
    case h_2 =>
      refine safe_ensure (fun _ => ?_) fun v hv =>
        hrecovered (htu.others hv) (Recovered.of_error (Keeps.refl R me _ _))
      refine safe_appendEvent (hu.locks _ (Set.mem_univ _) held) (nextSequence_eq hsequenced)
        ((hlog.keeps ht).keeps hu) fun v hv => ?_
      exact safe_removePending.mono fun r w hw => hrecovered (htu.trans hv) hw

theorem safe_recoverPendingTransition {m : RunManifest} (hseen : Seen R m s) :
    Safe (storeProtocol R) me (Recovered R me s) (recoverPendingTransition me m) s := by
  unfold recoverPendingTransition
  refine safe_read fun t ht _ => ?_
  have hst := (Keeps.refl R me {.events}ᶜ s.toControl).others ht
  cases hthere : t.pending with
  | none => exact safe_pure fun u hu => Recovered.of_none hst hthere (hu.mono (Set.subset_univ _))
  | some _ =>
    refine safe_read fun u hu hinv => ?_
    have hsu := hst.others hu
    cases hp : u.pending with
    | none => exact safe_throw fun v hv => Recovered.of_error (hsu.others hv)
    | some p =>
      dsimp only
      split
      -- the record is taken for one whose manifest was not replaced
      case isTrue => exact safe_removePending.mono fun r v hv => hv.after hsu
      case isFalse hfrom =>
        split
        case isTrue => exact safe_throw fun v hv => Recovered.of_error (hsu.others hv)
        case isFalse hto =>
          have hlog : Loggable R (PendingTransition.data p) u :=
            loggable_of_pending hinv (hseen.keeps hsu) hp hfrom (not_not.mp hto)
          exact (safe_recordPending hlog).mono fun r v hv => hv.after hsu

theorem safe_loadManifest :
    Safe (storeProtocol R) me (fun r t => Recovered R me s r t ∧ ∀ m, r = .ok m →
      Seen R m t ∧ (s.locks .manifest = some me → t.manifest = some m)) (loadManifest me) s := by
  unfold loadManifest
  refine safe_read fun t ht hinv => ?_
  have hst := (Keeps.refl R me {.events}ᶜ s.toControl).others ht
  cases hm : t.manifest with
  | none =>
    exact safe_throw fun u hu => ⟨Recovered.of_error (hst.others hu), fun _ h => nomatch h⟩
  | some m =>
    have hseen : Seen R m t := Seen.current hm
    refine Safe.bind ((safe_recoverPendingTransition hseen).mono fun r u hu => ?_)
    have hsu := hu.after hst
    cases r with
    | error e => exact ⟨⟨hsu.1, fun _ h => nomatch h⟩, fun _ h => nomatch h⟩
    | ok a =>
      refine safe_pure fun v hv => ⟨⟨hsu.1.others hv, fun _ _ held => ?_⟩, ?_⟩
      · obtain ⟨held', hnone⟩ := hsu.2 a rfl held
        exact ⟨hv.locks _ (Set.mem_univ _) held', (hv.inManifest (Set.mem_univ _) held').2.2.2.2 hnone⟩
      · rintro _ ⟨⟩
        refine ⟨(hseen.keeps hu.1).keeps hv, fun held => ?_⟩
        have htv := hu.1.others hv
        rw [(htv.inManifest (by simp) (ht.locks _ (Set.mem_univ _) held)).1, hm]

/-! ### Manifests -/

theorem safe_saveManifestUnlocked {m : RunManifest} (hR : R ≠ .journaled)
    (hseen : ∀ d, R = .guarded d → Seen R m s) (held : s.locks .manifest = some me)
    (hopen : ∀ c, s.manifest = some c → s.flagAtLock = false ∧ c.status.closing = false) :
    Safe (storeProtocol R) me (fun _ t => Keeps R me {.manifest}ᶜ s t)
      (saveManifestUnlocked m) s := by
  refine safe_ensure (fun _ => safe_modify_end fun t ht _ => ?_) fun t ht =>
    ht.mono (Set.subset_univ _)
  obtain ⟨hm, -, hf, -, -⟩ := ht.inManifest (Set.mem_univ _) held
  have hopen' : ∀ c, t.manifest = some c → t.flagAtLock = false ∧ c.status.closing = false := by
    rw [hm, hf]
    exact hopen
  have hstatus : ∀ d, R = .guarded d → m.status.closing = false := by
    intro d hd
    obtain ⟨c, hc, hclosing, -⟩ := (hseen d hd).keeps ht
    by_contra hbad
    exact nomatch (hopen' c hc).2.symm.trans (hclosing (Bool.eq_true_of_not_eq_false hbad))
  refine ⟨StoreStep.save m (ht.locks _ (Set.mem_univ _) held) hR (fun c hc => (hopen' c hc).1)
    (fun c hc => (hopen' c hc).2) hstatus, fun u hu => ?_⟩
  refine ((ht.mono (Set.subset_univ _)).trans
    (keeps_manifest (by simp) (fun _ h => h) ?_ ?_)).others hu
  · exact fun c hc => ⟨fun h => (nomatch (hopen' c hc).2.symm.trans h), fun h => absurd h hR⟩
  · intro _ d hd hc
    have hclosing := hstatus d hd
    rw [hc] at hclosing
    exact nomatch hclosing

theorem safe_saveManifest {m : RunManifest} (hR : R ≠ .journaled)
    (hseen : ∀ d, R = .guarded d → Seen R m s) :
    Safe (storeProtocol R) me (fun _ t => Keeps R me {.manifest}ᶜ s t) (saveManifest me m) s := by
  have hlock : Safe (storeProtocol R) me (fun _ t => Keeps R me {.manifest}ᶜ s t ∧ True)
      (saveManifest me m) s := by
    unfold saveManifest
    refine safe_withLock (by decide) (by simp) (fun _ _ _ _ h => h) fun t ht _ held => ?_
    refine safe_read fun u hu _ => ?_
    have htu := (Keeps.refl R me {.manifest}ᶜ t.toControl).others hu
    have held' := hu.locks _ (Set.mem_univ _) held
    cases hm : u.manifest with
    | none =>
      refine (safe_saveManifestUnlocked hR (fun d hd => ((hseen d hd).keeps ht).keeps hu) held'
        fun c hc => nomatch hm.symm.trans hc).mono fun r v hv => ⟨htu.trans hv, trivial⟩
    | some c =>
      dsimp only
      split
      case isTrue => exact safe_pure fun v hv => ⟨htu.others hv, trivial⟩
      case isFalse hclosing =>
        refine safe_read fun v hv hinv => ?_
        have htv := htu.others hv
        cases hflag : v.cancelRequested with
        | true => exact safe_pure fun w hw => ⟨htv.others hw, trivial⟩
        | false =>
          -- no cancellation was requested when the lock was taken
          have hunflagged : v.flagAtLock = false := by
            by_contra hbad
            exact nomatch hflag.symm.trans (hinv.flagAtLock (Bool.eq_true_of_not_eq_false hbad))
          refine (safe_saveManifestUnlocked hR
            (fun d hd => (((hseen d hd).keeps ht).keeps hu).keeps hv)
            (hv.locks _ (Set.mem_univ _) held') fun c' hc' => ⟨hunflagged, ?_⟩).mono
            fun r w hw => ⟨htv.trans hw, trivial⟩
          rw [(hv.inManifest (Set.mem_univ _) held').1, hm] at hc'
          obtain rfl := Option.some.inj hc'
          simpa [RunStatus.closing] using hclosing
  exact hlock.mono fun _ _ h => h.1

/-! ### Transitions -/

@[simp] theorem nextManifest_status (current manifest : RunManifest) (effective : RunStatus)
    (phase : Option String) (now : Nat) :
    (nextManifest current manifest effective phase now).status = effective := rfl

theorem nextManifest_runId {current manifest : RunManifest} (effective : RunStatus)
    (phase : Option String) (now : Nat) (hcurrent : current.runId ≠ "")
    (hmanifest : manifest.runId ≠ "") :
    (nextManifest current manifest effective phase now).runId ≠ "" := by
  unfold nextManifest
  cases effective.cancels with
  | true => exact hcurrent
  | false => exact hmanifest

theorem nextManifest_resultSha256 {current manifest : RunManifest} {effective : RunStatus}
    (phase : Option String) (now : Nat) (h : effective.cancels = false) :
    (nextManifest current manifest effective phase now).resultSha256 = manifest.resultSha256 := by
  simp [nextManifest, h]

theorem effectiveStatus_eq_or (wins : Bool) (requested : RunStatus) :
    effectiveStatus wins requested = requested ∨ effectiveStatus wins requested = .cancelled := by
  unfold effectiveStatus
  split
  case isTrue => exact Or.inr rfl
  case isFalse => exact Or.inl rfl

theorem effectiveStatus_cancels (requested : RunStatus) :
    (effectiveStatus true requested).cancels = true := by
  unfold effectiveStatus
  cases h : requested.cancels with
  | true => simp [h]
  | false => simp [RunStatus.cancels]

theorem wins_of_cancels {wins : Bool} {requested : RunStatus}
    (h : (effectiveStatus wins requested).cancels = true) :
    wins = true ∨ requested.cancels = true := by
  cases wins with
  | true => exact Or.inl rfl
  | false => exact Or.inr h

/-- The locks that a transition to `status` does not use: one to `completed`
    is the business of the holder of the run lock. -/
def transitionLocks (status : RunStatus) : Set Lock :=
  {l | l ≠ .manifest ∧ l ≠ .events ∧ (l = .run → status ≠ .completed)}

/-- What the caller of a transition answers for. -/
structure MayTransition (R : Regime) (me : Pid) (manifest : RunManifest) (status : RunStatus)
    (s : Control) : Prop where
  runId : R = .journaled → manifest.runId ≠ ""
  there : ∀ d, R = .guarded d → ∃ c, s.manifest = some c
  cancels : ∀ d, R = .guarded d → status.cancels = true → s.cancelRequested = true
  completed : ∀ d, R = .guarded d → status = .completed → Publishable d me manifest s

theorem Publishable.keeps {d : ResultEnvelope → Digest} {m : RunManifest} {K : Set Lock}
    {s t : Control} (h : Publishable d me m s) (hst : Keeps R me K s t) (hR : R = .guarded d)
    (hrun : .run ∈ K) (hpids : .activePids ∈ K) : Publishable d me m t := by
  obtain ⟨-, hkept⟩ := hst.inPids hpids h.activePids
  obtain ⟨hflag, hresult, -⟩ := hkept d hR
  exact ⟨hst.locks _ hrun h.run, hst.locks _ hpids h.activePids, hflag.trans h.flag,
    hresult ▸ h.result⟩

theorem MayTransition.keeps {m : RunManifest} {status : RunStatus} {K : Set Lock} {s t : Control}
    (h : MayTransition R me m status s) (hst : Keeps R me K s t) (hrun : .run ∈ K)
    (hpids : .activePids ∈ K) : MayTransition R me m status t where
  runId := h.runId
  there d hd := by
    obtain ⟨c, hc⟩ := h.there d hd
    obtain ⟨c', hc', -⟩ := hst.status c hc
    exact ⟨c', hc'⟩
  cancels d hd hstatus := hst.flag (h.cancels d hd hstatus)
  completed d hd hstatus := (h.completed d hd hstatus).keeps hst hd hrun hpids

/-- What a transition to `status` leaves to its caller. -/
def Transitioned (R : Regime) (me : Pid) (status : RunStatus) (s : RunDir)
    (r : Except String (RunStatus × RunManifest)) (t : RunDir) : Prop :=
  Keeps R me (transitionLocks status) s t ∧
    ∀ effective next, r = .ok (effective, next) → next.status = effective ∧
      ∀ d, R = .guarded d → Seen R next t ∧
        (status ≠ .completed → effective ≠ .completed → s.locks .run = some me →
          t.locks .run = some me ∧ ∀ c, t.manifest = some c → c.status ≠ .completed)

/-- The holder of the manifest lock may write down `p` and then replace the
    manifest with `next`. -/
structure Prepared (R : Regime) (me : Pid) (p : PendingTransition) (next : RunManifest)
    (s : Control) : Prop where
  held : s.locks .manifest = some me
  known : p.transitionId < s.nextId
  fresh : p.transitionId ∉ s.replaced
  source : ∀ c, s.manifest = some c → c.status = p.from
  open_ : p.from.terminal = false
  target : next.status = p.to
  allowed : transitionAllowed p.from p.to = true
  flagged : s.flagAtLock = true → next.status.cancels = true
  runId : R = .journaled → next.runId ≠ ""
  cancelled : ∀ d, R = .guarded d → next.status.cancels = true → s.cancelRequested = true
  completed : ∀ d, R = .guarded d → next.status = .completed → Publishable d me next s

theorem Prepared.keeps {p : PendingTransition} {next : RunManifest} {s t : Control}
    (h : Prepared R me p next s) (hst : Keeps R me Set.univ s t) : Prepared R me p next t := by
  obtain ⟨hm, -, hf, hr, -⟩ := hst.inManifest (Set.mem_univ _) h.held
  exact { h with
    held := hst.locks _ (Set.mem_univ _) h.held
    known := h.known.trans_le hst.ids
    fresh := hr ▸ h.fresh
    source := hm ▸ h.source
    flagged := hf ▸ h.flagged
    cancelled := fun d hd hc => hst.flag (h.cancelled d hd hc)
    completed := fun d hd hc => (h.completed d hd hc).keeps hst hd (Set.mem_univ _) (Set.mem_univ _) }

theorem Prepared.step {p : PendingTransition} {next : RunManifest} {s : Control}
    (h : Prepared R me p next s) (hintent : s.intent = some p) :
    StoreStep R me s
      { s with manifest := some next, replaced := s.replaced ++ [p.transitionId] } :=
  StoreStep.replace p next h.held hintent h.known h.fresh h.source h.open_ h.target h.allowed
    h.flagged h.runId h.cancelled h.completed

theorem Prepared.keeps_replace {p : PendingTransition} {next : RunManifest} {s : Control}
    (h : Prepared R me p next s) {status : RunStatus}
    (hstatus : p.to = status ∨ p.to = .cancelled) :
    Keeps R me (transitionLocks status) s
      { s with manifest := some next, replaced := s.replaced ++ [p.transitionId] } := by
  refine keeps_manifest (fun hK => hK.1 rfl) (fun _ => List.mem_append_left _) ?_ ?_
  · intro c hc
    rw [h.source c hc, h.target]
    exact ⟨fun hclosing => closing_of_allowed h.allowed hclosing h.open_,
      fun _ => rank_le_of_allowed h.allowed⟩
  · intro hK d hd hcompleted
    rw [h.target] at hcompleted
    rcases hstatus with hto | hto
    · exact hK.2.2 rfl (hto.symm.trans hcompleted)
    · exact nomatch hto.symm.trans hcompleted

theorem events_compl_supset (status : RunStatus) : transitionLocks status ⊆ {Lock.events}ᶜ :=
  fun _ hl => hl.2.1

theorem safe_commit {runId : String} {p : PendingTransition} {next : RunManifest}
    {status : RunStatus} (h : Prepared R me p next s) (hintent : s.intent = some p)
    (hstatus : p.to = status ∨ p.to = .cancelled) :
    Safe (storeProtocol R) me (Transitioned R me status s) (commit me runId p next) s := by
  unfold commit replaceManifest
  let update (s : RunDir) : RunDir :=
    { s with manifest := some next, replaced := s.replaced ++ [p.transitionId] }
  refine Safe.bind (safe_ensure (fun _ => safe_modify_end fun t ht _ => ?_) fun t ht =>
    ⟨ht.mono (Set.subset_univ _), fun _ _ h => nomatch h⟩)
  have ht' := h.keeps ht
  have hintent' := (ht.inManifest (Set.mem_univ _) h.held).2.1.trans hintent
  refine ⟨ht'.step hintent', fun u hu => ?_⟩
  -- the manifest is replaced; what follows leaves it alone
  have hreplace := (ht.mono (Set.subset_univ _)).trans (ht'.keeps_replace hstatus)
  have hend : ∀ {v : RunDir}, Keeps R me {.events}ᶜ (update t) v →
      Transitioned R me status s (.ok (p.to, next)) v := by
    intro v hv
    refine ⟨hreplace.trans (hv.mono (events_compl_supset status)), ?_⟩
    rintro effective _ ⟨⟩
    have hcurrent : Seen R next (update t) := Seen.current rfl
    refine ⟨h.target, fun d hd => ⟨hcurrent.keeps hv, fun hcompleted heffective hrun => ?_⟩⟩
    have hrun' := hreplace.locks .run ⟨by decide, by decide, fun _ => hcompleted⟩ hrun
    refine ⟨hv.locks _ (by simp) hrun', hv.completed (by simp) (Or.inl hrun') d hd ?_⟩
    rintro c ⟨⟩
    rwa [h.target]
  have hlog : Loggable R (PendingTransition.data p) u := by
    intro _ id hid
    obtain rfl : p.transitionId = id := Option.some.inj hid
    exact hu.replaced _ (List.mem_append_right _ (List.mem_singleton.mpr rfl))
  have hu' := hu.mono (Set.subset_univ {Lock.events}ᶜ)
  refine Safe.bind (Safe.attempt ((safe_eventAt hlog).mono fun r v hv => ?_))
  cases r with
  | error e => exact safe_pure fun w hw => hend ((hu'.trans hv).others hw)
  | ok event =>
    refine safe_modify fun w hw _ => ⟨StoreStep.clear, safe_pure fun x hx => hend ?_⟩
    exact (((hu'.trans hv).others hw).others keeps_clear).others hx

theorem Transitioned.after {status : RunStatus} {r : Except String (RunStatus × RunManifest)}
    {t u : RunDir} (hst : Keeps R me (transitionLocks status) s t)
    (h : Transitioned R me status t r u) : Transitioned R me status s r u := by
  refine ⟨hst.trans h.1, fun effective next hr => ?_⟩
  obtain ⟨hstatus, hguarded⟩ := h.2 effective next hr
  refine ⟨hstatus, fun d hd => ⟨(hguarded d hd).1, fun hne heffective hrun => ?_⟩⟩
  exact (hguarded d hd).2 hne heffective (hst.locks .run ⟨by decide, by decide, fun _ => hne⟩ hrun)

theorem Transitioned.of_error {status : RunStatus} {e : String} {t : RunDir}
    (hst : Keeps R me (transitionLocks status) s t) : Transitioned R me status s (.error e) t :=
  ⟨hst, fun _ _ h => nomatch h⟩

/-- A fresh id is no transition's. -/
theorem safe_freshId {β : Type} {Q : Except String β → RunDir → Prop} {k : Nat → Proc β}
    (h : ∀ (id : Nat) (t : RunDir), Keeps R me Set.univ s t → id < t.nextId → id ∉ t.replaced →
      Safe (storeProtocol R) me Q (k id) t) :
    Safe (storeProtocol R) me Q (Proc.freshId >>= k) s := by
  intro t hrely hinv _
  refine ⟨StoreStep.freshId, h t.nextId _ ((keeps_of_rely hrely).trans (keeps_freshId Set.univ))
    (Nat.lt_succ_self _) fun hid => ?_⟩
  exact lt_irrefl _ (hinv.ids _ hid)

theorem safe_writePending {runId : String} {p : PendingTransition} {next : RunManifest}
    {status : RunStatus} (h : Prepared R me p next s) (hempty : R = .journaled → s.pending = none)
    (hstatus : p.to = status ∨ p.to = .cancelled) :
    Safe (storeProtocol R) me (Transitioned R me status s)
      (writePending p >>= fun _ => commit me runId p next) s := by
  refine safe_modify fun t ht _ => ?_
  have ht' := h.keeps ht
  have hempty' : R = .journaled → t.pending = none := fun hR =>
    (ht.inManifest (Set.mem_univ _) h.held).2.2.2.2 (hempty hR)
  refine ⟨StoreStep.prepare p ht'.held ht'.known ht'.fresh hempty' ht'.source ht'.allowed, ?_⟩
  have hwritten : Prepared R me p next { t.toControl with pending := some p, intent := some p } :=
    { ht' with completed := fun d hd hc =>
        ⟨(ht'.completed d hd hc).run, (ht'.completed d hd hc).activePids,
          (ht'.completed d hd hc).flag, (ht'.completed d hd hc).result⟩ }
  refine (safe_commit hwritten rfl hstatus).mono fun r u hu => hu.after ?_
  exact (ht.mono (Set.subset_univ _)).trans ((keeps_prepare p).mono fun _ hl => hl.1)

theorem safe_carryOut {current manifest : RunManifest} {status : RunStatus}
    {phase : Option String} {detail : String} (held : s.locks .manifest = some me)
    (hcurrent : ∀ c, s.manifest = some c → c = current) (hopen : current.status.terminal = false)
    (hempty : R = .journaled → s.pending = none) (hmay : MayTransition R me manifest status s) :
    Safe (storeProtocol R) me (Transitioned R me status s)
      (carryOut me current manifest status phase detail) s := by
  unfold carryOut
  refine safe_read fun t ht hinv => Safe.answer fun now => ?_
  refine safe_ensure (fun hallowed => safe_freshId fun id u hu hknown hfresh =>
    Safe.answer fun timestamp => ?_) fun u hu =>
      Transitioned.of_error ((ht.trans hu).mono (Set.subset_univ _))
  have hsu := ht.trans hu
  obtain ⟨hm, -, hf, hr, hp⟩ := hsu.inManifest (Set.mem_univ _) held
  have hmay' := hmay.keeps hsu (Set.mem_univ _) (Set.mem_univ _)
  have hcurrent' : ∀ c, t.manifest = some c → c = current :=
    (ht.inManifest (Set.mem_univ _) held).1 ▸ hcurrent
  refine (safe_writePending ?_ (fun hR => hp (hempty hR)) (effectiveStatus_eq_or _ _)).mono
    fun r v hv => hv.after (hsu.mono (Set.subset_univ _))
  refine ⟨hsu.locks _ (Set.mem_univ _) held, hknown, hfresh,
    fun c hc => congrArg _ (hcurrent c (hm ▸ hc)), hopen, rfl, hallowed, ?_, ?_, ?_, ?_⟩
  · -- a cancellation requested before the lock was taken wins
    intro hflag
    have held' := ht.locks _ (Set.mem_univ _) held
    rw [(hu.inManifest (Set.mem_univ _) held').2.2.1] at hflag
    simp only [nextManifest_status, hinv.flagAtLock hflag, Bool.true_or]
    exact effectiveStatus_cancels status
  · intro hR
    obtain ⟨c, hc, hrunId⟩ := (hinv.journaled hR).manifest
    obtain rfl := hcurrent' c hc
    exact nextManifest_runId _ _ _ hrunId (hmay.runId hR)
  · intro d hd hcancels
    rcases wins_of_cancels hcancels with hwins | hstatus
    · rcases Bool.or_eq_true_iff.mp hwins with hflag | hcancelling
      · exact hu.flag hflag
      · obtain ⟨c, hc⟩ := (hmay.keeps ht (Set.mem_univ _) (Set.mem_univ _)).there d hd
        obtain rfl := hcurrent' c hc
        refine hu.flag ((hinv.guarded d hd).cancels c hc ?_)
        rw [beq_iff_eq.mp hcancelling]
        rfl
    · exact hmay'.cancels d hd hstatus
  · intro d hd hcompleted
    rcases effectiveStatus_eq_or (t.cancelRequested || current.status == .cancelling) status with
      heq | heq
    · have hpub := hmay'.completed d hd (heq.symm.trans hcompleted)
      refine ⟨hpub.run, hpub.activePids, hpub.flag, ?_⟩
      obtain ⟨r, hr, hsha⟩ := hpub.result
      refine ⟨r, hr, (nextManifest_resultSha256 _ _ ?_).trans hsha⟩
      rw [nextManifest_status] at hcompleted
      rw [hcompleted]
      rfl
    · rw [nextManifest_status, heq] at hcompleted
      exact nomatch hcompleted

theorem safe_transitionFrom {current manifest : RunManifest} {status : RunStatus}
    {phase : Option String} {detail : String} (held : s.locks .manifest = some me)
    (hcurrent : ∀ c, s.manifest = some c → c = current)
    (hempty : R = .journaled → s.pending = none) (hmay : MayTransition R me manifest status s) :
    Safe (storeProtocol R) me (Transitioned R me status s)
      (transitionFrom me current manifest status phase detail) s := by
  unfold transitionFrom
  split
  -- a run that has ended stays as it is
  case isTrue hterminal =>
    refine safe_pure fun t ht => ⟨ht.mono (Set.subset_univ _), ?_⟩
    rintro _ _ ⟨⟩
    refine ⟨rfl, fun d hd => ?_⟩
    obtain ⟨c, hc⟩ := hmay.there d hd
    obtain rfl := hcurrent c hc
    have hc' := (ht.inManifest (Set.mem_univ _) held).1.trans hc
    refine ⟨Seen.current hc', fun _ heffective hrun => ⟨ht.locks _ (Set.mem_univ _) hrun, ?_⟩⟩
    intro c' hc''
    obtain rfl := Option.some.inj (hc'.symm.trans hc'')
    exact heffective
  case isFalse hopen =>
    have hopen := Bool.eq_false_of_not_eq_true hopen
    split
    -- a cancellation raises its flag first
    case isTrue hstatus =>
      refine safe_modify fun t ht _ => ?_
      have hflag : ∀ d, R = .guarded d → t.cancelRequested = true := fun d hd =>
        ht.flag (hmay.cancels d hd (by rw [hstatus]; rfl))
      refine ⟨StoreStep.flag hflag, ?_⟩
      have hst := ht.trans (keeps_flag hflag)
      obtain ⟨hm, -, -, -, hp⟩ := hst.inManifest (Set.mem_univ _) held
      refine (safe_carryOut ?_ (hm ▸ hcurrent) hopen ?_ ?_).mono fun r u hu =>
        hu.after (hst.mono (Set.subset_univ _))
      · exact hst.locks _ (Set.mem_univ _) held
      · exact fun hR => hp (hempty hR)
      · exact hmay.keeps hst (Set.mem_univ _) (Set.mem_univ _)
    case isFalse => exact safe_carryOut held hcurrent hopen hempty hmay

theorem safe_transition {manifest : RunManifest} {status : RunStatus} {phase : Option String}
    {detail : String} (hmay : MayTransition R me manifest status s) :
    Safe (storeProtocol R) me (Transitioned R me status s)
      (transition me manifest status phase detail) s := by
  unfold transition
  refine safe_withLock (by decide) (fun h => h.1 rfl) ?_ fun t ht hinv held => ?_
  · rintro r t u htu hr effective next rfl
    obtain ⟨hstatus, hguarded⟩ := hr effective next rfl
    refine ⟨hstatus, fun d hd => ⟨(hguarded d hd).1.keeps htu, fun hne heffective hrun => ?_⟩⟩
    obtain ⟨hrun', hcompleted⟩ := (hguarded d hd).2 hne heffective hrun
    exact ⟨htu.locks _ (by simp) hrun', htu.completed (by simp) (Or.inl hrun') d hd hcompleted⟩
  · -- what is established from `t` on holds from `s` on
    have hmono : ∀ {r : Except String (RunStatus × RunManifest)} {u v : RunDir},
        Keeps R me (transitionLocks status) t u → Transitioned R me status u r v →
        Keeps R me (transitionLocks status) t v ∧ _ := fun htu h =>
      ⟨htu.trans h.1, (Transitioned.after ((ht.mono (Set.subset_univ _)).trans htu) h).2⟩
    refine safe_read fun u hu hinv' => ?_
    have htu := hu.mono (Set.subset_univ (transitionLocks status))
    have held' := hu.locks _ (Set.mem_univ _) held
    cases hthere : u.manifest with
    | none =>
      refine (safe_transitionFrom held' (fun c hc => nomatch hthere.symm.trans hc) (fun hR => ?_)
        ((hmay.keeps ht (Set.mem_univ _) (Set.mem_univ _)).keeps hu (Set.mem_univ _)
          (Set.mem_univ _))).mono fun r v hv => hmono htu hv
      obtain ⟨c, hc, -⟩ := (hinv'.journaled hR).manifest
      exact nomatch hthere.symm.trans hc
    | some c =>
      refine Safe.bind (safe_loadManifest.mono ?_)
      rintro r v ⟨⟨huv, hrecovered⟩, hloaded⟩
      have htv := htu.trans (huv.mono (events_compl_supset status))
      cases r with
      | error e => exact hmono htv (Transitioned.of_error (Keeps.refl R me _ _))
      | ok current =>
        obtain ⟨held'', hnone⟩ := hrecovered current rfl held'
        have hcurrent := (hloaded current rfl).2 held'
        refine (safe_transitionFrom held'' ?_ (fun _ => hnone) ?_).mono fun r w hw => hmono htv hw
        · exact fun c hc => Option.some.inj (hc.symm.trans hcurrent)
        · exact ((hmay.keeps ht (Set.mem_univ _) (Set.mem_univ _)).keeps hu (Set.mem_univ _)
            (Set.mem_univ _)).keeps huv (by simp) (by simp)

theorem safe_events : Safe (storeProtocol R) me (fun _ t => Keeps R me {.events}ᶜ s t)
    (events me) s := by
  unfold events
  refine Safe.bind (safe_loadManifest.mono ?_)
  rintro r t ⟨⟨hst, -⟩, hloaded⟩
  cases r with
  | error e => exact hst
  | ok m =>
    refine Safe.bind ((safe_recoverPendingTransition (hloaded m rfl).1).mono ?_)
    rintro r u ⟨htu, -⟩
    have hsu := hst.trans htu
    cases r with
    | error e => exact hsu
    | ok a =>
      refine Safe.mono (safe_withLock (by decide) (by simp) (fun _ _ _ _ h => h) fun v hv _ held =>
        (safe_readEvents held).mono fun r w hw => ⟨hw.1.mono (Set.subset_univ _), trivial⟩)
        fun r v hv => hsu.trans hv.1

/-! ### Cancellation and the run lock -/

/-- The lock on the active processes may be released: what was published
    under it is complete. -/
def Clean (R : Regime) (s : Control) : Prop :=
  ∀ d, R = .guarded d → s.publishing = true → s.result = none ∧ s.report = false

theorem Clean.keeps {s t : Control} (h : Clean R s) (held : s.locks .activePids = some me)
    (hst : Keeps R me Set.univ s t) : Clean R t := by
  intro d hd hp
  obtain ⟨hpublishing, hkept⟩ := hst.inPids (Set.mem_univ _) held
  obtain ⟨-, hresult, hreport⟩ := hkept d hd
  obtain ⟨hr, hrep⟩ := h d hd (hpublishing ▸ hp)
  exact ⟨hresult.trans hr, hreport.trans hrep⟩

/-- A program under the lock on the active processes leaves it clean. -/
theorem safe_withPidsLock {α : Type} {p : Proc α} {K : Set Lock} (hK : .activePids ∉ K)
    {Post : Except String α → RunDir → Prop}
    (hpost : ∀ r (t t' : RunDir), Keeps R me {.activePids}ᶜ t t' → Post r t → Post r t')
    (h : ∀ t : RunDir, Keeps R me Set.univ s t → StoreInv R t →
      t.locks .activePids = some me → t.publishing = false →
      Safe (storeProtocol R) me (fun r t' => Keeps R me K t t' ∧ Post r t' ∧
        t'.locks .activePids = some me ∧ Clean R t') p t) :
    Safe (storeProtocol R) me (fun r t => Keeps R me K s t ∧ Post r t)
      (Proc.withLock me .activePids p) s := by
  have hcompl : K ⊆ {.activePids}ᶜ := fun l' hl' heq => hK (heq ▸ hl')
  refine Safe.bracket fun t hrely hinv hfree => ?_
  have hfree : t.locks .activePids = none := by simpa using hfree
  have htake : StoreStep R me t (t.toControl.take me .activePids) := StoreStep.take _ hfree
  have hkeep : Keeps R me Set.univ s (t.toControl.take me .activePids) :=
    (keeps_of_rely hrely).trans (keeps_take hfree)
  refine ⟨htake, (h (t.control (·.take me .activePids)) hkeep (step_inv hinv htake)
    (t.toControl.take_locks_self me _) (hinv.publishing hfree)).mono ?_⟩
  rintro r u ⟨hu, hr, held, hclean⟩ u' hrely' -
  have huu' := keeps_of_rely hrely'
  refine ⟨StoreStep.drop _ fun d hd _ _ hp => hclean.keeps held huu' d hd hp, fun v hrely'' => ?_⟩
  have huv : Keeps R me {.activePids}ᶜ u v :=
    ((huu'.mono (Set.subset_univ _)).trans (keeps_drop _)).others (keeps_of_rely hrely'')
  exact ⟨((hkeep.mono (Set.subset_univ _)).trans hu).trans (huv.mono hcompl), hpost r u v huv hr⟩

theorem clean_of_quiet {s : Control} (h : s.publishing = false) : Clean R s :=
  fun _ _ hp => nomatch h.symm.trans hp

theorem keeps_publish (s : Control) :
    Keeps R me {.activePids}ᶜ s { s with cancelRequested := true, publishing := true } :=
  { Keeps.refl R me _ s with
    flag := fun _ => rfl
    inPids := fun h => absurd rfl h }

theorem keeps_withdraw (s : Control) :
    Keeps R me {.activePids}ᶜ s { s with result := none } :=
  { Keeps.refl R me _ s with inPids := fun h => absurd rfl h }

theorem keeps_withdrawReport (s : Control) :
    Keeps R me {.activePids}ᶜ s { s with report := false } :=
  { Keeps.refl R me _ s with inPids := fun h => absurd rfl h }

theorem safe_requestCancellation :
    Safe (storeProtocol R) me (fun r t => Keeps R me {.activePids}ᶜ s t ∧ ∀ status processes,
      r = .ok (status, processes) → status.terminal = false → t.cancelRequested = true)
      (requestCancellation me) s := by
  unfold requestCancellation
  refine safe_withPidsLock (by simp) ?_ fun t ht hinv held hquiet => ?_
  · exact fun r t u htu hr status processes heq hopen => htu.flag (hr status processes heq hopen)
  refine safe_read fun u hu _ => ?_
  have held' := hu.locks _ (Set.mem_univ _) held
  have hquiet' : u.publishing = false := (hu.inPids (Set.mem_univ _) held).1.trans hquiet
  -- an end without a publication
  have hend : ∀ {r : Except String (RunStatus × List ActiveProcess)} {v : RunDir},
      Keeps R me Set.univ u v →
      (∀ status processes, r = .ok (status, processes) → status.terminal = false →
        v.cancelRequested = true) →
      Keeps R me {.activePids}ᶜ t v ∧ (∀ status processes, r = .ok (status, processes) →
        status.terminal = false → v.cancelRequested = true) ∧
        v.locks .activePids = some me ∧ Clean R v := fun hv hr =>
    ⟨(hu.trans hv).mono (Set.subset_univ _), hr, hv.locks _ (Set.mem_univ _) held',
      (clean_of_quiet hquiet').keeps held' hv⟩
  cases hm : u.manifest with
  | none => exact safe_throw fun v hv => hend hv fun _ _ h => nomatch h
  | some m =>
    dsimp only
    split
    case isTrue hterminal =>
      refine safe_pure fun v hv => hend hv ?_
      rintro _ _ ⟨⟩ hopen
      exact nomatch hterminal.symm.trans hopen
    case isFalse hopen =>
      have hnot : ∀ d, R = .guarded d → ∀ c, u.manifest = some c → c.status ≠ .completed := by
        rintro d hd c hc hcompleted
        obtain rfl := Option.some.inj (hm.symm.trans hc)
        rw [hcompleted] at hopen
        exact hopen rfl
      refine safe_modify fun v hv _ => ⟨StoreStep.publish (hv.locks _ (Set.mem_univ _) held')
        fun d c hd hc => hv.completed (Set.mem_univ _) (Or.inr ⟨Set.mem_univ _, held'⟩) d hd
          (hnot d hd) c hc, ?_⟩
      have heldv := hv.locks _ (Set.mem_univ _) held'
      have htv := (((hu.trans hv).mono (Set.subset_univ _)).trans (keeps_publish v.toControl))
      refine safe_modify fun w hw _ => ?_
      have heldw := hw.locks _ (Set.mem_univ _) heldv
      have hpublishing := (hw.inPids (Set.mem_univ _) heldv).1
      have htw := (htv.others hw).trans (keeps_withdraw w.toControl)
      refine ⟨StoreStep.withdraw fun d hd => ⟨heldw, hpublishing⟩, safe_modify fun x hx _ => ?_⟩
      have heldx := hx.locks _ (Set.mem_univ _) heldw
      have htx := (htw.others hx).trans (keeps_withdrawReport x.toControl)
      refine ⟨StoreStep.withdrawReport fun d hd => heldx, safe_read fun y hy _ => safe_pure fun z hz => ?_⟩
      have hxz := hy.trans hz
      refine ⟨htx.others hxz, fun _ _ _ _ => hxz.flag (hx.flag (hw.flag rfl)),
        hxz.locks _ (Set.mem_univ _) heldx, fun d hd _ => ?_⟩
      -- both artifacts were withdrawn under the lock
      obtain ⟨-, hresult, -⟩ := (hx.inPids (Set.mem_univ _) heldw).2 d hd
      obtain ⟨-, hresult', hreport⟩ := (hxz.inPids (Set.mem_univ _) heldx).2 d hd
      exact ⟨hresult'.trans hresult, hreport⟩

/-- A program under the run lock. -/
theorem safe_withRunLock {α : Type} {p : Proc α} {Q : Except String α → RunDir → Prop}
    (hbusy : ∀ t : RunDir, Keeps R me Set.univ s t → Q (.error "run is already being advanced") t)
    (h : ∀ t : RunDir, Keeps R me Set.univ s t → StoreInv R t → t.locks .run = some me →
      Safe (storeProtocol R) me (fun r u => ∀ v : RunDir, Keeps R me {.run}ᶜ u v → Q r v) p t) :
    Safe (storeProtocol R) me Q (withRunLock me p) s := by
  refine Safe.bind fun t hrely hinv _ => ?_
  have ht := keeps_of_rely hrely
  by_cases hfree : t.locks .run = none
  · have htake : StoreStep R me t (t.toControl.take me .run) := StoreStep.take _ hfree
    have hkeep : Keeps R me Set.univ s (t.toControl.take me .run) := ht.trans (keeps_take hfree)
    have hbody := h (takeRun me t) hkeep (step_inv hinv htake)
      (t.toControl.take_locks_self me _)
    simp only [if_pos hfree]
    refine ⟨htake, fun u hrely' => Safe.bind (Safe.attempt ((hbody.rely hrely').mono ?_))⟩
    intro r v hr
    refine safe_modify fun w hw _ => ⟨StoreStep.drop _ fun _ _ h => (nomatch h), ?_⟩
    have hvw : Keeps R me {.run}ᶜ v (w.toControl.drop me .run) :=
      (hw.mono (Set.subset_univ _)).trans (keeps_drop .run)
    cases r with
    | ok a => exact safe_pure fun x hx => hr x (hvw.others hx)
    | error e => exact safe_throw fun x hx => hr x (hvw.others hx)
  · simp only [if_neg hfree]
    exact ⟨StoreStep.idle, fun u hrely' => hbusy u (ht.trans (keeps_of_rely hrely'))⟩

end operations

end Quinte.Store
