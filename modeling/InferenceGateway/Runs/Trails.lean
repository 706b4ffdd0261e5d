import InferenceGateway.Db.Trail
import InferenceGateway.Runs.Consistency

/-!
# The audit trail of every run

Whatever a step writes to the store it writes by statements, so the trails that
every statement keeps hold in every reachable store.
-/

namespace InferenceGateway

open Library Relation

variable {platform : Platform} {prepare : Prepare} {config : Config} {t : GatewayTransition}

/-- A sequence of statements. -/
abbrev Statements : JobStore → JobStore → Prop := ReflTransGen Statement

theorem Statements.audited {store store' : JobStore} (statements : Statements store store')
    (audited : store.Audited) : store'.Audited := by
  induction statements with
  | refl => exact audited
  | tail _ statement inductionHypothesis => exact statement.audited inductionHypothesis

/-! ### The loops -/

theorem statements_renewAll (config : Config) (now : Millis)
    (items : List (Option InFlightReport)) (state : Renewing) :
    Statements state.store (renewAll config now items state).1.store := by
  induction items generalizing state with
  | nil => exact .refl
  | cons item rest inductionHypothesis =>
    cases item with
    | none => exact .refl
    | some item =>
      refine ReflTransGen.trans ?_ (inductionHypothesis (renewOne config now state item))
      unfold renewOne
      split
      · dsimp only
        split <;> exact .single (.execute ..)
      · exact .refl

theorem statements_renewed (state : Gateway) (body : PollBody) (podId sessionId : String) :
    Statements state.store (state.renewed config body podId sessionId).state.store :=
  statements_renewAll config state.now _ ⟨state.store, [], [], []⟩

theorem statements_dispatchAll (pod : Pod) (expiresAt now : Millis) (jobs : List Job)
    (store : JobStore) (leases : Nat) :
    Statements store (dispatchAll platform pod expiresAt now jobs store leases) := by
  induction jobs generalizing store leases with
  | nil => exact .refl
  | cons job rest inductionHypothesis =>
    exact .head (.execute ..) (inductionHypothesis _ (leases + 1))

theorem statements_claimed (state : Gateway) (pod : Pod) (slots : Nat) :
    Statements state.store (state.claimed platform config pod slots).store := by
  unfold Gateway.claimed
  rw [claimFor_eq]
  exact statements_dispatchAll ..

theorem statements_foldl {body : Sweeping → Job → Sweeping}
    (step : ∀ state job, Statements state.store (body state job).store) (jobs : List Job)
    (state : Sweeping) : Statements state.store (jobs.foldl body state).store := by
  induction jobs generalizing state with
  | nil => exact .refl
  | cons job rest inductionHypothesis =>
    exact (step state job).trans (inductionHypothesis (body state job))

theorem statements_sweep (store : JobStore) (pods : PodStore) (now : Millis) :
    Statements store (sweep config store pods now).store := by
  unfold sweep
  refine (statements_foldl (fun state job => ?_) _ ⟨store, pods, ⟨0, 0, 0⟩⟩).trans
    ((statements_foldl (fun state job => ?_) _ _).trans
      (statements_foldl (fun state job => ?_) _ _))
  · unfold expireLease
    split
    · dsimp only
      split <;> exact .single (.execute ..)
    · dsimp only
      split
      · exact .tail (.single (.execute ..)) (.note _ rfl ..)
      · exact .single (.execute ..)
  · unfold failOverdue
    dsimp only
    split
    · exact .tail (.single (.execute ..)) (.note _ rfl ..)
    · exact .single (.execute ..)
  · unfold forceCancel
    dsimp only
    split <;> exact .single (.execute ..)

/-! ### Every step -/

theorem statements_cancelInFlight (state : Gateway) (id : String) (now : Millis) :
    Statements state.store (state.cancelInFlight config id now).2.store := by
  unfold Gateway.cancelInFlight
  dsimp only
  split
  · rw [respondWith_snd]
    exact .single (.execute ..)
  · exact .refl

theorem statements_deleteVideo (config : Config) (state : Gateway) (id : String) :
    Statements state.store (state.deleteVideo config id).2.store := by
  unfold Gateway.deleteVideo
  split
  · exact .refl
  · dsimp only
    split
    · split
      · rw [respondWith_snd]
        exact .single (.execute ..)
      · exact .head (.execute ..) (statements_cancelInFlight (state.withStore _) ..)
    · exact statements_cancelInFlight ..

theorem statements_cleanup (config : Config) (task : CleanupTask) (stores : Stores) :
    Statements stores.store (task.advance config stores).2.store := by
  unfold CleanupTask.advance
  split
  · exact .refl
  · dsimp only
    rw [store_expireNext]
    exact .tail (.single (.execute ..)) (.execute ..)
  · exact .refl
  · next root rest later _ =>
    rcases store_visit config task.now task.result root later stores rest with
      same | purged
    · rw [same]
    · rw [purged]
      exact .single (.purge ..)
  · exact .refl
  · exact .refl

/-- A step changes the store by statements alone. -/
theorem statements (fires : (gateway platform prepare config).Fires t) :
    Statements t.pre.store t.post.store := by
  obtain ⟨pre, action, reply, post⟩ := t
  have effect : Effect platform config pre action reply post := effect fires
  cases effect with
  | unadmitted | creating | unnamed | timedOut | released | unaccepted | uploading | refused
  | making | writing | uncreated | streaming | dropped | removed | sweeping | drained
  | shutdown => exact .refl
  | ticked => exact .single (.tick ..)
  | @deleted id _ store after =>
    have statements := statements_deleteVideo config pre id
    rw [after] at statements
    exact statements
  | threw => exact statements_renewed pre ..
  | parked _ renewed | answered _ renewed =>
    subst renewed
    exact (statements_renewed pre ..).trans (statements_claimed ..)
  | woken => exact statements_claimed (pre.unpark _) ..
  | superseded | accepted | retried => exact .single (.execute ..)
  | created _ _ inserted => exact .single (.create inserted)
  | stored => exact .single (.note _ rfl ..)
  | @finished _ task =>
    change Statements pre.store (if task.clears then pre.store.clearInput task.id else pre.store)
    split
    · exact .single (.execute ..)
    · exact .refl
  | @cleaning _ task _ _ _ advanced | @cleaned _ task _ _ _ advanced =>
    have statements := statements_cleanup config task pre.toStores
    rw [advanced] at statements
    exact statements
  | requeued | swept => exact statements_sweep ..
  | restarted => exact .single (.recover ..)

theorem audited_of_run {trace : List GatewayTransition} {final : Gateway}
    (run : (gateway platform prepare config).Run (gateway platform prepare config).initial
      trace final) : final.store.Audited :=
  run.invariant (P := fun state => state.store.Audited)
    ⟨by rintro _ _ ⟨⟩, fun _ _ => rfl⟩
    fun _ fires audited => (statements fires).audited audited

/-- What a purge removes: the rows of the jobs that finished before the cutoff
with their events, and nothing of an unfinished job. -/
structure PurgesExactly (store purged : JobStore) (before : Millis) : Prop where
  rows : ∀ id, purged.get id =
    (store.get id).filter fun job => !job.finishedAt.any (· < before)
  events : purged.events = store.events.filter fun event =>
    !(store.get event.jobId).any fun job => job.finishedAt.any (· < before)
  unfinished : ∀ id job, store.get id = some job → job.state.isTerminal = false →
    purged.get id = some job ∧ purged.trail id = store.trail id

/-- In every reachable store the audit trail of a job replays to its row, and a
purge keeps what it should. -/
theorem audit_trail (platform : Platform) (prepare : Prepare) (config : Config)
    (run : GatewayRun platform prepare config) :
    (∀ job ∈ run.final.store.jobs.rows, Trail (run.final.store.trail job.id) job) ∧
      ∀ before, PurgesExactly run.final.store (run.final.store.purgeBefore before).2 before := by
  have audited := audited_of_run run.run
  constructor
  · intro job member
    exact audited.rows job.id job (JobStore.get_of_mem member)
  · intro before
    refine ⟨JobStore.get_purgeBefore before, events_purgeBefore _ before, ?_⟩
    intro id job found unfinished
    have consistent := ((sound_of_run run.run).row id job found).consistent
    have young : job.finishedAt.any (· < before) = false := by
      cases state : job.state with
      | queued => simp [(consistent.queued state).2.2.2.2.1]
      | inProgress => simp [(consistent.inProgress state).2.2.2.2.2]
      | completed | failed | cancelled =>
        rw [state] at unfinished
        cases unfinished
    constructor
    · rw [JobStore.get_purgeBefore, found]
      simp [Option.filter, young]
    · rw [trail_purgeBefore, found, Option.any_some, young]
      rfl

end InferenceGateway
