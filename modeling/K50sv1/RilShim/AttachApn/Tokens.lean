import K50sv1.RilShim.AttachApn.System
import Mathlib.Data.List.Nodup
import Mathlib.Data.Fintype.Card

/-!
# Token identity

A timeout ends the worker's wait but not the vendor's request, so the token stays
reserved until the vendor completes it.  The invariant ties `sIaTokenOutstanding`
to the requests that are issued and not completed; the identity of tokens
follows from it by counting.
-/

namespace K50sv1.RilShim.AttachApn

open K50sv1.Transition

variable {simCount : Nat} [NeZero simCount]

/-- Live requests carry distinct tokens, and exactly theirs are outstanding. -/
structure TokenInvariant (system : IaSystem simCount) : Prop where
  distinct : (system.live.map Request.token).Nodup
  outstanding : ∀ index, system.shim.sIaTokenOutstanding index = true ↔
    index ∈ system.live.map Request.token

theorem tokenInvariant_initial : TokenInvariant (IaSystem.initial simCount) where
  distinct := by simp [IaSystem.live, IaSystem.initial, WorkerPhase.inTransit]
  outstanding := by
    simp [IaSystem.live, IaSystem.initial, IaState.initial, WorkerPhase.inTransit]

omit [NeZero simCount] in
/-- Steps that neither issue nor complete keep the invariant. -/
theorem TokenInvariant.congr {system after : IaSystem simCount} (inv : TokenInvariant system)
    (live : after.live = system.live)
    (tokens : after.shim.sIaTokenOutstanding = system.shim.sIaTokenOutstanding) :
    TokenInvariant after where
  distinct := by rw [live]; exact inv.distinct
  outstanding := by rw [live, tokens]; exact inv.outstanding

omit [NeZero simCount] in
/-- Issuing a request under a token that is not outstanding. -/
theorem TokenInvariant.insert {system after : IaSystem simCount} (inv : TokenInvariant system)
    (request : Request simCount) (live : after.live = request :: system.live)
    (free : system.shim.sIaTokenOutstanding request.token = false)
    (tokens : after.shim.sIaTokenOutstanding =
      Function.update system.shim.sIaTokenOutstanding request.token true) :
    TokenInvariant after where
  distinct := by
    rw [live, List.map_cons, List.nodup_cons]
    constructor
    · intro member
      rw [(inv.outstanding request.token).mpr member] at free
      contradiction
    · exact inv.distinct
  outstanding index := by
    rw [live, tokens, List.map_cons, List.mem_cons, ← inv.outstanding]
    by_cases same : index = request.token
    · simp [same]
    · simp [same]

omit [NeZero simCount] in
/-- Completing a held request frees its token and no other. -/
theorem TokenInvariant.erase {system after : IaSystem simCount} (inv : TokenInvariant system)
    (request : Request simCount) (live : system.live.Perm (request :: after.live))
    (tokens : after.shim.sIaTokenOutstanding =
      Function.update system.shim.sIaTokenOutstanding request.token false) :
    TokenInvariant after := by
  have mapped : (system.live.map Request.token).Perm
      (request.token :: after.live.map Request.token) := live.map Request.token
  have distinct := mapped.nodup_iff.mp inv.distinct
  rcases List.nodup_cons.mp distinct with ⟨fresh, rest⟩
  constructor
  · exact rest
  intro index
  rw [tokens]
  by_cases same : index = request.token
  · simpa [same] using fresh
  · rw [Function.update_of_ne same, inv.outstanding, mapped.mem_iff, List.mem_cons]
    simp [same]

theorem tokenInvariant_pass {system : IaSystem simCount} (inv : TokenInvariant system)
    (scanning : system.worker = .scanning) {inputs : PassInputs} {result : PassResult simCount}
    (outcome : PassOutcome system.shim inputs result) :
    TokenInvariant (system.afterPass inputs result) := by
  cases outcome with
  | released _ _ => exact inv.congr rfl rfl
  | timedWait _ _ => exact inv.congr (afterPass_live scanning inputs (by simp)) rfl
  | wait _ _ => exact inv.congr (afterPass_live scanning inputs (by simp)) rfl
  | sleep _ _ _ _ _ _ => exact inv.congr (afterPass_live scanning inputs (by simp)) rfl
  | rejected socketId _ _ _ =>
      rcases chargeLastIssue_frame { system.shim with
        sIaPending := Function.update system.shim.sIaPending socketId false }
        inputs.lastIssue with ⟨_, _, frame⟩
      rw [frame]
      exact inv.congr rfl rfl
  | copyFailed _ _ _ _ =>
      rcases chargeLastIssue_frame system.shim inputs.lastIssue with ⟨_, _, frame⟩
      rw [frame]
      exact inv.congr rfl rfl
  | issued socketId token _ _ free _ =>
      apply inv.insert ⟨system.issueCount, token, socketId, system.shim.sIaCache socketId,
        inputs.issuedAt⟩
      · simp [IaSystem.live, IaSystem.afterPass, scanning, WorkerPhase.inTransit]
      · exact free
      · unfold issue
        rcases chargeLastIssue_frame _ inputs.lastIssue with ⟨_, _, frame⟩
        rw [frame]
        rfl

theorem tokenInvariant_step {hooks : IaHookState} {system after : IaSystem simCount}
    {event : IaEvent simCount} (inv : TokenInvariant system)
    (step : iaStep hooks system event = some after) : TokenInvariant after := by
  cases iaStep_transition step with
  | dispatch socketId request strdup =>
      rcases dispatched_frame hooks system socketId request strdup with ⟨_, _, _, _, frame⟩
      rw [frame]
      exact inv.congr rfl rfl
  | forward _ _ _ _ => exact inv.congr rfl rfl
  | indication unsolResponse socketId =>
      rcases noteIndication_frame hooks system.shim unsolResponse socketId with ⟨_, frame⟩
      rw [frame]
      exact inv.congr rfl rfl
  | complete request held =>
      apply inv.erase request
      · have split := List.perm_cons_erase held
        exact (split.append_left _).trans List.perm_middle
      · rfl
  | completeForeign _ => exact inv
  | pass inputs result scanning outcome => exact tokenInvariant_pass inv scanning outcome
  | timedWake afterWait waiting =>
      rcases afterTimedWait_frame system.shim afterWait with ⟨_, _, frame⟩
      rw [frame]
      exact inv.congr (by simp [IaSystem.live, waiting, WorkerPhase.inTransit]) rfl
  | wake afterWait waiting =>
      exact inv.congr (by simp [IaSystem.live, waiting, WorkerPhase.inTransit]) rfl
  | slept _ _ sleeping =>
      exact inv.congr (by simp [IaSystem.live, sleeping, WorkerPhase.inTransit]) rfl
  | call request calling =>
      exact inv.congr (by simp [IaSystem.live, calling, WorkerPhase.inTransit]) rfl

theorem reachable_tokenInvariant {system : IaSystem simCount}
    (reachable : Reachable iaAnyStep (.initial simCount) system) : TokenInvariant system :=
  reachable.invariant tokenInvariant_initial fun _ _ _ inv step => tokenInvariant_step inv step

/-! ## Counting -/

section Counting

variable {system : IaSystem simCount}

omit [NeZero simCount]

theorem TokenInvariant.held_distinct (inv : TokenInvariant system) :
    (system.held.map Request.token).Nodup := by
  have split := inv.distinct
  rw [IaSystem.live, List.map_append] at split
  exact (List.nodup_append.mp split).2.1

theorem TokenInvariant.live_nodup (inv : TokenInvariant system) : system.live.Nodup :=
  inv.distinct.of_map

/-- A live request is determined by its token. -/
theorem TokenInvariant.eq_of_token (inv : TokenInvariant system) {first second : Request simCount}
    (firstLive : first ∈ system.live) (secondLive : second ∈ system.live)
    (token : first.token = second.token) : first = second :=
  List.inj_on_of_nodup_map inv.distinct firstLive secondLive token

/-- Completing a held request removes it and nothing else. -/
theorem TokenInvariant.mem_live_erase (inv : TokenInvariant system) {request : Request simCount}
    (held : request ∈ system.held) (other : Request simCount) :
    other ∈ system.worker.inTransit ++ system.held.erase request ↔
      other ∈ system.live ∧ other ≠ request := by
  rcases List.nodup_append.mp inv.live_nodup with ⟨_, heldNodup, disjoint⟩
  rw [IaSystem.live, List.mem_append, List.mem_append, heldNodup.mem_erase_iff]
  constructor
  · rintro (moving | ⟨differs, member⟩)
    · exact ⟨.inl moving, disjoint other moving request held⟩
    · exact ⟨.inr member, differs⟩
  · rintro ⟨moving | member, differs⟩
    · exact .inl moving
    · exact .inr ⟨differs, member⟩

/-- Exactly one live request carries an outstanding token, none carries another. -/
theorem TokenInvariant.count_live (inv : TokenInvariant system)
    (index : Fin reissueTokenSlots) :
    (system.live.map Request.token).count index =
      (system.shim.sIaTokenOutstanding index).toNat := by
  cases outstanding : system.shim.sIaTokenOutstanding index with
  | true =>
      have member := (inv.outstanding index).mp outstanding
      exact List.count_eq_one_of_mem inv.distinct member
  | false =>
      apply List.count_eq_zero_of_not_mem
      intro member
      rw [(inv.outstanding index).mpr member] at outstanding
      contradiction

theorem TokenInvariant.held_bounded (inv : TokenInvariant system) :
    system.held.length ≤ reissueTokenSlots := by
  have bound := inv.held_distinct.length_le_card
  rwa [List.length_map, Fintype.card_fin] at bound

end Counting

/-- A pass that ends in a call has picked a token that is not outstanding. -/
theorem issued_token_free {hooks : IaHookState} {system after : IaSystem simCount}
    {inputs : PassInputs} {request : Request simCount}
    (step : iaStep hooks system (.workerPass inputs) = some after)
    (issued : after.worker = .calling request) :
    system.shim.sIaTokenOutstanding request.token = false := by
  cases iaStep_transition step with
  | pass inputs result scanning outcome =>
      cases outcome with
      | issued socketId token _ _ free _ =>
          cases issued
          exact free
      | _ => simp [IaSystem.afterPass, scanning] at issued

/-- In every reachable state the held requests carry distinct tokens, the
outstanding flags are exactly the tokens of the requests issued and not completed
(which are the held ones, up to the one the worker may be handing over), at most
`REISSUE_TOKEN_SLOTS` are held, and the next issue picks a token none of them
carries. -/
theorem token_identity {system : IaSystem simCount}
    (reachable : Reachable iaAnyStep (.initial simCount) system) :
    (system.held.map Request.token).Nodup ∧
      (∀ index, (system.live.map Request.token).count index =
        (system.shim.sIaTokenOutstanding index).toNat) ∧
      (system.worker.inTransit = [] → ∀ index, (system.held.map Request.token).count index =
        (system.shim.sIaTokenOutstanding index).toNat) ∧
      system.held.length ≤ reissueTokenSlots ∧
      ∀ hooks inputs after request,
        iaStep hooks system (.workerPass inputs) = some after →
        after.worker = .calling request →
        request.token ∉ system.held.map Request.token := by
  have inv := reachable_tokenInvariant reachable
  refine ⟨inv.held_distinct, inv.count_live, ?_, inv.held_bounded, ?_⟩
  · intro handedOver index
    have count := inv.count_live index
    rwa [IaSystem.live, handedOver, List.nil_append] at count
  · intro hooks inputs after request step issued member
    have free := issued_token_free step issued
    have live : request.token ∈ system.live.map Request.token := by
      rw [IaSystem.live, List.map_append]
      exact List.mem_append_right _ member
    rw [(inv.outstanding request.token).mpr live] at free
    contradiction

theorem token_identity_overlapping :
    ∃ system : IaSystem 2, Reachable iaAnyStep (.initial 2) system ∧
      system.held.length = 2 ∧ (system.held.map Request.token).Nodup ∧
      ∀ index, (system.held.map Request.token).count index =
        (system.shim.sIaTokenOutstanding index).toNat := by
  have enabled : (exec iaAnyStep (IaSystem.initial 2)
      (overlappingReplays.map (Prod.mk .active))).isSome := rfl
  have run := runs_get enabled
  have identity := token_identity run.reachable
  exact ⟨_, run.reachable, rfl, identity.1, identity.2.2.1 rfl⟩

end K50sv1.RilShim.AttachApn
