import Stitch.Client.ScopeReplacement
import Stitch.Client.SyncRequests

/-!
# What a refusal says about the mutation

An error of the first request says that the broker did not apply the mutation; a refusal of the
second, the bump of the scope version, comes back as if it were one of the first.
-/

namespace Stitch.Client.RefusedMutations

open Foundation.FallibleState Mutations LocalRows SyncRequests
open ScopeReplacement (boards record taskRow startState)

/-- Conflict, ownership, not found and precondition failed. -/
def isRefusal (error : Error) : Bool :=
  match error with
  | .conflict _ _ => true
  | .ownership _ _ => true
  | .notFound _ _ => true
  | .preconditionFailed _ _ => true
  | _ => false

/-- The errors on which `Store::create` takes its row back. -/
def takesBack (error : Error) : Bool :=
  error.isConflict || error.isOwnership || error.isTerminalPublishRejection

/-- Errors that say the broker refused, of the request or of its publication. -/
def isFinal (error : Error) : Bool := isRefusal error || error.isTerminalPublishRejection

section

/-- The response refuses the request with one of the codes. -/
def refusesWith (codes : List Nat) : Reply → Bool
  | .answered response => response.isError && codes.contains response.code
  | _ => false

def rejectsForGood : Reply → Bool
  | .publishRejected reasonCode => publishReasonIsTerminal reasonCode
  | _ => false

/-- The reply acknowledges the request, and what the call returns can be read from it. -/
def carries {Returned : Type} (read : Response → Except Error Returned) : Reply → Bool
  | .answered response => !response.isError && (read response).isOk
  | _ => false

variable {engine : Engine} {mutation bump : Handled} {rest : List Handled} {error : Error}

def judge (timeoutMs : Nat) (reply : Reply) (entity id : String) : Except Error Response := do
  let response ← outcome timeoutMs reply
  checkResponse response entity id
  pure response

variable {timeoutMs : Nat} {response : Response} {reply : Reply} {entity id scope : String}
  {Returned : Type} {data : Record}

theorem judge_answered (timeoutMs : Nat) (response : Response) (entity id : String) :
    judge timeoutMs (.answered response) entity id =
      if response.isError then .error (refusalError response entity id) else .ok response := by
  change (checkResponse response entity id).bind (fun _ => .ok response) = _
  rw [checkResponse]
  cases response.isError with
  | true | false => rfl

theorem judge_ok (judged : judge timeoutMs reply entity id = .ok response) :
    reply = .answered response ∧ response.isError = false := by
  cases reply with
  | answered given =>
    rw [judge_answered] at judged
    split_ifs at judged with refused
    cases judged
    exact ⟨rfl, Bool.eq_false_iff.mpr refused⟩
  | _ => cases judged

theorem refusal_error_kind (response : Response) (entity id : String) :
    isRefusal (refusalError response entity id) = [403, 404, 409, 412].contains response.code ∧
      takesBack (refusalError response entity id) = [403, 409].contains response.code := by
  unfold refusalError
  split
  case h_7 others => simp_all [isRefusal, takesBack, Error.isConflict, Error.isOwnership,
    Error.isTerminalPublishRejection]
  all_goals
    rename_i code
    rw [code]
    exact ⟨rfl, rfl⟩

/-- The reply makes the check of its response fail with an error of the kind. -/
def Fails (kind : Error → Bool) (timeoutMs : Nat) (reply : Reply) (entity id : String) :
    Prop :=
  ∃ error, judge timeoutMs reply entity id = .error error ∧ kind error = true

variable {kind : Error → Bool}

theorem fails_answered_iff {codes : List Nat}
    (coded : kind (refusalError response entity id) = codes.contains response.code) :
    Fails kind timeoutMs (.answered response) entity id ↔
      refusesWith codes (.answered response) = true := by
  rw [Fails, judge_answered, refusesWith, Bool.and_eq_true]
  split_ifs with refused
  · constructor
    · rintro ⟨error, ⟨⟩, bad⟩
      exact ⟨refused, coded ▸ bad⟩
    · rintro ⟨_, listed⟩
      exact ⟨_, rfl, coded.trans listed⟩
  · exact ⟨by rintro ⟨error, ⟨⟩, _⟩, fun listed => absurd listed.1 refused⟩

theorem refusal_iff : Fails isRefusal timeoutMs reply entity id ↔
    refusesWith [403, 404, 409, 412] reply = true := by
  cases reply with
  | answered response => exact fails_answered_iff (refusal_error_kind response entity id).1
  | _ =>
    refine ⟨?_, nofun⟩
    rintro ⟨error, ⟨⟩, kind⟩
    cases kind

theorem takes_back_iff : Fails takesBack timeoutMs reply entity id ↔
    refusesWith [403, 409] reply = true ∨ rejectsForGood reply = true := by
  cases reply with
  | answered response =>
    rw [fails_answered_iff (refusal_error_kind response entity id).2]
    exact (or_iff_left nofun).symm
  | publishRejected reasonCode =>
    constructor
    · rintro ⟨error, ⟨⟩, kind⟩
      exact Or.inr kind
    · rintro (never | terminal)
      · cases never
      · exact ⟨_, rfl, terminal⟩
  | _ =>
    refine ⟨?_, by rintro (never | never) <;> cases never⟩
    rintro ⟨error, ⟨⟩, kind⟩
    cases kind

theorem judge_error_carries (judged : judge timeoutMs reply entity id = .error error)
    {read : Response → Except Error Returned} : carries read reply = false := by
  cases reply with
  | answered response =>
    rw [judge_answered] at judged
    split_ifs at judged with refused
    rw [carries, refused]
    rfl
  | _ => rfl

theorem judge_final (judged : judge timeoutMs reply entity id = .error error)
    (final : isFinal error = true) : reply.refuses = true := by
  cases reply with
  | answered response =>
    rw [judge_answered] at judged
    split_ifs at judged with refused
    exact refused
  | publishRejected reasonCode => rfl
  | _ =>
    cases judged
    cases final

def afterRequest (engine : Engine) (rest : List Handled) (topic : String) (payload : Record) :
    Engine :=
  { engine with replies := rest, issued := engine.issued ++ [⟨topic, payload⟩] }

theorem request_first (replies : engine.replies = mutation :: rest) (topic : String)
    (payload : Record) :
    request topic payload engine =
      (outcome engine.requestTimeoutMs mutation.reply,
        afterRequest engine rest topic payload) := by
  unfold request
  rw [replies]
  rfl

theorem request_then_check (replies : engine.replies = mutation :: rest) (topic : String)
    (payload : Record) (entity id : String) (next : Response → SyncM Returned) :
    (request topic payload >>= fun response =>
        settle (checkResponse response entity id) >>= fun _ => next response) engine =
      match judge engine.requestTimeoutMs mutation.reply entity id with
      | .error error => (.error error, afterRequest engine rest topic payload)
      | .ok response => next response (afterRequest engine rest topic payload) := by
  have first := request_first replies topic payload
  cases answered : outcome engine.requestTimeoutMs mutation.reply with
  | error error =>
    have judged : judge engine.requestTimeoutMs mutation.reply entity id = .error error := by
      rw [judge, answered]
      rfl
    rw [answered] at first
    rw [bind_of_error first, judged]
  | ok response =>
    have judged : judge engine.requestTimeoutMs mutation.reply entity id =
        (checkResponse response entity id).bind (fun _ => .ok response) := by
      rw [judge, answered]
      rfl
    rw [answered] at first
    rw [bind_of_ok first, judged]
    cases checkResponse response entity id with
    | error error | ok done => rfl

/-- The call ends in an error of the kind though the broker applied the mutation. -/
def Hides (kind : Error → Bool) (result : Except Error Returned) (mutation : Handled) : Prop :=
  ∃ error, result = .error error ∧ kind error = true ∧ mutation.applied = true

variable {result : Except Error Returned}

theorem not_hides_iff :
    (∀ error, result = .error error → kind error = true → mutation.applied = false) ↔
      ¬ Hides kind result mutation := by
  constructor
  · rintro unapplied ⟨error, failed, bad, applied⟩
    rw [unapplied error failed bad] at applied
    cases applied
  · intro shown error failed bad
    exact Bool.eq_false_iff.mpr fun applied => shown ⟨error, failed, bad, applied⟩

theorem unapplied_errors_iff :
    (∀ error, result = .error error → mutation.applied = false) ↔
      (mutation.applied = true → ∃ returned, result = .ok returned) := by
  cases result with
  | ok returned => exact ⟨fun _ _ => ⟨returned, rfl⟩, nofun⟩
  | error error =>
    constructor
    · intro unapplied applied
      rw [unapplied error rfl] at applied
      cases applied
    · intro returns _ _
      refine Bool.eq_false_iff.mpr fun applied => ?_
      obtain ⟨_, never⟩ := returns applied
      cases never

theorem refusal_final (error : Error) (refusal : isRefusal error = true) :
    isFinal error = true := by
  rw [isFinal, refusal, Bool.true_or]

theorem takes_back_final (error : Error) (back : takesBack error = true) :
    isFinal error = true := by
  cases error with
  | conflict _ _ | ownership _ _ | publishRejected _ => exact back
  | _ => cases back

theorem hides_bind_iff (finals : ∀ error, kind error = true → isFinal error = true) {Other : Type}
    {read : Returned → Except Error Other}
    (readsOn : ∀ returned error, read returned = .error error → isFinal error = false) :
    Hides kind (result.bind read) mutation ↔ Hides kind result mutation := by
  cases result with
  | error first =>
    constructor
    · rintro ⟨error, ⟨⟩, bad⟩
      exact ⟨first, rfl, bad⟩
    · rintro ⟨error, ⟨⟩, bad⟩
      exact ⟨first, rfl, bad⟩
  | ok returned =>
    constructor
    · rintro ⟨error, failed, bad, _⟩
      have final := finals error bad
      rw [readsOn returned error failed] at final
      cases final
    · rintro ⟨error, ⟨⟩, _⟩

theorem extract_id_not_final (response : Response) (error : Error)
    (failed : extractId response = .error error) : isFinal error = false := by
  unfold extractId at failed
  split at failed
  · cases failed
    rfl
  · split at failed
    · cases failed
    · cases failed
      rfl

theorem extract_version_not_final (response : Response) (error : Error)
    (failed : extractVersion response = .error error) : isFinal error = false := by
  unfold extractVersion at failed
  split at failed
  · cases failed
  · cases failed
    rfl

theorem carries_whole (reply : Reply) : carries (fun response => .ok response) reply =
    reply.acknowledges := by
  cases reply with
  | answered response => exact Bool.and_true _
  | _ => rfl

variable [Database] {config : StoreConfig}

/-- A call bumps the version of its scope when it is about a child row of a scope. -/
def bumps (config : StoreConfig) (entity scope : String) : Bool :=
  isChild config entity && !scope.isEmpty

def bumpOutcome (config : StoreConfig) (timeoutMs : Nat) (entity scope : String)
    (bump : Handled) : Except Error Unit :=
  if bumps config entity scope then
    (judge timeoutMs bump.reply config.rootEntity scope).map (fun _ => ())
  else .ok ()

theorem bump_after_outcome (replies : engine.replies = bump :: rest) (entity scope : String) :
    (bumpAfter config entity scope engine).1 =
      bumpOutcome config engine.requestTimeoutMs entity scope bump := by
  unfold bumpAfter bumpOutcome bumps
  split_ifs
  · unfold bumpScopeVersion
    rw [bind_inspect, bind_inspect, request_then_check replies]
    cases judge engine.requestTimeoutMs bump.reply config.rootEntity scope with
    | error error | ok response => rfl
  · rfl

/-- The outcome of a call that sends a mutation, reads its response and then bumps. -/
def callOutcome {Returned : Type} (config : StoreConfig) (timeoutMs : Nat)
    (entity scope id : String) (mutation bump : Handled)
    (read : Response → Except Error Returned) : Except Error Returned :=
  (judge timeoutMs mutation.reply entity id).bind (fun response =>
    (read response).bind (fun returned =>
      (bumpOutcome config timeoutMs entity scope bump).bind (fun _ => .ok returned)))

theorem bump_then_return (replies : engine.replies = bump :: rest) (entity scope : String)
    (returned : Returned) :
    ((bumpAfter config entity scope >>= fun _ => pure returned) engine).1 =
      (bumpOutcome config engine.requestTimeoutMs entity scope bump).bind
        (fun _ => .ok returned) := by
  rw [outcome_bind (fun _ => .ok returned) (fun _ _ => rfl), bump_after_outcome replies]

theorem sync_edit_outcome (replies : engine.replies = mutation :: bump :: rest)
    (verb entity scope id : String) (payload : Record) :
    (syncEdit config verb entity scope id payload engine).1 =
      callOutcome config engine.requestTimeoutMs entity scope id mutation bump .ok := by
  unfold syncEdit callOutcome
  rw [bind_inspect, request_then_check replies]
  cases judge engine.requestTimeoutMs mutation.reply entity id with
  | error error => rfl
  | ok response => exact bump_then_return rfl entity scope response

theorem sync_create_outcome (replies : engine.replies = mutation :: bump :: rest)
    (entity scope : String) (data : Record) :
    (syncCreate config entity scope data engine).1 =
      callOutcome config engine.requestTimeoutMs entity scope
        ((recordId (createData config entity scope data)).getD "") mutation bump extractId := by
  unfold syncCreate callOutcome
  rw [bind_inspect, request_then_check replies]
  cases judge engine.requestTimeoutMs mutation.reply entity
      ((recordId (createData config entity scope data)).getD "") with
  | error error => rfl
  | ok response =>
    change _ = (extractId response).bind _
    dsimp only
    cases extractId response with
    | error error => rfl
    | ok id => exact bump_then_return rfl entity scope id

theorem sync_update_checked_outcome (replies : engine.replies = mutation :: bump :: rest)
    (entity scope id : String) (data : Record) (expectedVersion : Nat) :
    (syncUpdateChecked config entity scope id data expectedVersion engine).1 =
      (callOutcome config engine.requestTimeoutMs entity scope id mutation bump .ok).bind
        extractVersion := by
  unfold syncUpdateChecked
  rw [outcome_bind extractVersion (fun _ _ => rfl), sync_edit_outcome replies]

section

variable {kind : Error → Bool} (finals : ∀ error, kind error = true → isFinal error = true)

theorem bump_hides_iff (applied : mutation.applied = true) :
    Hides kind (bumpOutcome config timeoutMs entity scope bump) mutation ↔
      bumps config entity scope = true ∧
        Fails kind timeoutMs bump.reply config.rootEntity scope := by
  unfold bumpOutcome
  split_ifs with bumped
  · refine ⟨?_, ?_⟩
    · rintro ⟨error, failed, bad, _⟩
      cases judged : judge timeoutMs bump.reply config.rootEntity scope with
      | ok response =>
        rw [judged] at failed
        cases failed
      | error refused =>
        rw [judged] at failed
        cases failed
        exact ⟨bumped, error, judged, bad⟩
    · rintro ⟨_, error, judged, bad⟩
      exact ⟨error, by rw [judged]; rfl, bad, applied⟩
  · exact ⟨by rintro ⟨error, ⟨⟩, _⟩, fun hidden => absurd hidden.1 bumped⟩

include finals in
/-- A call hides the mutation exactly when it got as far as the bump and the bump failed so. -/
theorem call_hides_iff {read : Response → Except Error Returned}
    (readsOn : ∀ response error, read response = .error error → isFinal error = false) :
    Hides kind (callOutcome config timeoutMs entity scope id mutation bump read) mutation ↔
      carries read mutation.reply = true ∧ bumps config entity scope = true ∧
        Fails kind timeoutMs bump.reply config.rootEntity scope := by
  unfold callOutcome
  cases judged : judge timeoutMs mutation.reply entity id with
  | error first =>
    constructor
    · rintro ⟨error, ⟨⟩, bad, applied⟩
      rw [mutation.refused (judge_final judged (finals _ bad))] at applied
      cases applied
    · rintro ⟨carried, _⟩
      rw [judge_error_carries judged] at carried
      cases carried
  | ok response =>
    obtain ⟨answered, accepted⟩ := judge_ok judged
    have applied := mutation.acknowledged (by rw [answered, Reply.acknowledges, accepted]; rfl)
    change Hides kind ((read response).bind _) mutation ↔ _
    rw [answered, carries, accepted]
    cases reading : read response with
    | error unread =>
      refine ⟨?_, fun hidden => absurd hidden.1 Bool.noConfusion⟩
      rintro ⟨error, ⟨⟩, bad, _⟩
      have final := finals _ bad
      rw [readsOn response _ reading] at final
      cases final
    | ok returned =>
      refine Iff.trans ?_ ((bump_hides_iff applied).trans (and_iff_right rfl).symm)
      have returns : ∀ (done : Unit) (error : Error),
          (.ok returned : Except Error Returned) = .error error → isFinal error = false := by
        intro _ error same
        cases same
      exact hides_bind_iff finals returns

end

section

variable {kind : Error → Bool} (finals : ∀ error, kind error = true → isFinal error = true)
  (replies : engine.replies = mutation :: bump :: rest)

include finals replies

theorem create_hides_iff (entity scope : String) (data : Record) :
    Hides kind (syncCreate config entity scope data engine).1 mutation ↔
      carries extractId mutation.reply = true ∧ bumps config entity scope = true ∧
        Fails kind engine.requestTimeoutMs bump.reply config.rootEntity scope := by
  rw [sync_create_outcome replies]
  exact call_hides_iff finals extract_id_not_final

theorem edit_hides_iff (verb entity scope id : String) (payload : Record) :
    Hides kind (syncEdit config verb entity scope id payload engine).1 mutation ↔
      mutation.reply.acknowledges = true ∧ bumps config entity scope = true ∧
        Fails kind engine.requestTimeoutMs bump.reply config.rootEntity scope := by
  rw [sync_edit_outcome replies, ← carries_whole]
  exact call_hides_iff finals (fun _ _ never => by cases never)

theorem update_checked_hides_iff (entity scope id : String) (data : Record)
    (expectedVersion : Nat) :
    Hides kind (syncUpdateChecked config entity scope id data expectedVersion engine).1 mutation ↔
      mutation.reply.acknowledges = true ∧ bumps config entity scope = true ∧
        Fails kind engine.requestTimeoutMs bump.reply config.rootEntity scope := by
  unfold syncUpdateChecked
  rw [outcome_bind extractVersion (fun _ _ => rfl), hides_bind_iff finals extract_version_not_final]
  exact edit_hides_iff finals replies _ entity scope id _

end

/-- The mutation is acknowledged and the call goes on to its bump. -/
def completes : SyncCall → Reply → Bool
  | .create _ _ _, reply => carries extractId reply
  | .update _ _ _ _, reply | .delete _ _ _, reply | .updateChecked _ _ _ _ _, reply
  | .deleteChecked _ _ _ _, reply => reply.acknowledges

theorem send_hides_iff (replies : engine.replies = mutation :: bump :: rest) (call : SyncCall) :
    Hides isRefusal (call.send config engine).1 mutation ↔
      completes call mutation.reply = true ∧ bumps config call.entity call.scope = true ∧
        refusesWith [403, 404, 409, 412] bump.reply = true := by
  have ignores : ∀ {Returned : Type} (program : SyncM Returned),
      Hides isRefusal ((program >>= fun _ => pure ()) engine).1 mutation ↔
        Hides isRefusal (program engine).1 mutation := by
    intro Returned program
    rw [outcome_bind (fun _ => .ok ()) (fun _ _ => rfl)]
    exact hides_bind_iff refusal_final (fun _ _ never => by cases never)
  have denied : Fails isRefusal engine.requestTimeoutMs bump.reply config.rootEntity call.scope ↔
      refusesWith [403, 404, 409, 412] bump.reply = true := refusal_iff
  rw [← denied]
  cases call with
  | create entity scope data => exact (ignores _).trans (create_hides_iff refusal_final replies _ _ _)
  | update entity scope id data | delete entity scope id
  | deleteChecked entity scope id expectedVersion =>
    exact (ignores _).trans (edit_hides_iff refusal_final replies _ _ _ _ _)
  | updateChecked entity scope id data expectedVersion =>
    exact (ignores _).trans (update_checked_hides_iff refusal_final replies _ _ _ _ _)

theorem bump_ok_iff : bumpOutcome config timeoutMs entity scope bump = .ok () ↔
    (bumps config entity scope = true → bump.reply.acknowledges = true) := by
  unfold bumpOutcome
  split_ifs with bumped
  · rw [forall_prop_of_true bumped]
    cases judged : judge timeoutMs bump.reply config.rootEntity scope with
    | error error =>
      refine ⟨nofun, fun acknowledged => ?_⟩
      rw [← carries_whole, judge_error_carries judged] at acknowledged
      cases acknowledged
    | ok response =>
      obtain ⟨answered, accepted⟩ := judge_ok judged
      refine ⟨fun _ => ?_, fun _ => rfl⟩
      rw [answered, Reply.acknowledges, accepted]
      rfl
  · exact ⟨fun _ bumped' => absurd bumped' bumped, fun _ => rfl⟩

theorem update_checked_ok_iff (replies : engine.replies = mutation :: bump :: rest)
    (entity scope id : String) (data : Record) (expectedVersion : Nat) :
    (∃ version, (syncUpdateChecked config entity scope id data expectedVersion engine).1 =
        .ok version) ↔
      carries extractVersion mutation.reply = true ∧
        (bumps config entity scope = true → bump.reply.acknowledges = true) := by
  have bumped : bumpOutcome config engine.requestTimeoutMs entity scope bump = .ok () ↔ _ :=
    bump_ok_iff
  rw [sync_update_checked_outcome replies, callOutcome, ← bumped]
  cases judged : judge engine.requestTimeoutMs mutation.reply entity id with
  | error error =>
    refine ⟨by rintro ⟨version, ⟨⟩⟩, ?_⟩
    rintro ⟨carried, _⟩
    rw [judge_error_carries judged] at carried
    cases carried
  | ok response =>
    obtain ⟨answered, accepted⟩ := judge_ok judged
    rw [answered, carries, accepted]
    cases bumpOutcome config engine.requestTimeoutMs entity scope bump with
    | error error => exact ⟨by rintro ⟨version, ⟨⟩⟩, by rintro ⟨_, ⟨⟩⟩⟩
    | ok done =>
      change (∃ version, extractVersion response = .ok version) ↔ _
      cases extractVersion response with
      | error error => exact ⟨by rintro ⟨version, ⟨⟩⟩, by rintro ⟨⟨⟩, _⟩⟩
      | ok version => exact ⟨fun _ => ⟨rfl, rfl⟩, fun _ => ⟨version, rfl⟩⟩

end

section

variable {error : Error}

theorem tried_on_persistence_succeeds (program : StoreM Unit) :
    Succeeds (do
      if ← inspect (fun state : LocalState => state.persistence.isSome) then
        let _ ← attempt program
      : StoreM Unit) := by
  apply succeeds_bind (succeeds_inspect _)
  intro persists
  split
  · exact succeeds_bind (succeeds_attempt _) (fun _ => succeeds_pure _)
  · exact succeeds_pure _

theorem rollback_row_succeeds (entity id : String) : Succeeds (rollbackLocalRow entity id) := by
  apply succeeds_bind (succeeds_attempt _)
  intro deleted
  exact tried_on_persistence_succeeds _

theorem rollback_create_succeeds (entity id scope : String) :
    Succeeds (rollbackLocalCreate entity id scope) := by
  apply succeeds_bind (rollback_row_succeeds entity id)
  intro rolledBack
  exact succeeds_bind (succeeds_attempt _) (fun _ => succeeds_pure _)

theorem pending_insert_succeeds (entity id : String) :
    Succeeds (pendingInsertExists entity id) := by
  apply succeeds_bind (succeeds_inspect _)
  intro queue
  cases queue with
  | none => exact succeeds_pure _
  | some rows =>
    apply succeeds_bind (succeeds_attempt _)
    intro listed
    cases listed with
    | error failure | ok done => exact succeeds_pure _

theorem drop_missing_succeeds (entity id : String) (error : Error) :
    Succeeds (dropMissing entity id error) := by
  unfold dropMissing
  split
  · apply succeeds_bind (pending_insert_succeeds entity id)
    intro inserting
    split
    · exact rollback_row_succeeds entity id
    · exact succeeds_pure _
  · exact succeeds_pure _

variable [Database] {config : StoreConfig}

theorem apply_cas_succeeds (entity id : String) (fields : Record) (version : Nat) :
    Succeeds (applyCas entity id fields version) := by
  apply succeeds_bind (succeeds_attempt _)
  intro updated
  exact tried_on_persistence_succeeds _

variable {entity id scope : String} {state : LocalState}

omit [Database] in
theorem create_answered_error_iff {answer : Except Error String} :
    (createAnswered entity id scope answer state).1 = .error error ↔
      answer = .error error ∧ takesBack error = true := by
  cases answer with
  | ok returned => exact ⟨nofun, nofun⟩
  | error first =>
    unfold createAnswered
    dsimp only
    split_ifs with transient refused terminal
    · have excluded := transient_excludes_refusal transient
      refine ⟨nofun, ?_⟩
      rintro ⟨⟨⟩, back⟩
      rw [takesBack, excluded.1, excluded.2.2.1, excluded.2.2.2.1] at back
      cases back
    · rw [outcome_of_succeeds (rollback_create_succeeds entity id scope)]
      refine ⟨?_, And.left⟩
      rintro ⟨⟩
      exact ⟨rfl, by rw [takesBack, refused]; rfl⟩
    · rw [outcome_of_succeeds (rollback_create_succeeds entity id scope)]
      refine ⟨?_, And.left⟩
      rintro ⟨⟩
      exact ⟨rfl, by rw [takesBack, terminal, Bool.or_true]⟩
    · refine ⟨nofun, ?_⟩
      rintro ⟨⟨⟩, back⟩
      rw [takesBack, Bool.or_eq_true] at back
      exact absurd back (not_or.mpr ⟨refused, terminal⟩)

theorem create_error_iff {call : CreateCall} {engine : Engine}
    {written : LocalState} (wrote : createLocally config call state = (.ok (), written)) :
    (create config call engine state).1 = .error error ↔
      (call.connected && call.hasSyncTarget config) = true ∧
        (remoteCreate config call.entity (call.effectiveScope config) (call.row config) engine).1 =
          .error error ∧ takesBack error = true := by
  unfold create
  rw [bind_of_ok wrote]
  split
  case isTrue sends => rw [create_answered_error_iff, and_iff_right sends]
  case isFalse offline => exact ⟨nofun, fun failed => absurd failed.1 offline⟩

theorem cas_answered_outcome (entity id : String) (fields : Record)
    (answer : Except Error Nat) (state : LocalState) :
    (casAnswered entity id fields answer state).1 = answer := by
  cases answer with
  | ok version =>
    exact outcome_of_succeeds (apply_cas_succeeds entity id fields version) (.ok version) state
  | error first =>
    exact outcome_of_succeeds (drop_missing_succeeds entity id first) (.error first) state

theorem update_if_outcome {resolved : LocalState}
    (found : resolveScopeForCas config entity id state = (.ok scope, resolved)) (fields : Record)
    (expectedVersion : Nat) (engine : Engine) :
    (updateIf config entity id fields expectedVersion true engine state).1 =
      (remoteUpdateChecked config entity scope id fields expectedVersion engine).1 := by
  change ((resolveScopeForCas config entity id >>= _) state).1 = _
  rw [bind_of_ok found]
  exact cas_answered_outcome entity id fields _ resolved

end

section

variable [Database] {engine : Engine} {mutation bump : Handled} {rest : List Handled}

/-- A refusal means that the mutation was not applied exactly when the call does not reach a bump
that is refused. `Store::create` takes back a row the broker stored exactly when its bump is
refused for ownership or conflict or cannot be published for good. `Store::update_if` returns an
error for a compare-and-set the broker performed unless both replies have come. -/
theorem refused_means_unapplied_iff (config : StoreConfig)
    (replies : engine.replies = mutation :: bump :: rest) :
    (∀ call : SyncCall,
      (∀ error, (call.send config engine).1 = .error error → isRefusal error = true →
        mutation.applied = false) ↔
      ¬ (completes call mutation.reply = true ∧ bumps config call.entity call.scope = true ∧
        refusesWith [403, 404, 409, 412] bump.reply = true)) ∧
    (∀ (call : CreateCall) (state written : LocalState),
      createLocally config call state = (.ok (), written) →
      let scope := outboundScope config call.entity (call.effectiveScope config)
      (∀ error, (create config call engine state).1 = .error error →
        mutation.applied = false) ↔
      ¬ ((call.connected && call.hasSyncTarget config) = true ∧
        carries extractId mutation.reply = true ∧ bumps config call.entity scope = true ∧
        (refusesWith [403, 409] bump.reply = true ∨ rejectsForGood bump.reply = true))) ∧
    ∀ (entity id scope : String) (fields : Record) (expectedVersion : Nat)
      (state resolved : LocalState),
      resolveScopeForCas config entity id state = (.ok scope, resolved) →
      let result := (updateIf config entity id fields expectedVersion true engine state).1
      let bumped := bumps config entity (outboundScope config entity scope)
      ((∀ error, result = .error error → isRefusal error = true → mutation.applied = false) ↔
        ¬ (mutation.reply.acknowledges = true ∧ bumped = true ∧
          refusesWith [403, 404, 409, 412] bump.reply = true)) ∧
      ((∀ error, result = .error error → mutation.applied = false) ↔
        (mutation.applied = true → carries extractVersion mutation.reply = true ∧
          (bumped = true → bump.reply.acknowledges = true))) := by
  refine ⟨?_, ?_, ?_⟩
  · intro call
    rw [not_hides_iff, send_hides_iff replies]
  · intro call state written wrote scope
    have hidden : Hides takesBack
        (remoteCreate config call.entity (call.effectiveScope config) (call.row config) engine).1
        mutation ↔ _ :=
      create_hides_iff takes_back_final replies call.entity scope (call.row config)
    rw [takes_back_iff] at hidden
    rw [← hidden]
    constructor
    · rintro kept ⟨sends, error, failed, back, applied⟩
      rw [kept error ((create_error_iff wrote).mpr ⟨sends, failed, back⟩)] at applied
      cases applied
    · intro shown error failed
      obtain ⟨sends, answered, back⟩ := (create_error_iff wrote).mp failed
      exact Bool.eq_false_iff.mpr fun applied => shown ⟨sends, error, answered, back, applied⟩
  · intro entity id scope fields expectedVersion state resolved found result bumped
    have sent : result = _ := update_if_outcome found fields expectedVersion engine
    have hidden : Hides isRefusal
        (remoteUpdateChecked config entity scope id fields expectedVersion engine).1 mutation ↔ _ :=
      update_checked_hides_iff refusal_final replies entity _ id fields expectedVersion
    have returned : (∃ version,
        (remoteUpdateChecked config entity scope id fields expectedVersion engine).1 =
          .ok version) ↔ _ :=
      update_checked_ok_iff replies entity _ id fields expectedVersion
    rw [refusal_iff] at hidden
    rw [sent]
    refine ⟨not_hides_iff.trans (not_congr hidden), ?_⟩
    rw [← returned]
    exact unapplied_errors_iff

end

section

def stored : Handled where
  reply := .answered ⟨record [("status", .string "ok")],
    some (record [("id", .string "t1"), ("_version", .number 2)])⟩
  applied := true
  refused := by decide
  acknowledged := by decide

def refusal (code : Nat) : Reply :=
  .answered ⟨record [("status", .string "error"), ("code", .number code)], none⟩

def denied : Handled where
  reply := refusal 403
  applied := false
  refused := by decide
  acknowledged := by decide

def missing : Handled where
  reply := refusal 404
  applied := false
  refused := by decide
  acknowledged := by decide

def engineFacing (replies : List Handled) : Engine where
  topicBase := "stitch"
  requestTimeoutMs := 1000
  nowMs := 7
  replies := replies
  issued := []
  appliedVersion := ∅

def createTask : CreateCall where
  entity := "task"
  scopeId := "b1"
  data := taskRow
  generated := "new"
  rowId := "q1"
  nowMs := 7
  connected := true

def emptyStore : LocalState :=
  { startState (some Db.empty) with queue := some [] }

def taskStored : LocalState :=
  let rows := Db.empty.create "task" taskRow
  { startState (some rows) with memory := rows, queue := some [] }

def insertTask (replies : List Handled) : Except Error String × LocalState :=
  create boards createTask (engineFacing replies) emptyStore

def finishTask (replies : List Handled) : Except Error Nat × LocalState :=
  updateIf boards "task" "t1" (record [("done", .number 1)]) 1 true (engineFacing replies)
    taskStored

/-- A denied insert is taken back, and a compare-and-set with both replies returns. -/
theorem denied_task_is_unapplied :
    (insertTask [denied, stored]).1 = .error (.ownership "task" "t1") ∧
      denied.applied = false ∧ ∃ version, (finishTask [stored, stored]).1 = .ok version := by
  have local_part : createLocally boards createTask emptyStore = (.ok (), _) :=
    Prod.ext (by decide) rfl
  have resolves : resolveScopeForCas boards "task" "t1" taskStored = (.ok "b1", taskStored) :=
    Prod.ext (by decide) rfl
  have refused : (engineFacing [denied, stored]).replies = denied :: stored :: [] := rfl
  have accepted : (engineFacing [stored, stored]).replies = stored :: stored :: [] := rfl
  have failed : (insertTask [denied, stored]).1 = .error (.ownership "task" "t1") := by
    decide
  refine ⟨failed, ?_, ?_⟩
  · exact ((refused_means_unapplied_iff boards refused).2.1 createTask emptyStore
      _ local_part).mpr (by decide) _ failed
  · have returns := ((refused_means_unapplied_iff boards accepted).2.2 "task" "t1"
      "b1" (record [("done", .number 1)]) 1 taskStored taskStored resolves).2.mpr (by decide)
    cases result : (finishTask [stored, stored]).1 with
    | ok version => exact ⟨version, rfl⟩
    | error error => cases returns error result

def holdsTask (state : LocalState) : Bool :=
  (state.memory.rows.lookup ("task", "t1")).isSome ||
    (state.persistence.bind (fun db => db.rows.lookup ("task", "t1"))).isSome

/-- A board whose version the user may not bump: the task is stored by the broker, yet the
insert comes back as denied and is rolled back. A board that is gone: the compare-and-set
is performed, yet the caller is told that a row is missing, and it loses its copy. -/
theorem refused_bump_hides_applied_mutation :
    stored.applied = true ∧
      ((insertTask [stored, denied]).1 = .error (.ownership "board" "b1") ∧
        holdsTask (insertTask [stored, denied]).2 = false ∧
        (insertTask [stored, denied]).2.queue = some []) ∧
      ((finishTask [stored, missing]).1 = .error (.notFound "board" "b1") ∧
        holdsTask taskStored = true ∧ holdsTask (finishTask [stored, missing]).2 = false) := by
  refine ⟨rfl, by decide, by decide⟩

end

end Stitch.Client.RefusedMutations
