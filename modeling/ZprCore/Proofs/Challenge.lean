import ZprCore.Proofs.ActorAuth

/-! A challenge is answered in the session and the transaction it was issued for, and once. -/

namespace ZprCore.Auth
open List ActorAuthorization Session
open Datapath (IpAddress)
open Node (TxnId)

theorem ZdpInitAuthenticationPayload.readFromBytes_asBytes (payload) :
    readFromBytes payload.asBytes = some payload := by
  have read := layout.decode_encode payload []
  rw [append_nil] at read
  rw [readFromBytes, asBytes, read]
  rfl

theorem ZdpSelfSignedBlob.recent_of_verified {p} {blob : ZdpSelfSignedBlob} {key now}
    {challenge : ZdpInitAuthenticationPayload} (same : blob.challenge = p.encodeBase64 challenge.asBytes)
    (verified : blob.verifyBlobChallenge p key now = .ok ()) : now.toNat ≤ challenge.ctime.toNat + maxBlobAgeSeconds := by
  by_contra old
  unfold verifyBlobChallenge at verified
  rw [same, p.decode_encode] at verified
  simp only [challenge.readFromBytes_asBytes] at verified
  split at verified
  · cases verified
  split at verified
  · cases verified
  rw [if_pos (Nat.lt_of_not_le old)] at verified
  cases verified

section
variable {p : Primitives} {context : Context} {challenge} {requested : IpAddress}
  {text : String} {request : ConnectRequest}

/-- Self-signed evidence carries the challenge. -/
structure Carries (p : Primitives) (context : Context) (challenge : ZdpInitAuthenticationPayload)
    (blob : ZdpSelfSignedBlob) (request : ConnectRequest) : Prop where
  evidence : blob.challenge = p.encodeBase64 challenge.asBytes
  request : ∃ signature, request.blob = .ss challenge.asBytes blob.cn blob.ts signature
  recent : context.now.toNat ≤ challenge.ctime.toNat + maxBlobAgeSeconds

theorem carries_of_convinces {blob} (convinces : ActorAuthorization.Convinces p context challenge requested text request)
    (decoded : decodeBlob p text = .ok (.selfSigned blob)) : Carries p context challenge blob request := by
  obtain ⟨other, same, stands, built⟩ := convinces
  obtain rfl : .selfSigned blob = other := Except.ok.inj (decoded.symm.trans same)
  simp only [challengeFails, decide_eq_false_iff_not, not_or, not_not] at stands
  obtain ⟨evidence, verified⟩ := stands
  refine ⟨evidence, ?_, ZdpSelfSignedBlob.recent_of_verified evidence verified⟩
  simp only [buildConnectRequest, evidence, p.decode_encode] at built
  split at built
  · cases built
    exact ⟨_, rfl⟩
  · cases built

end

/-- A challenge is issued. -/
def issuing (context : Context) (txn : TxnId) (challenge : ZdpInitAuthenticationPayload) : SessionEvent :=
  .handled context (.startAuthentication txn)
    [.send (.initAuthentication txn ⟨.success, some challenge, context.asaAddresses⟩)]

abbrev Events := List (Nat × SessionEvent)

section
variable (number : Nat) (txn : TxnId) (challenge : ZdpInitAuthenticationPayload) (past older : Events)

/-- After `past`, the challenge that was issued after `older` is the last one of the session, and the
link has not been down since. -/
def Answers : Prop :=
  ∃ between context, past = between ++ (number, issuing context txn challenge) :: older ∧
    ∀ event, (number, event) ∈ between → event ≠ .wentDown ∧ ∀ context txn challenge, event ≠ issuing context txn challenge

/-- The issuing of a challenge is the last thing that happened in the session. -/
def Latest : Prop :=
  ∃ between context, past = between ++ (number, issuing context txn challenge) :: older ∧
    ∀ event, (number, event) ∉ between

end

section
variable {number : Nat} {txn : TxnId} {challenge} {past older : Events}

theorem Latest.answers (latest : Latest number txn challenge past older) : Answers number txn challenge past older := by
  obtain ⟨between, context, rfl, quiet⟩ := latest
  exact ⟨between, context, rfl, fun event own => absurd own (quiet event)⟩

theorem Latest.cons (latest : Latest number txn challenge past older) {other} (different : other ≠ number)
    (event : SessionEvent) : Latest number txn challenge ((other, event) :: past) older := by
  obtain ⟨between, context, rfl, quiet⟩ := latest
  refine ⟨(other, event) :: between, context, rfl, ?_⟩
  intro mine own
  obtain same | earlier := mem_cons.mp own
  · exact different (congrArg Prod.fst same).symm
  · exact quiet mine earlier

theorem Latest.issued (number : Nat) (context : Context) (txn : TxnId) (challenge)
    (past : Events) : Latest number txn challenge ((number, issuing context txn challenge) :: past) past :=
  ⟨[], context, rfl, fun _ => not_mem_nil⟩

/-- Nothing that happened in the session is later than its latest event. -/
theorem Latest.not_answers_after (latest : Latest number txn challenge past older) {event middle oldest}
    (happened : (number, event) :: middle <:+ past) {txn' txn'' challenge' challenge''}
    (first : Answers number txn' challenge' middle oldest) : ¬ Answers number txn'' challenge'' past oldest := by
  intro second
  obtain ⟨between, context, split, quiet⟩ := latest
  obtain ⟨front, whole⟩ := happened
  obtain ⟨between', context', rfl, _⟩ := first
  obtain ⟨between'', context'', same, steady⟩ := second
  have spans : between'' = front ++ (number, event) :: between' := by
    have equal : between'' ++ (number, issuing context'' txn'' challenge'') :: oldest =
        (front ++ (number, event) :: between') ++ (number, issuing context' txn' challenge') :: oldest := by
      rw [← same, ← whole, append_assoc, cons_append]
    exact (append_inj' equal rfl).1
  have own : (number, event) ∈ between'' := by
    rw [spans]
    exact mem_append_right _ mem_cons_self
  obtain ⟨more, longer, rest⟩ | ⟨more, shorter, _⟩ := append_eq_append_iff.mp (split.symm.trans same)
  · cases more with
    | nil =>
      rw [append_nil] at longer
      exact quiet event (longer ▸ own)
    | cons next more =>
      rw [cons_append, cons.injEq] at rest
      obtain ⟨rfl, _⟩ := rest
      have issued : (number, issuing context txn challenge) ∈ between'' := by
        rw [longer]
        exact mem_append_right _ mem_cons_self
      exact (steady _ issued).2 context txn challenge rfl
  · apply quiet event
    rw [shorter]
    exact mem_append_left _ own

end

/-- Invariant: a session that waits for evidence has its challenge as the latest event, and so had
every session that accepted an Acquire request. -/
structure Challenged (p : Primitives) (sessions : List Session) (events : Events) : Prop where
  link : ∀ (number : Nat) (session : Session), sessions[number]? = some session → session.actor.linkType = .nodeToAdapter
  waiting : ∀ (number : Nat) (session : Session), sessions[number]? = some session → session.actor.data.state = .awaitingEvidence →
    ∃ txn challenge older, session.actor.Awaits txn challenge ∧ Latest number txn challenge events older
  answered : ∀ number context txn addresses text effects past,
    (number, .handled context (.acquireZprAddress txn addresses text) effects) :: past <:+ events →
      ∃ challenge older, Latest number txn challenge past older ∧ ∀ request ∈ effects.filterMap (·.forwarded),
        ∀ blob, decodeBlob p text = .ok (.selfSigned blob) → Carries p context challenge blob request

namespace Challenged
variable {p : Primitives} {sessions : List Session} {events : Events} {number : Nat} {old new : Session}

theorem nil : Challenged p [] [] where
  link _ _ found := by
    rw [getElem?_nil] at found
    cases found
  waiting _ _ found := by
    rw [getElem?_nil] at found
    cases found
  answered _ _ _ _ _ _ _ happened := by cases suffix_nil.mp happened

theorem accept (kept : Challenged p sessions events) (authKey : AuthKey) (isVs : Bool) :
    Challenged p (sessions ++ [.new authKey isVs]) events where
  link number session found := by
    obtain found | rfl := getElem?_concat_cases found
    · exact kept.link number session found
    · rfl
  waiting number session found state := by
    obtain found | rfl := getElem?_concat_cases found
    · exact kept.waiting number session found state
    · cases state
  answered := kept.answered

section
variable (kept : Challenged p sessions events) (present : sessions[number]? = some old)
include kept present

theorem put (link : new.actor.linkType = old.actor.linkType)
    (quiet : new.actor.data.state = .awaitingEvidence → new.actor = old.actor) :
    Challenged p (sessions.set number new) events where
  link other session found := by
    obtain ⟨rfl, rfl⟩ | ⟨_, found⟩ := getElem?_set_cases found
    · exact link.trans (kept.link other old present)
    · exact kept.link other session found
  waiting other session found state := by
    obtain ⟨rfl, rfl⟩ | ⟨_, found⟩ := getElem?_set_cases found
    · have same := quiet state
      rw [same] at state ⊢
      exact kept.waiting other old present state
    · exact kept.waiting other session found state
  answered := kept.answered

theorem record (link : new.actor.linkType = old.actor.linkType) {event}
    (waiting : new.actor.data.state = .awaitingEvidence → ∃ context txn challenge, new.actor.Awaits txn challenge ∧ event = issuing context txn challenge)
    (answered : ∀ context txn addresses text effects, event = .handled context (.acquireZprAddress txn addresses text) effects → ∃ challenge older, Latest number txn challenge events older ∧ ∀ request ∈ effects.filterMap (·.forwarded), ∀ blob, decodeBlob p text = .ok (.selfSigned blob) → Carries p context challenge blob request) :
    Challenged p (sessions.set number new) ((number, event) :: events) where
  link other session found := by
    obtain ⟨rfl, rfl⟩ | ⟨_, found⟩ := getElem?_set_cases found
    · exact link.trans (kept.link other old present)
    · exact kept.link other session found
  waiting other session found state := by
    obtain ⟨rfl, rfl⟩ | ⟨different, found⟩ := getElem?_set_cases found
    · obtain ⟨context, txn, challenge, awaits, rfl⟩ := waiting state
      exact ⟨txn, challenge, events, awaits, .issued other context txn challenge events⟩
    · obtain ⟨txn, challenge, older, awaits, latest⟩ := kept.waiting other session found state
      exact ⟨txn, challenge, older, awaits, latest.cons (Ne.symm different) event⟩
  answered other context txn addresses text effects past happened := by
    obtain same | earlier := suffix_cons_iff.mp happened
    · cases same
      exact answered context txn addresses text effects rfl
    · exact kept.answered other context txn addresses text effects past earlier

theorem answer {txn challenge} (awaits : old.actor.Awaits txn challenge) :
    ∃ older, Latest number txn challenge events older := by
  obtain ⟨txn', challenge', older, awaits', latest⟩ := kept.waiting number old present awaits.state
  cases awaits.remoteTxn.symm.trans awaits'.remoteTxn
  cases awaits.challenge.symm.trans awaits'.challenge
  exact ⟨older, latest⟩

end

section
variable {node : AuthNode} (kept : Challenged p node.sessions node.events)
include kept

theorem receive (number : Nat) (context : Context) (message : AuthMessage) :
    Challenged p (node.receive p number context message).sessions (node.receive p number context message).events := by
  unfold AuthNode.receive
  split
  · exact kept
  next session present =>
  have handled := handle_handled (p := p) (kept.link number session present)
    (session.context context) message
  generalize session.actor.handle p (session.context context) message = outcome at handled ⊢
  cases handled with
  | refused message problem =>
    apply kept.put present
    · rfl
    · intro _
      rfl
  | unchallenged txn addresses text state none =>
    apply kept.put present
    · rfl
    · intro impossible
      cases impossible
  | started txn idle free made =>
    apply kept.record present
    · rfl
    · intro _
      exact ⟨_, txn, _, ⟨rfl, rfl, rfl⟩, rfl⟩
    · intro _ _ _ _ _ impossible
      cases impossible
  | abandoned txn state current =>
    apply kept.record present
    · rfl
    · intro impossible
      cases impossible
    · intro _ _ _ _ _ impossible
      cases impossible
  | rejected txn addresses text awaits =>
    obtain ⟨older, latest⟩ := kept.answer present awaits
    apply kept.record present
    · rfl
    · intro impossible
      cases impossible
    intro _ _ _ _ _ same
    cases same
    exact ⟨_, older, latest, nofun⟩
  | deferred txn addresses text requested awaits isVs convinces
  | forwarded txn addresses text requested awaits isVs convinces =>
    obtain ⟨older, latest⟩ := kept.answer present awaits
    apply kept.record present
    · rfl
    · intro impossible
      cases impossible
    intro _ _ _ _ _ same
    cases same
    refine ⟨_, older, latest, ?_⟩
    intro request member blob decoded
    obtain rfl := mem_singleton.mp member
    exact carries_of_convinces convinces decoded

theorem complete (number : Nat) (result) :
    Challenged p (node.complete number result).sessions (node.complete number result).events := by
  unfold AuthNode.complete
  split
  · exact kept
  next task _ =>
  split
  · exact kept
  split
  · exact kept
  next session present =>
  have resulted := session.actor.authorizationResult_resulted task.generation task.txn result
  generalize session.actor.authorizationResult task.generation task.txn result = outcome at resulted ⊢
  cases resulted with
  | stale address _ | unusable address _ | ignored problem _ =>
    apply kept.put present
    · rw [hold_actor]
      rfl
    intro _
    rw [hold_actor]
    rfl
  | installed address current | failed problem current =>
    apply kept.put present
    · rw [hold_actor]
      rfl
    intro state
    rw [hold_actor] at state
    exact absurd state finished_state_ne

theorem resume (number : Nat) : Challenged p (node.resume number).sessions (node.resume number).events := by
  unfold AuthNode.resume
  split
  · exact kept
  next task _ =>
  split
  · exact kept
  split
  · exact kept
  next session present =>
  obtain same | ⟨_, finished⟩ := session.actor.reportFinish_cases task.generation task.txn .retryable
  · rw [same]
    apply kept.put present
    · rfl
    · intro _
      rfl
  · rw [finished]
    apply kept.put present
    · rfl
    · intro state
      exact absurd state finished_state_ne

theorem linkDown (number : Nat) : Challenged p (node.linkDown number).sessions (node.linkDown number).events := by
  unfold AuthNode.linkDown
  split
  · exact kept
  next session present =>
  apply kept.record present
  · rfl
  · intro impossible
    cases impossible
  · intro _ _ _ _ _ impossible
    cases impossible

end

end Challenged

theorem run_challenged {p steps node} (run : Runs.Run (AuthNode.step p) (fun _ _ => True) .new steps node) :
    Challenged p node.sessions node.events := by
  refine run.invariant (fun node => Challenged p node.sessions node.events) ?_ .nil
  intro node label next _ kept stepped
  cases stepped
  cases label with
  | accept authKey isVs => exact kept.accept authKey isVs
  | receive number context message => exact kept.receive number context message
  | complete number result => exact kept.complete number result
  | resume number => exact kept.resume number
  | linkDown number => exact kept.linkDown number

/-- Whatever an adapter sends: an Acquire request that a node accepts answers the challenge issued
for its transaction in this session, with the link up since. Self-signed evidence that is forwarded
carries exactly that challenge, and no challenge is used twice. -/
theorem challenge_answered_once (p : Primitives) (steps : List NodeStep) (node : AuthNode)
    (run : Runs.Run (AuthNode.step p) (fun _ _ => True) .new steps node) :
    (∀ number context txn addresses text effects past,
      (number, .handled context (.acquireZprAddress txn addresses text) effects) :: past <:+ node.events →
        ∃ challenge older, Answers number txn challenge past older ∧ ∀ request ∈ effects.filterMap (·.forwarded),
          ∀ blob, decodeBlob p text = .ok (.selfSigned blob) → Carries p context challenge blob request) ∧
    ∀ number past past' older txn txn' addresses addresses' text text' context context' effects effects'
        challenge challenge',
      (number, .handled context (.acquireZprAddress txn addresses text) effects) :: past <:+ node.events →
      (number, .handled context' (.acquireZprAddress txn' addresses' text') effects') :: past' <:+ node.events →
      Answers number txn challenge past older → Answers number txn' challenge' past' older → past = past' := by
  have kept := run_challenged run
  constructor
  · intro number context txn addresses text effects past happened
    obtain ⟨challenge, older, latest, carries⟩ := kept.answered _ _ _ _ _ _ _ happened
    exact ⟨challenge, older, latest.answers, carries⟩
  intro number past past' older txn txn' addresses addresses' text text' context context' effects effects'
    challenge challenge' first second answers answers'
  obtain ⟨_, _, latest, _⟩ := kept.answered _ _ _ _ _ _ _ first
  obtain ⟨_, _, latest', _⟩ := kept.answered _ _ _ _ _ _ _ second
  obtain within | within := suffix_or_suffix_of_suffix first second
  · obtain same | earlier := suffix_cons_iff.mp within
    · exact (cons.inj same).2
    · exact absurd answers' (latest'.not_answers_after earlier answers)
  obtain same | earlier := suffix_cons_iff.mp within
  · exact (cons.inj same).2.symm
  · exact absurd answers (latest.not_answers_after earlier answers')

/-- An adapter answers the challenge it was given. -/
theorem challenge_answered_once_sample : ∃ node past challenge older,
    Runs.Run (AuthNode.step .plain) (fun _ _ => True) .new
      [.accept (Vector.replicate 32 0) false, .receive 0 (.plain 5 1) (.startAuthentication 7),
        .receive 0 (.plain 6 2) (.acquireZprAddress 7 none (Primitives.plain.encodeBase64
          (ZdpInitAuthenticationPayload.asBytes ⟨Vector.replicate 8 1, 5, Vector.replicate 32 0⟩)))] node ∧
    (∃ text request, (0, .handled (.plain 6 2) (.acquireZprAddress 7 none text) [.authorizeConnect 1 7 request]) :: past =
        node.events ∧ Carries .plain (.plain 6 2) challenge ⟨0, "", text, ""⟩ request) ∧
    Answers 0 7 challenge past older := by
  simp only [exists_and_left]
  refine Runs.Run.exists_imp (fun node => node.events.head? = some (0, .handled (.plain 6 2) (.acquireZprAddress 7 none
    (Primitives.plain.encodeBase64 (ZdpInitAuthenticationPayload.asBytes ⟨Vector.replicate 8 1, 5, Vector.replicate 32 0⟩)))
    [.authorizeConnect 1 7 ⟨.ss (ZdpInitAuthenticationPayload.asBytes ⟨Vector.replicate 8 1, 5, Vector.replicate 32 0⟩) "" 0 [],
      none, some "", []⟩])) (by decide +kernel) fun node run events => ?_
  obtain ⟨past, events⟩ := head?_eq_some_iff.mp events
  have happened : _ <:+ node.events := ⟨[], events.symm⟩
  obtain ⟨challenge, older, answers, carries⟩ := (challenge_answered_once .plain _ node run).1 _ _ _ _ _ _ _ happened
  exact ⟨past, challenge, ⟨_, _, events.symm, carries _ mem_cons_self _ (by decide +kernel)⟩, older, answers⟩

end ZprCore.Auth
