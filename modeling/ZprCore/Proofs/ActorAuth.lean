import ZprCore.Auth.Node

/-! What each function of the actor authorization does, as one list of cases per function. -/

namespace ZprCore.Auth
open List Option
open Datapath (IpAddress)
open Node (TxnId unspecified)
variable {α : Type}

theorem getElem?_set_cases {list : List α} {index other new value} (found : (list.set index new)[other]? = some value) :
    other = index ∧ value = new ∨ other ≠ index ∧ list[other]? = some value := by
  by_cases here : index = other
  · subst here
    have inside := Panic.lt_length found
    rw [length_set] at inside
    rw [getElem?_set_self inside] at found
    exact .inl ⟨rfl, (some.inj found).symm⟩
  · rw [getElem?_set_ne here] at found
    exact .inr ⟨Ne.symm here, found⟩

theorem getElem?_concat_cases {list} {index : Nat} {last value : α} (found : (list ++ [last])[index]? = some value) :
    list[index]? = some value ∨ value = last := by
  by_cases inside : index < list.length
  · rw [getElem?_append_left inside] at found
    exact .inl found
  · rw [getElem?_append_right (Nat.not_lt.mp inside)] at found
    exact .inr (mem_singleton.mp (mem_of_getElem? found))

theorem authorizationErrorStatus_ne_success (problem : VsApiError) : authorizationErrorStatus problem ≠ .success := by
  cases problem with
  | codedError code => cases code <;> nofun
  | _ => nofun

/-- Primitives for examples: bytes as characters, a hash that is always zero, and evidence that is its
challenge, or an authorization code if it is empty. -/
def Primitives.plain : Primitives where
  encodeBase64 bytes := String.ofList (bytes.map fun byte => Char.ofNat byte.toNat)
  decodeBase64 text := some (text.toList.map fun char => UInt8.ofNat char.toNat)
  decode_encode bytes := by
    have same (byte : UInt8) : UInt8.ofNat (Char.ofNat byte.toNat).toNat = byte := by
      have valid : byte.toNat.isValidChar := .inl (Nat.lt_trans byte.toNat_lt (by decide))
      rw [Char.ofNat, dif_pos valid]
      exact UInt8.ofNat_toNat
    rw [String.toList_ofList, List.map_map]
    exact congrArg some ((List.map_congr_left fun byte _ => same byte).trans (List.map_id bytes))
  keyedHash _ _ := Vector.replicate 32 0
  blobType json := .ok (some (if json = [] then "AC" else "SS"))
  parseSelfSigned json := .ok ⟨0, "", String.ofList (json.map fun byte => Char.ofNat byte.toNat), ""⟩
  parseAuthCode _ := .ok ⟨"", "", "", ""⟩
  parseAddr _ := some unspecified

/-- A context for examples. -/
def Context.plain (now : BitVec 64) (random : UInt8) : Context :=
  ⟨true, Vector.replicate 32 0, none, false, now, Vector.replicate 8 random, []⟩

theorem Session.hold_actor (session : Session) (task : Nat) (effects : List Effect) :
    (session.hold task effects).actor = session.actor := by
  rw [hold]
  split <;> rfl

namespace ActorAuthorization
variable {p : Primitives} {actor : ActorAuthorization} {context : Context} {txn : TxnId} {generation : UInt64}
  {status} {address : Option IpAddress}

/-- The node waits for evidence about its challenge. -/
structure Awaits (actor : ActorAuthorization) (txn : TxnId) (challenge : ZdpInitAuthenticationPayload) : Prop where
  state : actor.data.state = .awaitingEvidence
  remoteTxn : actor.data.remoteTxn = some txn
  challenge : actor.data.challenge = some challenge

/-- The evidence stands the test and can be put into a request. -/
def Convinces (p : Primitives) (context : Context) (challenge : ZdpInitAuthenticationPayload) (requested : IpAddress)
    (text : String) (request : ConnectRequest) : Prop :=
  ∃ blob, decodeBlob p text = .ok blob ∧ challengeFails p context challenge blob = false ∧
    buildConnectRequest p requested context.a2aDhPubkey blob = .ok request

section
variable (actor : ActorAuthorization)

def started (txn : TxnId) (challenge : ZdpInitAuthenticationPayload) : ActorAuthorization :=
  { actor with
    data := { actor.data with
      generation := actor.data.generation + 1
      state := .awaitingEvidence
      remoteTxn := some txn
      challenge := some challenge } }

def abandoned : ActorAuthorization :=
  { actor with data := { actor.data with remoteTxn := none, challenge := none, state := .waitingForLink } }

def taken : ActorAuthorization :=
  { actor with data := { actor.data with state := .authorizing, challenge := none } }

end

/-- What a node may do with a message. -/
inductive Handled (p : Primitives) (actor : ActorAuthorization) (context : Context) :
    AuthMessage → Except HandleMgmtError (List Effect) × ActorAuthorization → Prop where
  | refused (message : AuthMessage) (problem : HandleMgmtError) : Handled p actor context message (.error problem, actor)
  | started (txn : TxnId) (idle : actor.data.remoteTxn = none) (free : actor.addresses = [])
      {challenge}
      (made : challenge = .new p context.authKey context.nonce context.now) :
      Handled p actor context (.startAuthentication txn)
        (.ok [.send (.initAuthentication txn ⟨.success, some challenge, context.asaAddresses⟩)],
          actor.started txn challenge)
  | abandoned (txn : TxnId) (state : actor.data.state = .awaitingEvidence) (current : actor.data.remoteTxn = some txn) :
      Handled p actor context (.abandonAuthentication txn) (.ok [], actor.abandoned)
  | unchallenged (txn : TxnId) (addresses : Option (List IpAddress)) (text : String)
      (state : actor.data.state = .awaitingEvidence) (none : actor.data.challenge = none) :
      Handled p actor context (.acquireZprAddress txn addresses text) (.error .messageNotPermitted, actor.taken)
  | rejected (txn : TxnId) (addresses : Option (List IpAddress)) (text : String)
      {challenge} (awaits : actor.Awaits txn challenge) :
      Handled p actor context (.acquireZprAddress txn addresses text)
        (.ok [.send (.grantZprAddress txn .rejected [])], actor.taken.finished .rejected none)
  | deferred (txn : TxnId) (addresses : Option (List IpAddress)) (text : String) (requested : IpAddress)
      {challenge request} (awaits : actor.Awaits txn challenge)
      (isVs : context.isVs = true) (convinces : Convinces p context challenge requested text request) :
      Handled p actor context (.acquireZprAddress txn addresses text)
        (.ok [.deferVsConnect requested request, .send (.grantZprAddress txn .success [requested])],
          actor.taken.finished .success (some requested))
  | forwarded (txn : TxnId) (addresses : Option (List IpAddress)) (text : String) (requested : IpAddress)
      {challenge request} (awaits : actor.Awaits txn challenge)
      (isVs : context.isVs = false) (convinces : Convinces p context challenge requested text request) :
      Handled p actor context (.acquireZprAddress txn addresses text)
        (.ok [.authorizeConnect actor.data.generation txn request], actor.taken)

theorem requireNodeLink_cases (actor : ActorAuthorization) (ready : Bool) :
    actor.requireNodeLink ready = .error .messageNotPermitted ∨ actor.requireNodeLink ready = .ok () := by
  unfold requireNodeLink
  split
  · exact .inl rfl
  · exact .inr rfl

theorem finishRemote_current (current : actor.data.remoteTxn = some txn) :
    actor.finishRemote actor.data.generation txn status address =
      (.ok [.send (.grantZprAddress txn status address.toList)], actor.finished status address) := by
  rw [finishRemote, if_neg]
  intro different
  obtain different | different := different
  · exact different rfl
  · exact different current

theorem finished_state_ne : (actor.finished status address).data.state ≠ .awaitingEvidence := by
  cases status <;> nofun

theorem startRemote_handled (actor) (context : Context) (txn : TxnId) :
    Handled p actor context (.startAuthentication txn) (actor.startRemote p context txn) := by
  unfold startRemote
  obtain denied | permitted := actor.requireNodeLink_cases context.ready
  · rw [denied]
    exact .refused _ _
  rw [permitted]
  dsimp only
  split
  · exact .refused _ _
  next free =>
  rw [not_or, Bool.not_eq_true, isSome_eq_false_iff, isNone_iff_eq_none, not_not] at free
  exact .started txn free.1 free.2 rfl

theorem abandonRemote_handled (actor) (context : Context) (txn : TxnId) :
    Handled p actor context (.abandonAuthentication txn) (actor.abandonRemote context txn) := by
  unfold abandonRemote
  obtain denied | permitted := actor.requireNodeLink_cases context.ready
  · rw [denied]
    exact .refused _ _
  rw [permitted]
  dsimp only
  split
  · exact .refused _ _
  next current =>
  rw [not_or, not_not, not_not] at current
  exact .abandoned txn current.1 current.2

/-- Evidence leads to a rejection, to the visa service's own adapter being authorized, or to the visa service. -/
theorem judgeEvidence_cases (current : actor.data.remoteTxn = some txn) (context : Context) (requested : IpAddress)
    (text : String) (challenge) :
    actor.judgeEvidence p context txn requested text challenge =
      (.ok [.send (.grantZprAddress txn .rejected [])], actor.finished .rejected none) ∨
    ∃ request, Convinces p context challenge requested text request ∧
      (context.isVs = true ∧ actor.judgeEvidence p context txn requested text challenge =
        (.ok [.deferVsConnect requested request, .send (.grantZprAddress txn .success [requested])],
          actor.finished .success (some requested)) ∨
      context.isVs = false ∧ actor.judgeEvidence p context txn requested text challenge =
        (.ok [.authorizeConnect actor.data.generation txn request], actor)) := by
  unfold judgeEvidence
  simp only [finishRemote_current current]
  split
  · exact .inl rfl
  next blob decoded =>
  split
  · exact .inl rfl
  next stands =>
  rw [Bool.not_eq_true] at stands
  split
  · exact .inl rfl
  next request built =>
  have convinces : Convinces p context challenge requested text request := ⟨blob, decoded, stands, built⟩
  split
  · next isVs =>
    split
    · exact .inl rfl
    · exact .inr ⟨request, convinces, .inl ⟨isVs, rfl⟩⟩
  · next isVs => exact .inr ⟨request, convinces, .inr ⟨Bool.not_eq_true _ ▸ isVs, rfl⟩⟩

theorem judgeEvidence_handled {challenge} (awaits : actor.Awaits txn challenge) (context : Context)
    (addresses) (requested : IpAddress) (text : String) :
    Handled p actor context (.acquireZprAddress txn addresses text)
      (actor.taken.judgeEvidence p context txn requested text challenge) := by
  have current : actor.taken.data.remoteTxn = some txn := awaits.remoteTxn
  obtain rejected | ⟨request, convinces, ⟨isVs, deferred⟩ | ⟨isVs, forwarded⟩⟩ :=
    judgeEvidence_cases (p := p) current context requested text challenge
  · rw [rejected]
    exact .rejected txn addresses text awaits
  · rw [deferred]
    exact .deferred txn addresses text requested awaits isVs convinces
  · rw [forwarded]
    exact .forwarded txn addresses text requested awaits isVs convinces

theorem acquireRemote_handled (actor) (context : Context) (txn : TxnId)
    (addresses) (text : String) :
    Handled p actor context (.acquireZprAddress txn addresses text) (actor.acquireRemote p context txn addresses text) := by
  unfold acquireRemote
  obtain denied | permitted := actor.requireNodeLink_cases context.ready
  · rw [denied]
    exact .refused _ _
  rw [permitted]
  dsimp only
  split
  · exact .refused _ _
  split
  · exact .refused _ _
  next current =>
  rw [not_or, not_not, not_not] at current
  split
  · next none => exact .unchallenged txn addresses text current.1 none
  · next challenge issued => exact judgeEvidence_handled ⟨current.1, current.2, issued⟩ context addresses _ text

/-- The replies of a node are refused by a node. -/
theorem deliverReply_refused (node : actor.linkType = .nodeToAdapter) (txn : TxnId) (state : ActorState) (reply : Reply) :
    actor.deliverReply txn state reply = (.error .unknownTransaction, actor) := by
  rw [deliverReply, if_pos (.inl (by rw [node]; nofun))]

theorem handle_handled (node : actor.linkType = .nodeToAdapter) (context : Context) (message : AuthMessage) :
    Handled p actor context message (actor.handle p context message) := by
  cases message with
  | startAuthentication txn => exact actor.startRemote_handled context txn
  | abandonAuthentication txn => exact actor.abandonRemote_handled context txn
  | acquireZprAddress txn addresses text => exact actor.acquireRemote_handled context txn addresses text
  | initAuthentication txn offer =>
    simp only [handle, receiveOffer, deliverReply_refused node]
    exact .refused _ _
  | grantZprAddress txn status addresses =>
    simp only [handle, receiveGrant, deliverReply_refused node]
    split <;> exact .refused _ _

/-- What becomes of the answer of the visa service. -/
inductive Resulted (actor : ActorAuthorization) (generation : UInt64) (txn : TxnId) :
    Except VsApiError StdIpAddr → List Effect × Remainder × ActorAuthorization → Prop where
  | stale (address : StdIpAddr) (stale : actor.isCurrent generation txn = false) :
      Resulted actor generation txn (.ok address) ([.actorDisconnect address.toIpAddress], .nothing, actor)
  | unusable (address : StdIpAddr) (current : actor.isCurrent generation txn = true) :
      Resulted actor generation txn (.ok address) ([.actorDisconnect address.toIpAddress], .reportFinish, actor)
  | installed (address : StdIpAddr) (current : actor.isCurrent generation txn = true) :
      Resulted actor generation txn (.ok address) ([.send (.grantZprAddress txn .success [address.toIpAddress])],
        .nothing, actor.finished .success (some address.toIpAddress))
  | failed (problem : VsApiError) (current : actor.isCurrent generation txn = true) :
      Resulted actor generation txn (.error problem)
        ([.send (.grantZprAddress txn (authorizationErrorStatus problem) [])], .nothing,
          actor.finished (authorizationErrorStatus problem) none)
  | ignored (problem : VsApiError) (stale : actor.isCurrent generation txn = false) :
      Resulted actor generation txn (.error problem) ([], .nothing, actor)

theorem isCurrent_iff : actor.isCurrent generation txn = true ↔
    actor.data.generation = generation ∧ actor.data.remoteTxn = some txn ∧ actor.data.state = .authorizing := by
  rw [isCurrent, decide_eq_true_eq]

theorem authorizationResult_resulted (actor) (generation : UInt64) (txn : TxnId)
    (result) :
    Resulted actor generation txn result (actor.authorizationResult generation txn result) := by
  cases current : actor.isCurrent generation txn with
  | false =>
    cases result with
    | ok address =>
      simp only [authorizationResult, current, Bool.false_eq_true, not_false_eq_true, if_true]
      exact .stale address current
    | error problem =>
      simp only [authorizationResult, current, Bool.false_eq_true, if_false]
      exact .ignored problem current
  | true =>
    obtain ⟨rfl, mine, _⟩ := isCurrent_iff.mp current
    cases result with
    | ok address =>
      simp only [authorizationResult, current, not_true_eq_false, if_false, finishRemote_current mine]
      split
      · exact .unusable address current
      · exact .installed address current
    | error problem =>
      simp only [authorizationResult, current, if_true, reportFinish, finishRemote_current mine]
      exact .failed problem current

theorem reportFinish_cases (actor : ActorAuthorization) (generation : UInt64) (txn : TxnId)
    (status) :
    actor.reportFinish generation txn status none = ([], actor) ∨
    actor.data.remoteTxn = some txn ∧
      actor.reportFinish generation txn status none = ([.send (.grantZprAddress txn status [])], actor.finished status none) := by
  by_cases current : actor.data.generation = generation ∧ actor.data.remoteTxn = some txn
  · obtain ⟨rfl, mine⟩ := current
    rw [reportFinish, finishRemote_current mine]
    exact .inr ⟨mine, rfl⟩
  · rw [reportFinish, finishRemote, if_pos (not_and_or.mp current)]
    exact .inl rfl

end ActorAuthorization
end ZprCore.Auth
