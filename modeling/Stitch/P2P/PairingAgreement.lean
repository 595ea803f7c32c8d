import Stitch.Foundation.GuardedRuns
import Stitch.P2P.PairingExchange

/-!
# Agreement of paired sessions

A confirmation tag determines what its maker ran on: the secret fixes the code, the transcript
fixes the keys and the messages, and the label fixes the role.
-/

namespace Stitch.P2P.PairingAgreement

open Foundation.ByteLayout Foundation.GuardedRuns HybridClock PairingExchange

variable {isElement : List UInt8 → Bool}

section

variable {exchange other : Exchange} {label otherLabel : List UInt8} {tag : Tag}

def messageLen : Nat := elementLen + 1

theorem transcript_inj {owner device otherOwner otherDevice : PeerId}
    {messageA messageB otherA otherB : List UInt8}
    (sizeA : messageA.length = messageLen) (sizeB : messageB.length = messageLen)
    (otherSizeA : otherA.length = messageLen) (otherSizeB : otherB.length = messageLen)
    (same : transcript owner device messageA messageB =
      transcript otherOwner otherDevice otherA otherB) :
    owner = otherOwner ∧ device = otherDevice ∧ messageA = otherA ∧ messageB = otherB := by
  have short : peerIdLen < 256 ^ 4 ∧ messageLen < 256 ^ 4 := by decide
  have fits : ∀ (first second : PeerId) (third fourth : List UInt8),
      third.length = messageLen → fourth.length = messageLen →
        ∀ part ∈ [first.bytes, second.bytes, third, fourth], part.length < 256 ^ 4 := by
    intro first second third fourth sizeThird sizeFourth part member
    simp only [List.mem_cons, List.not_mem_nil, or_false] at member
    rcases member with here | here | here | here <;> rw [here]
    · exact first.size.trans_lt short.1
    · exact second.size.trans_lt short.1
    · exact sizeThird.trans_lt short.2
    · exact sizeFourth.trans_lt short.2
  have parts : [owner.bytes, device.bytes, messageA, messageB] =
      [otherOwner.bytes, otherDevice.bytes, otherA, otherB] := by
    apply length_prefixed_parts_inj
    · rfl
    · exact fits owner device messageA messageB sizeA sizeB
    · exact fits otherOwner otherDevice otherA otherB otherSizeA otherSizeB
    · exact List.append_cancel_left same
  simp only [List.cons.injEq, and_true] at parts
  exact ⟨PeerId.ext parts.1, PeerId.ext parts.2.1, parts.2.2⟩

/-- A tag is made on an exchange: it authenticates the transcript of the exchange under a
key derived from the exchange's secret. -/
structure MakesTag (exchange : Exchange) (label : List UInt8) (tag : Tag) : Prop where
  labelled : tag.key.label = label
  password : tag.key.secret.password = exchange.code.bytes
  messages : ∃ messageA messageB,
    exchange.messageA = .bytes messageA ∧ exchange.messageB = .bytes messageB ∧
    messageA.length = messageLen ∧ messageB.length = messageLen ∧
    tag.transcript = transcript exchange.ownerKey exchange.deviceKey messageA messageB

theorem makes_tag_unique (made : MakesTag exchange label tag)
    (alsoMade : MakesTag other otherLabel tag) : exchange = other ∧ label = otherLabel := by
  obtain ⟨messageA, messageB, isA, isB, sizeA, sizeB, text⟩ := made.messages
  obtain ⟨otherA, otherB, alsoA, alsoB, otherSizeA, otherSizeB, otherText⟩ := alsoMade.messages
  have same := transcript_inj sizeA sizeB otherSizeA otherSizeB (text.symm.trans otherText)
  obtain ⟨owners, devices, firsts, seconds⟩ := same
  have codes : exchange.code = other.code :=
    PairingCode.ext (made.password.symm.trans alsoMade.password)
  refine ⟨Exchange.ext codes owners devices ?_ ?_, made.labelled.symm.trans alsoMade.labelled⟩
  · rw [isA, alsoA, firsts]
  · rw [isB, alsoB, seconds]

theorem labels_differ : confirmOwner ≠ confirmDevice := by decide

variable {offer : PairingOffer} {ownerKey deviceKey peer : PeerId} {nowMs : Nat}
  {message reply : PairingMessage} {element : Element isElement}

theorem finish_some {state : Spake2 isElement} {received : List UInt8} {secret : Secret}
    (finished : state.finish received = some secret) :
    received.length = messageLen ∧ secret.password = state.password := by
  unfold Spake2.finish at finished
  cases received with
  | nil => cases finished
  | cons side theirs =>
    dsimp only at finished
    by_cases size : theirs.length = elementLen
    · refine ⟨congrArg Nat.succ size, ?_⟩
      rw [if_neg (not_not.mpr size)] at finished
      split at finished
      · cases finished
      · split at finished
        · cases role : state.side <;> rw [role] at finished <;> cases finished <;> rfl
        · cases finished
    · rw [if_pos size] at finished
      cases finished

/-- The owner waits for the tag of the device on the exchange, and will answer with its own. -/
structure OwnerWaits (exchange : Exchange) (waiting : OwnerConfirm) : Prop where
  expects : MakesTag exchange confirmDevice ⟨waiting.keyDevice, waiting.transcript⟩
  answers : MakesTag exchange confirmOwner ⟨waiting.keyOwner, waiting.transcript⟩
  device : waiting.deviceKey = exchange.deviceKey

structure DeviceWaits (exchange : Exchange) (waiting : DeviceConfirm) : Prop where
  expects : MakesTag exchange confirmOwner ⟨waiting.keyOwner, waiting.transcript⟩
  owner : waiting.ownerKey = exchange.ownerKey

variable {waiting : OwnerConfirm}

theorem accept_ok
    (accepted : offer.accept ownerKey deviceKey message nowMs element = .ok (waiting, reply)) :
    OwnerWaits ⟨offer.code, ownerKey, deviceKey, reply, message⟩ waiting ∧
      ∃ raw, reply = .bytes raw := by
  unfold PairingOffer.accept at accepted
  split at accepted
  · cases accepted
  · cases message with
    | tag made => cases accepted
    | bytes hello =>
      dsimp only [Spake2.startA] at accepted
      split at accepted
      · cases accepted
      · rename_i secret finished
        cases accepted
        obtain ⟨size, password⟩ := finish_some finished
        have own : (Side.byte .a :: element.bytes).length = messageLen :=
          congrArg Nat.succ element.size
        exact ⟨⟨⟨rfl, password, _, _, rfl, rfl, own, size, rfl⟩,
          ⟨rfl, password, _, _, rfl, rfl, own, size, rfl⟩, rfl⟩, _, rfl⟩

theorem receive_ok {code : PairingCode} {confirming : DeviceConfirm}
    (received : (PairingDevice.begin deviceKey ownerKey code element).1.receive message =
      .ok (confirming, reply)) :
    let exchange : Exchange := ⟨code, ownerKey, deviceKey, message,
      (PairingDevice.begin deviceKey ownerKey code element).2⟩
    DeviceWaits exchange confirming ∧
      ∃ tag, reply = .tag tag ∧ MakesTag exchange confirmDevice tag := by
  unfold PairingDevice.receive at received
  cases message with
  | tag made => cases received
  | bytes messageA =>
    dsimp only [PairingDevice.begin, Spake2.startB] at received
    split at received
    · cases received
    · rename_i secret finished
      cases received
      obtain ⟨size, password⟩ := finish_some finished
      have own : (Side.byte .b :: element.bytes).length = messageLen :=
        congrArg Nat.succ element.size
      exact ⟨⟨⟨rfl, password, _, _, rfl, rfl, size, own, rfl⟩, rfl⟩,
        _, rfl, ⟨rfl, password, _, _, rfl, rfl, size, own, rfl⟩⟩

theorem confirm_ok (confirmed : waiting.confirm message = .ok (peer, reply)) :
    message = .tag ⟨waiting.keyDevice, waiting.transcript⟩ ∧ peer = waiting.deviceKey ∧
      reply = .tag ⟨waiting.keyOwner, waiting.transcript⟩ := by
  unfold OwnerConfirm.confirm verifyMac at confirmed
  split at confirmed
  · rename_i verified
    cases confirmed
    exact ⟨verified, rfl, rfl⟩
  · cases confirmed

theorem confirm_expected (waiting : OwnerConfirm) :
    waiting.confirm (.tag ⟨waiting.keyDevice, waiting.transcript⟩) =
      .ok (waiting.deviceKey, .tag ⟨waiting.keyOwner, waiting.transcript⟩) := by
  unfold OwnerConfirm.confirm verifyMac
  rw [if_pos rfl]
  rfl

theorem finish_ok {waiting : DeviceConfirm} (finished : waiting.finish message = .ok peer) :
    message = .tag ⟨waiting.keyOwner, waiting.transcript⟩ ∧ peer = waiting.ownerKey := by
  unfold DeviceConfirm.finish verifyMac at finished
  split at finished
  · rename_i verified
    cases finished
    exact ⟨verified, rfl⟩
  · cases finished

variable {world after : World isElement} {id : Nat}

/-- Where a tag on the wire comes from. -/
def Sourced (world : World isElement) (tag : Tag) : Sender → Prop
  | .device id => ∃ session exchange, world.devices.lookup id = some session ∧
      session.used = some exchange ∧ exchange.deviceKey = session.key ∧
      MakesTag exchange confirmDevice tag
  | .owner id => ∃ session exchange, world.owners.lookup id = some session ∧
      session.used = some exchange ∧ exchange.ownerKey = session.key ∧
      session.phase = .confirmed exchange.deviceKey ∧ MakesTag exchange confirmOwner tag

/-- A session that waits for a tag has run on its exchange. -/
def OwnerCoherent (session : OwnerSession) : Prop :=
  ∀ waiting, session.phase = .confirming waiting →
    ∃ exchange, session.used = some exchange ∧ exchange.ownerKey = session.key ∧
      OwnerWaits exchange waiting

structure DeviceCoherent (session : DeviceSession isElement) : Prop where
  begun : ∀ waiting, session.phase = .begun waiting → session.used = none ∧
    ∃ ownerKey element,
      waiting = (PairingDevice.begin session.key ownerKey session.code element).1
  confirming : ∀ waiting, session.phase = .confirming waiting →
    ∃ exchange, session.used = some exchange ∧ exchange.deviceKey = session.key ∧
      DeviceWaits exchange waiting

structure Coherent (world : World isElement) : Prop where
  owners : ∀ id session, world.owners.lookup id = some session → OwnerCoherent session
  devices : ∀ id session, world.devices.lookup id = some session → DeviceCoherent session
  tags : ∀ sender tag, (sender, PairingMessage.tag tag) ∈ world.emitted →
    Sourced world tag sender

variable {session : OwnerSession}

theorem coherent_set_owner (coherent : Coherent world) (fits : OwnerCoherent session)
    (open_ : ∀ before peer, world.owners.lookup id = some before → before.phase ≠ .confirmed peer) :
    Coherent (world.setOwner id session) where
  owners := by
    intro other held found
    by_cases here : other = id
    · rw [here] at found
      cases (Finmap.lookup_insert _).symm.trans found
      exact fits
    · exact coherent.owners other held ((Finmap.lookup_insert_of_ne _ here).symm.trans found)
  devices := coherent.devices
  tags := by
    intro sender tag listed
    have sourced := coherent.tags sender tag listed
    cases sender with
    | device sender => exact sourced
    | owner sender =>
      obtain ⟨before, exchange, found, used, key, phase, made⟩ := sourced
      have different : sender ≠ id := by
        intro here
        rw [here] at found
        exact open_ before _ found phase
      exact ⟨before, exchange, (Finmap.lookup_insert_of_ne _ different).trans found, used, key,
        phase, made⟩

theorem coherent_set_device {session : DeviceSession isElement} (coherent : Coherent world)
    (fits : DeviceCoherent session)
    (keeps : ∀ before exchange, world.devices.lookup id = some before →
      before.used = some exchange → session.used = some exchange ∧ session.key = before.key) :
    Coherent (world.setDevice id session) where
  owners := coherent.owners
  devices := by
    intro other held found
    by_cases here : other = id
    · rw [here] at found
      cases (Finmap.lookup_insert _).symm.trans found
      exact fits
    · exact coherent.devices other held ((Finmap.lookup_insert_of_ne _ here).symm.trans found)
  tags := by
    intro sender tag listed
    have sourced := coherent.tags sender tag listed
    cases sender with
    | owner sender => exact sourced
    | device sender =>
      obtain ⟨before, exchange, found, used, key, made⟩ := sourced
      by_cases here : sender = id
      · rw [here] at found ⊢
        obtain ⟨kept, sameKey⟩ := keeps before exchange found used
        exact ⟨session, exchange, Finmap.lookup_insert _, kept, key.trans sameKey.symm, made⟩
      · exact ⟨before, exchange, (Finmap.lookup_insert_of_ne _ here).trans found, used, key,
          made⟩

variable {message : PairingMessage}

theorem coherent_emit {sender : Sender} (coherent : Coherent world)
    (sourced : ∀ tag, message = .tag tag → Sourced world tag sender) :
    Coherent (world.emit sender message) where
  owners := coherent.owners
  devices := coherent.devices
  tags := by
    intro other tag listed
    rcases List.mem_cons.mp listed with here | older
    · cases here
      exact sourced tag rfl
    · exact coherent.tags other tag older

theorem coherent_empty : Coherent (World.empty : World isElement) where
  owners := by
    intro id session found
    cases found
  devices := by
    intro id session found
    cases found
  tags := by
    intro sender tag listed
    cases listed

theorem coherent_mint {ownerKey : PeerId} {nowMs : Nat} {candidates : List Nat}
    (coherent : Coherent world) (taken : world.mint id ownerKey nowMs candidates = some after) :
    Coherent after := by
  unfold World.mint at taken
  split at taken
  · cases taken
  · rename_i absent
    obtain ⟨offer, -, made⟩ := Option.map_eq_some_iff.mp taken
    rw [← made]
    apply coherent_set_owner coherent
    · intro waiting phase
      cases phase
    · intro before peer found
      rw [absent] at found
      cases found

variable {element : Element isElement}

theorem coherent_begin {deviceKey ownerKey : PeerId} {code : PairingCode}
    (coherent : Coherent world)
    (taken : world.begin id deviceKey ownerKey code element = some after) : Coherent after := by
  unfold World.begin at taken
  split at taken
  · cases taken
  · rename_i absent
    cases taken
    apply coherent_emit
    · apply coherent_set_device coherent
      · constructor
        · intro waiting phase
          cases phase
          exact ⟨rfl, ownerKey, element, rfl⟩
        · intro waiting phase
          cases phase
      · intro before exchange found
        rw [absent] at found
        cases found
    · intro tag made
      cases made

theorem unconfirmed_of_found (found : world.owners.lookup id = some session)
    (running : ∀ peer, session.phase ≠ .confirmed peer) :
    ∀ before peer, world.owners.lookup id = some before → before.phase ≠ .confirmed peer := by
  intro before peer held
  rw [found] at held
  cases held
  exact running peer

variable (coherent : Coherent world)

include coherent

theorem coherent_accept {deviceKey : PeerId} {nowMs : Nat}
    (taken : world.accept id deviceKey message nowMs element = some after) : Coherent after := by
  unfold World.accept at taken
  split at taken
  · rename_i key used offer found
    have unconfirmed := unconfirmed_of_found found (fun _ => nofun)
    split at taken
    · cases taken
      apply coherent_set_owner coherent _ unconfirmed
      intro waiting phase
      cases phase
    · rename_i waiting reply accepted
      obtain ⟨waits, raw, isRaw⟩ := accept_ok accepted
      cases taken
      apply coherent_emit
      · apply coherent_set_owner coherent _ unconfirmed
        intro confirming phase
        cases phase
        exact ⟨_, rfl, rfl, waits⟩
      · intro tag made
        rw [isRaw] at made
        cases made
  · cases taken

theorem coherent_receive (taken : world.receive id message = some after)
      :
    Coherent after := by
  unfold World.receive at taken
  split at taken
  · rename_i key code used waiting found
    obtain ⟨unused, ownerKey, element, begun⟩ := (coherent.devices id _ found).begun waiting rfl
    have keeps : ∀ before exchange, world.devices.lookup id = some before →
        before.used ≠ some exchange := by
      intro before exchange held isUsed
      rw [found] at held
      cases held
      rw [unused] at isUsed
      cases isUsed
    split at taken
    · cases taken
      apply coherent_set_device coherent
      · constructor
        · intro waiting phase
          cases phase
        · intro waiting phase
          cases phase
      · intro before exchange held isUsed
        exact absurd isUsed (keeps before exchange held)
    · rename_i confirming reply received
      rw [begun] at received taken
      obtain ⟨waits, tag, isTag, made⟩ := receive_ok received
      cases taken
      apply coherent_emit
      · apply coherent_set_device coherent
        · constructor
          · intro waiting phase
            cases phase
          · intro waiting phase
            cases phase
            exact ⟨_, rfl, rfl, waits⟩
        · intro before exchange held isUsed
          exact absurd isUsed (keeps before exchange held)
      · intro sent isSent
        rw [isTag] at isSent
        cases isSent
        exact ⟨_, _, Finmap.lookup_insert _, rfl, rfl, made⟩
  · cases taken

theorem coherent_confirm (taken : world.confirm id message = some after)
      :
    Coherent after := by
  unfold World.confirm at taken
  split at taken
  · rename_i key used waiting found
    have unconfirmed := unconfirmed_of_found found (fun _ => nofun)
    split at taken
    · cases taken
      apply coherent_set_owner coherent _ unconfirmed
      intro waiting phase
      cases phase
    · rename_i peer reply confirmed
      obtain ⟨-, isPeer, isReply⟩ := confirm_ok confirmed
      obtain ⟨exchange, isUsed, sameKey, waits⟩ := coherent.owners id _ found waiting rfl
      cases taken
      apply coherent_emit
      · apply coherent_set_owner coherent _ unconfirmed
        intro waiting phase
        cases phase
      · intro tag isTag
        rw [isReply] at isTag
        cases isTag
        refine ⟨_, exchange, Finmap.lookup_insert _, isUsed, sameKey, ?_, waits.answers⟩
        rw [isPeer, waits.device]
  · cases taken

theorem coherent_finish (taken : world.finish id message = some after) :
    Coherent after := by
  unfold World.finish at taken
  split at taken
  · rename_i key code used waiting found
    have done : ∀ phase : DevicePhase isElement, (∀ waiting, phase ≠ .begun waiting) →
        (∀ waiting, phase ≠ .confirming waiting) →
        Coherent (world.setDevice id ⟨key, code, used, phase⟩) := by
      intro phase notBegun notConfirming
      apply coherent_set_device coherent
      · exact ⟨fun waiting same => absurd same (notBegun waiting),
          fun waiting same => absurd same (notConfirming waiting)⟩
      · intro before exchange held isUsed
        rw [found] at held
        cases held
        exact ⟨isUsed, rfl⟩
    split at taken
    · cases taken
      exact done _ (by simp) (by simp)
    · cases taken
      exact done _ (by simp) (by simp)
  · cases taken

theorem coherent_step {action : Action isElement} (taken : world.step action = some after) :
    Coherent after := by
  cases action with
  | mint id ownerKey nowMs candidates => exact coherent_mint coherent taken
  | begin id deviceKey ownerKey code element => exact coherent_begin coherent taken
  | accept id deviceKey deviceHello nowMs element => exact coherent_accept coherent taken
  | receive id ownerReply => exact coherent_receive coherent taken
  | confirm id deviceConfirm => exact coherent_confirm coherent taken
  | finish id ownerConfirm => exact coherent_finish coherent taken

end

section

variable {world : World isElement}

def AttackerCan (world : World isElement) (action : Action isElement) : Prop :=
  ∀ message ∈ action.delivered, world.Deliverable message

def Runs (world : World isElement) : Prop :=
  Reaches (fun before => World.step before) AttackerCan World.empty world

theorem runs_coherent (run : Runs world) : Coherent world := by
  apply reaches_invariant Coherent coherent_empty _ run
  intro before action after coherent _ taken
  exact coherent_step coherent taken

theorem deliverable_tag {tag : Tag} (delivered : world.Deliverable (.tag tag)) :
    ∃ sender, (sender, PairingMessage.tag tag) ∈ world.emitted := by
  rcases delivered with ⟨raw, isRaw⟩ | sent
  · cases isRaw
  · exact sent

section

variable {sender : Sender} {exchange : Exchange} (coherent : Coherent world)

include coherent

/-- The tag an owner waits for comes from a device session on the same exchange. -/
theorem device_of_expected {waiting : OwnerConfirm} (waits : OwnerWaits exchange waiting)
    (listed : (sender, .tag ⟨waiting.keyDevice, waiting.transcript⟩) ∈ world.emitted) :
    ∃ device other, sender = .device device ∧ world.devices.lookup device = some other ∧
      other.used = some exchange ∧ exchange.deviceKey = other.key := by
  have sourced := coherent.tags sender _ listed
  cases sender with
  | owner sender =>
    obtain ⟨-, other, -, -, -, -, made⟩ := sourced
    exact absurd (makes_tag_unique made waits.expects).2 labels_differ
  | device sender =>
    obtain ⟨other, ran, held, isUsed, key, made⟩ := sourced
    rw [(makes_tag_unique made waits.expects).1] at isUsed key
    exact ⟨sender, other, rfl, held, isUsed, key⟩

/-- The tag a device waits for comes from an owner session on the same exchange that has
confirmed. -/
theorem owner_of_expected {waiting : DeviceConfirm} (waits : DeviceWaits exchange waiting)
    (listed : (sender, .tag ⟨waiting.keyOwner, waiting.transcript⟩) ∈ world.emitted) :
    ∃ owner other, sender = .owner owner ∧ world.owners.lookup owner = some other ∧
      other.used = some exchange ∧ exchange.ownerKey = other.key ∧
      other.phase = .confirmed exchange.deviceKey := by
  have sourced := coherent.tags sender _ listed
  cases sender with
  | owner sender =>
    obtain ⟨other, ran, held, isUsed, key, confirmed, made⟩ := sourced
    rw [(makes_tag_unique made waits.expects).1] at isUsed key confirmed
    exact ⟨sender, other, rfl, held, isUsed, key, confirmed⟩
  | device sender =>
    obtain ⟨-, other, -, -, -, made⟩ := sourced
    exact absurd (makes_tag_unique waits.expects made).2 labels_differ

end

theorem parse_bytes (code : PairingCode) : PairingCode.parse code.bytes = .ok code := by
  unfold PairingCode.parse
  rw [dif_pos ⟨code.size, code.decimal⟩]

theorem finish_other (state : Spake2 isElement) (element : Element isElement) :
    state.finish (state.side.other.byte :: element.bytes) =
      some (match state.side with
        | .a => ⟨state.password, state.idA, state.idB, state.element.bytes, element.bytes⟩
        | .b => ⟨state.password, state.idA, state.idB, element.bytes, state.element.bytes⟩) := by
  unfold Spake2.finish
  simp only [element.size, element.valid, ne_eq, not_true_eq_false, if_false, if_true]
  cases state.side <;> rfl

/-- The device enters the offer's code, and every message arrives as it was sent. -/
theorem undisturbed_pairs {offer : PairingOffer} {nowMs : Nat} (ownerKey deviceKey : PeerId)
    (inTime : nowMs ≤ offer.expiresAtMs) (elementA elementB : Element isElement) :
    ∃ code ownerWaits messageA deviceWaits deviceTag ownerTag,
      PairingCode.parse offer.code.bytes = .ok code ∧
      offer.accept ownerKey deviceKey (PairingDevice.begin deviceKey ownerKey code elementB).2
        nowMs elementA = .ok (ownerWaits, messageA) ∧
      (PairingDevice.begin deviceKey ownerKey code elementB).1.receive messageA =
        .ok (deviceWaits, deviceTag) ∧
      ownerWaits.confirm deviceTag = .ok (deviceKey, ownerTag) ∧
      deviceWaits.finish ownerTag = .ok ownerKey := by
  have ownerSecret := finish_other
    ⟨.a, offer.code.bytes, ownerKey.bytes, deviceKey.bytes, elementA⟩ elementB
  have deviceSecret := finish_other
    ⟨.b, offer.code.bytes, ownerKey.bytes, deviceKey.bytes, elementB⟩ elementA
  let secret : Secret :=
    ⟨offer.code.bytes, ownerKey.bytes, deviceKey.bytes, elementA.bytes, elementB.bytes⟩
  let messageA := Side.byte .a :: elementA.bytes
  let text := transcript ownerKey deviceKey messageA (Side.byte .b :: elementB.bytes)
  refine ⟨offer.code, ⟨⟨secret, confirmOwner⟩, ⟨secret, confirmDevice⟩, text, deviceKey⟩,
    .bytes messageA, ⟨⟨secret, confirmOwner⟩, text, ownerKey⟩, .tag ⟨⟨secret, confirmDevice⟩, text⟩,
    .tag ⟨⟨secret, confirmOwner⟩, text⟩, parse_bytes offer.code, ?_, ?_, ?_, ?_⟩
  · unfold PairingOffer.accept
    rw [if_neg (Nat.not_lt.mpr inTime)]
    dsimp only [PairingDevice.begin, Spake2.startA, Spake2.startB, Spake2.message]
    rw [show (Side.b.byte :: elementB.bytes) = Side.a.other.byte :: elementB.bytes from rfl,
      ownerSecret]
    rfl
  · unfold PairingDevice.receive
    dsimp only [PairingDevice.begin, Spake2.startB]
    rw [show messageA = Side.b.other.byte :: elementA.bytes from rfl, deviceSecret]
    rfl
  · exact confirm_expected _
  · unfold DeviceConfirm.finish verifyMac
    rw [if_pos rfl]
    rfl

/-- Over any interleaving of sessions under the attacker, a session that accepts a tag
agrees with a session of the other role on everything it ran on, an owner confirms before
its device finishes, and the undisturbed exchange goes through. -/
theorem paired_sessions_agree (run : Runs world) :
    (∀ id session waiting message peer reply, world.owners.lookup id = some session →
      session.phase = .confirming waiting → world.Deliverable message →
      waiting.confirm message = .ok (peer, reply) →
        ∃ exchange, session.used = some exchange ∧ exchange.ownerKey = session.key ∧
          (∃ device other, world.devices.lookup device = some other ∧ other.key = peer ∧
            other.used = some exchange ∧ exchange.deviceKey = peer) ∧
          ∀ sender, (sender, message) ∈ world.emitted → ∃ device, sender = .device device) ∧
    (∀ id session waiting message peer, world.devices.lookup id = some session →
      session.phase = .confirming waiting → world.Deliverable message →
      waiting.finish message = .ok peer →
        ∃ exchange, session.used = some exchange ∧ exchange.deviceKey = session.key ∧
          (∃ owner other, world.owners.lookup owner = some other ∧ other.key = peer ∧
            other.used = some exchange ∧ exchange.ownerKey = peer ∧
            other.phase = .confirmed session.key) ∧
          ∀ sender, (sender, message) ∈ world.emitted → ∃ owner, sender = .owner owner) ∧
    ∀ (offer : PairingOffer) (nowMs : Nat) (ownerKey deviceKey : PeerId)
      (elementA elementB : Element isElement), nowMs ≤ offer.expiresAtMs →
        ∃ code ownerWaits messageA deviceWaits deviceTag ownerTag,
          PairingCode.parse offer.code.bytes = .ok code ∧
          offer.accept ownerKey deviceKey
            (PairingDevice.begin deviceKey ownerKey code elementB).2 nowMs elementA =
              .ok (ownerWaits, messageA) ∧
          (PairingDevice.begin deviceKey ownerKey code elementB).1.receive messageA =
            .ok (deviceWaits, deviceTag) ∧
          ownerWaits.confirm deviceTag = .ok (deviceKey, ownerTag) ∧
          deviceWaits.finish ownerTag = .ok ownerKey := by
  have coherent := runs_coherent run
  refine ⟨?_, ?_, ?_⟩
  · intro id session waiting message peer reply found phase delivered confirmed
    obtain ⟨exchange, used, sameKey, waits⟩ := coherent.owners id session found waiting phase
    obtain ⟨rfl, isPeer, -⟩ := confirm_ok confirmed
    obtain ⟨sender, listed⟩ := deliverable_tag delivered
    obtain ⟨device, other, -, held, isUsed, key⟩ := device_of_expected coherent waits listed
    have same : peer = exchange.deviceKey := isPeer.trans waits.device
    refine ⟨exchange, used, sameKey,
      ⟨device, other, held, (same.trans key).symm, isUsed, same.symm⟩, ?_⟩
    intro sender listed
    obtain ⟨device, -, isDevice, -⟩ := device_of_expected coherent waits listed
    exact ⟨device, isDevice⟩
  · intro id session waiting message peer found phase delivered finished
    obtain ⟨exchange, used, sameKey, waits⟩ :=
      (coherent.devices id session found).confirming waiting phase
    obtain ⟨rfl, isPeer⟩ := finish_ok finished
    obtain ⟨sender, listed⟩ := deliverable_tag delivered
    obtain ⟨owner, other, -, held, isUsed, key, confirmed⟩ :=
      owner_of_expected coherent waits listed
    have same : peer = exchange.ownerKey := isPeer.trans waits.owner
    refine ⟨exchange, used, sameKey,
      ⟨owner, other, held, (same.trans key).symm, isUsed, same.symm, sameKey ▸ confirmed⟩, ?_⟩
    intro sender listed
    obtain ⟨owner, -, isOwner, -⟩ := owner_of_expected coherent waits listed
    exact ⟨owner, isOwner⟩
  · intro offer nowMs ownerKey deviceKey elementA elementB inTime
    exact undisturbed_pairs ownerKey deviceKey inTime elementA elementB

def anyElement : List UInt8 → Bool := fun _ => true

def elementOf (byte : UInt8) : Element anyElement :=
  ⟨List.replicate 32 byte, List.length_replicate, rfl⟩

def pairingRun : List (Action anyElement) :=
  [.mint 0 (peerNumber 1) 0 [123456],
    .begin 0 (peerNumber 2) (peerNumber 1) (.ofValue 123456) (elementOf 7),
    .accept 0 (peerNumber 2) (.bytes (Side.byte .b :: (elementOf 7).bytes)) 5 (elementOf 8),
    .receive 0 (.bytes (Side.byte .a :: (elementOf 8).bytes))]

def handsBytes (action : Action anyElement) : Bool :=
  match action.delivered with
  | some (.tag _) => false
  | _ => true

theorem attacker_can_hand_bytes (world : World anyElement) (action : Action anyElement)
    (bytes : handsBytes action = true) : AttackerCan world action := by
  intro message handed
  unfold handsBytes at bytes
  rw [show action.delivered = some message from handed] at bytes
  cases message with
  | bytes raw => exact Or.inl ⟨raw, rfl⟩
  | tag made => cases bytes

theorem paired_run_agrees : ∃ (world : World anyElement) (session : OwnerSession)
    (waiting : OwnerConfirm) (message reply : PairingMessage), Runs world ∧
      world.owners.lookup 0 = some session ∧ session.phase = .confirming waiting ∧
      world.Deliverable message ∧ waiting.confirm message = .ok (peerNumber 2, reply) ∧
      ∃ device other, world.devices.lookup device = some other ∧
        other.key = peerNumber 2 ∧ other.used = session.used := by
  have followed : (replay (fun before => World.step before)
      (fun _ action => handsBytes action = true) World.empty pairingRun).isSome = true := rfl
  obtain ⟨world, ends⟩ := Option.isSome_iff_exists.mp followed
  have run : Runs world := reaches_weaken attacker_can_hand_bytes (reaches_of_replay .start ends)
  cases ends
  have agrees := (paired_sessions_agree run).1 0 _ _ (.tag _) _ _ rfl rfl
    (Or.inr ⟨.device 0, List.mem_cons_self⟩) (confirm_expected _)
  obtain ⟨exchange, used, -, ⟨device, other, held, key, same, -⟩, -⟩ := agrees
  exact ⟨_, _, _, _, _, run, rfl, rfl, Or.inr ⟨.device 0, List.mem_cons_self⟩,
    confirm_expected _, device, other, held, key, same.trans used.symm⟩

end

end Stitch.P2P.PairingAgreement
