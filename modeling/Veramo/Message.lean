import Veramo.Json

/-!
This module contains the messages of the coordinate-mediation protocol: the DIDComm message a
handler builds before packing (`IDIDCommMessage`), the message that travels down the handler
chain and is kept in the data store (`Message`), the message-type URIs, and the builders of the
protocol's messages.

The builders call `v4()` and `new Date().toISOString()`; here the two values are arguments.
-/

namespace Veramo

/-- The message types of the coordinate-mediation protocol (`CoordinateMediation`). -/
inductive CoordinateMediation where
  | mediateRequest
  | mediateGrant
  | mediateDeny
  | recipientUpdate
  | recipientUpdateResponse
  | recipient
  deriving DecidableEq, Repr

namespace CoordinateMediation

/-- The URI a member of the enum stands for; a message's `type` is compared with it. -/
def uri : CoordinateMediation → String
  | mediateRequest => "https://didcomm.org/coordinate-mediation/3.0/mediate-request"
  | mediateGrant => "https://didcomm.org/coordinate-mediation/3.0/mediate-grant"
  | mediateDeny => "https://didcomm.org/coordinate-mediation/3.0/mediate-deny"
  | recipientUpdate => "https://didcomm.org/coordinate-mediation/3.0/recipient-update"
  | recipientUpdateResponse =>
    "https://didcomm.org/coordinate-mediation/3.0/recipient-update-response"
  | recipient => "https://didcomm.org/coordinate-mediation/3.0/recipient"

theorem uri_injective : Function.Injective uri := by
  intro a b h
  have hl := congrArg String.length h
  cases a <;> cases b <;> first | rfl | exact absurd hl (by decide)

@[simp] theorem uri_inj {a b : CoordinateMediation} : a.uri = b.uri ↔ a = b :=
  uri_injective.eq_iff

end CoordinateMediation

/--
One entry of a recipient-update's `body.updates` (`Update`). Its type says `action` is `add` or
`remove`; on the wire it is any string.
-/
structure Update where
  recipientDid : String
  action : String
  deriving DecidableEq, Repr

/-- The `result` member of an `UpdateResult`. -/
inductive RecipientUpdateResult where
  | success
  | noChange
  | clientError
  | serverError
  deriving DecidableEq, Repr

/-- `UpdateResult`: an `Update` extended with its `result`. -/
structure UpdateResult where
  update : Update
  result : RecipientUpdateResult
  deriving DecidableEq, Repr

/--
The body of a message, with the members the handlers read or write. A message whose body is
`null` or absent has `none` in place of a `Body`.
-/
structure Body where
  routingDid : Option (List String) := none
  updates : Option (List Update) := none
  deriving DecidableEq, Repr

/-- `IDIDCommMessage`: a DIDComm message before packing. `sender` is the message's `from`. -/
structure DIDCommMessage where
  type : String
  sender : Option String
  «to» : Option String
  id : String
  thid : Option String := none
  createdTime : Option String := none
  body : Option Body
  returnRoute : Option String := none
  deriving DecidableEq, Repr

/-- A metadata entry `{ type, value }` of a `Message`. -/
structure MetaData where
  type : String
  value : Option String
  deriving DecidableEq, Repr

/--
A `Message` of the message handler: the decrypted message as it travels down the handler chain,
and, without metadata, the `IMessage` the data store keeps. `sender` is `from`, `data` the body.
-/
structure Message where
  id : String
  type : String
  sender : Option String
  «to» : Option String
  threadId : Option String := none
  data : Option Body := none
  returnRoute : Option String := none
  createdAt : Option String := none
  metaData : List MetaData := []
  deriving DecidableEq, Repr

/--
`message.body` on a `Message`: the class declares no `body` (the body is `data`), so the property
reads `undefined`.
-/
def Message.body (_ : Message) : Option Body := none

/--
Modelled from the spec: the DIDComm handler that unpacks a message (absent from src/) fills a
`Message` from the fields of the DIDComm message, as the spec's `ProtocolMessage` lists them.
-/
def DIDCommMessage.toMessage (m : DIDCommMessage) : Message :=
  { id := m.id, type := m.type, sender := m.sender, «to» := m.«to», threadId := m.thid,
    data := m.body, returnRoute := m.returnRoute, createdAt := m.createdTime }

/-- `message.addMetaData(meta)` appends an entry to the message's metadata. -/
def Message.addMetaData (m : Message) (meta : MetaData) : Message :=
  { m with metaData := m.metaData ++ [meta] }

@[simp] theorem Message.addMetaData_metaData (m : Message) (meta : MetaData) :
    (m.addMetaData meta).metaData = m.metaData ++ [meta] := rfl

/-- Whether the message carries a metadata entry of type `type`. -/
def Message.hasMetaData (m : Message) (type : String) : Bool :=
  m.metaData.any (·.type == type)

/-- A string field as a JavaScript condition reads it: `undefined` and `""` are falsy. -/
def truthy : Option String → Option String
  | some s => if s = "" then none else some s
  | none => none

@[simp] theorem truthy_none : truthy none = none := rfl

theorem truthy_eq_some {o : Option String} {s : String} :
    truthy o = some s ↔ o = some s ∧ s ≠ "" := by
  cases o with
  | none => simp
  | some t =>
    by_cases h : t = ""
    · subst h
      simp only [truthy, if_pos]
      exact ⟨Option.noConfusion, fun ⟨h, hs⟩ => absurd (Option.some.inj h).symm hs⟩
    · simp only [truthy, h, if_false, Option.some.injEq, iff_self_and]
      rintro rfl
      exact h

/-- `createMediateRequestMessage(recipientDidUrl, mediatorDidUrl)`. -/
def createMediateRequestMessage (recipientDidUrl mediatorDidUrl id createdTime : String) :
    DIDCommMessage :=
  { type := CoordinateMediation.mediateRequest.uri
    sender := some recipientDidUrl
    «to» := some mediatorDidUrl
    id := id
    createdTime := some createdTime
    body := some {} }

/-- `createMediateGrantMessage(recipientDidUrl, mediatorDidUrl, thid)`. -/
def createMediateGrantMessage (recipientDidUrl mediatorDidUrl thid id createdTime : String) :
    DIDCommMessage :=
  { type := CoordinateMediation.mediateGrant.uri
    sender := some mediatorDidUrl
    «to» := some recipientDidUrl
    id := id
    thid := some thid
    createdTime := some createdTime
    body := some { routingDid := some [mediatorDidUrl] } }

/-- `createRecipientUpdateMessage(recipientDidUrl, mediatorDidUrl, updates)`. -/
def createRecipientUpdateMessage (recipientDidUrl mediatorDidUrl : String) (updates : List Update)
    (id createdTime : String) : DIDCommMessage :=
  { type := CoordinateMediation.recipientUpdate.uri
    sender := some recipientDidUrl
    «to» := some mediatorDidUrl
    id := id
    createdTime := some createdTime
    body := some { updates := some updates }
    returnRoute := some "all" }

end Veramo
