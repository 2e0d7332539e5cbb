import Webservice.Conversion
import Webservice.Session.Connection
import Webservice.Session.Offering

/-!
# Typed services

A `basic_ws_service` converts what its user sends, and converts back what a
session has received before the user sees it.  Where the conversions are
inverse to each other, the two users exchange values.
-/

namespace Webservice

/-! ## Conversions -/

/-- `to_shared_const_buffer_t` and `from_multi_buffer_t` of a type. -/
structure MessageType (Value : Type) where
  toSharedConstBuffer : Value → Except Exception (List UInt8)
  fromMultiBuffer : List (List UInt8) → Except Exception Value

/-- The value comes back, in however many chunks its bytes arrive. -/
def MessageType.Lossless {Value : Type} (type : MessageType Value)
    (value : Value) : Prop :=
  ∀ bytes chunks, type.toSharedConstBuffer value = .ok bytes →
    chunks.flatten = bytes → type.fromMultiBuffer chunks = .ok value

namespace TriviallyCopyable

variable {Element : Type} (type : TriviallyCopyable Element)

theorem fromMultiBuffer_of_one (one : type.width = 1)
    (chunks : List (List UInt8)) :
    type.fromMultiBuffer chunks =
      some (chunks.flatten.map fun byte => type.value [byte]) :=
  foldlM_insertChunk_of_one one chunks []

/-- A container of elements of one byte. -/
def messageType (one : type.width = 1) : MessageType (List Element) where
  toSharedConstBuffer data := .ok (type.toSharedConstBuffer data)
  fromMultiBuffer chunks :=
    .ok ((type.fromMultiBuffer chunks).get
      (Option.isSome_of_eq_some (type.fromMultiBuffer_of_one one chunks)))

theorem messageType_lossless (one : type.width = 1) (data : List Element) :
    (type.messageType one).Lossless data := by
  intro bytes chunks converted splits
  cases converted
  simp only [messageType, type.fromMultiBuffer_of_one one, splits,
    Option.get_some, map_value_bytes one]

/-- `char` and `std::uint8_t` -/
def byte : TriviallyCopyable UInt8 where
  width := 1
  pos := Nat.one_pos
  bytes element := [element]
  value memory := memory.headD 0
  bytes_length _ := rfl
  value_bytes _ := rfl

end TriviallyCopyable

/-- The conversions of `std::string` and `std::vector< std::uint8_t >`. -/
def bytesType : MessageType (List UInt8) :=
  TriviallyCopyable.byte.messageType rfl

/-- What the conversions use of `nlohmann::json`.  An exception is given by
its `what()`. -/
structure JsonLibrary (Json : Type) where
  dump : Json → Except String (List UInt8)
  parse : List UInt8 → Except String Json

namespace JsonLibrary

variable {Json : Type} (library : JsonLibrary Json)

/-- A `std::string` as the text of an exception has it. -/
def text (data : List UInt8) : String :=
  String.ofList (data.map fun byte => Char.ofNat byte.toNat)

def parsed (data : List UInt8) : Except Exception Json :=
  match library.parse data with
  | .ok value => .ok value
  | .error what => .error (.runtimeError
      (what ++ "; parsed expression '" ++ text data ++ "'"))

def messageType : MessageType Json where
  toSharedConstBuffer data :=
    match library.dump data with
    | .ok text => .ok text
    | .error what => .error (.runtimeError (what ++ "; dump failed"))
  fromMultiBuffer buffer := do
    let data ← bytesType.fromMultiBuffer buffer
    library.parsed data

/-- A value comes back if its text does. -/
theorem messageType_lossless {value : Json}
    (returns : ∀ text, library.dump value = .ok text →
      library.parse text = .ok value) :
    library.messageType.Lossless value := by
  intro bytes chunks converted splits
  have dumped : library.dump value = .ok bytes := by
    simp only [messageType] at converted
    split at converted
    · next text dumped =>
        rw [dumped, Except.ok.inj converted]
    · cases converted
  have same : TriviallyCopyable.byte.toSharedConstBuffer bytes = bytes :=
    List.flatMap_singleton' bytes
  have data : bytesType.fromMultiBuffer chunks = .ok bytes :=
    TriviallyCopyable.byte.messageType_lossless rfl bytes bytes chunks
      (congrArg Except.ok same) splits
  calc library.messageType.fromMultiBuffer chunks
      = library.parsed bytes := congrArg (· >>= library.parsed) data
    _ = .ok value := by rw [parsed, returns bytes dumped]

end JsonLibrary

/-! ## Services -/

/-- What the user passes to `send_text` or `send_binary`, and what is passed
to `on_text` or `on_binary`. -/
inductive TypedMessage (Text Binary : Type) where
  | text (data : Text)
  | binary (data : Binary)
  deriving DecidableEq

def TypedMessage.isText {Text Binary : Type} :
    TypedMessage Text Binary → Bool
  | .text _ => true
  | .binary _ => false

/-- The conversions of a `basic_ws_service`. -/
structure BasicWsService (Text Binary : Type) where
  text : MessageType Text
  binary : MessageType Binary

namespace BasicWsService

variable {Text Binary : Type} (service : BasicWsService Text Binary)

/-- `text_to_shared_const_buffer` and `binary_to_shared_const_buffer` -/
def toSharedConstBuffer :
    TypedMessage Text Binary → Except Exception (List UInt8)
  | .text data => service.text.toSharedConstBuffer data
  | .binary data => service.binary.toSharedConstBuffer data

/-- `multi_buffer_to_text` and `multi_buffer_to_binary` -/
def fromMultiBuffer (isText : Bool) (buffer : List (List UInt8)) :
    Except Exception (TypedMessage Text Binary) :=
  if isText then (service.text.fromMultiBuffer buffer).map .text
  else (service.binary.fromMultiBuffer buffer).map .binary

def Lossless : TypedMessage Text Binary → Prop
  | .text data => service.text.Lossless data
  | .binary data => service.binary.Lossless data

theorem Lossless.returns {message : TypedMessage Text Binary}
    (lossless : service.Lossless message) {bytes : List UInt8}
    {chunks : List (List UInt8)}
    (converted : service.toSharedConstBuffer message = .ok bytes)
    (splits : chunks.flatten = bytes) :
    service.fromMultiBuffer message.isText chunks = .ok message := by
  cases message with
  | text data =>
      have returned := lossless bytes chunks converted splits
      simp only [fromMultiBuffer, TypedMessage.isText, if_true, returned]
      rfl
  | binary data =>
      have returned := lossless bytes chunks converted splits
      simp only [fromMultiBuffer, TypedMessage.isText, Bool.false_eq_true,
        if_false, returned]
      rfl

end BasicWsService

/-- `ws_service` -/
def wsService : BasicWsService (List UInt8) (List UInt8) :=
  ⟨bytesType, bytesType⟩

/-- `json_ws_service` -/
def jsonWsService {Json : Type} (library : JsonLibrary Json) :
    BasicWsService Json (List UInt8) :=
  ⟨library.messageType, bytesType⟩

/-! ## Both ends -/

/-- What has gone through the typed functions of one end. -/
structure TypedLog (Text Binary : Type) where
  /-- The values whose buffers were passed to `ws_session::send`. -/
  sent : List (TypedMessage Text Binary)
  /-- What came of each message handed to `on_text` or `on_binary`: a call
  of the function of the user or an exception. -/
  converted : List (Except Exception (TypedMessage Text Binary))
  /-- Arguments of `on_exception`. -/
  reported : List Exception

structure TypedConnection (Text Binary : Type) where
  ends : Connection
  logs : Role → TypedLog Text Binary

inductive TypedEvent (Text Binary : Type) where
  | send (message : TypedMessage Text Binary)
  /-- The next callback begins: the chunks of its buffer, if it has one, and
  what the function of the user throws. -/
  | callbackBegins (buffer : List (List UInt8)) (throws : Option Exception)
  | other (event : SessionEvent)

/-- No event that goes through the typed functions. -/
def SessionEvent.isUntyped : SessionEvent → Bool
  | .dispatch (.send _ _) => false
  | .callbackBegins => false
  | _ => true

namespace TypedConnection

variable {Text Binary : Type} (service : BasicWsService Text Binary)

def logSent (connection : TypedConnection Text Binary) (role : Role)
    (message : TypedMessage Text Binary) : Role → TypedLog Text Binary :=
  let log := connection.logs role
  Function.update connection.logs role
    { log with sent := log.sent ++ [message] }

/-- `try{ on_text(identifier, multi_buffer_to_text(buffer)); }` with its
`catch`, and the same for a binary message. -/
def logMessage (connection : TypedConnection Text Binary) (role : Role)
    (result : Except Exception (TypedMessage Text Binary))
    (throws : Option Exception) : Role → TypedLog Text Binary :=
  let log := connection.logs role
  Function.update connection.logs role
    { log with
      converted := log.converted ++ [result]
      reported := log.reported ++
        match result with
        | .ok _ => throws.toList
        | .error error => [error] }

def step (connection : TypedConnection Text Binary) :
    Role × TypedEvent Text Binary → Option (TypedConnection Text Binary)
  | (role, .send message) =>
      match service.toSharedConstBuffer message with
      -- the caller gets the exception
      | .error _ => some connection
      | .ok bytes =>
          (connection.ends.step
            (role, .dispatch (.send message.isText bytes))).map fun ends =>
              ⟨ends, connection.logSent role message⟩
  | (role, .callbackBegins buffer throws) =>
      let next := connection.ends.step (role, .callbackBegins)
      match (connection.ends role).handlerStrand.head?.bind
          Callback.message? with
      | none => next.map fun ends => { connection with ends := ends }
      | some message =>
          if buffer.flatten = message.content then
            next.map fun ends => ⟨ends, connection.logMessage role
              (service.fromMultiBuffer message.isText buffer) throws⟩
          else none
  | (role, .other event) =>
      if event.isUntyped then
        (connection.ends.step (role, event)).map fun ends =>
          { connection with ends := ends }
      else none

end TypedConnection

def typedMachine {Text Binary : Type} (service : BasicWsService Text Binary) :
    Machine (TypedConnection Text Binary) (Role × TypedEvent Text Binary) where
  initial connection := connection = ⟨WsSession.launched, fun _ => ⟨[], [], []⟩⟩
  step := TypedConnection.step service

namespace TypedConnection

variable {Text Binary : Type} {service : BasicWsService Text Binary}
  {connection next : TypedConnection Text Binary}

/-- Every value sent comes back when it is received. -/
def SendsLossless (service : BasicWsService Text Binary) :
    Role × TypedEvent Text Binary → Prop
  | (_, .send message) => service.Lossless message
  | _ => True

end TypedConnection

/-! ## What the logs tell -/

/-- The message that the next callback is called with. -/
def SessionEvent.hands? (session : WsSession) :
    SessionEvent → Option Message
  | .callbackBegins =>
      session.handlerStrand.head?.bind Callback.message?
  | _ => none

theorem WsSession.step_messages {session next : WsSession}
    {event : SessionEvent} (stepped : session.step event = some next) :
    next.messages = session.messages ++ (event.hands? session).toList := by
  have added : next.messages = session.messages ++
      (CallEvent.begun (event.logs session)).filterMap Callback.message? := by
    rw [messages, begun, (step_noted stepped).callbacks,
      CallEvent.begun_append, List.filterMap_append]
    rfl
  rw [added]
  cases event with
  | callbackBegins =>
      simp only [SessionEvent.logs, SessionEvent.hands?]
      cases session.handlerStrand.head? with
      | none => rfl
      | some callback => cases callback <;> rfl
  | callbackReturns =>
      simp only [SessionEvent.logs, SessionEvent.hands?]
      cases session.running <;> rfl
  | erase =>
      simp only [SessionEvent.logs, SessionEvent.hands?]
      cases session.isOpen <;> rfl
  | _ => rfl

namespace BasicWsService

variable {Text Binary : Type} (service : BasicWsService Text Binary)

/-- The entry of `write_list_` for a value. -/
def entry (message : TypedMessage Text Binary) : WriteData :=
  ⟨message.isText, (service.toSharedConstBuffer message).toOption⟩

/-- The value has been converted, and comes back. -/
def Returns (message : TypedMessage Text Binary) : Prop :=
  ∃ bytes, service.toSharedConstBuffer message = .ok bytes ∧
    ∀ buffer : List (List UInt8), buffer.flatten = bytes →
      service.fromMultiBuffer message.isText buffer = .ok message

/-- The result is what the conversion of the message gives. -/
def Converts (message : Message)
    (result : Except Exception (TypedMessage Text Binary)) : Prop :=
  ∃ buffer : List (List UInt8), buffer.flatten = message.content ∧
    result = service.fromMultiBuffer message.isText buffer

/-- The log tells what the session was offered and what it handed over. -/
structure Logs (session : WsSession) (log : TypedLog Text Binary) :
    Prop where
  converted : List.Forall₂ service.Converts session.messages log.converted
  offered : session.offered.Sublist (log.sent.map service.entry)
  returns : ∀ message ∈ log.sent, service.Returns message

section

variable {service : BasicWsService Text Binary}
  {session next : WsSession} {log : TypedLog Text Binary}

theorem Logs.quiet (logs : service.Logs session log) {event : SessionEvent}
    (stepped : session.step event = some next)
    (hands : event.hands? session = none) (offers : event.offers? = none) :
    service.Logs next log := by
  have messages := WsSession.step_messages stepped
  have offered := WsSession.step_offered stepped
  rw [hands, Option.toList_none, List.append_nil] at messages
  rw [offers, Option.toList_none, List.append_nil] at offered
  exact ⟨messages ▸ logs.converted, offered.trans logs.offered, logs.returns⟩

theorem Logs.sent (logs : service.Logs session log)
    {message : TypedMessage Text Binary} {bytes : List UInt8}
    (converted : service.toSharedConstBuffer message = .ok bytes)
    (lossless : service.Lossless message)
    (stepped : session.step (.dispatch (.send message.isText bytes)) =
      some next) :
    service.Logs next { log with sent := log.sent ++ [message] } := by
  have messages := WsSession.step_messages stepped
  have offered := WsSession.step_offered stepped
  have entry : service.entry message = ⟨message.isText, some bytes⟩ := by
    rw [BasicWsService.entry, converted]
    rfl
  constructor
  · rw [messages]
    exact (List.append_nil session.messages).symm ▸ logs.converted
  · rw [List.map_append, List.map_singleton, entry]
    exact offered.trans (logs.offered.append_right _)
  · intro other isSent
    rcases List.mem_append.mp isSent with before | isThis
    · exact logs.returns other before
    · rw [List.mem_singleton.mp isThis]
      exact ⟨bytes, converted, fun _ => lossless.returns service converted⟩

theorem Logs.handed (logs : service.Logs session log) {message : Message}
    (hands : session.handlerStrand.head?.bind Callback.message? =
      some message) {buffer : List (List UInt8)}
    (splits : buffer.flatten = message.content)
    (stepped : session.step .callbackBegins = some next)
    (reported : List Exception) :
    service.Logs next { log with
      converted := log.converted ++
        [service.fromMultiBuffer message.isText buffer]
      reported := reported } := by
  have messages := WsSession.step_messages stepped
  have offered := WsSession.step_offered stepped
  rw [SessionEvent.hands?, hands] at messages
  constructor
  · rw [messages]
    apply List.rel_append logs.converted
    exact .cons ⟨buffer, splits, rfl⟩ .nil
  · exact offered.trans
      ((List.append_nil session.offered).symm ▸ logs.offered)
  · exact logs.returns

/-- Messages whose values come back are converted into these values. -/
theorem converted_eq {values : List (TypedMessage Text Binary)}
    {results : List (Except Exception (TypedMessage Text Binary))}
    (returns : ∀ value ∈ values, service.Returns value)
    (converts : List.Forall₂ service.Converts
      ((values.map service.entry).map WriteData.message) results) :
    results = values.map .ok := by
  induction values generalizing results with
  | nil =>
      cases converts
      rfl
  | cons value values induction =>
      cases converts with
      | cons first rest =>
          obtain ⟨buffer, splits, rfl⟩ := first
          obtain ⟨bytes, converted, back⟩ :=
            returns value List.mem_cons_self
          rw [List.map_cons, induction
            (fun other isOther =>
              returns other (List.mem_cons_of_mem _ isOther)) rest]
          refine congrArg (· :: _) (back buffer (splits.trans ?_))
          rw [WriteData.message, entry, converted]
          rfl

end

end BasicWsService

namespace TypedConnection

variable {Text Binary : Type} {service : BasicWsService Text Binary}
  {connection next : TypedConnection Text Binary}

/-- Each end has the log of its session. -/
structure Sound (service : BasicWsService Text Binary)
    (connection : TypedConnection Text Binary) : Prop where
  reached : connectionMachine.Reachable connection.ends
  logs : ∀ role, service.Logs (connection.ends role) (connection.logs role)

/-- One end has taken a step. -/
theorem Sound.moved (sound : connection.Sound service) {role : Role}
    {event : SessionEvent} {ends : Connection}
    {log : TypedLog Text Binary}
    (stepped : connection.ends.step (role, event) = some ends)
    (moves : ∀ session, (connection.ends role).step event = some session →
      service.Logs session log) :
    Sound service ⟨ends, Function.update connection.logs role log⟩ := by
  refine ⟨.step sound.reached trivial stepped, fun other => ?_⟩
  obtain ⟨-, session, sessionStepped, rfl⟩ :=
    Connection.step_eq_some stepped
  by_cases same : other = role
  · subst same
    simp only [Function.update_self]
    exact moves session sessionStepped
  · simp only [Function.update_of_ne same]
    exact sound.logs other

/-- One end has taken a step that its log does not tell. -/
theorem Sound.quiet (sound : connection.Sound service) {role : Role}
    {event : SessionEvent} {ends : Connection}
    (stepped : connection.ends.step (role, event) = some ends)
    (hands : event.hands? (connection.ends role) = none)
    (offers : event.offers? = none) :
    Sound service { connection with ends := ends } := by
  have moved := sound.moved stepped fun session sessionStepped =>
    (sound.logs role).quiet sessionStepped hands offers
  rwa [Function.update_eq_self] at moved

theorem Sound.step (sound : connection.Sound service)
    {event : Role × TypedEvent Text Binary}
    (lossless : SendsLossless service event)
    (stepped : connection.step service event = some next) :
    next.Sound service := by
  obtain ⟨role, event⟩ := event
  cases event with
  | send message =>
      simp only [TypedConnection.step] at stepped
      split at stepped
      · cases stepped
        exact sound
      · next bytes converted =>
          obtain ⟨ends, endsStepped, rfl⟩ := Option.map_eq_some_iff.mp stepped
          exact sound.moved endsStepped fun session sessionStepped =>
            (sound.logs role).sent converted lossless sessionStepped
  | callbackBegins buffer throws =>
      simp only [TypedConnection.step] at stepped
      split at stepped
      · next none_handed =>
          obtain ⟨ends, endsStepped, rfl⟩ := Option.map_eq_some_iff.mp stepped
          exact sound.quiet endsStepped none_handed rfl
      · next message handed =>
          obtain ⟨splits, stepped⟩ :=
            Option.ite_none_right_eq_some.mp stepped
          obtain ⟨ends, endsStepped, rfl⟩ := Option.map_eq_some_iff.mp stepped
          exact sound.moved endsStepped fun session sessionStepped =>
            (sound.logs role).handed handed splits sessionStepped _
  | other event =>
      simp only [TypedConnection.step] at stepped
      obtain ⟨isUntyped, stepped⟩ := Option.ite_none_right_eq_some.mp stepped
      obtain ⟨ends, endsStepped, rfl⟩ := Option.map_eq_some_iff.mp stepped
      cases event with
      | callbackBegins => cases isUntyped
      | dispatch job =>
          cases job with
          | send isText data => cases isUntyped
          | close reason => exact sound.quiet endsStepped rfl rfl
      | _ => exact sound.quiet endsStepped rfl rfl

theorem sound_of_reachable
    (reached : (typedMachine service).ReachableUnder
      (fun _ event => SendsLossless service event) connection) :
    connection.Sound service := by
  induction reached with
  | initial isInitial =>
      rw [isInitial]
      refine ⟨.initial rfl, fun role => ⟨?_, ?_, ?_⟩⟩
      · cases role <;> exact .nil
      · cases role <;> exact .slnil
      · exact fun _ isSent => absurd isSent List.not_mem_nil
  | step _ lossless stepped sound => exact sound.step lossless stepped

/-- Values that come back from their buffers are exchanged by the users of
both ends: the functions of the user at one end are called with values that
the user of the other end has sent, in the order in which they were sent,
with none of them twice and with the right one of the two functions.  There
is one call for each message that the session has handed over, and no
conversion fails. -/
theorem values_exchanged
    (reached : (typedMachine service).ReachableUnder
      (fun _ event => SendsLossless service event) connection)
    (reader : Role) :
    ∃ values : List (TypedMessage Text Binary),
      values.Sublist (connection.logs reader.peer).sent ∧
      (connection.logs reader).converted = values.map .ok ∧
      (connection.ends reader).messages =
        (values.map service.entry).map WriteData.message := by
  have sound := sound_of_reachable reached
  have sender := sound.logs reader.peer
  have handed := Connection.handed_of_reachable sound.reached reader
  have accepted : ((connection.ends reader.peer).history.accepted.map
      WriteData.message).Sublist
        (((connection.logs reader.peer).sent.map service.entry).map
          WriteData.message) :=
    ((List.sublist_append_left _ _).trans sender.offered).map _
  have received := handed.sublist.trans accepted
  rw [List.map_map] at received
  obtain ⟨values, isSent, isReceived⟩ := List.sublist_map_iff.mp received
  rw [← List.map_map] at isReceived
  refine ⟨values, isSent, ?_, isReceived⟩
  apply BasicWsService.converted_eq
  · exact fun value isValue => sender.returns value (isSent.subset isValue)
  · exact isReceived ▸ (sound.logs reader).converted

/-- Texts and binary messages of a `ws_service` always come back. -/
theorem wsService_lossless
    (event : Role × TypedEvent (List UInt8) (List UInt8)) :
    SendsLossless wsService event := by
  rcases event with ⟨role, message | ⟨buffer, throws⟩ | event⟩
  · cases message with
    | text data =>
        exact TriviallyCopyable.byte.messageType_lossless rfl data
    | binary data =>
        exact TriviallyCopyable.byte.messageType_lossless rfl data
  · trivial
  · trivial

/-- The user of the client sends a text, which arrives in two chunks. -/
def sendText : List (Role × TypedEvent (List UInt8) (List UInt8)) :=
  [(.client, .other .startReturns), (.server, .other .startReturns),
    (.server, .other (.acceptDone none)),
    (.server, .other (.release .ioThread)),
    (.client, .send (.text [104, 105])),
    (.client, .other (.runJob .caller)), (.client, .other (.release .caller)),
    (.server, .other (.readDone none [104, 105] true true)),
    (.server, .other (.release .ioThread)),
    (.server, .callbackBegins [] none), (.server, .other .callbackReturns),
    (.server, .callbackBegins [[104], [105]] none)]

theorem values_exchanged_text :
    ∃ connection, (typedMachine wsService).run
        ⟨WsSession.launched, fun _ => ⟨[], [], []⟩⟩ sendText =
          some connection ∧
      (connection.logs .server).converted = [.ok (.text [104, 105])] ∧
      ∃ values : List (TypedMessage (List UInt8) (List UInt8)),
        values.Sublist (connection.logs .client).sent ∧
        (connection.logs .server).converted = values.map .ok := by
  have ran : (typedMachine wsService).run
    ⟨WsSession.launched, fun _ => ⟨[], [], []⟩⟩ sendText = some _ := rfl
  have reached := Machine.reachableUnder_of_run rfl
    (Machine.admitted_of_forall fun event _ _ => wsService_lossless event) ran
  obtain ⟨values, isSent, converted, -⟩ := values_exchanged reached .server
  exact ⟨_, ran, rfl, values, isSent, converted⟩

end TypedConnection

end Webservice
