import FreeMqtt.Core.Connect

/-!
# The functions of `core_mqtt.h`

The initialization of a context, and the public functions as calls of one type, so that a
run of an application is a list of calls.
-/

namespace FreeMqtt

/-! ## Initialization -/

/-- `TransportInterface_t`: which of its functions are set. -/
structure TransportInterface where
  recv : Bool
  send : Bool
  writev : Bool
  deriving DecidableEq, Repr

/-- The context after the `memset` of `MQTT_Init`. -/
def Context.zero : Context where
  outgoingPublishRecords := []
  incomingPublishRecords := []
  networkBuffer := []
  index := 0
  nextPacketId := 0
  connectStatus := .notConnected
  lastPacketTxTime := 0
  lastPacketRxTime := 0
  controlPacketSent := false
  keepAliveIntervalSec := 0
  pingReqSendTimeMs := 0
  waitingForPingResp := false
  writev := false
  storeFunction := false
  retrieveFunction := false
  clearFunction := false

/-- `MQTT_Init`; the flags say which function arguments are not `NULL`. -/
def mqttInit (s : Sys) (pTransportInterface : Option TransportInterface)
    (getTimeFunction userCallback : Bool) (pNetworkBuffer : Option (List UInt8)) : Status × Sys :=
  match pTransportInterface, pNetworkBuffer with
  | some transport, some buffer =>
      if getTimeFunction = false then (.badParameter, s)
      else if userCallback = false then (.badParameter, s)
      else if transport.recv = false then (.badParameter, s)
      else if transport.send = false then (.badParameter, s)
      else
        (.success, { s with
          toContext := { Context.zero with
            connectStatus := .notConnected
            writev := transport.writev
            networkBuffer := buffer
            nextPacketId := 1 } })
  | _, _ => (.badParameter, s)

/-- `MQTT_InitStatefulQoS` on an initialized context. -/
def mqttInitStatefulQoS (s : Sys) (pOutgoingPublishRecords : Option (List PubAckInfo))
    (outgoingPublishCount : Nat) (pIncomingPublishRecords : Option (List PubAckInfo))
    (incomingPublishCount : Nat) : Status × Sys :=
  if decide (outgoingPublishCount = 0) ≠ pOutgoingPublishRecords.isNone then (.badParameter, s)
  else if decide (incomingPublishCount = 0) ≠ pIncomingPublishRecords.isNone then
    (.badParameter, s)
  else
    (.success, { s with
      incomingPublishRecords := (pIncomingPublishRecords.getD []).take incomingPublishCount
      outgoingPublishRecords := (pOutgoingPublishRecords.getD []).take outgoingPublishCount })

/-- `MQTT_InitRetransmits`. -/
def mqttInitRetransmits (s : Sys) (storeFunction retrieveFunction clearFunction : Bool) :
    Status × Sys :=
  if storeFunction = false then (.badParameter, s)
  else if retrieveFunction = false then (.badParameter, s)
  else if clearFunction = false then (.badParameter, s)
  else (.success, { s with storeFunction, retrieveFunction, clearFunction })

/-! ## Calls -/

/-- A call of a public function other than `MQTT_Connect`. -/
inductive ApiCall
  | init (pTransportInterface : Option TransportInterface) (getTimeFunction userCallback : Bool)
      (pNetworkBuffer : Option (List UInt8))
  | initStatefulQoS (pOutgoingPublishRecords : Option (List PubAckInfo))
      (outgoingPublishCount : Nat) (pIncomingPublishRecords : Option (List PubAckInfo))
      (incomingPublishCount : Nat)
  | initRetransmits (storeFunction retrieveFunction clearFunction : Bool)
  | request (call : SendCall)
  | processLoop
  | receiveLoop
  | checkConnectStatus

def ApiCall.run (c : Config) (s : Sys) : ApiCall → Sys
  | .init pTransportInterface getTimeFunction userCallback pNetworkBuffer =>
      (mqttInit s pTransportInterface getTimeFunction userCallback pNetworkBuffer).2
  | .initStatefulQoS pOutgoingPublishRecords outgoingPublishCount pIncomingPublishRecords
      incomingPublishCount =>
      (mqttInitStatefulQoS s pOutgoingPublishRecords outgoingPublishCount
        pIncomingPublishRecords incomingPublishCount).2
  | .initRetransmits storeFunction retrieveFunction clearFunction =>
      (mqttInitRetransmits s storeFunction retrieveFunction clearFunction).2
  | .request call => call.run c s
  | .processLoop => (mqttProcessLoop c s).2
  | .receiveLoop => (mqttReceiveLoop c s).2
  | .checkConnectStatus => s

/-- The context after a sequence of calls. -/
def runApi (c : Config) (s : Sys) (calls : List ApiCall) : Sys := calls.foldl (ApiCall.run c) s

/-! ## A context to start from -/

/-- An environment whose clock stands still, and whose transport accepts all that is sent and
delivers `inbound`. -/
def World.still (inbound : List UInt8) : World where
  clock _ := 0
  ticks := 0
  sends := []
  recvs := []
  inbound
  callbacks := []
  store _ := none
  storeResults := []
  retrieveResults := []
  wire := []
  log := []

/-- A context initialized with a buffer and with record arrays of `count` slots. -/
def Sys.initialized (world : World) (bufferSize count : Nat) : Sys :=
  { Context.zero with
    outgoingPublishRecords := List.replicate count .zero
    incomingPublishRecords := List.replicate count .zero
    networkBuffer := List.replicate bufferSize 0
    nextPacketId := 1
    toWorld := world }

/-- `Sys.initialized` is what the functions of the library return. -/
theorem initialized_eq (c : Config) (world : World) (bufferSize count : Nat) (h : count ≠ 0) :
    let records := some (List.replicate count PubAckInfo.zero)
    runApi c { Context.zero with toWorld := world }
      [.init (some ⟨true, true, false⟩) true true (some (List.replicate bufferSize 0)),
        .initStatefulQoS records count records count] = Sys.initialized world bufferSize count := by
  simp [runApi, ApiCall.run, mqttInit, mqttInitStatefulQoS, h, Sys.initialized, Context.zero]

end FreeMqtt
