import Girasol.Foundation.Bytes
import Girasol.Foundation.Json
import Girasol.Foundation.Lossy
import Girasol.Send.QuicEndpoint

/-!
# Sends over stored QUIC connections

A bloXroute region and NextBlock each keep the connection of the last successful
send.  A closed connection answers every later stream with the reason for its
end, and that reason decides whether the sender opens a new one.
-/

namespace Girasol

open Foundation

/-! ## Errors -/

/-- `quinn::ConnectionError`. -/
inductive ConnectionError where
  | versionMismatch
  | transportError (error : String)
  | connectionClosed (frame : String)
  | applicationClosed (frame : String)
  | reset
  | timedOut
  | locallyClosed
  | cidsExhausted
  deriving DecidableEq, Repr

inductive QuicSendError where
  | invalidRegion (index : Nat)
  | invalidAddress (address error : String)
  | connectFailed (host error : String)
  | handshakeFailed (host error : String)
  | alpnMismatch (expected got host : String)
  | connectionLost
  | streamFailed (error : String)
  | writeFailed (error : String)
  | readFailed (error : String)
  | responseTooLarge (size : Nat)
  | serverError (error : String)
  | invalidResponse (response : String)
  deriving DecidableEq, Repr

/-- Whether an error says that the connection is gone. -/
def isConnectionError : ConnectionError → Bool
  | .timedOut | .connectionClosed _ | .reset | .transportError _ | .versionMismatch => true
  | .applicationClosed _ | .locallyClosed | .cidsExhausted => false

/-- What is taken from `serde_json` and from the error texts of `quinn`. -/
structure QuicCodec where
  parseJson : String → Option Json
  jsonText : Json → String
  closeText : ConnectionError → String

/-! ## Requests and responses -/

def base64Char (n : Nat) : Char := base64Alphabet.getD n 'A'

def encodeBase64Chars : List UInt8 → List Char
  | a :: b :: c :: rest =>
      base64Char (a.toNat / 4) :: base64Char (a.toNat % 4 * 16 + b.toNat / 16) ::
        base64Char (b.toNat % 16 * 4 + c.toNat / 64) :: base64Char (c.toNat % 64) ::
          encodeBase64Chars rest
  | [a, b] =>
      [base64Char (a.toNat / 4), base64Char (a.toNat % 4 * 16 + b.toNat / 16),
        base64Char (b.toNat % 16 * 4), '=']
  | [a] => [base64Char (a.toNat / 4), base64Char (a.toNat % 4 * 16), '=', '=']
  | [] => []

def encodeBase64 (bytes : List UInt8) : String := String.ofList (encodeBase64Chars bytes)

def bloxroutePayload (txBytes : List UInt8) : List UInt8 := utf8 (encodeBase64 txBytes)

def nextblockPayload (apiKey : String) (txBytes : List UInt8) : List UInt8 :=
  utf8 ("authorization: " ++ apiKey ++ "\n" ++ encodeBase64 txBytes)

def beBytes32 (n : Nat) : List UInt8 := (leBytes 4 n).reverse

def isValidBase58 (s : String) : Bool := !s.isEmpty && s.toList.all base58Alphabet.contains

def signatureOr (complaint : String) (sig : String) : Except QuicSendError String :=
  if isValidBase58 sig then .ok sig else .error (.invalidResponse (complaint ++ sig))

section

variable (codec : QuicCodec)

def parseJsonResponse (json : Json) : Option (Except QuicSendError String) :=
  match (json.get? "result").bind Json.asStr with
  | some sig => some (signatureOr "non-base58 signature in result: " sig)
  | none =>
      match (json.get? "signature").bind Json.asStr with
      | some sig => some (signatureOr "non-base58 signature: " sig)
      | none =>
          match ((json.get? "transaction").bind fun t => t.get? "content").bind Json.asStr with
          | some content => some (signatureOr "non-base58 transaction.content: " content)
          | none =>
              (json.get? "error").map fun error => .error (.serverError (codec.jsonText error))

def parseResponse (respBuf : List UInt8) : Except QuicSendError String :=
  let respStr := fromUtf8Lossy respBuf
  match (codec.parseJson respStr).bind (parseJsonResponse codec) with
  | some answer => answer
  | none =>
      let trimmed := trim respStr
      if 64 ≤ trimmed.utf8ByteSize ∧ trimmed.utf8ByteSize ≤ 96 ∧ isValidBase58 trimmed then
        .ok trimmed
      else .error (.invalidResponse respStr)

/-! ## Connections -/

structure Connection where
  closed : Option ConnectionError := none
  deriving DecidableEq, Repr

structure Exchange where
  writeLen : List UInt8 → Except String Unit
  writePayload : List UInt8 → Except String Unit
  finish : Except String Unit
  readLen : Except String (List UInt8)
  readBody : Nat → Except String (List UInt8)
  closes : Option ConnectionError

def exchange (payload : List UInt8) (ex : Exchange) : Except QuicSendError String := do
  (ex.writeLen (beBytes32 payload.length)).mapError .writeFailed
  (ex.writePayload payload).mapError .writeFailed
  ex.finish.mapError .writeFailed
  let respLen := leValue (← ex.readLen.mapError .readFailed).reverse
  if 1024 * 1024 < respLen then .error (.responseTooLarge respLen)
  else parseResponse codec (← (ex.readBody respLen).mapError .readFailed)

/-- `open_bi` on a closed connection gives the reason for its end. -/
def sendOnConnection (payload : List UInt8) (conn : Connection) (ex : Exchange) :
    Except QuicSendError String :=
  match conn.closed with
  | some e =>
      if isConnectionError e then .error .connectionLost
      else .error (.streamFailed (codec.closeText e))
  | none => exchange codec payload ex

def Connection.close (conn : Connection) (reason : ConnectionError) : Connection :=
  ⟨some (conn.closed.getD reason)⟩

def Connection.after (conn : Connection) (ex : Exchange) : Connection :=
  match ex.closes with
  | some reason => conn.close reason
  | none => conn

/-! ## A new connection -/

def bloxrouteAlpn : List UInt8 := utf8 "solana-trader-submit-v1"

def nextblockAlpn : List UInt8 := utf8 "nb-tx/1"

def verifyAlpn (negotiated : Option (List UInt8)) (expectedAlpn : List UInt8) (host : String) :
    Except QuicSendError Unit :=
  match negotiated with
  | some got =>
      if got = expectedAlpn then .ok ()
      else .error (.alpnMismatch (fromUtf8Lossy expectedAlpn) (fromUtf8Lossy got) host)
  | none => .error (.alpnMismatch (fromUtf8Lossy expectedAlpn) "(none)" host)

/-- What the attempt to connect meets; `handshake` gives the negotiated protocol. -/
structure Connecting where
  address : Except String Unit
  started : Except String Unit
  handshake : Except String (Option (List UInt8))

def connect (ep : QuicEndpointConfig) (alpn : List UInt8) (connecting : Connecting) :
    Except QuicSendError Connection := do
  connecting.address.mapError (.invalidAddress (ep.host ++ ":" ++ toString ep.port))
  connecting.started.mapError (.connectFailed ep.host)
  let negotiated ← connecting.handshake.mapError (.handshakeFailed ep.host)
  verifyAlpn negotiated alpn ep.host
  return {}

/-! ## Sending -/

structure QuicCall where
  txBytes : List UInt8
  onStored : Exchange
  connecting : Connecting
  onNew : Exchange

structure SendReport where
  result : Except QuicSendError String
  fromStored : Bool
  opens : Bool

def SendReport.failsOnStored (report : SendReport) : Bool :=
  report.fromStored && !report.result.isOk

structure QuicLink where
  endpoint : QuicEndpointConfig
  alpn : List UInt8
  payload : List UInt8 → List UInt8

def QuicLink.bloxroute (endpoint : QuicEndpointConfig) : QuicLink :=
  ⟨endpoint, bloxrouteAlpn, bloxroutePayload⟩

def QuicLink.nextblock (endpoint : QuicEndpointConfig) (apiKey : String) : QuicLink :=
  ⟨endpoint, nextblockAlpn, nextblockPayload apiKey⟩

namespace QuicLink

variable (link : QuicLink)

def sendOnNew (stored : Option Connection) (call : QuicCall) :
    SendReport × Option Connection :=
  match connect link.endpoint link.alpn call.connecting with
  | .error e => (⟨.error e, false, false⟩, stored)
  | .ok conn =>
      match sendOnConnection codec (link.payload call.txBytes) conn call.onNew with
      | .error e => (⟨.error e, false, true⟩, stored)
      | .ok sig => (⟨.ok sig, false, true⟩, some (conn.after call.onNew))

def sendTx (stored : Option Connection) (call : QuicCall) : SendReport × Option Connection :=
  match stored with
  | none => link.sendOnNew codec none call
  | some conn =>
      match sendOnConnection codec (link.payload call.txBytes) conn call.onStored with
      | .ok sig => (⟨.ok sig, true, false⟩, some (conn.after call.onStored))
      | .error .connectionLost => link.sendOnNew codec (some (conn.after call.onStored)) call
      | .error e => (⟨.error e, true, false⟩, some (conn.after call.onStored))

end QuicLink

structure NextBlockQuicSender where
  endpoint : QuicEndpointConfig
  apiKey : String
  connection : Option Connection

def NextBlockQuicSender.new (endpoint apiKey : String) : NextBlockQuicSender :=
  ⟨.ofEndpoint endpoint, apiKey, none⟩

def NextBlockQuicSender.sendTx (sender : NextBlockQuicSender) (call : QuicCall) :
    SendReport × NextBlockQuicSender :=
  let (report, connection) :=
    (QuicLink.nextblock sender.endpoint sender.apiKey).sendTx codec sender.connection call
  (report, { sender with connection := connection })

structure BloxrouteQuicSender where
  endpoints : List QuicEndpointConfig
  connections : List (Option Connection)
  length_eq : connections.length = endpoints.length

def BloxrouteQuicSender.new (endpoints : List String) : BloxrouteQuicSender where
  endpoints := endpoints.map .ofEndpoint
  connections := List.replicate endpoints.length none
  length_eq := by rw [List.length_replicate, List.length_map]

def BloxrouteQuicSender.store (sender : BloxrouteQuicSender) (regionIdx : Nat)
    (connection : Option Connection) : BloxrouteQuicSender where
  endpoints := sender.endpoints
  connections := sender.connections.set regionIdx connection
  length_eq := by rw [List.length_set, sender.length_eq]

def BloxrouteQuicSender.sendTx (sender : BloxrouteQuicSender) (regionIdx : Nat) (call : QuicCall) :
    SendReport × BloxrouteQuicSender :=
  match sender.endpoints[regionIdx]? with
  | none => (⟨.error (.invalidRegion regionIdx), false, false⟩, sender)
  | some ep =>
      let (report, connection) :=
        (QuicLink.bloxroute ep).sendTx codec (sender.connections.getD regionIdx none) call
      (report, sender.store regionIdx connection)

/-! ## Runs -/

inductive QuicEvent where
  | close (reason : ConnectionError)
  | send (call : QuicCall)

def QuicEvent.isSend : QuicEvent → Bool
  | .close _ => false
  | .send _ => true

def QuicLink.reports (link : QuicLink) : Option Connection → List QuicEvent → List SendReport
  | _, [] => []
  | stored, .close reason :: rest =>
      link.reports (stored.map fun conn => conn.close reason) rest
  | stored, .send call :: rest =>
      let sent := link.sendTx codec stored call
      sent.1 :: link.reports sent.2 rest

def NextBlockQuicSender.reports : NextBlockQuicSender → List QuicEvent → List SendReport
  | _, [] => []
  | sender, .close reason :: rest =>
      reports { sender with connection := sender.connection.map fun conn => conn.close reason } rest
  | sender, .send call :: rest =>
      let sent := sender.sendTx codec call
      sent.1 :: reports sent.2 rest

/-- The sends to a region, in a run with events in every region. -/
def BloxrouteQuicSender.reports (regionIdx : Nat) :
    BloxrouteQuicSender → List (Nat × QuicEvent) → List SendReport
  | _, [] => []
  | sender, (idx, .close reason) :: rest =>
      reports regionIdx (sender.store idx
        ((sender.connections.getD idx none).map fun conn => conn.close reason)) rest
  | sender, (idx, .send call) :: rest =>
      let sent := sender.sendTx codec idx call
      if idx = regionIdx then sent.1 :: reports regionIdx sent.2 rest
      else reports regionIdx sent.2 rest

/-- Before a new connection opens, at most one send fails on the stored one. -/
def AtMostOneFails (reports : List SendReport) : Prop :=
  (reports.takeWhile fun report => !report.opens).countP SendReport.failsOnStored ≤ 1

/-- How the stored connection closes: between two sends or during one. -/
inductive Closing where
  | idle
  | during (call : QuicCall)

def Closing.event (reason : ConnectionError) : Closing → QuicEvent
  | .idle => .close reason
  | .during call => .send { call with onStored := { call.onStored with closes := some reason } }

def Closing.failures (link : QuicLink) : Closing → Nat
  | .idle => 0
  | .during call =>
      if (exchange codec (link.payload call.txBytes) call.onStored).isOk then 0 else 1

end

/-! ## A closed connection -/

section

variable {codec : QuicCodec} {link : QuicLink} {reason : ConnectionError}

private theorem parseJsonResponse_ne_connectionLost (json : Json) :
    parseJsonResponse codec json ≠ some (.error .connectionLost) := by
  have hsignature (complaint sig : String) :
      signatureOr complaint sig ≠ .error .connectionLost := by
    unfold signatureOr
    split <;> simp
  unfold parseJsonResponse
  split
  · simpa using hsignature _ _
  · split
    · simpa using hsignature _ _
    · split
      · simpa using hsignature _ _
      · simp

private theorem parseResponse_ne_connectionLost (respBuf : List UInt8) :
    parseResponse codec respBuf ≠ .error .connectionLost := by
  unfold parseResponse
  dsimp only
  split
  case h_1 answer hanswer =>
    rintro rfl
    obtain ⟨json, -, hjson⟩ := Option.bind_eq_some_iff.mp hanswer
    exact parseJsonResponse_ne_connectionLost json hjson
  case h_2 => split <;> simp

theorem exchange_ne_connectionLost (payload : List UInt8) (ex : Exchange) :
    exchange codec payload ex ≠ .error .connectionLost := by
  unfold exchange
  cases ex.writeLen (beBytes32 payload.length) with
  | error e => simp [bind, Except.bind, Except.mapError]
  | ok u =>
      cases ex.writePayload payload with
      | error e => simp [bind, Except.bind, Except.mapError]
      | ok u =>
          cases ex.finish with
          | error e => simp [bind, Except.bind, Except.mapError]
          | ok u =>
              cases ex.readLen with
              | error e => simp [bind, Except.bind, Except.mapError]
              | ok bytes =>
                  simp only [Except.mapError, bind, Except.bind]
                  split
                  case isTrue => simp
                  case isFalse =>
                    cases ex.readBody (leValue bytes.reverse) with
                    | error e => simp
                    | ok respBuf => exact parseResponse_ne_connectionLost respBuf

@[simp] theorem Connection.after_closed (ex : Exchange) :
    (Connection.mk (some reason)).after ex = ⟨some reason⟩ := by
  unfold Connection.after
  split <;> rfl

private theorem sendTx_lost (hlost : isConnectionError reason = true) (call : QuicCall) :
    link.sendTx codec (some ⟨some reason⟩) call =
      link.sendOnNew codec (some ⟨some reason⟩) call := by
  simp only [QuicLink.sendTx, sendOnConnection, hlost, if_true, Connection.after_closed]

private theorem sendTx_kept (hkept : isConnectionError reason = false) (call : QuicCall) :
    link.sendTx codec (some ⟨some reason⟩) call =
      (⟨.error (.streamFailed (codec.closeText reason)), true, false⟩, some ⟨some reason⟩) := by
  simp only [QuicLink.sendTx, sendOnConnection, hkept, Bool.false_eq_true, if_false,
    Connection.after_closed]

private theorem failures_closed (events : List QuicEvent) :
    ((link.reports codec (some ⟨some reason⟩) events).takeWhile fun report =>
        !report.opens).countP SendReport.failsOnStored =
      if isConnectionError reason then 0 else events.countP QuicEvent.isSend := by
  induction events with
  | nil => simp [QuicLink.reports]
  | cons event rest ih =>
      cases event with
      | close later =>
          have hsame : Option.map (fun conn : Connection => conn.close later)
              (some ⟨some reason⟩) = some ⟨some reason⟩ := rfl
          rw [QuicLink.reports, hsame, ih]
          simp [QuicEvent.isSend]
      | send call =>
          rw [QuicLink.reports]
          cases hreason : isConnectionError reason with
          | true =>
              rw [hreason, if_pos rfl] at ih
              rw [sendTx_lost hreason, if_pos rfl]
              unfold QuicLink.sendOnNew
              split
              case h_1 => simpa [SendReport.failsOnStored] using ih
              case h_2 => split <;> simp
          | false =>
              rw [hreason, if_neg Bool.false_ne_true] at ih
              rw [sendTx_kept hreason, if_neg Bool.false_ne_true]
              simp only [Bool.not_false, List.takeWhile_cons, if_true, List.countP_cons, ih]
              simp [SendReport.failsOnStored, QuicEvent.isSend, Except.isOk, Except.toBool]

private theorem sendTx_open (call : QuicCall) :
    link.sendTx codec (some {}) call =
      (⟨exchange codec (link.payload call.txBytes) call.onStored, true, false⟩,
        some (({} : Connection).after call.onStored)) := by
  have hsent : sendOnConnection codec (link.payload call.txBytes) {} call.onStored =
      exchange codec (link.payload call.txBytes) call.onStored := rfl
  unfold QuicLink.sendTx
  dsimp only
  rw [hsent]
  cases hresult : exchange codec (link.payload call.txBytes) call.onStored with
  | ok sig => rfl
  | error e =>
      cases e with
      | connectionLost => exact absurd hresult (exchange_ne_connectionLost _ _)
      | _ => rfl

private theorem failures_closing (closing : Closing) (later : List QuicEvent) :
    ((link.reports codec (some {}) (closing.event reason :: later)).takeWhile fun report =>
        !report.opens).countP SendReport.failsOnStored =
      closing.failures codec link +
        if isConnectionError reason then 0 else later.countP QuicEvent.isSend := by
  cases closing with
  | idle =>
      have hclosed : Option.map (fun conn : Connection => conn.close reason) (some {}) =
          some ⟨some reason⟩ := rfl
      rw [Closing.event, QuicLink.reports, hclosed, failures_closed, Closing.failures, Nat.zero_add]
  | during call =>
      have hsame : exchange codec (link.payload call.txBytes)
          { call.onStored with closes := some reason } =
            exchange codec (link.payload call.txBytes) call.onStored := rfl
      have hafter : ({} : Connection).after { call.onStored with closes := some reason } =
          ⟨some reason⟩ := rfl
      rw [Closing.event, QuicLink.reports, sendTx_open, List.takeWhile_cons_of_pos rfl,
        List.countP_cons]
      dsimp only
      rw [hafter, failures_closed, hsame, Closing.failures, Nat.add_comm]
      simp only [SendReport.failsOnStored, Bool.true_and, Bool.not_eq_true']
      cases (exchange codec (link.payload call.txBytes) call.onStored).isOk <;> simp

theorem Closing.failures_le_one (closing : Closing) : closing.failures codec link ≤ 1 := by
  cases closing with
  | idle => exact Nat.zero_le 1
  | during call =>
      rw [Closing.failures]
      split <;> omega

theorem atMostOneFails_iff (closing : Closing) (later : List QuicEvent) :
    AtMostOneFails (link.reports codec (some {}) (closing.event reason :: later)) ↔
      isConnectionError reason = true ∨
        closing.failures codec link + later.countP QuicEvent.isSend ≤ 1 := by
  rw [AtMostOneFails, failures_closing]
  cases isConnectionError reason with
  | true => simp [Closing.failures_le_one closing]
  | false => simp

end

/-! ## The two senders -/

section

variable (codec : QuicCodec)

theorem nextblock_reports (sender : NextBlockQuicSender) (events : List QuicEvent) :
    sender.reports codec events =
      (QuicLink.nextblock sender.endpoint sender.apiKey).reports codec sender.connection
        events := by
  induction events generalizing sender with
  | nil => rfl
  | cons event rest ih =>
      cases event with
      | close reason => rw [NextBlockQuicSender.reports, QuicLink.reports, ih]
      | send call =>
          rw [NextBlockQuicSender.reports, QuicLink.reports, ih]
          rfl

def eventsIn (regionIdx : Nat) (events : List (Nat × QuicEvent)) : List QuicEvent :=
  (events.filter fun event => event.1 == regionIdx).map Prod.snd

private theorem store_connection_same {sender : BloxrouteQuicSender} {regionIdx : Nat}
    (hidx : regionIdx < sender.endpoints.length) (connection : Option Connection) :
    (sender.store regionIdx connection).connections.getD regionIdx none = connection := by
  rw [← sender.length_eq] at hidx
  simp [BloxrouteQuicSender.store, List.getD_eq_getElem?_getD, hidx]

private theorem store_connection_other {sender : BloxrouteQuicSender} {idx regionIdx : Nat}
    (hne : idx ≠ regionIdx) (connection : Option Connection) :
    (sender.store idx connection).connections.getD regionIdx none =
      sender.connections.getD regionIdx none := by
  simp [BloxrouteQuicSender.store, List.getD_eq_getElem?_getD, List.getElem?_set_ne hne]

private theorem bloxroute_reports (sender : BloxrouteQuicSender) {regionIdx : Nat}
    {ep : QuicEndpointConfig} (hep : sender.endpoints[regionIdx]? = some ep)
    (events : List (Nat × QuicEvent)) :
    sender.reports codec regionIdx events =
      (QuicLink.bloxroute ep).reports codec (sender.connections.getD regionIdx none)
        (eventsIn regionIdx events) := by
  have hidx : regionIdx < sender.endpoints.length := (List.getElem?_eq_some_iff.mp hep).1
  induction events generalizing sender with
  | nil => rfl
  | cons event rest ih =>
      obtain ⟨idx, event⟩ := event
      by_cases hregion : idx = regionIdx
      · subst hregion
        have hhere : eventsIn idx ((idx, event) :: rest) = event :: eventsIn idx rest := by
          simp [eventsIn]
        have hstored (connection : Option Connection) :
            (sender.store idx connection).reports codec idx rest =
              (QuicLink.bloxroute ep).reports codec connection (eventsIn idx rest) := by
          rw [ih (sender.store idx connection) hep hidx, store_connection_same hidx]
        rw [hhere]
        cases event with
        | close reason => rw [BloxrouteQuicSender.reports, QuicLink.reports, hstored]
        | send call =>
            rw [BloxrouteQuicSender.reports, if_pos rfl, QuicLink.reports]
            simp only [BloxrouteQuicSender.sendTx, hep, hstored]
      · have helsewhere : eventsIn regionIdx ((idx, event) :: rest) = eventsIn regionIdx rest := by
          simp [eventsIn, hregion]
        have hstored (connection : Option Connection) :
            (sender.store idx connection).reports codec regionIdx rest =
              (QuicLink.bloxroute ep).reports codec (sender.connections.getD regionIdx none)
                (eventsIn regionIdx rest) := by
          rw [ih (sender.store idx connection) hep hidx, store_connection_other hregion]
        rw [helsewhere]
        cases event with
        | close reason => rw [BloxrouteQuicSender.reports, hstored]
        | send call =>
            rw [BloxrouteQuicSender.reports, if_neg hregion]
            unfold BloxrouteQuicSender.sendTx
            cases sender.endpoints[idx]? with
            | none => exact ih sender hep hidx
            | some other => exact hstored _

end

/--
After the stored connection closes, at most one send fails on it before a new
one opens exactly if the reason counts as a loss, or at most one send is made on
it from its close on.
-/
theorem closed_connection_failures_iff (codec : QuicCodec) (reason : ConnectionError)
    (closing : Closing) :
    (∀ (sender : NextBlockQuicSender) (later : List QuicEvent), sender.connection = some {} →
      (AtMostOneFails (sender.reports codec (closing.event reason :: later)) ↔
        isConnectionError reason = true ∨
          closing.failures codec (.nextblock sender.endpoint sender.apiKey) +
            later.countP QuicEvent.isSend ≤ 1)) ∧
    (∀ (sender : BloxrouteQuicSender) (regionIdx : Nat) (ep : QuicEndpointConfig)
      (later : List (Nat × QuicEvent)), sender.endpoints[regionIdx]? = some ep →
      sender.connections.getD regionIdx none = some {} →
      (AtMostOneFails
          (sender.reports codec regionIdx ((regionIdx, closing.event reason) :: later)) ↔
        isConnectionError reason = true ∨
          closing.failures codec (.bloxroute ep) +
            (eventsIn regionIdx later).countP QuicEvent.isSend ≤ 1)) := by
  constructor
  · intro sender later hopen
    rw [nextblock_reports, hopen, atMostOneFails_iff]
  · intro sender regionIdx ep later hep hopen
    have hhere : eventsIn regionIdx ((regionIdx, closing.event reason) :: later) =
        closing.event reason :: eventsIn regionIdx later := by
      simp [eventsIn]
    rw [bloxroute_reports codec sender hep, hopen, hhere, atMostOneFails_iff]

/-! ## A connection that the peer closes -/

def QuicCodec.plain : QuicCodec where
  parseJson := fun _ => none
  jsonText := fun _ => ""
  closeText := fun _ => "closed by peer: 0"

def plainSignature : String :=
  "5VERv8NMvzbJMEkV8xnrLkEaWRtSz9CosKDYjCJjBRnbJLgp8uirBgmQpjKhoR4tjF3ZpRzrFmBV6UjKdiSZkQUW"

def Exchange.answered : Exchange where
  writeLen := fun _ => .ok ()
  writePayload := fun _ => .ok ()
  finish := .ok ()
  readLen := .ok (beBytes32 88)
  readBody := fun _ => .ok (utf8 plainSignature)
  closes := none

def QuicCall.answered : QuicCall where
  txBytes := [1, 2, 3]
  onStored := .answered
  connecting := ⟨.ok (), .ok (), .ok (some nextblockAlpn)⟩
  onNew := .answered

def BloxrouteQuicSender.connected : BloxrouteQuicSender where
  endpoints := [⟨"ny.bloxroute.io", 443⟩]
  connections := [some {}]
  length_eq := rfl

theorem closed_connection_failures_iff_bloxroute :
    AtMostOneFails (BloxrouteQuicSender.connected.reports .plain 0
        [(0, .send { QuicCall.answered with
          onStored := { Exchange.answered with closes := some (.applicationClosed "0") } }),
        (0, .send .answered)]) ↔
      isConnectionError (.applicationClosed "0") = true ∨
        (Closing.during .answered).failures .plain (.bloxroute ⟨"ny.bloxroute.io", 443⟩) + 1 ≤ 1 :=
  (closed_connection_failures_iff .plain (.applicationClosed "0") (.during .answered)).2
    .connected 0 ⟨"ny.bloxroute.io", 443⟩ [(0, .send .answered)] rfl rfl

theorem application_close_pins_connection :
    ((NextBlockQuicSender.new "mainnet.quic.nextblock.io" "key").sendTx .plain
        .answered).2.connection = some {} ∧
      ¬AtMostOneFails ((((NextBlockQuicSender.new "mainnet.quic.nextblock.io" "key").sendTx
        .plain .answered).2).reports .plain
          [.close (.applicationClosed "0"), .send .answered, .send .answered]) := by
  unfold AtMostOneFails
  decide +kernel

end Girasol
