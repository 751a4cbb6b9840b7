import NxReverse.Lib.Custody
import NxReverse.Toolbox.BsdSystemUdp
import NxReverse.Toolbox.HttpResponse

/-! The scenarios over plain sockets as programs over the calls that they make. Log lines are left out; a failed call
answers with its `errno`, and `errno` that is read later is a call of its own. -/
namespace NxReverse.Toolbox.Scenarios

open Text Words Program BsdSystemUdp

/-- A result of which `R_FAILED` holds. -/
abbrev Failure := {rc : UInt32 // rc ≠ 0}

/-- What the platform supplies. `formatTiming` prints the elapsed ticks, their frequency and the bytes with floating
point. -/
structure ScenarioApi extends SocketApi where
  gaiStrerror : Int → CString
  epipe : Int
  enoent : Int
  sizeofSockaddrStorage : Nat
  formatTiming : UInt64 → UInt64 → Nat → CString

structure ScenarioConfig where
  dnsHostname : CString
  tcpHost : CString
  tcpPort : UInt16
  tcpPayload : CString
  httpHost : CString
  httpPort : UInt16
  httpPath : CString
  httpsHost : CString
  httpsPort : UInt16
  httpsPath : CString
  connectionTestGlobalIpUri : CString
  connectionTestDownloadHost : CString
  connectionTestUploadHost : CString
  connectionTestPort : UInt16
  connectionTestUpload1MBytes : Nat
  connectionTestTransfer30MBytes : Nat
  connectionTestTimeoutMs : UInt32
  udpHost : CString
  udpPort : UInt16
  udpPayload : CString
  socketTimeoutMs : UInt32
  idleSocketHoldMs : UInt32
  concurrentSocketHoldMs : UInt32
  concurrentSocketCount : Nat
  readBufferSize : Nat
  enableUdpSendToOnlyTimeouts : Bool
  enableUdpEchoSocketTimeouts : Bool
  enableUdpEchoPoll : Bool
  deriving DecidableEq, Repr

def ScenarioConfig.compiled : ScenarioConfig where
  dnsHostname := "example.com".toList
  tcpHost := "example.com".toList
  tcpPort := 80
  tcpPayload := "nxrv-toolbox-tcp".toList
  httpHost := "example.com".toList
  httpPort := 80
  httpPath := "/".toList
  httpsHost := "example.com".toList
  httpsPort := 443
  httpsPath := "/".toList
  connectionTestGlobalIpUri := "https://api.hac.lp1.ctest.srv.nintendo.net/v1/ip".toList
  connectionTestDownloadHost := "ctest-dl-lp1.cdn.nintendo.net".toList
  connectionTestUploadHost := "ctest-ul-lp1.cdn.nintendo.net".toList
  connectionTestPort := 80
  connectionTestUpload1MBytes := 1 <<< 20
  connectionTestTransfer30MBytes := 30 <<< 20
  connectionTestTimeoutMs := 60000
  udpHost := []
  udpPort := 0
  udpPayload := "nxrv-toolbox-udp".toList
  socketTimeoutMs := 5000
  idleSocketHoldMs := 1500
  concurrentSocketHoldMs := 1000
  concurrentSocketCount := 3
  readBufferSize := 1024
  enableUdpSendToOnlyTimeouts := false
  enableUdpEchoSocketTimeouts := false
  enableUdpEchoPoll := true

inductive SocketType where
  | stream | dgram
  deriving DecidableEq, Repr

inductive SocketOption where
  | reuseAddr
  | recvTimeout (seconds microseconds : UInt32)
  | sendTimeout (seconds microseconds : UInt32)
  deriving DecidableEq, Repr

structure AddrInfo where
  family : Nat
  length : Nat
  address : Bytes
  deriving DecidableEq, Repr

structure ReceivedStream where
  chunks : List CString
  recvEnd : RecvEnd
  deriving DecidableEq, Repr

abbrev SslObject := UInt32

inductive SslVerifyOption where
  | peerCa | hostName | dateCheck
  deriving DecidableEq, Repr

def sslVerifyErrorCapacity : Nat := 8

structure VerifyErrors where
  rc : UInt32
  reported : UInt32
  copied : UInt32
  errors : List UInt32
  capacity : errors.length = sslVerifyErrorCapacity
  deriving DecidableEq, Repr

structure CipherInfo where
  protocolVersion : CString
  cipher : CString
  deriving DecidableEq, Repr

/-- A transfer that libcurl has performed, with the data of each call of the write callback. -/
structure CurlTransfer where
  effectiveUrl : Option CString
  responseCode : Int
  primaryIp : Option CString
  writes : List Bytes
  deriving DecidableEq, Repr

inductive NetCommand where
  | socketInitialize
  | socketExit
  | getaddrinfo (host : CString) (port : Option UInt16) (socktype : SocketType)
  | results
  | freeaddrinfo
  | socket (socktype : SocketType)
  | setsockopt (descriptor : Nat) (option : SocketOption)
  | connect (descriptor : Nat) (endpoint : AddrInfo)
  | send (descriptor : Nat) (data : Bytes)
  | sendto (descriptor : Nat) (data : Bytes) (endpoint : AddrInfo)
  | recv (descriptor : Nat) (size : Nat)
  | recvAll (descriptor : Nat) (size : Nat)
  | recvfrom (descriptor : Nat) (size : Nat)
  | poll (descriptor : Nat) (timeoutMs : UInt32)
  | close (descriptor : Nat)
  | errno
  | sleepMilliseconds (duration : UInt32)
  | systemTick
  | systemTickFrequency
  | randomGet (size : Nat)
  | sslInitialize
  | sslExit
  | sslCreateContext
  | sslContextCreateConnection (context : SslObject)
  | sslSetSocketDescriptor (connection : SslObject) (descriptor : Nat)
  | sslSetHostName (connection : SslObject) (host : CString)
  | sslSetVerifyOption (connection : SslObject) (options : List SslVerifyOption)
  | sslSetIoModeBlocking (connection : SslObject)
  | sslDoHandshake (connection : SslObject)
  | sslGetVerifyCertErrors (connection : SslObject)
  | sslGetVerifyCertError (connection : SslObject)
  | sslWrite (connection : SslObject) (data : Bytes)
  | sslRead (connection : SslObject) (size : Nat)
  | sslGetCipherInfo (connection : SslObject)
  | sslConnectionClose (connection : SslObject)
  | sslContextClose (context : SslObject)
  | curlEasyInit
  | curlEasyPerform (curl : UInt32) (url : CString) (allowInsecureTls : Bool)
  | curlEasyCleanup (curl : UInt32)
  deriving DecidableEq, Repr

/-- `send` and `recv` transfer no more than they were asked to. `results` walks the list that `getaddrinfo` leaves.
libcurl tells a failed transfer by its text. -/
abbrev NetCommand.Answer : NetCommand → Type
  | socketInitialize | sslInitialize => Except Failure Unit
  | getaddrinfo _ _ _ => Except Int Unit
  | results => List AddrInfo
  | socket _ => Except Int Nat
  | setsockopt _ _ | connect _ _ => Except Int Unit
  | send _ data | sendto _ data _ => Except Int (Fin (data.length + 1))
  | recv _ size => Except Int {segment : Bytes // segment.length ≤ size}
  | recvAll _ _ => ReceivedStream
  | recvfrom _ _ => Except Int ReceivedDatagram
  | poll _ _ => PollAnswer
  | errno => Int
  | systemTick | systemTickFrequency => UInt64
  | randomGet size => {data : Bytes // data.length = size}
  | socketExit | freeaddrinfo | close _ | sleepMilliseconds _ | sslExit | sslConnectionClose _
  | sslContextClose _ | curlEasyCleanup _ => Unit
  | sslCreateContext | sslContextCreateConnection _ => Except Failure SslObject
  | sslSetSocketDescriptor _ _ => Except Int Nat
  | sslSetHostName _ _ | sslSetVerifyOption _ _ | sslSetIoModeBlocking _ | sslDoHandshake _ => Except Failure Unit
  | sslGetVerifyCertErrors _ => VerifyErrors
  | sslGetVerifyCertError _ => UInt32
  | sslWrite _ _ => Except Failure UInt32
  | sslRead _ size => Except Failure {segment : Bytes // segment.length ≤ size}
  | sslGetCipherInfo _ => Except Failure CipherInfo
  | curlEasyInit => Option UInt32
  | curlEasyPerform _ _ _ => Except CString CurlTransfer

abbrev NetProgram := Program NetCommand.Answer

abbrev NetExchange := Exchange NetCommand.Answer

abbrev call (command : NetCommand) : NetProgram command.Answer := perform command

def startOf (name : CString) : SocketResult := ⟨.failure name 0 [],0⟩

def bytesOf (text : CString) : Bytes := text.map fun c => c.toNat.toUInt8

def textOf (bytes : Bytes) : CString := bytes.map fun byte => Char.ofNat byte.toNat

structure ResolvedEndpoint where
  address : AddrInfo
  ip : CString
  deriving DecidableEq, Repr

structure ConnectedTcpSocket where
  descriptor : Nat
  ip : CString
  deriving DecidableEq, Repr

section Calls

variable (api : ScenarioApi) (config : ScenarioConfig)

def ipText (address : AddrInfo) : CString := (api.inetNtop address.address).getD "unknown".toList

/-- The first address that fits, or the text of the failure. -/
def resolveIpv4 (host : CString) (port : UInt16) (socktype : SocketType) :
    NetProgram (Except CString ResolvedEndpoint) := do
  match ← call (.getaddrinfo host (some port) socktype) with
  | .error gai => return .error ("getaddrinfo failed: ".toList ++ api.gaiStrerror gai)
  | .ok () =>
    let addresses ← call .results
    call .freeaddrinfo
    match addresses.find? fun it => it.family == api.afInet && it.length ≤ api.sizeofSockaddrStorage with
    | none => return .error "no AF_INET result".toList
    | some address => return .ok ⟨address,ipText api address⟩

/-- `TraceSetSockOpt` with what its callers make of a failure. -/
def traceSetSockOpt (name : CString) (descriptor : Nat) (option : SocketOption) (result : SocketResult) :
    NetProgram (Except SocketResult Unit) := do
  match ← call (.setsockopt descriptor option) with
  | .error errno => return .error (result.fail errno (name ++ " failed: ".toList ++ formatErrno api.toSocketApi errno))
  | .ok () => return .ok ()

def traceSetSockOptReuseAddr (descriptor : Nat) (result : SocketResult) : NetProgram (Except SocketResult Unit) :=
  traceSetSockOpt api "SO_REUSEADDR".toList descriptor .reuseAddr result

def traceSetSockOptRecvTimeout (descriptor : Nat) (result : SocketResult) : NetProgram (Except SocketResult Unit) :=
  traceSetSockOpt api "SO_RCVTIMEO".toList descriptor
    (.recvTimeout (config.socketTimeoutMs / 1000) (config.socketTimeoutMs % 1000 * 1000)) result

def traceSetSockOptSendTimeout (descriptor : Nat) (result : SocketResult) : NetProgram (Except SocketResult Unit) :=
  traceSetSockOpt api "SO_SNDTIMEO".toList descriptor
    (.sendTimeout (config.socketTimeoutMs / 1000) (config.socketTimeoutMs % 1000 * 1000)) result

def setSocketTimeouts (descriptor : Nat) (result : SocketResult) : NetProgram (Except SocketResult Unit) := do
  match ← traceSetSockOptRecvTimeout api config descriptor result with
  | .error result => return .error result
  | .ok () => traceSetSockOptSendTimeout api config descriptor result

def connectResolvedTcp (host : CString) (port : UInt16) : NetProgram (Except CString ConnectedTcpSocket) := do
  match ← resolveIpv4 api host port .stream with
  | .error detail => return .error detail
  | .ok endpoint =>
    match ← call (.socket .stream) with
    | .error errno => return .error ("socket failed: ".toList ++ formatErrno api.toSocketApi errno)
    | .ok descriptor =>
      match ← setSocketTimeouts api config descriptor (startOf []) with
      | .error result =>
        call (.close descriptor)
        return .error result.detail
      | .ok () =>
        match ← call (.connect descriptor endpoint.address) with
        | .error errno =>
          call (.close descriptor)
          return .error ("connect failed: ".toList ++ formatErrno api.toSocketApi errno)
        | .ok () => return .ok ⟨descriptor,endpoint.ip⟩

def sendTcpPayload (descriptor : Nat) (payload : Bytes) : NetProgram (Except CString Nat) := do
  match ← call (.send descriptor payload) with
  | .error errno => return .error ("send failed: ".toList ++ formatErrno api.toSocketApi errno)
  | .ok sent => return .ok sent.val

def receiveTcpPayload (descriptor : Nat) : NetProgram (Except CString Bytes) := do
  match ← call (.recv descriptor config.readBufferSize) with
  | .error errno => return .error ("recv failed: ".toList ++ formatErrno api.toSocketApi errno)
  | .ok segment => return .ok segment.val

def runDnsResolve : NetProgram SocketResult := do
  let result := startOf "dns_resolve".toList
  match ← call (.getaddrinfo config.dnsHostname none .stream) with
  | .error gai => return result.fail gai ("getaddrinfo failed: ".toList ++ api.gaiStrerror gai)
  | .ok () =>
    let entries ← call .results
    let addresses := (entries.filter (·.family == api.afInet)).filterMap fun it => api.inetNtop it.address
    call .freeaddrinfo
    let joined := (",".toList).intercalate addresses
    return { result with
      success := !joined.isEmpty
      detail := "addresses=".toList ++ if joined.isEmpty then "<none>".toList else joined }

def exchangePlainTcp (connection : ConnectedTcpSocket) (result : SocketResult) : NetProgram SocketResult := do
  match ← sendTcpPayload api connection.descriptor (bytesOf config.tcpPayload) with
  | .error detail => return result.fail (← call .errno) detail
  | .ok sent =>
    let result := { result with bytesSent := sent.toUInt64 }
    match ← receiveTcpPayload api config connection.descriptor with
    | .error detail => return result.fail (← call .errno) detail
    | .ok received =>
      return { result with
        bytesReceived := received.length.toUInt64
        success := decide (received.length > 0)
        detail := "connected_ip=".toList ++ connection.ip ++ " request_preview=".toList ++
          escapePreview (bytesOf config.tcpPayload) 96 ++ " response_preview=".toList ++ escapePreview received 160 }

def runPlainTcpConnect : NetProgram SocketResult := do
  let result := startOf "plain_tcp_connect".toList
  match ← connectResolvedTcp api config config.tcpHost config.tcpPort with
  | .error detail => return { result with detail }
  | .ok connection =>
    let result ← exchangePlainTcp api config connection result
    call (.close connection.descriptor)
    return result

def runIdleTcpHold : NetProgram SocketResult := do
  let result := startOf "tcp_idle_hold".toList
  match ← connectResolvedTcp api config config.tcpHost config.tcpPort with
  | .error detail => return { result with detail }
  | .ok connection =>
    if config.idleSocketHoldMs > 0 then call (.sleepMilliseconds config.idleSocketHoldMs)
    call (.close connection.descriptor)
    return { result with
      success := true
      detail := "connected_ip=".toList ++ connection.ip ++ " hold_ms=".toList ++ decimal config.idleSocketHoldMs.toNat }

def getRequest (path host : CString) : CString :=
  "GET ".toList ++ path ++ " HTTP/1.1\r\nHost: ".toList ++ host ++
    "\r\nUser-Agent: nxrv-toolbox/1\r\nConnection: close\r\n\r\n".toList

def requestBufferBytes : Nat := 512

def exchangeHttpGet (connection : ConnectedTcpSocket) (result : SocketResult) : NetProgram SocketResult := do
  let request := getRequest config.httpPath config.httpHost
  if request.length ≥ requestBufferBytes then return { result with detail := "request formatting failed".toList }
  else
  match ← call (.send connection.descriptor (bytesOf request)) with
  | .error errno => return result.fail errno ("send failed: ".toList ++ formatErrno api.toSocketApi errno)
  | .ok sent =>
    let result := { result with bytesSent := sent.val.toUInt64 }
    match ← call (.recv connection.descriptor config.readBufferSize) with
    | .error errno => return result.fail errno ("recv failed: ".toList ++ formatErrno api.toSocketApi errno)
    | .ok received =>
      return { result with
        bytesReceived := received.val.length.toUInt64
        success := decide (received.val.length > 0)
        detail := "connected_ip=".toList ++ connection.ip ++ " request_preview=".toList ++
          escapePreview (bytesOf request) 96 ++ " response_preview=".toList ++ escapePreview received.val 160 }

def runHttpGet : NetProgram SocketResult := do
  let result := startOf "http_get".toList
  match ← connectResolvedTcp api config config.httpHost config.httpPort with
  | .error detail => return { result with detail }
  | .ok connection =>
    let result ← exchangeHttpGet api config connection result
    call (.close connection.descriptor)
    return result

def closeAll : List Nat → NetProgram Unit
  | [] => return ()
  | descriptor :: rest => do
    call (.close descriptor)
    closeAll rest

/-- The connect loop: the sockets and the first address, or the result of a loop that failed. -/
def connectBurst (result : SocketResult) : Nat → List Nat → CString →
    NetProgram (Except SocketResult (List Nat × CString))
  | 0,sockets,firstIp => return .ok (sockets,firstIp)
  | remaining + 1,sockets,firstIp => do
    match ← connectResolvedTcp api config config.tcpHost config.tcpPort with
    | .error detail =>
      let errno ← call .errno
      closeAll sockets
      return .error (result.fail errno ("connect_index=".toList ++ decimal sockets.length ++ ' ' :: detail))
    | .ok connection =>
      connectBurst result remaining (sockets ++ [connection.descriptor])
        (if firstIp.isEmpty then connection.ip else firstIp)

def exchangeBurst (sockets : List Nat) : List Nat → Nat → SocketResult →
    NetProgram (Except SocketResult SocketResult)
  | [],_,result => return .ok result
  | descriptor :: rest,index,result => do
    let payload := "nxrv-toolbox-tcp-".toList ++ decimal index
    if payload.length ≥ 64 then
      closeAll sockets
      return .error { result with detail := "payload formatting failed".toList }
    else
    match ← sendTcpPayload api descriptor (bytesOf payload) with
    | .error detail =>
      let errno ← call .errno
      closeAll sockets
      return .error (result.fail errno ("send_index=".toList ++ decimal index ++ ' ' :: detail))
    | .ok sent =>
      let result := { result with bytesSent := result.bytesSent + sent.toUInt64 }
      match ← receiveTcpPayload api config descriptor with
      | .error detail =>
        let errno ← call .errno
        closeAll sockets
        return .error (result.fail errno ("recv_index=".toList ++ decimal index ++ ' ' :: detail))
      | .ok received =>
        exchangeBurst sockets rest (index + 1)
          { result with bytesReceived := result.bytesReceived + received.length.toUInt64 }

def runConcurrentTcpBurst : NetProgram SocketResult := do
  match ← connectBurst api config (startOf "tcp_multi_connect".toList) config.concurrentSocketCount [] [] with
  | .error result => return result
  | .ok (sockets,firstIp) =>
    if config.concurrentSocketHoldMs > 0 then call (.sleepMilliseconds config.concurrentSocketHoldMs)
    match ← exchangeBurst api config sockets sockets 0 (startOf "tcp_multi_connect".toList) with
    | .error result => return result
    | .ok result =>
      closeAll sockets
      return { result with
        success := true
        detail := "connected_ip=".toList ++ firstIp ++ " sockets=".toList ++ decimal sockets.length ++
          " hold_ms=".toList ++ decimal config.concurrentSocketHoldMs.toNat }

structure ConnectionTestSpec where
  name : CString
  host : CString
  path : CString
  bodyBytes : Nat
  upload : Bool
  deriving DecidableEq, Repr

/-- A destructor of the scope leaves the sockets only where `Initialize` succeeded. -/
def socketScope (result : SocketResult) (body : NetProgram SocketResult) : NetProgram SocketResult := do
  match ← call .socketInitialize with
  | .error rc =>
    return { result with rc := rc.val, detail := "socketInitialize failed: ".toList ++ formatResult rc.val }
  | .ok () =>
    let result ← body
    call .socketExit
    return result

/-- The second option is set only behind the first. -/
def setConnectionTestTimeouts (descriptor : Nat) (result : SocketResult) :
    NetProgram (Except SocketResult Unit) := do
  let seconds := config.connectionTestTimeoutMs / 1000
  let microseconds := config.connectionTestTimeoutMs % 1000 * 1000
  let failure := fun errno =>
    result.fail errno ("connection test timeout configuration failed: ".toList ++ formatErrno api.toSocketApi errno)
  match ← call (.setsockopt descriptor (.recvTimeout seconds microseconds)) with
  | .error errno => return .error (failure errno)
  | .ok () =>
    match ← call (.setsockopt descriptor (.sendTimeout seconds microseconds)) with
    | .error errno => return .error (failure errno)
    | .ok () => return .ok ()

def sendFailure (result : SocketResult) (errno : Int) : SocketResult :=
  result.fail errno ("send failed: ".toList ++ formatErrno api.toSocketApi errno)

/-- The bytes of `data` from `sent` on. -/
def sendAll (descriptor : Nat) (data : Bytes) (result : SocketResult) (sent : Nat) :
    NetProgram (Except SocketResult Unit) :=
  if sent < data.length then do
    match ← call (.send descriptor (data.drop sent)) with
    | .error errno => return .error (sendFailure api result errno)
    | .ok count =>
      if count.val = 0 then return .error (sendFailure api result api.epipe)
      else sendAll descriptor data result (sent + count.val)
  else return .ok ()
termination_by data.length - sent

/-- The chunks of an upload. The payload is empty only for an empty body. -/
def sendBody (descriptor : Nat) (payload : Bytes) (result : SocketResult) (remaining : Nat) :
    NetProgram (Except SocketResult Unit) :=
  if remaining = 0 ∨ payload.length = 0 then return .ok ()
  else do
    let chunkSize := min remaining payload.length
    match ← sendAll api descriptor (payload.take chunkSize) result 0 with
    | .error result => return .error result
    | .ok () => sendBody descriptor payload result (remaining - chunkSize)
termination_by remaining
decreasing_by
  have positive := ‹¬_›
  omega

def connectionTestRequest (spec : ConnectionTestSpec) : CString :=
  (if spec.upload then "POST ".toList else "GET ".toList) ++ spec.path ++ " HTTP/1.0\r\nHost: ".toList ++ spec.host ++
    "\r\nUser-Agent: Nintendo NX\r\nAccept: */*\r\n".toList ++
    if spec.upload then "Content-Type: application/x-www-form-urlencoded\r\nContent-Length: ".toList ++
      decimal spec.bodyBytes ++ "\r\n\r\n".toList
    else "\r\n".toList

def sendUpload (spec : ConnectionTestSpec) (descriptor requestSize : Nat) (result : SocketResult) :
    NetProgram (Except SocketResult Nat) :=
  if spec.upload then do
    let payload ← call (.randomGet (min spec.bodyBytes connectionTestBufferBytes))
    match ← sendBody api descriptor payload.val result spec.bodyBytes with
    | .error result => return .error result
    | .ok () => return .ok spec.bodyBytes
  else return .ok requestSize

def receiveHttpResponse (descriptor : Nat) (result : SocketResult) : NetProgram (Except SocketResult HttpResponse) := do
  let stream ← call (.recvAll descriptor connectionTestBufferBytes)
  match Toolbox.receiveHttpResponse (fun errno => formatErrno api.toSocketApi errno) stream.chunks stream.recvEnd with
  | .error failure => return .error (result.fail failure.err failure.detail)
  | .ok response => return .ok response

/-- The exchange of a connection test on its socket: the response, and the result with the bytes that were sent. -/
def exchangeConnectionTest (spec : ConnectionTestSpec) (descriptor : Nat) (result : SocketResult) :
    NetProgram (Except SocketResult (SocketResult × HttpResponse)) := do
  match ← setConnectionTestTimeouts api config descriptor result with
  | .error result => return .error result
  | .ok () =>
    let request := connectionTestRequest spec
    if request.length ≥ requestBufferBytes then
      return .error { result with detail := "request formatting failed".toList }
    else
    match ← sendAll api descriptor (bytesOf request) result 0 with
    | .error result => return .error result
    | .ok () =>
      match ← sendUpload api spec descriptor request.length result with
      | .error result => return .error result
      | .ok bytesSent =>
        let result := { result with bytesSent := bytesSent.toUInt64 }
        match ← receiveHttpResponse api descriptor result with
        | .error result => return .error result
        | .ok response => return .ok (result,response)

def formatConnectionTestDetail (ip : CString) (response : HttpResponse) (transferBytes : Nat) (startedTicks : UInt64) :
    NetProgram CString := do
  let ticks ← call .systemTick
  let tickFrequency ← call .systemTickFrequency
  return "connected_ip=".toList ++ ip ++ " http_status=".toList ++ decimal response.status ++
    " response_body_bytes=".toList ++ decimal response.bodyBytes ++
    ' ' :: snprintf 128 (api.formatTiming (ticks - startedTicks) tickFrequency transferBytes)

def talkConnectionTest (spec : ConnectionTestSpec) (result : SocketResult) : NetProgram SocketResult := do
  let startedTicks ← call .systemTick
  match ← connectResolvedTcp api config spec.host config.connectionTestPort with
  | .error detail => return { result with detail }
  | .ok connection =>
    let exchanged ← exchangeConnectionTest api config spec connection.descriptor result
    call (.close connection.descriptor)
    match exchanged with
    | .error result => return result
    | .ok (result,response) =>
      let expected := if spec.upload then 0 else spec.bodyBytes
      let success := connectionTestSucceeds response spec.upload spec.bodyBytes
      let detail ← formatConnectionTestDetail api connection.ip response
        (if spec.upload then spec.bodyBytes else response.bodyBytes) startedTicks
      return { result with
        bytesReceived := response.bodyBytes.toUInt64
        success := success
        detail := if success then detail else
          detail ++ " expected_response_body_bytes=".toList ++ decimal expected }

def runConnectionTest (spec : ConnectionTestSpec) : NetProgram SocketResult :=
  socketScope (startOf spec.name) (talkConnectionTest api config spec (startOf spec.name))

def runConnectionTestDownload30M : NetProgram SocketResult :=
  runConnectionTest api config ⟨"Download test 30M".toList,config.connectionTestDownloadHost,"/30m".toList,
    config.connectionTestTransfer30MBytes,false⟩

def runConnectionTestUpload1M : NetProgram SocketResult :=
  runConnectionTest api config ⟨"Upload test 1M".toList,config.connectionTestUploadHost,"/1m".toList,
    config.connectionTestUpload1MBytes,true⟩

def runConnectionTestUpload30M : NetProgram SocketResult :=
  runConnectionTest api config ⟨"Upload test 30M".toList,config.connectionTestUploadHost,"/30m".toList,
    config.connectionTestTransfer30MBytes,true⟩

/-- `OpenUdpSocket`, with the exchange on the socket that it opens. -/
def withUdpSocket (result : SocketResult) (body : Nat → NetProgram SocketResult) : NetProgram SocketResult := do
  match ← call (.socket .dgram) with
  | .error errno => return result.fail errno ("socket failed: ".toList ++ formatErrno api.toSocketApi errno)
  | .ok descriptor =>
    let result ← body descriptor
    call (.close descriptor)
    return result

def withUdpTarget (result : SocketResult) (body : ResolvedEndpoint → NetProgram SocketResult) :
    NetProgram SocketResult :=
  if config.udpHost.isEmpty || config.udpPort == 0 then
    return { result with skipped := true, detail := "udp target not configured".toList }
  else do
    match ← resolveIpv4 api config.udpHost config.udpPort .dgram with
    | .error detail => return { result with detail }
    | .ok endpoint => body endpoint

def runUdpSocketOnly : NetProgram SocketResult :=
  withUdpSocket api (startOf "udp_socket_only".toList) fun _ =>
    return { startOf "udp_socket_only".toList with success := true, detail := "socket opened and closed".toList }

/-- A scenario that opens a socket, sets options and closes it. -/
def udpSetSockOpt (name detail : CString) (setOptions : Nat → SocketResult → NetProgram (Except SocketResult Unit)) :
    NetProgram SocketResult :=
  withUdpSocket api (startOf name) fun descriptor => do
    match ← setOptions descriptor (startOf name) with
    | .error result => return result
    | .ok () => return { startOf name with success := true, detail }

def runUdpSocketSetSockOpt : NetProgram SocketResult :=
  udpSetSockOpt api "udp_socket_setsockopt".toList "socket opened, timeouts set, and closed".toList
    (setSocketTimeouts api config)

def runUdpSetSockOptReuseAddr : NetProgram SocketResult :=
  udpSetSockOpt api "udp_setsockopt_reuseaddr".toList "socket opened, SO_REUSEADDR set, and closed".toList
    (traceSetSockOptReuseAddr api)

def runUdpSetSockOptRecvTimeout : NetProgram SocketResult :=
  udpSetSockOpt api "udp_setsockopt_recv_timeout".toList "socket opened, SO_RCVTIMEO set, and closed".toList
    (traceSetSockOptRecvTimeout api config)

def runUdpSetSockOptSendTimeout : NetProgram SocketResult :=
  udpSetSockOpt api "udp_setsockopt_send_timeout".toList "socket opened, SO_SNDTIMEO set, and closed".toList
    (traceSetSockOptSendTimeout api config)

/-- The timeouts of a scenario in which they can be compiled out. -/
def setTimeoutsIf (enabled : Bool) (descriptor : Nat) (result : SocketResult) : NetProgram (Except SocketResult Unit) :=
  if enabled then setSocketTimeouts api config descriptor result else return .ok ()

def enabledText (enabled : Bool) : CString := if enabled then "enabled".toList else "disabled".toList

/-- The timeouts and the datagram of `RunUdpSendToOnly` and `RunUdpEcho`. -/
def sendUdpPayload (timeouts : Bool) (descriptor : Nat) (endpoint : ResolvedEndpoint) (result : SocketResult) :
    NetProgram (Except SocketResult SocketResult) := do
  match ← setTimeoutsIf api config timeouts descriptor result with
  | .error result => return .error result
  | .ok () =>
    match ← call (.sendto descriptor (bytesOf config.udpPayload) endpoint.address) with
    | .error errno =>
      return .error (result.fail errno ("sendto failed: ".toList ++ formatErrno api.toSocketApi errno))
    | .ok sent => return .ok { result with bytesSent := sent.val.toUInt64 }

def runUdpSendToOnly : NetProgram SocketResult :=
  withUdpTarget api config (startOf "udp_sendto_only".toList) fun endpoint =>
    withUdpSocket api (startOf "udp_sendto_only".toList) fun descriptor => do
      match ← sendUdpPayload api config config.enableUdpSendToOnlyTimeouts descriptor endpoint
        (startOf "udp_sendto_only".toList) with
      | .error result => return result
      | .ok result => return { result with
          success := true
          detail := "target_ip=".toList ++ endpoint.ip ++ " internal_timeouts=".toList ++
            enabledText config.enableUdpSendToOnlyTimeouts }

def connectSendUdp (endpoint : ResolvedEndpoint) (descriptor : Nat) (result : SocketResult) :
    NetProgram SocketResult := do
  match ← setSocketTimeouts api config descriptor result with
  | .error result => return result
  | .ok () =>
    match ← call (.connect descriptor endpoint.address) with
    | .error errno => return result.fail errno ("connect failed: ".toList ++ formatErrno api.toSocketApi errno)
    | .ok () =>
      match ← call (.send descriptor (bytesOf config.udpPayload)) with
      | .error errno => return sendFailure api result errno
      | .ok sent => return { result with
          success := true, bytesSent := sent.val.toUInt64, detail := "connected_ip=".toList ++ endpoint.ip }

def runUdpConnectSendOnly : NetProgram SocketResult :=
  withUdpTarget api config (startOf "udp_connect_send_only".toList) fun endpoint =>
    withUdpSocket api (startOf "udp_connect_send_only".toList) fun descriptor =>
      connectSendUdp api config endpoint descriptor (startOf "udp_connect_send_only".toList)

def pollForReply (descriptor : Nat) (result : SocketResult) : NetProgram (Except SocketResult Unit) :=
  if config.enableUdpEchoPoll then do
    let answer ← call (.poll descriptor config.socketTimeoutMs)
    match answer.returned with
    | .error errno =>
      return .error (result.fail errno ("poll failed: ".toList ++ formatErrno api.toSocketApi errno))
    | .ok 0 => return .error (result.fail api.etimedout "poll timed out waiting for UDP response".toList)
    | .ok _ =>
      if has answer.revents api.pollIn then return .ok ()
      else return .error { result with
        detail := "poll returned without POLLIN: revents=".toList ++ signedDecimal answer.revents.toInt }
  else return .ok ()

def formatSocketAddress (source : EndpointAnswer) : CString :=
  let detail := "source_addr_len=".toList ++ decimal source.length ++ " source_family=".toList ++
    decimal source.endpoint.family
  if source.endpoint.family ≠ api.afInet ∨ source.length < api.sizeofSockaddrIn then
    detail ++ " source_ip=<unavailable> source_port=<unavailable>".toList
  else
    match api.inetNtop source.endpoint.address with
    | none => detail ++ " source_ip=<inet_ntop-failed> source_port=".toList ++ decimal source.endpoint.port.toNat
    | some ip => detail ++ " source_ip=".toList ++ ip ++ " source_port=".toList ++ decimal source.endpoint.port.toNat

/-- The exchange of `RunUdpEcho` on its socket. The length of the source is what a failed `recvfrom` left of it. -/
def exchangeUdpEcho (endpoint : ResolvedEndpoint) (descriptor : Nat) (result : SocketResult) :
    NetProgram SocketResult := do
  match ← sendUdpPayload api config config.enableUdpEchoSocketTimeouts descriptor endpoint result with
  | .error result => return result
  | .ok result =>
    match ← pollForReply api config descriptor result with
    | .error result => return result
    | .ok () =>
      match ← call (.recvfrom descriptor config.readBufferSize) with
      | .error errno => return result.fail errno ("recvfrom failed: ".toList ++ formatErrno api.toSocketApi errno ++
          " returned_source_addr_len=".toList ++ decimal api.sizeofSockaddrStorage)
      | .ok received =>
        return { result with
          bytesReceived := received.data.length.toUInt64
          success := received.data.length == config.udpPayload.length && received.data == bytesOf config.udpPayload
          detail := "target_ip=".toList ++ endpoint.ip ++ " socket_timeouts=".toList ++
            enabledText config.enableUdpEchoSocketTimeouts ++ " poll=".toList ++ enabledText config.enableUdpEchoPoll ++
            ' ' :: formatSocketAddress api received.source ++ " response_preview=".toList ++
            escapePreview received.data 96 }

def runUdpEcho : NetProgram SocketResult :=
  withUdpTarget api config (startOf "udp_echo".toList) fun endpoint =>
    withUdpSocket api (startOf "udp_echo".toList) fun descriptor =>
      exchangeUdpEcho api config endpoint descriptor (startOf "udp_echo".toList)

end Calls

end NxReverse.Toolbox.Scenarios
