import NxReverse.Toolbox.NetScenarios
import NxReverse.Toolbox.HttpsUri
import NxReverse.Toolbox.GlobalIp

/-! The scenarios over TLS and over libcurl, and the table of all scenarios. -/
namespace NxReverse.Toolbox.Scenarios

open Text Words Program BsdSystemUdp

abbrev Talk := ExceptT SocketResult NetProgram

def say (command : NetCommand) : Talk command.Answer := ExceptT.lift (perform command)

def failedCall (result : SocketResult) (name : CString) (rc : UInt32) : SocketResult :=
  { result with rc, detail := name ++ " failed: ".toList ++ formatResult rc }

def sslScope (result : SocketResult) (body : NetProgram SocketResult) : NetProgram SocketResult := do
  match ← call .sslInitialize with
  | .error rc => return failedCall result "sslInitialize".toList rc.val
  | .ok () =>
    let result ← body
    call .sslExit
    return result

/-- The value of a call, or the result that names it. -/
def demand {α : Type} (result : SocketResult) (name : CString) : Except Failure α → Talk α
  | .ok value => return value
  | .error rc => throw (failedCall result name rc.val)

/-- As many errors are listed as are reported, but not as were copied. -/
def verifyErrorsText (answer : VerifyErrors) : CString :=
  if answer.rc = 0 ∧ answer.reported > 0 then
    " verify_errors=[".toList ++ (",".toList).intercalate ((answer.errors.take answer.reported.toNat).map formatResult) ++
      (if answer.reported.toNat > sslVerifyErrorCapacity then ",...".toList else []) ++ "]".toList
  else []

def collectSslVerifyDiagnostics (connection : SslObject) : NetProgram CString := do
  let answer ← call (.sslGetVerifyCertErrors connection)
  let verifyError ← call (.sslGetVerifyCertError connection)
  return " verify_cert_error=".toList ++ formatResult verifyError ++ " verify_errors_rc=".toList ++
    formatResult answer.rc ++ " verify_errors_reported=".toList ++ decimal answer.reported.toNat ++
    " verify_errors_copied=".toList ++ decimal answer.copied.toNat ++ verifyErrorsText answer

def doHandshake (connection : SslObject) (result : SocketResult) : Talk Unit := do
  let shaken ← say (.sslDoHandshake connection)
  match shaken with
  | .ok () => return ()
  | .error rc =>
    let diagnostics ← ExceptT.lift (collectSslVerifyDiagnostics connection)
    let failure := failedCall result "sslConnectionDoHandshake".toList rc.val
    throw { failure with detail := failure.detail ++ diagnostics }

/-- The options of a connection and its handshake. -/
def secureConnection (connection : SslObject) (host : CString) (result : SocketResult) : Talk Unit := do
  let named ← say (.sslSetHostName connection host)
  demand result "sslConnectionSetHostName".toList named
  let verified ← say (.sslSetVerifyOption connection [.peerCa,.hostName,.dateCheck])
  demand result "sslConnectionSetVerifyOption".toList verified
  let blocking ← say (.sslSetIoModeBlocking connection)
  demand result "sslConnectionSetIoMode".toList blocking
  doHandshake connection result

def cipherSummary : Except Failure CipherInfo → CString
  | .ok info => info.protocolVersion ++ '/' :: info.cipher
  | .error rc => "cipher-info-failed:".toList ++ formatResult rc.val

def judgeGlobalIp (received : Bytes) (result : SocketResult) : SocketResult :=
  let parsed := parseGlobalIpResponse (textOf received) [] []
  if parsed.accepted then { result with detail := result.detail ++ " global_ip=".toList ++ parsed.globalIp }
  else { result with success := false, detail := result.detail ++ " global_ip_parse_error=".toList ++ parsed.detail }

/-- The response is judged only where a scenario asks for the address. -/
def judgeResponse (requireGlobalIp : Bool) (received : Bytes) (result : SocketResult) : SocketResult :=
  if result.success && requireGlobalIp then judgeGlobalIp received result else result

section Calls

variable (api : ScenarioApi) (config : ScenarioConfig)

def exchangeRequest (connection : SslObject) (ip : CString) (target : HttpsTarget) (requireGlobalIp : Bool)
    (result : SocketResult) : Talk SocketResult := do
  let request := getRequest target.path target.host
  if request.length ≥ requestBufferBytes then throw { result with detail := "request formatting failed".toList }
  else
    let written ← say (.sslWrite connection (bytesOf request))
    let writeSize ← demand result "sslConnectionWrite".toList written
    let result := { result with bytesSent := writeSize.toUInt64 }
    let answer ← say (.sslRead connection config.readBufferSize)
    let received ← demand result "sslConnectionRead".toList answer
    let info ← say (.sslGetCipherInfo connection)
    return judgeResponse requireGlobalIp received.val { result with
      bytesReceived := received.val.length.toUInt64
      success := decide (received.val.length > 0)
      detail := "connected_ip=".toList ++ ip ++ " cipher=".toList ++ cipherSummary info ++
        " request_preview=".toList ++ escapePreview (bytesOf request) 96 ++ " response_preview=".toList ++
        escapePreview received.val 160 }

def talkHttps (connection : SslObject) (ip : CString) (target : HttpsTarget) (requireGlobalIp : Bool)
    (result : SocketResult) : Talk SocketResult := do
  secureConnection connection target.host result
  exchangeRequest config connection ip target requireGlobalIp result

def closeOwned : Option Nat → NetProgram Unit
  | none => return ()
  | some descriptor => call (.close descriptor)

def verdict : Except SocketResult SocketResult → SocketResult
  | .ok result | .error result => result

/-- Behind each end of the talk the connection, the owned socket and the context are closed. -/
def overConnection (context connection : SslObject) (owned : Option Nat) (talk : Talk SocketResult) :
    NetProgram SocketResult := do
  let outcome ← talk.run
  call (.sslConnectionClose connection)
  closeOwned owned
  call (.sslContextClose context)
  return verdict outcome

/-- The TLS objects over a connected socket. `ENOENT` says that the connection keeps the socket. -/
def overSocket (target : HttpsTarget) (requireGlobalIp : Bool) (ip : CString) (descriptor : Nat)
    (result : SocketResult) : NetProgram SocketResult := do
  match ← call .sslCreateContext with
  | .error rc =>
    call (.close descriptor)
    return failedCall result "sslCreateContext".toList rc.val
  | .ok context =>
    match ← call (.sslContextCreateConnection context) with
    | .error rc =>
      call (.sslContextClose context)
      call (.close descriptor)
      return failedCall result "sslContextCreateConnection".toList rc.val
    | .ok connection =>
      match ← call (.sslSetSocketDescriptor connection descriptor) with
      | .ok owned =>
        overConnection context connection (some owned) (talkHttps config connection ip target requireGlobalIp result)
      | .error errno =>
        if errno = api.enoent then
          overConnection context connection none (talkHttps config connection ip target requireGlobalIp result)
        else
          call (.sslConnectionClose connection)
          call (.sslContextClose context)
          call (.close descriptor)
          return result.fail errno ("socket descriptor transfer failed: ".toList ++ formatErrno api.toSocketApi errno)

def overScopes (target : HttpsTarget) (requireGlobalIp : Bool) (result : SocketResult) : NetProgram SocketResult := do
  match ← resolveIpv4 api target.host target.port .stream with
  | .error detail => return { result with detail }
  | .ok endpoint =>
    match ← call (.socket .stream) with
    | .error errno => return result.fail errno ("socket failed: ".toList ++ formatErrno api.toSocketApi errno)
    | .ok descriptor =>
      match ← setSocketTimeouts api config descriptor result with
      | .error result =>
        call (.close descriptor)
        return result
      | .ok () =>
        match ← call (.connect descriptor endpoint.address) with
        | .error errno =>
          call (.close descriptor)
          return result.fail errno ("connect failed: ".toList ++ formatErrno api.toSocketApi errno)
        | .ok () => overSocket api config target requireGlobalIp endpoint.ip descriptor result

def runVerifiedHttpsGet (name : CString) (target : HttpsTarget) (requireGlobalIp : Bool) : NetProgram SocketResult :=
  socketScope (startOf name) (sslScope (startOf name) (overScopes api config target requireGlobalIp (startOf name)))

def runHttpsGet : NetProgram SocketResult :=
  runVerifiedHttpsGet api config "https_get".toList ⟨config.httpsHost,config.httpsPort,config.httpsPath⟩ false

def runConnectionTestGlobalIp : NetProgram SocketResult :=
  let parsed := parseHttpsUri config.connectionTestGlobalIpUri []
  if parsed.accepted then runVerifiedHttpsGet api config "connection_test_global_ip".toList parsed.target true
  else return { startOf "connection_test_global_ip".toList with detail := parsed.detail }

def curlReadBufferSize : Nat := 2048

/-- What `CurlWriteCallback` leaves in the buffer. -/
def curlWriteCallback (buffer data : Bytes) : Bytes := buffer ++ data.take (curlReadBufferSize - buffer.length)

/-- The transfer of a scenario, or the text of why libcurl is not there. -/
def runCurlTransfer (unavailable : Option CString) (url : CString) (allowInsecureTls : Bool) (result : SocketResult) :
    NetProgram SocketResult :=
  match unavailable with
  | some text => return { result with skipped := true, detail := "curl unavailable: ".toList ++ text }
  | none => do
    match ← call .curlEasyInit with
    | none => return { result with detail := "curl_easy_init failed".toList }
    | some curl =>
      match ← call (.curlEasyPerform curl url allowInsecureTls) with
      | .error text =>
        call (.curlEasyCleanup curl)
        return { result with detail := "curl_easy_perform failed: ".toList ++ text }
      | .ok transfer =>
        let response := transfer.writes.foldl curlWriteCallback []
        call (.curlEasyCleanup curl)
        return { result with
          success := true
          bytesReceived := response.length.toUInt64
          detail := "effective_url=".toList ++ transfer.effectiveUrl.getD url ++ " primary_ip=".toList ++
            transfer.primaryIp.getD "unknown".toList ++ " http_code=".toList ++ signedDecimal transfer.responseCode ++
            " response_preview=".toList ++ escapePreview response 160 }

/-- `RunCurlHttpGet` and `RunCurlHttpsGet`. -/
def runCurlGet (unavailable : Option CString) (name scheme host : CString) (port : UInt16) (path : CString)
    (allowInsecureTls : Bool) : NetProgram SocketResult :=
  let url := scheme ++ host ++ ':' :: decimal port.toNat ++ path
  if url.length ≥ requestBufferBytes then return { startOf name with detail := "url formatting failed".toList }
  else runCurlTransfer unavailable url allowInsecureTls (startOf name)

def runCurlHttpGet (unavailable : Option CString) : NetProgram SocketResult :=
  runCurlGet unavailable "curl_http_get".toList "http://".toList config.httpHost config.httpPort config.httpPath false

def runCurlHttpsGet (unavailable : Option CString) : NetProgram SocketResult :=
  runCurlGet unavailable "curl_https_get".toList "https://".toList config.httpsHost config.httpsPort config.httpsPath true

/-- `ScenarioSteps`. A step whose calls are others has no program here. -/
def scenarioSteps (curlUnavailable : Option CString) : List (CString × Option (NetProgram SocketResult)) := [
  ("Download test 30M".toList,some (runConnectionTestDownload30M api config)),
  ("Upload test 1M".toList,some (runConnectionTestUpload1M api config)),
  ("Upload test 30M".toList,some (runConnectionTestUpload30M api config)),
  ("manual_bsd_lifecycle".toList,none),
  ("environment_snapshot".toList,none),
  ("dns_resolve".toList,some (runDnsResolve api config)),
  ("plain_tcp_connect".toList,some (runPlainTcpConnect api config)),
  ("tcp_idle_hold".toList,some (runIdleTcpHold api config)),
  ("http_get".toList,some (runHttpGet api config)),
  ("https_get".toList,some (runHttpsGet api config)),
  ("connection_test_global_ip".toList,some (runConnectionTestGlobalIp api config)),
  ("curl_http_get".toList,some (runCurlHttpGet config curlUnavailable)),
  ("curl_https_get".toList,some (runCurlHttpsGet config curlUnavailable)),
  ("udp_socket_only".toList,some (runUdpSocketOnly api)),
  ("udp_socket_setsockopt".toList,some (runUdpSocketSetSockOpt api config)),
  ("udp_setsockopt_reuseaddr".toList,some (runUdpSetSockOptReuseAddr api)),
  ("udp_setsockopt_recv_timeout".toList,some (runUdpSetSockOptRecvTimeout api config)),
  ("udp_setsockopt_send_timeout".toList,some (runUdpSetSockOptSendTimeout api config)),
  ("udp_sendto_only".toList,some (runUdpSendToOnly api config)),
  ("udp_connect_send_only".toList,some (runUdpConnectSendOnly api config)),
  ("udp_echo".toList,some (runUdpEcho api config)),
  ("tcp_multi_connect".toList,some (runConcurrentTcpBurst api config)),
  ("wgnx_packet_udp_echo".toList,none),
  ("wgnx_tunnel_udp_workload".toList,none)]

/-- `RunScenario` of a step that has a program here. -/
def runScenario (curlUnavailable : Option CString) (name : CString) : Option (NetProgram SocketResult) :=
  match (scenarioSteps api config curlUnavailable).find? fun step => step.1 == name with
  | some step => step.2
  | none => some (return { startOf name with skipped := true, detail := "unknown scenario".toList })

end Calls

end NxReverse.Toolbox.Scenarios
