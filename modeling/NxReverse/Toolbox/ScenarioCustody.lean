import NxReverse.Toolbox.HttpsScenarios
import NxReverse.Toolbox.WritableRecovery

/-! What a scenario holds: the libraries it has initialised, address lists, sockets, TLS objects and a libcurl handle.
Whatever is answered, a scenario works on what it holds and gives everything back. -/
namespace NxReverse.Toolbox.Scenarios

open Text Words Program Custody BsdSystemUdp

inductive Held where
  | sockets
  | ssl
  | addresses
  | socket (descriptor : Nat)
  | context (context : SslObject)
  | connection (connection : SslObject)
  | curl (curl : UInt32)
  deriving DecidableEq, Repr

/-- A socket, a look-up or a transfer needs the socket library, and a TLS object that of TLS. -/
def NetCommand.needs : NetCommand → List Held
  | getaddrinfo _ _ _ | socket _ | close _ => [.sockets]
  | results => [.addresses]
  | setsockopt descriptor _ | connect descriptor _ | send descriptor _ | sendto descriptor _ _ | recv descriptor _
  | recvAll descriptor _ | recvfrom descriptor _ | poll descriptor _ => [.socket descriptor,.sockets]
  | sslCreateContext | sslContextClose _ | sslConnectionClose _ => [.ssl]
  | sslContextCreateConnection context => [.context context,.ssl]
  | sslSetSocketDescriptor connection descriptor => [.connection connection,.socket descriptor,.ssl,.sockets]
  | sslSetHostName connection _ | sslSetVerifyOption connection _ | sslSetIoModeBlocking connection
  | sslDoHandshake connection | sslGetVerifyCertErrors connection | sslGetVerifyCertError connection
  | sslWrite connection _ | sslRead connection _ | sslGetCipherInfo connection => [.connection connection,.ssl]
  | curlEasyPerform curl _ _ => [.curl curl,.sockets]
  | _ => []

/-- A connection does not outlive its context or lose its socket, and nothing outlives its library. -/
def NetCommand.bars : NetCommand → Held → Bool
  | close _,.connection _ | sslContextClose _,.connection _ | sslExit,.connection _ | sslExit,.context _
  | socketExit,.socket _ | socketExit,.ssl => true
  | socketInitialize,.sockets | sslInitialize,.ssl => true
  | _,_ => false

def NetCommand.grants : (command : NetCommand) → command.Answer → List Held
  | socketInitialize,.ok () => [.sockets]
  | sslInitialize,.ok () => [.ssl]
  | getaddrinfo _ _ _,.ok _ => [.addresses]
  | socket _,.ok descriptor => [.socket descriptor]
  | sslCreateContext,.ok context => [.context context]
  | sslContextCreateConnection _,.ok connection => [.connection connection]
  | sslSetSocketDescriptor _ _,.ok owned => [.socket owned]
  | curlEasyInit,some curl => [.curl curl]
  | _,_ => []

/-- A socket that was set belongs to the connection, which hands out one to close behind it, or with `ENOENT` none. -/
def NetCommand.frees (enoent : Int) : (command : NetCommand) → command.Answer → Option Held
  | socketExit,_ => some .sockets
  | sslExit,_ => some .ssl
  | freeaddrinfo,_ => some .addresses
  | close descriptor,_ => some (.socket descriptor)
  | sslContextClose context,_ => some (.context context)
  | sslConnectionClose connection,_ => some (.connection connection)
  | sslSetSocketDescriptor _ descriptor,.ok _ => some (.socket descriptor)
  | sslSetSocketDescriptor _ descriptor,.error code => if code = enoent then some (.socket descriptor) else none
  | curlEasyCleanup curl,_ => some (.curl curl)
  | _,_ => none

def netCustody (enoent : Int) : Custody NetExchange Held where
  needs e := e.command.needs
  bars e := e.command.bars
  frees e := e.command.frees enoent e.answer
  grants e := e.command.grants e.answer

/-- The socket library is held, and no connection. -/
structure Idle (held : List Held) : Prop where
  library : .sockets ∈ held
  unconnected : ∀ connection, .connection connection ∉ held

/-- The socket can be worked on. -/
def Ready (held : List Held) (descriptor : Nat) : Prop := ∀ k ∈ [Held.socket descriptor,.sockets], k ∈ held

section Parts

variable {α : Type} {held : List Held} {descriptor : Nat} {enoent : Int} {Q : List Held → α → Prop}

theorem Idle.cons {k : Held} (idle : Idle held) (other : ∀ connection, k ≠ .connection connection) : Idle (k :: held) := by
  refine ⟨List.mem_cons_of_mem _ idle.library,fun connection member => ?_⟩
  rcases List.mem_cons.mp member with same | member
  · exact other connection same.symm
  · exact idle.unconnected connection member

theorem Idle.socket (idle : Idle held) : Idle (.socket descriptor :: held) := idle.cons fun _ => nofun

theorem Idle.bars_close (idle : Idle held) (answer : Unit) :
    ∀ k ∈ held, (netCustody enoent).bars ⟨.close descriptor,answer⟩ k = false := by
  intro k member
  cases k with
  | connection connection => exact absurd member (idle.unconnected connection)
  | _ => rfl

theorem Idle.needed (idle : Idle held) : ∀ k ∈ [Held.sockets], k ∈ held := List.forall_mem_singleton.mpr idle.library

theorem ready_of_mem (member : .socket descriptor ∈ held) (library : .sockets ∈ held) : Ready held descriptor :=
  List.forall_mem_cons.mpr ⟨member,List.forall_mem_singleton.mpr library⟩

theorem Idle.ready (idle : Idle held) : Ready (.socket descriptor :: held) descriptor :=
  ready_of_mem List.mem_cons_self idle.socket.library

theorem minds_close {next : Unit → NetProgram α} (idle : Idle held) (later : (netCustody enoent).Minds held (next ()) Q) :
    (netCustody enoent).Minds (.socket descriptor :: held) (call (.close descriptor) >>= next) Q :=
  minds_free (fun _ => idle.socket.needed) idle.socket.bars_close (fun _ => rfl) (fun _ => rfl) List.mem_cons_self
    (List.erase_cons_head _ _) fun _ => later

theorem minds_freeaddrinfo {next : Unit → NetProgram α} (later : (netCustody enoent).Minds held (next ()) Q) :
    (netCustody enoent).Minds (.addresses :: held) (call .freeaddrinfo >>= next) Q :=
  minds_free nofun (fun _ _ _ => rfl) (fun _ => rfl) (fun _ => rfl) List.mem_cons_self (List.erase_cons_head _ _)
    fun _ => later

theorem minds_curlEasyCleanup {curl : UInt32} {next : Unit → NetProgram α}
    (later : (netCustody enoent).Minds held (next ()) Q) :
    (netCustody enoent).Minds (.curl curl :: held) (call (.curlEasyCleanup curl) >>= next) Q :=
  minds_free nofun (fun _ _ _ => rfl) (fun _ => rfl) (fun _ => rfl) List.mem_cons_self (List.erase_cons_head _ _)
    fun _ => later

/-- What a part leaves as it was, whatever it ends with. -/
def Kept (held left : List Held) (_ : α) : Prop := left = held

variable (api : ScenarioApi) (config : ScenarioConfig)

/-- A list of addresses is read before it is freed. -/
theorem minds_results {next : List AddrInfo → NetProgram α}
    (later : ∀ addresses, (netCustody enoent).Minds (.addresses :: held) (next addresses) Q) :
    (netCustody enoent).Minds (.addresses :: held) (call .results >>= next) Q :=
  minds_ask (fun _ => List.forall_mem_singleton.mpr List.mem_cons_self) (fun _ _ _ => rfl) (fun _ => rfl) later

theorem minds_resolveIpv4 (idle : Idle held) (host : CString) (port : UInt16) (socktype : SocketType) :
    (netCustody enoent).Minds held (resolveIpv4 api host port socktype) (Kept held) := by
  refine minds_ask (fun _ => idle.needed) (fun _ _ _ => rfl) (fun _ => rfl) fun answer => ?_
  cases answer with
  | error gai => exact minds_pure rfl
  | ok done =>
    refine minds_results fun addresses => minds_freeaddrinfo ?_
    split
    · exact minds_pure rfl
    · exact minds_pure rfl

theorem minds_traceSetSockOpt (ready : Ready held descriptor) (name : CString) (option : SocketOption)
    (result : SocketResult) :
    (netCustody enoent).Minds held (traceSetSockOpt api name descriptor option result) (Kept held) := by
  refine minds_ask (fun _ => ready) (fun _ _ _ => rfl) (fun _ => rfl) fun answer => ?_
  cases answer with
  | error errno => exact minds_pure rfl
  | ok done => exact minds_pure rfl

theorem minds_setSocketTimeouts (ready : Ready held descriptor) (result : SocketResult) :
    (netCustody enoent).Minds held (setSocketTimeouts api config descriptor result) (Kept held) := by
  refine Minds.leading (minds_traceSetSockOpt api ready _ _ result) fun outcome => ?_
  cases outcome with
  | error result => exact minds_pure rfl
  | ok done => exact minds_traceSetSockOpt api ready _ _ result

theorem minds_connectResolvedTcp (idle : Idle held) (host : CString) (port : UInt16) :
    (netCustody enoent).Minds held (connectResolvedTcp api config host port)
      (Ends (fun left connection => left = .socket connection.descriptor :: held) (Kept held)) := by
  refine Minds.leading (minds_resolveIpv4 api idle host port .stream) fun resolved => ?_
  cases resolved with
  | error detail => exact minds_pure rfl
  | ok endpoint =>
    refine minds_ask (fun _ => idle.needed) (fun _ _ _ => rfl) (fun _ => rfl) fun opened => ?_
    cases opened with
    | error errno => exact minds_pure rfl
    | ok descriptor =>
      refine Minds.leading (minds_setSocketTimeouts api config idle.ready _) fun outcome => ?_
      cases outcome with
      | error result => exact minds_close idle (minds_pure rfl)
      | ok done =>
        refine minds_ask (fun _ => idle.ready) (fun _ _ _ => rfl) (fun _ => rfl)
          fun connected => ?_
        cases connected with
        | error errno => exact minds_close idle (minds_pure rfl)
        | ok done => exact minds_pure rfl

theorem minds_sendTcpPayload (ready : Ready held descriptor) (payload : Bytes) :
    (netCustody enoent).Minds held (sendTcpPayload api descriptor payload) (Kept held) := by
  refine minds_ask (fun _ => ready) (fun _ _ _ => rfl) (fun _ => rfl) fun answer => ?_
  cases answer with
  | error errno => exact minds_pure rfl
  | ok sent => exact minds_pure rfl

theorem minds_receiveTcpPayload (ready : Ready held descriptor) :
    (netCustody enoent).Minds held (receiveTcpPayload api config descriptor) (Kept held) := by
  refine minds_ask (fun _ => ready) (fun _ _ _ => rfl) (fun _ => rfl) fun answer => ?_
  cases answer with
  | error errno => exact minds_pure rfl
  | ok segment => exact minds_pure rfl

/-- A call without a place in the custody. -/
theorem minds_plain {command : NetCommand} {next : command.Answer → NetProgram α}
    (needs : command.needs = []) (bars : ∀ k, command.bars k = false) (frees : ∀ answer, command.frees enoent answer = none)
    (grants : ∀ answer, command.grants answer = []) (later : ∀ answer, (netCustody enoent).Minds held (next answer) Q) :
    (netCustody enoent).Minds held (call command >>= next) Q := by
  refine minds_ask (fun _ k needed => ?_) (fun _ k _ => bars k) frees fun answer => ?_
  · rw [show (netCustody enoent).needs _ = command.needs from rfl,needs] at needed
    cases needed
  · rw [show (netCustody enoent).grants _ = command.grants answer from rfl,grants answer]
    exact later answer

end Parts

section Tcp

variable {held : List Held} {descriptor : Nat} {enoent : Int} (api : ScenarioApi) (config : ScenarioConfig)

theorem idle_sockets : Idle [.sockets] := ⟨List.mem_cons_self,fun _ => nofun⟩

theorem minds_runDnsResolve : (netCustody enoent).Minds [.sockets] (runDnsResolve api config) (Kept [.sockets]) := by
  refine minds_ask (fun _ => idle_sockets.needed) (fun _ _ _ => rfl) (fun _ => rfl) fun answer => ?_
  cases answer with
  | error gai => exact minds_pure rfl
  | ok done => exact minds_results fun entries => minds_freeaddrinfo (minds_pure rfl)

/-- `errno` is read once the text is known. -/
theorem minds_failWithErrno (result : SocketResult) (detail : CString) :
    (netCustody enoent).Minds held (do return result.fail (← call .errno) detail) (Kept held) :=
  minds_plain rfl (fun _ => rfl) (fun _ => rfl) (fun _ => rfl) fun _ => minds_pure rfl

theorem minds_exchangePlainTcp (idle : Idle held) (connection : ConnectedTcpSocket) (result : SocketResult) :
    (netCustody enoent).Minds (.socket connection.descriptor :: held) (exchangePlainTcp api config connection result)
      (Kept (.socket connection.descriptor :: held)) := by
  refine Minds.leading (minds_sendTcpPayload api idle.ready _) fun sent => ?_
  cases sent with
  | error detail => exact minds_failWithErrno _ _
  | ok sent =>
    refine Minds.leading (minds_receiveTcpPayload api config idle.ready) fun received => ?_
    cases received with
    | error detail => exact minds_failWithErrno _ _
    | ok received => exact minds_pure rfl

/-- A scenario on one connected socket, which it closes behind its exchange. -/
theorem minds_withConnection {host : CString} {port : UInt16}
    {rest : Except CString ConnectedTcpSocket → NetProgram SocketResult} (idle : Idle held)
    (fails : ∀ detail, (netCustody enoent).Minds held (rest (.error detail)) (Kept held))
    (connects : ∀ connection, (netCustody enoent).Minds (.socket connection.descriptor :: held)
      (rest (.ok connection)) (Kept held)) :
    (netCustody enoent).Minds held (connectResolvedTcp api config host port >>= rest) (Kept held) := by
  refine Minds.bind ((minds_connectResolvedTcp api config idle host port).mono fun left outcome ends => ?_)
  cases outcome with
  | error detail =>
    cases ends
    exact fails detail
  | ok connection =>
    cases ends
    exact connects connection

theorem minds_runPlainTcpConnect : (netCustody enoent).Minds [.sockets] (runPlainTcpConnect api config) (Kept [.sockets]) :=
  minds_withConnection api config idle_sockets (fun _ => minds_pure rfl) fun connection =>
    Minds.leading (minds_exchangePlainTcp api config idle_sockets connection _) fun _ => minds_close idle_sockets (minds_pure rfl)

theorem minds_runIdleTcpHold : (netCustody enoent).Minds [.sockets] (runIdleTcpHold api config) (Kept [.sockets]) := by
  refine minds_withConnection api config idle_sockets (fun _ => minds_pure rfl) fun connection => ?_
  refine minds_ite (fun _ => ?_) fun _ => minds_close idle_sockets (minds_pure rfl)
  exact minds_plain rfl (fun _ => rfl) (fun _ => rfl) (fun _ => rfl) fun _ => minds_close idle_sockets (minds_pure rfl)

theorem minds_exchangeHttpGet (idle : Idle held) (connection : ConnectedTcpSocket) (result : SocketResult) :
    (netCustody enoent).Minds (.socket connection.descriptor :: held) (exchangeHttpGet api config connection result)
      (Kept (.socket connection.descriptor :: held)) := by
  refine minds_ite (fun _ => minds_pure rfl) fun _ => ?_
  refine minds_ask (fun _ => idle.ready) (fun _ _ _ => rfl) (fun _ => rfl)
    fun sent => ?_
  cases sent with
  | error errno => exact minds_pure rfl
  | ok sent =>
    refine minds_ask (fun _ => idle.ready) (fun _ _ _ => rfl) (fun _ => rfl)
      fun received => ?_
    cases received with
    | error errno => exact minds_pure rfl
    | ok received => exact minds_pure rfl

theorem minds_runHttpGet : (netCustody enoent).Minds [.sockets] (runHttpGet api config) (Kept [.sockets]) :=
  minds_withConnection api config idle_sockets (fun _ => minds_pure rfl) fun connection =>
    Minds.leading (minds_exchangeHttpGet api config idle_sockets connection _) fun _ => minds_close idle_sockets (minds_pure rfl)

def opened (sockets : List Nat) : List Held := sockets.map .socket ++ [.sockets]

theorem idle_opened (sockets : List Nat) : Idle (opened sockets) := by
  refine ⟨List.mem_append_right _ List.mem_cons_self,fun connection member => ?_⟩
  rcases List.mem_append.mp member with among | library
  · obtain ⟨descriptor,_,other⟩ := List.mem_map.mp among
    cases other
  · cases List.mem_singleton.mp library

theorem Idle.perm {other : List Held} (idle : Idle held) (perm : other.Perm held) : Idle other :=
  ⟨perm.mem_iff.mpr idle.library,fun connection member => idle.unconnected connection (perm.mem_iff.mp member)⟩

/-- The sockets are held in whatever order. -/
theorem minds_closeAll (sockets : List Nat) (perm : held.Perm (opened sockets)) :
    (netCustody enoent).Minds held (closeAll sockets) (Kept [.sockets]) := by
  induction sockets generalizing held with
  | nil => exact minds_pure (List.perm_singleton.mp perm)
  | cons descriptor rest ih =>
    have idle : Idle held := (idle_opened _).perm perm
    have leaves : (held.erase (.socket descriptor)).Perm (opened rest) := by
      have erased := perm.erase (.socket descriptor)
      rwa [opened,List.map_cons,List.cons_append,List.erase_cons_head] at erased
    exact minds_free (fun _ => idle.needed) idle.bars_close (fun _ => rfl) (fun _ => rfl) (perm.mem_iff.mpr List.mem_cons_self) rfl
      fun _ => ih leaves

/-- A burst that ends early reads `errno`, closes its sockets and has its result. -/
theorem minds_endBurst {α : Type} {sockets : List Nat} (perm : held.Perm (opened sockets))
    (ends : Int → Except SocketResult α) {kept : List Held → α → Prop} (fails : ∀ errno, ∃ result, ends errno = .error result) :
    (netCustody enoent).Minds held (do
      let errno ← call .errno
      closeAll sockets
      return ends errno) (Ends kept (Kept [.sockets])) := by
  refine minds_plain rfl (fun _ => rfl) (fun _ => rfl) (fun _ => rfl) fun errno => ?_
  refine Minds.leading (minds_closeAll sockets perm) fun _ => minds_pure ?_
  obtain ⟨result,same⟩ := fails errno
  rw [same]
  rfl

theorem minds_connectBurst (result : SocketResult) (remaining : Nat) (sockets : List Nat) (firstIp : CString)
    (perm : held.Perm (opened sockets)) :
    (netCustody enoent).Minds held (connectBurst api config result remaining sockets firstIp)
      (Ends (fun left burst => left.Perm (opened burst.1)) (Kept [.sockets])) := by
  induction remaining generalizing held sockets firstIp with
  | zero => exact minds_pure perm
  | succ remaining ih =>
    have idle : Idle held := (idle_opened _).perm perm
    refine Minds.bind ((minds_connectResolvedTcp api config idle _ _).mono fun left outcome ends => ?_)
    cases outcome with
    | error detail =>
      cases ends
      exact minds_endBurst perm _ fun errno => ⟨_,rfl⟩
    | ok connection =>
      cases ends
      refine ih _ _ ?_
      have behind : (opened (sockets ++ [connection.descriptor])).Perm (.socket connection.descriptor :: opened sockets) := by
        rw [opened,List.map_append,List.append_assoc]
        exact List.perm_middle
      exact (perm.cons _).trans behind.symm

theorem minds_exchangeBurst {sockets : List Nat} (rest : List Nat) (index : Nat) (result : SocketResult)
    (perm : held.Perm (opened sockets)) (among : rest ⊆ sockets) :
    (netCustody enoent).Minds held (exchangeBurst api config sockets rest index result) (Ends (Kept held) (Kept [.sockets])) := by
  induction rest generalizing index result with
  | nil => exact minds_pure rfl
  | cons descriptor rest ih =>
    have idle : Idle held := (idle_opened _).perm perm
    have ready : Ready held descriptor := ready_of_mem
      (perm.mem_iff.mpr (List.mem_append_left _ (List.mem_map_of_mem (among List.mem_cons_self)))) idle.library
    refine minds_ite (fun _ => Minds.leading (minds_closeAll sockets perm) fun _ => minds_pure rfl) fun _ => ?_
    refine Minds.leading (minds_sendTcpPayload api ready _) fun sent => ?_
    cases sent with
    | error detail => exact minds_endBurst perm _ fun errno => ⟨_,rfl⟩
    | ok sent =>
      refine Minds.leading (minds_receiveTcpPayload api config ready) fun received => ?_
      cases received with
      | error detail => exact minds_endBurst perm _ fun errno => ⟨_,rfl⟩
      | ok received => exact ih _ _ fun _ later => among (List.mem_cons_of_mem _ later)

theorem minds_exchangeOpened {sockets : List Nat} {firstIp : CString} (perm : held.Perm (opened sockets)) :
    (netCustody enoent).Minds held (do
      match ← exchangeBurst api config sockets sockets 0 (startOf "tcp_multi_connect".toList) with
      | .error result => return result
      | .ok result =>
        closeAll sockets
        return { result with
          success := true
          detail := "connected_ip=".toList ++ firstIp ++ " sockets=".toList ++ decimal sockets.length ++
            " hold_ms=".toList ++ decimal config.concurrentSocketHoldMs.toNat }) (Kept [.sockets]) := by
  refine Minds.bind ((minds_exchangeBurst api config sockets 0 _ perm (List.Subset.refl _)).mono
    fun left outcome ends => ?_)
  cases outcome with
  | error result => exact minds_pure ends
  | ok result =>
    cases ends
    exact Minds.leading (minds_closeAll sockets perm) fun _ => minds_pure rfl

theorem minds_runConcurrentTcpBurst :
    (netCustody enoent).Minds [.sockets] (runConcurrentTcpBurst api config) (Kept [.sockets]) := by
  refine Minds.bind ((minds_connectBurst api config _ _ _ _ (List.Perm.refl _)).mono fun left outcome ends => ?_)
  cases outcome with
  | error result => exact minds_pure ends
  | ok burst =>
    refine minds_ite (fun _ => ?_) fun _ => minds_exchangeOpened api config ends
    exact minds_plain rfl (fun _ => rfl) (fun _ => rfl) (fun _ => rfl) fun _ => minds_exchangeOpened api config ends

end Tcp

section ConnectionTests

variable {held : List Held} {descriptor : Nat} {enoent : Int} (api : ScenarioApi) (config : ScenarioConfig)

theorem minds_socketScope {result : SocketResult} {body : NetProgram SocketResult}
    (minds : (netCustody enoent).Minds [.sockets] body (Kept [.sockets])) :
    (netCustody enoent).Minds [] (socketScope result body) (Kept []) := by
  refine minds_ask nofun nofun (fun _ => rfl) fun answer => ?_
  cases answer with
  | error rc => exact minds_pure rfl
  | ok done =>
    refine Minds.leading minds fun _ => ?_
    exact minds_free nofun (fun _ => List.forall_mem_singleton.mpr rfl) (fun _ => rfl) (fun _ => rfl)
      List.mem_cons_self (List.erase_cons_head _ _) fun _ => minds_pure rfl

theorem minds_setConnectionTestTimeouts (ready : Ready held descriptor) (result : SocketResult) :
    (netCustody enoent).Minds held (setConnectionTestTimeouts api config descriptor result) (Kept held) := by
  refine minds_ask (fun _ => ready) (fun _ _ _ => rfl) (fun _ => rfl) fun first => ?_
  cases first with
  | error errno => exact minds_pure rfl
  | ok done =>
    refine minds_ask (fun _ => ready) (fun _ _ _ => rfl) (fun _ => rfl) fun second => ?_
    cases second with
    | error errno => exact minds_pure rfl
    | ok done => exact minds_pure rfl

theorem minds_sendAll (ready : Ready held descriptor) (data : Bytes) (result : SocketResult) (sent : Nat) :
    (netCustody enoent).Minds held (sendAll api descriptor data result sent) (Kept held) := by
  induction sent using sendAll.induct data with
  | case1 sent inside ih =>
    rw [sendAll,if_pos inside]
    refine minds_ask (fun _ => ready) (fun _ _ _ => rfl) (fun _ => rfl) fun answer => ?_
    cases answer with
    | error errno => exact minds_pure rfl
    | ok count => exact Ensures.ite (fun _ => minds_pure rfl) fun positive => ih count positive
  | case2 sent done =>
    rw [sendAll,if_neg done]
    exact minds_pure rfl

theorem minds_sendBody (ready : Ready held descriptor) (payload : Bytes) (result : SocketResult) (remaining : Nat) :
    (netCustody enoent).Minds held (sendBody api descriptor payload result remaining) (Kept held) := by
  induction remaining using sendBody.induct payload with
  | case1 remaining done =>
    rw [sendBody,if_pos done]
    exact minds_pure rfl
  | case2 remaining more chunkSize ih =>
    rw [sendBody,if_neg more]
    refine Minds.leading (minds_sendAll api ready _ result 0) fun outcome => ?_
    cases outcome with
    | error result => exact minds_pure rfl
    | ok done => exact ih

theorem minds_sendUpload (ready : Ready held descriptor) (spec : ConnectionTestSpec) (requestSize : Nat)
    (result : SocketResult) :
    (netCustody enoent).Minds held (sendUpload api spec descriptor requestSize result) (Kept held) := by
  refine minds_ite (fun _ => ?_) fun _ => minds_pure rfl
  refine minds_plain rfl (fun _ => rfl) (fun _ => rfl) (fun _ => rfl) fun payload => ?_
  refine Minds.leading (minds_sendBody api ready _ result _) fun outcome => ?_
  cases outcome with
  | error result => exact minds_pure rfl
  | ok done => exact minds_pure rfl

theorem minds_receiveHttpResponse (ready : Ready held descriptor) (result : SocketResult) :
    (netCustody enoent).Minds held (receiveHttpResponse api descriptor result) (Kept held) := by
  refine minds_ask (fun _ => ready) (fun _ _ _ => rfl) (fun _ => rfl) fun stream => ?_
  split
  · exact minds_pure rfl
  · exact minds_pure rfl

theorem minds_exchangeConnectionTest (ready : Ready held descriptor) (spec : ConnectionTestSpec)
    (result : SocketResult) :
    (netCustody enoent).Minds held (exchangeConnectionTest api config spec descriptor result) (Kept held) := by
  refine Minds.leading (minds_setConnectionTestTimeouts api config ready result) fun outcome => ?_
  cases outcome with
  | error result => exact minds_pure rfl
  | ok done =>
    refine minds_ite (fun _ => minds_pure rfl) fun _ => ?_
    refine Minds.leading (minds_sendAll api ready _ result 0) fun outcome => ?_
    cases outcome with
    | error result => exact minds_pure rfl
    | ok done =>
      refine Minds.leading (minds_sendUpload api ready spec _ result) fun outcome => ?_
      cases outcome with
      | error result => exact minds_pure rfl
      | ok bytesSent =>
        refine Minds.leading (minds_receiveHttpResponse api ready _) fun outcome => ?_
        cases outcome with
        | error result => exact minds_pure rfl
        | ok response => exact minds_pure rfl

theorem minds_talkConnectionTest (spec : ConnectionTestSpec) (result : SocketResult) :
    (netCustody enoent).Minds [.sockets] (talkConnectionTest api config spec result) (Kept [.sockets]) := by
  refine minds_plain rfl (fun _ => rfl) (fun _ => rfl) (fun _ => rfl) fun startedTicks => ?_
  refine minds_withConnection api config idle_sockets (fun _ => minds_pure rfl) fun connection => ?_
  refine Minds.leading (minds_exchangeConnectionTest api config idle_sockets.ready spec result) fun exchanged => ?_
  refine minds_close idle_sockets ?_
  cases exchanged with
  | error result => exact minds_pure rfl
  | ok exchanged =>
    refine minds_plain rfl (fun _ => rfl) (fun _ => rfl) (fun _ => rfl) fun ticks => ?_
    exact minds_plain rfl (fun _ => rfl) (fun _ => rfl) (fun _ => rfl) fun tickFrequency => minds_pure rfl

theorem minds_runConnectionTest (spec : ConnectionTestSpec) :
    (netCustody enoent).Minds [] (runConnectionTest api config spec) (Kept []) :=
  minds_socketScope (minds_talkConnectionTest api config spec _)

end ConnectionTests

section Udp

variable {descriptor : Nat} {enoent : Int} (api : ScenarioApi) (config : ScenarioConfig)

theorem minds_withUdpSocket {result : SocketResult} {body : Nat → NetProgram SocketResult}
    (minds : ∀ descriptor, (netCustody enoent).Minds [.socket descriptor,.sockets] (body descriptor) (Kept [.socket descriptor,.sockets])) :
    (netCustody enoent).Minds [.sockets] (withUdpSocket api result body) (Kept [.sockets]) := by
  refine minds_ask (fun _ => idle_sockets.needed) (fun _ _ _ => rfl) (fun _ => rfl) fun answer => ?_
  cases answer with
  | error errno => exact minds_pure rfl
  | ok descriptor => exact Minds.leading (minds descriptor) fun _ => minds_close idle_sockets (minds_pure rfl)

theorem minds_withUdpTarget {result : SocketResult} {body : ResolvedEndpoint → NetProgram SocketResult}
    (minds : ∀ endpoint, (netCustody enoent).Minds [.sockets] (body endpoint) (Kept [.sockets])) :
    (netCustody enoent).Minds [.sockets] (withUdpTarget api config result body) (Kept [.sockets]) := by
  refine minds_ite (fun _ => minds_pure rfl) fun _ => ?_
  refine Minds.leading (minds_resolveIpv4 api idle_sockets _ _ _) fun resolved => ?_
  cases resolved with
  | error detail => exact minds_pure rfl
  | ok endpoint => exact minds endpoint

theorem minds_udpSetSockOpt (name detail : CString)
    {setOptions : Nat → SocketResult → NetProgram (Except SocketResult Unit)}
    (sets : ∀ descriptor result, (netCustody enoent).Minds [.socket descriptor,.sockets] (setOptions descriptor result)
      (Kept [.socket descriptor,.sockets])) :
    (netCustody enoent).Minds [.sockets] (udpSetSockOpt api name detail setOptions) (Kept [.sockets]) := by
  refine minds_withUdpSocket api fun descriptor => Minds.leading (sets descriptor _) fun outcome => ?_
  cases outcome with
  | error result => exact minds_pure rfl
  | ok done => exact minds_pure rfl

theorem minds_setTimeoutsIf (enabled : Bool) (result : SocketResult) :
    (netCustody enoent).Minds [.socket descriptor,.sockets] (setTimeoutsIf api config enabled descriptor result)
      (Kept [.socket descriptor,.sockets]) :=
  minds_ite (fun _ => minds_setSocketTimeouts api config idle_sockets.ready result) fun _ => minds_pure rfl

theorem minds_sendUdpPayload (timeouts : Bool) (endpoint : ResolvedEndpoint) (result : SocketResult) :
    (netCustody enoent).Minds [.socket descriptor,.sockets] (sendUdpPayload api config timeouts descriptor endpoint result)
      (Kept [.socket descriptor,.sockets]) := by
  refine Minds.leading (minds_setTimeoutsIf api config timeouts result) fun outcome => ?_
  cases outcome with
  | error result => exact minds_pure rfl
  | ok done =>
    refine minds_ask (fun _ => idle_sockets.ready) (fun _ _ _ => rfl) (fun _ => rfl)
      fun answer => ?_
    cases answer with
    | error errno => exact minds_pure rfl
    | ok sent => exact minds_pure rfl

theorem minds_runUdpSendToOnly : (netCustody enoent).Minds [.sockets] (runUdpSendToOnly api config) (Kept [.sockets]) := by
  refine minds_withUdpTarget api config fun endpoint => minds_withUdpSocket api fun descriptor => ?_
  refine Minds.leading (minds_sendUdpPayload api config _ endpoint _) fun outcome => ?_
  cases outcome with
  | error result => exact minds_pure rfl
  | ok result => exact minds_pure rfl

theorem minds_connectSendUdp (endpoint : ResolvedEndpoint) (result : SocketResult) :
    (netCustody enoent).Minds [.socket descriptor,.sockets] (connectSendUdp api config endpoint descriptor result)
      (Kept [.socket descriptor,.sockets]) := by
  refine Minds.leading (minds_setSocketTimeouts api config idle_sockets.ready result) fun outcome => ?_
  cases outcome with
  | error result => exact minds_pure rfl
  | ok done =>
    refine minds_ask (fun _ => idle_sockets.ready) (fun _ _ _ => rfl) (fun _ => rfl)
      fun connected => ?_
    cases connected with
    | error errno => exact minds_pure rfl
    | ok done =>
      refine minds_ask (fun _ => idle_sockets.ready) (fun _ _ _ => rfl) (fun _ => rfl)
        fun sent => ?_
      cases sent with
      | error errno => exact minds_pure rfl
      | ok sent => exact minds_pure rfl

theorem minds_pollForReply (result : SocketResult) :
    (netCustody enoent).Minds [.socket descriptor,.sockets] (pollForReply api config descriptor result)
      (Kept [.socket descriptor,.sockets]) := by
  refine minds_ite (fun _ => ?_) fun _ => minds_pure rfl
  refine minds_ask (fun _ => idle_sockets.ready) (fun _ _ _ => rfl) (fun _ => rfl)
    fun answer => ?_
  split
  · exact minds_pure rfl
  · exact minds_pure rfl
  · exact Ensures.ite (fun _ => minds_pure rfl) fun _ => minds_pure rfl

theorem minds_exchangeUdpEcho (endpoint : ResolvedEndpoint) (result : SocketResult) :
    (netCustody enoent).Minds [.socket descriptor,.sockets] (exchangeUdpEcho api config endpoint descriptor result)
      (Kept [.socket descriptor,.sockets]) := by
  refine Minds.leading (minds_sendUdpPayload api config _ endpoint result) fun outcome => ?_
  cases outcome with
  | error result => exact minds_pure rfl
  | ok result =>
    refine Minds.leading (minds_pollForReply api config result) fun outcome => ?_
    cases outcome with
    | error result => exact minds_pure rfl
    | ok done =>
      refine minds_ask (fun _ => idle_sockets.ready) (fun _ _ _ => rfl) (fun _ => rfl)
        fun answer => ?_
      cases answer with
      | error errno => exact minds_pure rfl
      | ok received => exact minds_pure rfl

end Udp

section Tls

variable {α : Type} {held : List Held} {descriptor : Nat} {connection context : SslObject} {enoent : Int}
  (api : ScenarioApi) (config : ScenarioConfig)

/-- The connection can be worked on. -/
def Secure (held : List Held) (connection : SslObject) : Prop := ∀ k ∈ [Held.connection connection,.ssl], k ∈ held

theorem secure_of_mem (member : .connection connection ∈ held) (library : .ssl ∈ held) : Secure held connection :=
  List.forall_mem_cons.mpr ⟨member,List.forall_mem_singleton.mpr library⟩

def Talks (enoent : Int) (held : List Held) (talk : Talk α) : Prop :=
  (netCustody enoent).Minds held talk.run (Ends (Kept held) (Kept held))

theorem talks_demand (result : SocketResult) (name : CString) (answer : Except Failure α) :
    Talks enoent held (demand result name answer) := by
  cases answer with
  | ok value => exact minds_pure rfl
  | error rc => exact minds_pure rfl

theorem Talks.bind {β : Type} {first : Talk α} {next : α → Talk β} (talks : Talks enoent held first)
    (later : ∀ value, Talks enoent held (next value)) : Talks enoent held (first >>= next) := by
  refine minds_then talks fun left value same => ?_
  cases same
  exact later value

/-- A command on the connection. -/
theorem talks_say {command : NetCommand} {next : command.Answer → Talk α} (secure : Secure held connection)
    (needs : command.needs = [.connection connection,.ssl]) (bars : ∀ k, command.bars k = false)
    (frees : ∀ answer, command.frees enoent answer = none) (grants : ∀ answer, command.grants answer = [])
    (later : ∀ answer, Talks enoent held (next answer)) : Talks enoent held (say command >>= next) := by
  refine minds_ask (fun _ k needed => ?_) (fun _ k _ => bars k) frees fun answer => ?_
  · rw [show (netCustody enoent).needs _ = command.needs from rfl,needs] at needed
    exact secure k needed
  · rw [show (netCustody enoent).grants _ = command.grants answer from rfl,grants answer]
    exact later answer

theorem talks_doHandshake (secure : Secure held connection) (result : SocketResult) :
    Talks enoent held (doHandshake connection result) := by
  refine talks_say secure rfl (fun _ => rfl) (fun _ => rfl) (fun _ => rfl) fun shaken => ?_
  cases shaken with
  | ok done => exact minds_pure rfl
  | error rc =>
    refine minds_ask (fun _ => secure) (fun _ _ _ => rfl) (fun _ => rfl) fun answer => ?_
    exact minds_ask (fun _ => secure) (fun _ _ _ => rfl) (fun _ => rfl) fun error =>
      minds_pure rfl

theorem talks_secureConnection (secure : Secure held connection) (host : CString) (result : SocketResult) :
    Talks enoent held (secureConnection connection host result) := by
  refine talks_say secure rfl (fun _ => rfl) (fun _ => rfl) (fun _ => rfl) fun named => ?_
  refine (talks_demand _ _ named).bind fun _ => ?_
  refine talks_say secure rfl (fun _ => rfl) (fun _ => rfl) (fun _ => rfl) fun verified => ?_
  refine (talks_demand _ _ verified).bind fun _ => ?_
  refine talks_say secure rfl (fun _ => rfl) (fun _ => rfl) (fun _ => rfl) fun blocking => ?_
  exact (talks_demand _ _ blocking).bind fun _ => talks_doHandshake secure result

theorem talks_exchangeRequest (secure : Secure held connection) (ip : CString) (target : HttpsTarget)
    (requireGlobalIp : Bool) (result : SocketResult) :
    Talks enoent held (exchangeRequest config connection ip target requireGlobalIp result) := by
  refine Ensures.ite (fun _ => minds_pure rfl) fun _ => ?_
  refine talks_say secure rfl (fun _ => rfl) (fun _ => rfl) (fun _ => rfl) fun written => ?_
  refine (talks_demand _ _ written).bind fun writeSize => ?_
  refine talks_say secure rfl (fun _ => rfl) (fun _ => rfl) (fun _ => rfl) fun answer => ?_
  refine (talks_demand _ _ answer).bind fun received => ?_
  exact talks_say secure rfl (fun _ => rfl) (fun _ => rfl) (fun _ => rfl) fun info => minds_pure rfl

theorem talks_talkHttps (secure : Secure held connection) (ip : CString) (target : HttpsTarget)
    (requireGlobalIp : Bool) (result : SocketResult) :
    Talks enoent held (talkHttps config connection ip target requireGlobalIp result) :=
  (talks_secureConnection secure target.host result).bind fun _ =>
    talks_exchangeRequest config secure ip target requireGlobalIp result

def ownedSocket : Option Nat → List Held
  | none => []
  | some descriptor => [.socket descriptor]

def libraries : List Held := [.ssl,.sockets]

theorem idle_libraries : Idle libraries := idle_sockets.cons fun _ => nofun

theorem ssl_mem_libraries : .ssl ∈ libraries := List.mem_cons_self

theorem minds_sslContextClose {next : Unit → NetProgram α} {Q : List Held → α → Prop} (idle : Idle held)
    (library : .ssl ∈ held) (later : (netCustody enoent).Minds held (next ()) Q) :
    (netCustody enoent).Minds (.context context :: held) (call (.sslContextClose context) >>= next) Q := by
  refine minds_free (fun _ => List.forall_mem_singleton.mpr (List.mem_cons_of_mem _ library)) (fun _ k member => ?_)
    (fun _ => rfl) (fun _ => rfl) List.mem_cons_self (List.erase_cons_head _ _) fun _ => later
  cases k with
  | connection connection => exact absurd ((List.mem_cons.mp member).resolve_left nofun) (idle.unconnected connection)
  | _ => rfl

theorem minds_closeObjects {next : Unit → NetProgram SocketResult} (owned : Option Nat)
    (later : (netCustody enoent).Minds libraries (next ()) (Kept libraries)) :
    (netCustody enoent).Minds (ownedSocket owned ++ (.context context :: libraries))
      (closeOwned owned >>= fun _ => call (.sslContextClose context) >>= next) (Kept libraries) := by
  have closes : (netCustody enoent).Minds (.context context :: libraries) (call (.sslContextClose context) >>= next)
      (Kept libraries) := minds_sslContextClose idle_libraries ssl_mem_libraries later
  cases owned with
  | none => exact closes
  | some descriptor => exact minds_close (idle_libraries.cons fun _ => nofun) closes

theorem minds_overConnection {talk : Talk SocketResult} (owned : Option Nat)
    (talks : Talks enoent (ownedSocket owned ++ (.connection connection :: .context context :: libraries)) talk) :
    (netCustody enoent).Minds (ownedSocket owned ++ (.connection connection :: .context context :: libraries))
      (overConnection context connection owned talk) (Kept libraries) := by
  refine Minds.bind (talks.mono fun left outcome ends => ?_)
  have same : left = ownedSocket owned ++ (.connection connection :: .context context :: libraries) := by
    cases outcome with
    | ok result => exact ends
    | error result => exact ends
  subst same
  have leaves : (ownedSocket owned ++ (.connection connection :: .context context :: libraries)).erase
      (.connection connection) = ownedSocket owned ++ (.context context :: libraries) := by
    cases owned with
    | none => exact List.erase_cons_head _ _
    | some descriptor => simp [ownedSocket]
  have library : .ssl ∈ ownedSocket owned ++ (.connection connection :: .context context :: libraries) :=
    List.mem_append_right _ (List.mem_cons_of_mem _ (List.mem_cons_of_mem _ ssl_mem_libraries))
  refine minds_free (fun _ => List.forall_mem_singleton.mpr library) (fun _ _ _ => rfl) (fun _ => rfl) (fun _ => rfl)
    (List.mem_append_right _ List.mem_cons_self) leaves fun _ => minds_closeObjects owned ?_
  cases outcome with
  | ok result => exact minds_pure rfl
  | error result => exact minds_pure rfl

def objects (connection context : SslObject) (descriptor : Nat) : List Held :=
  .connection connection :: .context context :: .socket descriptor :: libraries

theorem erase_socket : (objects connection context descriptor).erase (.socket descriptor) =
    .connection connection :: .context context :: libraries := by simp [objects]

/-- What is held once the socket was set, by the answer. -/
theorem minds_setSocketDescriptor {next : Except Int Nat → NetProgram SocketResult}
    (owns : ∀ owned, (netCustody enoent).Minds
      (ownedSocket (some owned) ++ (.connection connection :: .context context :: libraries)) (next (.ok owned)) (Kept libraries))
    (keeps : (netCustody enoent).Minds (ownedSocket none ++ (.connection connection :: .context context :: libraries))
      (next (.error enoent)) (Kept libraries))
    (fails : ∀ errno, errno ≠ enoent →
      (netCustody enoent).Minds (objects connection context descriptor) (next (.error errno)) (Kept libraries)) :
    (netCustody enoent).Minds (objects connection context descriptor)
      (call (.sslSetSocketDescriptor connection descriptor) >>= next) (Kept libraries) := by
  have member : .socket descriptor ∈ objects connection context descriptor := by simp [objects]
  refine minds_call (fun transferred => ⟨?_,fun _ _ => rfl,?_⟩) fun transferred => ?_
  · have all : ∀ k ∈ [Held.connection connection,.socket descriptor,.ssl,.sockets],
        k ∈ objects connection context descriptor := by simp [objects,libraries]
    exact all
  · rintro k freed
    cases transferred with
    | ok owned =>
      cases freed
      exact member
    | error errno =>
      by_cases same : errno = enoent
      · cases (if_pos same).symm.trans freed
        exact member
      · cases (if_neg same).symm.trans freed
  · cases transferred with
    | ok owned =>
      rw [show (netCustody enoent).after (objects connection context descriptor)
        ⟨.sslSetSocketDescriptor connection descriptor,.ok owned⟩ =
          .socket owned :: (objects connection context descriptor).erase (.socket descriptor) from rfl,erase_socket]
      exact owns owned
    | error errno =>
      by_cases same : errno = enoent
      · subst same
        rw [Custody.after,show (netCustody errno).frees ⟨.sslSetSocketDescriptor connection descriptor,.error errno⟩ =
          some (.socket descriptor) from if_pos rfl,Option.elim_some,erase_socket]
        exact keeps
      · rw [Custody.after,show (netCustody enoent).frees ⟨.sslSetSocketDescriptor connection descriptor,.error errno⟩ =
          none from if_neg same,Option.elim_none]
        exact fails errno same

theorem minds_overSocket (target : HttpsTarget) (requireGlobalIp : Bool) (ip : CString) (result : SocketResult) :
    (netCustody api.enoent).Minds (.socket descriptor :: libraries)
      (overSocket api config target requireGlobalIp ip descriptor result) (Kept libraries) := by
  refine minds_ask (fun _ => List.forall_mem_singleton.mpr (List.mem_cons_of_mem _ List.mem_cons_self))
    (fun _ _ _ => rfl) (fun _ => rfl) fun created => ?_
  cases created with
  | error rc => exact minds_close idle_libraries (minds_pure rfl)
  | ok context =>
    have library : .ssl ∈ Held.context context :: .socket descriptor :: libraries :=
      List.mem_cons_of_mem _ (List.mem_cons_of_mem _ ssl_mem_libraries)
    refine minds_ask (fun _ => List.forall_mem_cons.mpr ⟨List.mem_cons_self,List.forall_mem_singleton.mpr library⟩)
      (fun _ _ _ => rfl) (fun _ => rfl) fun created => ?_
    cases created with
    | error rc => exact minds_sslContextClose idle_libraries.socket (List.mem_cons_of_mem _ ssl_mem_libraries) (minds_close idle_libraries (minds_pure rfl))
    | ok connection =>
      refine minds_setSocketDescriptor (fun owned => ?_) ?_ fun errno other => ?_
      · exact minds_overConnection (some owned)
          (talks_talkHttps config (secure_of_mem (by simp) (by simp [libraries])) ip target requireGlobalIp result)
      · refine minds_ite (fun _ => ?_) fun other => absurd rfl other
        exact minds_overConnection none
          (talks_talkHttps config (secure_of_mem (by simp) (by simp [libraries])) ip target requireGlobalIp result)
      · refine minds_ite (fun same => absurd same other) fun _ => ?_
        refine minds_free (fun _ => List.forall_mem_singleton.mpr (List.mem_cons_of_mem _ library)) (fun _ _ _ => rfl)
          (fun _ => rfl) (fun _ => rfl) List.mem_cons_self (List.erase_cons_head _ _) fun _ => ?_
        exact minds_sslContextClose idle_libraries.socket (List.mem_cons_of_mem _ ssl_mem_libraries) (minds_close idle_libraries (minds_pure rfl))

theorem minds_overScopes (target : HttpsTarget) (requireGlobalIp : Bool) (result : SocketResult) :
    (netCustody api.enoent).Minds libraries (overScopes api config target requireGlobalIp result) (Kept libraries) := by
  refine Minds.leading (minds_resolveIpv4 api idle_libraries _ _ _) fun resolved => ?_
  cases resolved with
  | error detail => exact minds_pure rfl
  | ok endpoint =>
    refine minds_ask (fun _ => idle_libraries.needed) (fun _ _ _ => rfl) (fun _ => rfl) fun answer => ?_
    cases answer with
    | error errno => exact minds_pure rfl
    | ok descriptor =>
      refine Minds.leading (minds_setSocketTimeouts api config idle_libraries.ready result) fun outcome => ?_
      cases outcome with
      | error result => exact minds_close idle_libraries (minds_pure rfl)
      | ok done =>
        refine minds_ask (fun _ => idle_libraries.ready) (fun _ _ _ => rfl) (fun _ => rfl)
          fun connected => ?_
        cases connected with
        | error errno => exact minds_close idle_libraries (minds_pure rfl)
        | ok done => exact minds_overSocket api config target requireGlobalIp endpoint.ip result

theorem minds_sslScope {result : SocketResult} {body : NetProgram SocketResult}
    (minds : (netCustody enoent).Minds libraries body (Kept libraries)) :
    (netCustody enoent).Minds [.sockets] (sslScope result body) (Kept [.sockets]) := by
  refine minds_ask nofun (fun _ => List.forall_mem_singleton.mpr rfl) (fun _ => rfl) fun answer => ?_
  cases answer with
  | error rc => exact minds_pure rfl
  | ok done =>
    refine Minds.leading minds fun _ => ?_
    exact minds_free nofun (fun _ => List.forall_mem_cons.mpr ⟨rfl,List.forall_mem_singleton.mpr rfl⟩) (fun _ => rfl) (fun _ => rfl)
      List.mem_cons_self (List.erase_cons_head _ _) fun _ => minds_pure rfl

theorem minds_runVerifiedHttpsGet (name : CString) (target : HttpsTarget) (requireGlobalIp : Bool) :
    (netCustody api.enoent).Minds [] (runVerifiedHttpsGet api config name target requireGlobalIp) (Kept []) :=
  minds_socketScope (minds_sslScope (minds_overScopes api config target requireGlobalIp _))

theorem minds_runConnectionTestGlobalIp :
    (netCustody api.enoent).Minds [] (runConnectionTestGlobalIp api config) (Kept []) :=
  minds_ite (fun _ => minds_runVerifiedHttpsGet api config _ _ true) fun _ => minds_pure rfl

end Tls

section Table

variable {enoent : Int} (api : ScenarioApi) (config : ScenarioConfig) (curlUnavailable : Option CString)

theorem minds_runCurlTransfer (url : CString) (allowInsecureTls : Bool) (result : SocketResult) :
    (netCustody enoent).Minds [.sockets] (runCurlTransfer curlUnavailable url allowInsecureTls result) (Kept [.sockets]) := by
  cases curlUnavailable with
  | some text => exact minds_pure rfl
  | none =>
    refine minds_ask nofun (fun _ _ _ => rfl) (fun _ => rfl) fun answer => ?_
    cases answer with
    | none => exact minds_pure rfl
    | some curl =>
      refine minds_ask (fun _ k needed => needed) (fun _ _ _ => rfl) (fun _ => rfl) fun performed => ?_
      cases performed with
      | error text => exact minds_curlEasyCleanup (minds_pure rfl)
      | ok transfer => exact minds_curlEasyCleanup (minds_pure rfl)

theorem minds_runCurlGet (name scheme host : CString) (port : UInt16) (path : CString) (allowInsecureTls : Bool) :
    (netCustody enoent).Minds [.sockets] (runCurlGet curlUnavailable name scheme host port path allowInsecureTls) (Kept [.sockets]) :=
  minds_ite (fun _ => minds_pure rfl) fun _ => minds_runCurlTransfer curlUnavailable _ allowInsecureTls _

/-- The scenarios that initialise the socket library. -/
def initialisers : List CString := ["Download test 30M".toList,"Upload test 1M".toList,"Upload test 30M".toList,
  "https_get".toList,"connection_test_global_ip".toList]

/-- A scenario that does not initialise the socket library runs while its process holds it. -/
def around (name : CString) (trace : List NetExchange) : List NetExchange :=
  if name ∈ initialisers then trace else ⟨.socketInitialize,.ok ()⟩ :: (trace ++ [⟨.socketExit,()⟩])

def provided (name : CString) : List Held := if name ∈ initialisers then [] else [.sockets]

theorem disciplined_around {name : CString} {trace : List NetExchange}
    (keeps : (netCustody enoent).Keeps (provided name) trace (provided name)) :
    (netCustody enoent).Disciplined (around name trace) := by
  rw [provided] at keeps
  rw [around]
  split at keeps
  · next own =>
    rw [if_pos own]
    exact keeps.disciplined
  · next other =>
    rw [if_neg other]
    have exits : (netCustody enoent).Keeps [.sockets] [⟨.socketExit,()⟩] [] := by
      refine ⟨⟨nofun,List.forall_mem_singleton.mpr rfl,?_⟩,rfl⟩
      rintro k freed
      cases freed
      exact List.mem_cons_self
    have initialises : (netCustody enoent).Allowed [] ⟨.socketInitialize,.ok ()⟩ := ⟨nofun,nofun,nofun⟩
    exact Keeps.disciplined ⟨initialises,keeps.append exits⟩

theorem minds_scenarioSteps : ∀ step ∈ scenarioSteps api config curlUnavailable, ∀ scenario, step.2 = some scenario →
    (netCustody api.enoent).Minds (provided step.1) scenario (Kept (provided step.1)) := by
  have idle := idle_sockets
  simp only [scenarioSteps,List.forall_mem_cons,List.not_mem_nil,false_implies,implies_true,true_and,and_true,Option.some.injEq,
    forall_eq',reduceCtorEq]
  refine ⟨minds_runConnectionTest api config _,minds_runConnectionTest api config _,minds_runConnectionTest api config _,
    minds_runDnsResolve api config,minds_runPlainTcpConnect api config,minds_runIdleTcpHold api config,
    minds_runHttpGet api config,minds_runVerifiedHttpsGet api config _ _ false,minds_runConnectionTestGlobalIp api config,
    minds_runCurlGet curlUnavailable _ _ _ _ _ _,minds_runCurlGet curlUnavailable _ _ _ _ _ _,?_,?_,?_,?_,?_,
    minds_runUdpSendToOnly api config,?_,?_,minds_runConcurrentTcpBurst api config⟩
  · exact minds_withUdpSocket api fun _ => minds_pure rfl
  · exact minds_udpSetSockOpt api _ _ fun _ result => minds_setSocketTimeouts api config idle.ready result
  · exact minds_udpSetSockOpt api _ _ fun _ result => minds_traceSetSockOpt api idle.ready _ _ result
  · exact minds_udpSetSockOpt api _ _ fun _ result => minds_traceSetSockOpt api idle.ready _ _ result
  · exact minds_udpSetSockOpt api _ _ fun _ result => minds_traceSetSockOpt api idle.ready _ _ result
  · exact minds_withUdpTarget api config fun endpoint => minds_withUdpSocket api fun _ =>
      minds_connectSendUdp api config endpoint _
  · exact minds_withUdpTarget api config fun endpoint => minds_withUdpSocket api fun _ =>
      minds_exchangeUdpEcho api config endpoint _

variable {api config curlUnavailable}

/-- Whatever is answered and under whatever name: a call works on what the run still holds, nothing outlives what it
depends on, and libraries, address lists, sockets, TLS objects and libcurl handles are given back once each. -/
theorem runScenario_disciplined {name : CString} {scenario : NetProgram SocketResult}
    (named : runScenario api config curlUnavailable name = some scenario) (service : Program.Service NetCommand.Answer) :
    (netCustody api.enoent).Disciplined (around name (scenario.run service []).1) := by
  have minds : (netCustody api.enoent).Minds (provided name) scenario (Kept (provided name)) := by
    rw [runScenario] at named
    cases found : (scenarioSteps api config curlUnavailable).find? fun step => step.1 == name with
    | none =>
      rw [found] at named
      cases named
      exact minds_pure rfl
    | some step =>
      rw [found] at named
      have same : step.1 = name := by simpa using List.find?_some found
      exact same ▸ minds_scenarioSteps api config curlUnavailable step (List.mem_of_find?_eq_some found) scenario named
  obtain ⟨left,keeps,same⟩ := Ensures.of_run minds service
  rw [same] at keeps
  exact disciplined_around keeps

end Table

def platformApi : ScenarioApi where
  toSocketApi := calmApi
  gaiStrerror _ := []
  epipe := 32
  enoent := 2
  sizeofSockaddrStorage := 128
  formatTiming _ _ _ := []

/-- A server that is found and answers, and a connection that hands its socket back as another one. -/
def answeringService : Program.Service NetCommand.Answer := fun _ command => match command with
  | .socketInitialize | .sslInitialize | .getaddrinfo _ _ _ | .setsockopt _ _ | .connect _ _ | .sslSetHostName _ _
  | .sslSetVerifyOption _ _ | .sslSetIoModeBlocking _ | .sslDoHandshake _ => .ok ()
  | .results => [⟨2,16,[93,184,216,34]⟩]
  | .socket _ => .ok 3
  | .send _ data | .sendto _ data _ => .ok (Fin.last data.length)
  | .recv _ size | .sslRead _ size => .ok ⟨(bytesOf "HTTP/1.1 200 OK".toList).take size,List.length_take_le _ _⟩
  | .recvAll _ _ => ⟨[],.closed⟩
  | .recvfrom _ _ => .error 11
  | .poll _ _ => ⟨.ok 1,1⟩
  | .errno => 0
  | .systemTick | .systemTickFrequency => 0
  | .randomGet size => ⟨List.replicate size 0,List.length_replicate⟩
  | .socketExit | .freeaddrinfo | .close _ | .sleepMilliseconds _ | .sslExit | .sslConnectionClose _
  | .sslContextClose _ | .curlEasyCleanup _ => ()
  | .sslCreateContext => .ok 7
  | .sslContextCreateConnection _ => .ok 8
  | .sslSetSocketDescriptor _ _ => .ok 4
  | .sslGetVerifyCertErrors _ => ⟨0,0,0,List.replicate 8 0,rfl⟩
  | .sslGetVerifyCertError _ => 0
  | .sslWrite _ data => .ok data.length.toUInt32
  | .sslGetCipherInfo _ => .ok ⟨"TLSv1.3".toList,"AES".toList⟩
  | .curlEasyInit => none
  | .curlEasyPerform _ _ _ => .error []

/-- A whole exchange over TLS, and one over a plain socket. -/
theorem runScenario_disciplined_answered :
    ((netCustody 2).Disciplined ((runHttpsGet platformApi .compiled).run answeringService []).1 ∧
      ((runHttpsGet platformApi .compiled).run answeringService []).2.success = true) ∧
    (netCustody 2).Disciplined (⟨.socketInitialize,.ok ()⟩ ::
      (((runPlainTcpConnect platformApi .compiled).run answeringService []).1 ++ [⟨.socketExit,()⟩])) ∧
    ((runPlainTcpConnect platformApi .compiled).run answeringService []).2.success = true := by
  have https : runScenario platformApi .compiled none "https_get".toList = some (runHttpsGet platformApi .compiled) := rfl
  have plain : runScenario platformApi .compiled none "plain_tcp_connect".toList =
      some (runPlainTcpConnect platformApi .compiled) := rfl
  refine ⟨⟨?_,by decide +kernel⟩,?_,by decide +kernel⟩
  · have run := runScenario_disciplined https answeringService
    rwa [around,if_pos (by decide)] at run
  · have run := runScenario_disciplined plain answeringService
    rwa [around,if_neg (by decide)] at run

end NxReverse.Toolbox.Scenarios
