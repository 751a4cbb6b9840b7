import NxReverse.Toolbox.HttpsScenarios

/-! What an HTTPS scenario has reached on its connection. No milestone is given up, so that one is needed says that a
call stands behind another. -/
namespace NxReverse.Toolbox.Scenarios.Https

open Text Words Program Custody BsdSystemUdp

/-- `unreachable` is granted by nothing. -/
inductive Milestone where
  | named (connection : SslObject)
  | verified (connection : SslObject)
  | shaken (connection : SslObject)
  | written (connection : SslObject)
  | answered (connection : SslObject)
  | unreachable
  deriving DecidableEq, Repr

/-- What a success needs of the response. -/
def acceptable (requireGlobalIp : Bool) (received : Bytes) : Bool :=
  decide (received.length > 0) && (!requireGlobalIp || (parseGlobalIpResponse (textOf received) [] []).accepted)

theorem success_judgeResponse {received : Bytes} {result : SocketResult} (requireGlobalIp : Bool)
    (success : result.success = decide (received.length > 0)) :
    (judgeResponse requireGlobalIp received result).success = acceptable requireGlobalIp received := by
  rw [judgeResponse,acceptable,← success]
  cases requireGlobalIp with
  | false => simp
  | true =>
    cases succeeded : result.success with
    | false => simp [succeeded]
    | true =>
      rw [judgeGlobalIp]
      cases accepted : (parseGlobalIpResponse (textOf received) [] []).accepted with
      | false => simp
      | true => simp [succeeded]

section Milestones

variable (target : HttpsTarget) (requireGlobalIp : Bool)

def requestOf : Bytes := bytesOf (getRequest target.path target.host)

def requires : NetCommand → List Milestone
  | .sslDoHandshake connection => [.named connection,.verified connection]
  | .sslWrite connection data => [if data = requestOf target then .shaken connection else .unreachable]
  | .sslRead connection _ => [.written connection]
  | _ => []

def reaches : (command : NetCommand) → command.Answer → List Milestone
  | .sslSetHostName connection host,.ok () => if host = target.host then [.named connection] else []
  | .sslSetVerifyOption connection options,.ok () =>
    if options = [.peerCa,.hostName,.dateCheck] then [.verified connection] else []
  | .sslDoHandshake connection,.ok () => [.shaken connection]
  | .sslWrite connection _,.ok _ => [.written connection]
  | .sslRead connection _,.ok segment => if acceptable requireGlobalIp segment.val then [.answered connection] else []
  | _,_ => []

def milestones : Custody NetExchange Milestone where
  needs e := requires target e.command
  bars _ _ := false
  frees _ := none
  grants e := reaches target requireGlobalIp e.command e.answer

end Milestones

def Answered (connection : SslObject) (left : List Milestone) (result : SocketResult) : Prop :=
  result.success = true → .answered connection ∈ left

def Reached (left : List Milestone) (result : SocketResult) : Prop :=
  result.success = true → ∃ connection, .answered connection ∈ left

section Parts

variable {α : Type} {target : HttpsTarget} {requireGlobalIp : Bool} {held : List Milestone} {connection : SslObject} {Q : List Milestone → α → Prop}

/-- A call that is no milestone and needs none. -/
theorem minds_aside {command : NetCommand} {next : command.Answer → NetProgram α} (free : requires target command = [])
    (still : ∀ answer, reaches target requireGlobalIp command answer = []) (later : ∀ answer, (milestones target requireGlobalIp).Minds held (next answer) Q) :
    (milestones target requireGlobalIp).Minds held (call command >>= next) Q := by
  refine minds_ask (fun _ k needed => ?_) (fun _ _ _ => rfl) (fun _ => rfl) fun answer => ?_
  · rw [show (milestones target requireGlobalIp).needs _ = requires target command from rfl,free] at needed
    cases needed
  · rw [show (milestones target requireGlobalIp).grants _ = reaches target requireGlobalIp command answer from rfl,still answer]
    exact later answer

variable (api : ScenarioApi) (config : ScenarioConfig)

/-- A step of the talk that ends it with a failure or goes on. -/
theorem minds_demand {β : Type} {result : SocketResult} {name : CString} {answer : Except Failure α} {next : α → Talk β}
    {kept : List Milestone → β → Prop} (fresh : result.success = false)
    (later : ∀ value, answer = .ok value →
      (milestones target requireGlobalIp).Minds held (next value).run (Ends kept fun _ failure => failure.success = false)) :
    (milestones target requireGlobalIp).Minds held (demand result name answer >>= next).run
      (Ends kept fun _ failure => failure.success = false) := by
  cases answer with
  | ok value => exact later value rfl
  | error rc => exact minds_pure fresh

theorem minds_exchangeRequest (ip : CString) {result : SocketResult}
    (fresh : result.success = false) (shaken : .shaken connection ∈ held) :
    (milestones target requireGlobalIp).Minds held (exchangeRequest config connection ip target requireGlobalIp result).run
      (Ends (Answered connection) fun _ failure => failure.success = false) := by
  refine Ensures.ite (fun _ => minds_pure fresh) fun _ => ?_
  refine minds_ask (fun _ => List.forall_mem_singleton.mpr ?_) (fun _ _ _ => rfl) (fun _ => rfl) fun written => ?_
  · rw [show requestOf target = bytesOf (getRequest target.path target.host) from rfl,if_pos rfl]
    exact shaken
  refine minds_demand fresh ?_
  rintro writeSize rfl
  refine minds_ask (fun _ => List.forall_mem_singleton.mpr List.mem_cons_self) (fun _ _ _ => rfl) (fun _ => rfl)
    fun answer => ?_
  refine minds_demand fresh ?_
  rintro received rfl
  refine minds_ask nofun (fun _ _ _ => rfl) (fun _ => rfl) fun info => minds_pure fun success => ?_
  refine List.mem_append_right _ (List.mem_append_left _ ?_)
  rw [success_judgeResponse requireGlobalIp rfl] at success
  rw [show (milestones target requireGlobalIp).grants ⟨.sslRead connection config.readBufferSize,.ok received⟩ =
    [.answered connection] from if_pos success]
  exact List.mem_cons_self

theorem minds_doHandshake {result : SocketResult} (fresh : result.success = false)
    (named : .named connection ∈ held) (verified : .verified connection ∈ held) :
    (milestones target requireGlobalIp).Minds held (doHandshake connection result).run
      (Ends (fun left _ => .shaken connection ∈ left) fun _ failure => failure.success = false) := by
  refine minds_ask (fun _ => ?_) (fun _ _ _ => rfl) (fun _ => rfl) fun shaken => ?_
  · exact List.forall_mem_cons.mpr ⟨named,List.forall_mem_singleton.mpr verified⟩
  cases shaken with
  | ok done => exact minds_pure List.mem_cons_self
  | error rc =>
    exact minds_aside rfl (fun _ => rfl) fun answer => minds_aside rfl (fun _ => rfl) fun error => minds_pure fresh

theorem minds_secureConnection {result : SocketResult} (fresh : result.success = false) :
    (milestones target requireGlobalIp).Minds held (secureConnection connection target.host result).run
      (Ends (fun left _ => .shaken connection ∈ left) fun _ failure => failure.success = false) := by
  refine minds_ask nofun (fun _ _ _ => rfl) (fun _ => rfl) fun answer => minds_demand fresh ?_
  rintro ⟨⟩ rfl
  have named : (milestones target requireGlobalIp).grants ⟨.sslSetHostName connection target.host,.ok ()⟩ =
    [.named connection] := if_pos rfl
  rw [named]
  refine minds_ask nofun (fun _ _ _ => rfl) (fun _ => rfl) fun answer => minds_demand fresh ?_
  rintro ⟨⟩ rfl
  have verified : (milestones target requireGlobalIp).grants
    ⟨.sslSetVerifyOption connection [.peerCa,.hostName,.dateCheck],.ok ()⟩ = [.verified connection] := rfl
  rw [verified]
  refine minds_aside rfl (fun _ => rfl) fun answer => minds_demand fresh ?_
  rintro ⟨⟩ rfl
  exact minds_doHandshake fresh (List.mem_cons_of_mem _ List.mem_cons_self) List.mem_cons_self

theorem minds_talkHttps (ip : CString) {result : SocketResult} (fresh : result.success = false) :
    (milestones target requireGlobalIp).Minds held (talkHttps config connection ip target requireGlobalIp result).run
      (Ends (Answered connection) fun _ failure => failure.success = false) :=
  minds_then (minds_secureConnection fresh) fun _ _ shaken => minds_exchangeRequest config ip fresh shaken

theorem minds_overConnection {context : SslObject} {talk : Talk SocketResult} (owned : Option Nat)
    (talks : (milestones target requireGlobalIp).Minds held talk.run
      (Ends (Answered connection) fun _ failure => failure.success = false)) :
    (milestones target requireGlobalIp).Minds held (overConnection context connection owned talk) Reached := by
  refine Minds.bind (talks.mono fun left outcome ends => ?_)
  have closed : (milestones target requireGlobalIp).Minds left (do
      call (.sslContextClose context)
      return verdict outcome) Reached := by
    refine minds_aside rfl (fun _ => rfl) fun _ => ?_
    cases outcome with
    | ok result => exact minds_pure fun success => ⟨connection,ends success⟩
    | error result => exact minds_pure fun success => absurd (ends.symm.trans success) Bool.false_ne_true
  refine minds_aside rfl (fun _ => rfl) fun _ => ?_
  cases owned with
  | none => exact closed
  | some descriptor => exact minds_aside rfl (fun _ => rfl) fun _ => closed

theorem reached_of_failure {result : SocketResult} (failure : result.success = false) : Reached held result :=
  fun success => absurd (failure.symm.trans success) Bool.false_ne_true

theorem minds_overSocket (ip : CString) (descriptor : Nat) {result : SocketResult} (fresh : result.success = false) :
    (milestones target requireGlobalIp).Minds held (overSocket api config target requireGlobalIp ip descriptor result)
      Reached := by
  have fails : ∀ {failure : SocketResult}, failure.success = false →
      (milestones target requireGlobalIp).Minds held (pure failure) Reached :=
    fun failed => minds_pure (reached_of_failure failed)
  refine minds_aside rfl (fun _ => rfl) fun created => ?_
  cases created with
  | error rc => exact minds_aside rfl (fun _ => rfl) fun _ => fails fresh
  | ok context =>
    refine minds_aside rfl (fun _ => rfl) fun created => ?_
    cases created with
    | error rc => exact minds_aside rfl (fun _ => rfl) fun _ => minds_aside rfl (fun _ => rfl) fun _ => fails fresh
    | ok connection =>
      refine minds_aside rfl (fun _ => rfl) fun transferred => ?_
      cases transferred with
      | ok owned => exact minds_overConnection (some owned) (minds_talkHttps config ip fresh)
      | error errno =>
        refine minds_ite (fun _ => minds_overConnection none (minds_talkHttps config ip fresh)) fun _ => ?_
        exact minds_aside rfl (fun _ => rfl) fun _ => minds_aside rfl (fun _ => rfl) fun _ =>
          minds_aside rfl (fun _ => rfl) fun _ => fails fresh

theorem minds_resolveIpv4 (host : CString) (port : UInt16) (socktype : SocketType) :
    (milestones target requireGlobalIp).Minds held (resolveIpv4 api host port socktype) fun left _ => left = held := by
  refine minds_aside rfl (fun _ => rfl) fun answer => ?_
  cases answer with
  | error gai => exact minds_pure rfl
  | ok done =>
    refine minds_aside rfl (fun _ => rfl) fun addresses => minds_aside rfl (fun _ => rfl) fun _ => ?_
    split
    · exact minds_pure rfl
    · exact minds_pure rfl

theorem minds_traceSetSockOpt {result : SocketResult} (fresh : result.success = false) (name : CString) (descriptor : Nat)
    (option : SocketOption) :
    (milestones target requireGlobalIp).Minds held (traceSetSockOpt api name descriptor option result)
      (Ends (fun left _ => left = held) fun left failure => left = held ∧ failure.success = false) := by
  refine minds_aside rfl (fun _ => rfl) fun answer => ?_
  cases answer with
  | error errno => exact minds_pure ⟨rfl,fresh⟩
  | ok done => exact minds_pure rfl

theorem minds_setSocketTimeouts {result : SocketResult} (fresh : result.success = false) (descriptor : Nat) :
    (milestones target requireGlobalIp).Minds held (setSocketTimeouts api config descriptor result)
      (Ends (fun left _ => left = held) fun left failure => left = held ∧ failure.success = false) := by
  refine Minds.bind ((minds_traceSetSockOpt api fresh _ descriptor _).mono fun left outcome ends => ?_)
  cases outcome with
  | error failure => exact minds_pure ends
  | ok done =>
    cases ends
    exact minds_traceSetSockOpt api fresh _ descriptor _

theorem minds_overScopes {result : SocketResult} (fresh : result.success = false) :
    (milestones target requireGlobalIp).Minds held (overScopes api config target requireGlobalIp result) Reached := by
  refine Minds.leading (minds_resolveIpv4 api _ _ _) fun resolved => ?_
  cases resolved with
  | error detail => exact minds_pure (reached_of_failure fresh)
  | ok endpoint =>
    refine minds_aside rfl (fun _ => rfl) fun opened => ?_
    cases opened with
    | error errno => exact minds_pure (reached_of_failure fresh)
    | ok descriptor =>
      refine Minds.bind ((minds_setSocketTimeouts api config fresh descriptor).mono fun left outcome ends => ?_)
      cases outcome with
      | error failure => exact minds_aside rfl (fun _ => rfl) fun _ => minds_pure (reached_of_failure ends.2)
      | ok done =>
        refine minds_aside rfl (fun _ => rfl) fun connected => ?_
        cases connected with
        | error errno => exact minds_aside rfl (fun _ => rfl) fun _ => minds_pure (reached_of_failure fresh)
        | ok done => exact minds_overSocket api config endpoint.ip descriptor fresh

theorem minds_runVerifiedHttpsGet (name : CString) :
    (milestones target requireGlobalIp).Minds [] (runVerifiedHttpsGet api config name target requireGlobalIp) Reached := by
  refine minds_aside rfl (fun _ => rfl) fun initialized => ?_
  cases initialized with
  | error rc => exact minds_pure (reached_of_failure rfl)
  | ok done =>
    have inner : (milestones target requireGlobalIp).Minds []
        (sslScope (startOf name) (overScopes api config target requireGlobalIp (startOf name))) Reached := by
      refine minds_aside rfl (fun _ => rfl) fun initialized => ?_
      cases initialized with
      | error rc => exact minds_pure (reached_of_failure rfl)
      | ok done =>
        refine Minds.bind ((minds_overScopes api config rfl).mono fun left result reached => ?_)
        exact minds_aside rfl (fun _ => rfl) fun _ => minds_pure reached
    refine Minds.bind (inner.mono fun left result reached => ?_)
    exact minds_aside rfl (fun _ => rfl) fun _ => minds_pure reached

end Parts

/-- The exchange by which a milestone is reached. -/
def Milestone.Shown (target : HttpsTarget) (requireGlobalIp : Bool) (e : NetExchange) : Milestone → Prop
  | named connection => e = ⟨.sslSetHostName connection target.host,.ok ()⟩
  | verified connection => e = ⟨.sslSetVerifyOption connection [.peerCa,.hostName,.dateCheck],.ok ()⟩
  | shaken connection => e = ⟨.sslDoHandshake connection,.ok ()⟩
  | written connection => ∃ data size, e = ⟨.sslWrite connection data,.ok size⟩
  | answered connection => ∃ size segment, e = ⟨.sslRead connection size,.ok segment⟩ ∧
      acceptable requireGlobalIp segment.val = true
  | unreachable => False

/-- A run that has its verdict from the connection that it has secured. -/
structure Secured (target : HttpsTarget) (requireGlobalIp : Bool) (trace : List NetExchange) (result : SocketResult) :
    Prop where
  options : ∀ before connection answer behind, trace = before ++ ⟨.sslDoHandshake connection,answer⟩ :: behind →
    (⟨.sslSetHostName connection target.host,.ok ()⟩ : NetExchange) ∈ before ∧
      (⟨.sslSetVerifyOption connection [.peerCa,.hostName,.dateCheck],.ok ()⟩ : NetExchange) ∈ before
  handshake : ∀ before connection data answer behind, trace = before ++ ⟨.sslWrite connection data,answer⟩ :: behind →
    (⟨.sslDoHandshake connection,.ok ()⟩ : NetExchange) ∈ before ∧ data = requestOf target
  request : ∀ before connection size answer behind, trace = before ++ ⟨.sslRead connection size,answer⟩ :: behind →
    ∃ data written, (⟨.sslWrite connection data,.ok written⟩ : NetExchange) ∈ before
  response : result.success = true → ∃ connection size segment,
    (⟨.sslRead connection size,.ok segment⟩ : NetExchange) ∈ trace ∧ acceptable requireGlobalIp segment.val = true

section Trace

variable {target : HttpsTarget} {requireGlobalIp : Bool} {connection : SslObject} {milestone : Milestone}
  {trace before behind : List NetExchange} {e : NetExchange}

theorem shown_of_reached (reached : milestone ∈ (milestones target requireGlobalIp).grants e) :
    milestone.Shown target requireGlobalIp e := by
  obtain ⟨command,answer⟩ := e
  change milestone ∈ reaches target requireGlobalIp command answer at reached
  simp only [reaches] at reached
  split at reached
  · split at reached
    · cases List.mem_singleton.mp reached
      next same => exact same ▸ rfl
    · cases reached
  · split at reached
    · cases List.mem_singleton.mp reached
      next same => exact same ▸ rfl
    · cases reached
  · cases List.mem_singleton.mp reached
    rfl
  · cases List.mem_singleton.mp reached
    exact ⟨_,_,rfl⟩
  · split at reached
    · cases List.mem_singleton.mp reached
      next accepted => exact ⟨_,_,rfl,accepted⟩
    · cases reached
  · cases reached

theorem shown_before (orderly : (milestones target requireGlobalIp).Orderly trace) (split : trace = before ++ e :: behind)
    (needed : milestone ∈ (milestones target requireGlobalIp).needs e) :
    ∃ earlier ∈ before, milestone.Shown target requireGlobalIp earlier := by
  obtain ⟨earlier,member,reached⟩ := orderly.provided split needed
  exact ⟨earlier,member,shown_of_reached reached⟩

/-- Whatever is answered: a handshake stands behind the target's host name and the verify options, the only data that
is written is the request for the target and stands behind a handshake that succeeded, and a success was read on such
a connection and, where it is asked for, carries an address. -/
theorem runVerifiedHttpsGet_secured (api : ScenarioApi) (config : ScenarioConfig) (name : CString) (target : HttpsTarget)
    (requireGlobalIp : Bool) (service : Program.Service NetCommand.Answer) :
    Secured target requireGlobalIp ((runVerifiedHttpsGet api config name target requireGlobalIp).run service []).1
      ((runVerifiedHttpsGet api config name target requireGlobalIp).run service []).2 := by
  obtain ⟨left,keeps,reached⟩ := Ensures.of_run (minds_runVerifiedHttpsGet api config name) service
  have orderly := keeps.orderly
  refine ⟨?_,?_,?_,fun success => ?_⟩
  · intro before connection answer behind split
    obtain ⟨earlier,namedBefore,rfl⟩ := shown_before orderly split List.mem_cons_self
    obtain ⟨earlier,verifiedBefore,rfl⟩ := shown_before orderly split (List.mem_cons_of_mem _ List.mem_cons_self)
    exact ⟨namedBefore,verifiedBefore⟩
  · intro before connection data answer behind split
    obtain ⟨earlier,member,shown⟩ := shown_before orderly split List.mem_cons_self
    by_cases same : data = requestOf target
    · rw [if_pos same] at shown
      cases shown
      exact ⟨member,same⟩
    · rw [if_neg same] at shown
      exact shown.elim
  · intro before connection size answer behind split
    obtain ⟨earlier,member,data,written,rfl⟩ := shown_before orderly split List.mem_cons_self
    exact ⟨data,written,member⟩
  · obtain ⟨connection,answered⟩ := reached success
    obtain ⟨e,member,granted⟩ := keeps.provided answered
    obtain ⟨size,segment,rfl,accepted⟩ := shown_of_reached granted
    exact ⟨connection,size,segment,member,accepted⟩

end Trace

end NxReverse.Toolbox.Scenarios.Https
