import NxccBridge.Core.Framing
import NxccBridge.Core.Runs
import Mathlib.Logic.Function.Basic

/-!
# The exclusive client of a VM server

`node/vm/base/src/binding.rs`: a layer in front of the service binds it to the
certificate of the first request and rejects all others.  A request checks and
binds under two acquisitions of the same lock, so requests interleave between
the two.  `run_vm_server` builds the layer and leaves it out of the server.
-/

namespace NxccBridge.ClientBinding

open Function
open NxccBridge.Framing
open NxccBridge.Runs

/-- The DER certificate of the first client that connects. -/
structure BoundClient where
  inner : Option Bytes
  deriving DecidableEq

namespace BoundClient

def new : BoundClient where
  inner := none

/-- Try to bind this client as the exclusive client. -/
def bindClient (boundClient : BoundClient) (certDer : Bytes) :
    BoundClient × Bool :=
  match boundClient.inner with
  | none => (⟨some certDer⟩, true)
  | some _ => (boundClient, false)

/-- Check if the provided cert matches the bound client's cert. -/
def isBoundClient (boundClient : BoundClient) (certDer : Bytes) : Bool :=
  boundClient.inner == some certDer

end BoundClient

inductive Code
  | permissionDenied
  | unauthenticated
  deriving DecidableEq

structure Status where
  code : Code
  message : String
  deriving DecidableEq

structure Response where
  httpStatus : ℕ
  contentType : String
  grpcStatus : Code
  grpcMessage : String
  deriving DecidableEq

def createErrorResponse (httpStatus : ℕ) (status : Status) : Response where
  httpStatus := httpStatus
  contentType := "application/grpc"
  grpcStatus := status.code
  grpcMessage := status.message

/-- A connection: the certificates that its client has to present. -/
structure Client where
  certificates : List Bytes

/-- The certificate that a client is known by. -/
def Client.certificate (client : Client) : Option Bytes :=
  client.certificates.head?

/-- What the transport tells of a TLS connection. -/
structure TlsConnectInfo where
  peerCerts : Option (List Bytes)

structure Request where
  tlsInfo : Option TlsConnectInfo

def extractClientCert (request : Request) : Option Bytes :=
  request.tlsInfo.bind fun tlsInfo => tlsInfo.peerCerts.bind List.head?

/-- Where the call for a request is. -/
inductive Stage
  | called
  /-- `is_bound_client` has said no. -/
  | checked (certBytes : Bytes)
  /-- The inner service has the request. -/
  | forwarded
  | rejected (response : Response)
  deriving DecidableEq

/-- `ClientBindingService::call` from one acquisition of the lock to the
next. -/
def ClientBindingService.call (boundClient : BoundClient) (request : Request) :
    Stage → BoundClient × Stage
  | .called =>
      match extractClientCert request with
      | some certBytes =>
          if boundClient.isBoundClient certBytes then
            (boundClient, .forwarded)
          else (boundClient, .checked certBytes)
      | none =>
          (boundClient, .rejected (createErrorResponse 401
            { code := .unauthenticated
              message := "Client certificate required" }))
  | .checked certBytes =>
      match boundClient.bindClient certBytes with
      | (bound, true) => (bound, .forwarded)
      | (bound, false) =>
          (bound, .rejected (createErrorResponse 403
            { code := .permissionDenied
              message := "Service is bound to another client" }))
  | .forwarded => (boundClient, .forwarded)
  | .rejected response => (boundClient, .rejected response)

structure ClientBindingLayer where
  boundClient : BoundClient

/-! ## Servers -/

variable {TlsConfig : Type}

/-- A gRPC server in front of the runtime. -/
structure Server (TlsConfig : Type) where
  tlsConfig : Option TlsConfig
  layer : Option ClientBindingLayer

namespace Server

def builder : Server TlsConfig where
  tlsConfig := none
  layer := none

def withTlsConfig (server : Server TlsConfig) (config : TlsConfig) :
    Server TlsConfig :=
  { server with tlsConfig := some config }

def withLayer (server : Server TlsConfig) (layer : ClientBindingLayer) :
    Server TlsConfig :=
  { server with layer := some layer }

/-- A request as it comes from its connection: without a TLS configuration the
transport has no peer certificates. -/
def request (server : Server TlsConfig) (client : Client) : Request where
  tlsInfo := server.tlsConfig.map fun _ =>
    { peerCerts :=
        if client.certificates = [] then none else some client.certificates }

end Server

/-- The server that `run_vm_server` starts: the layer and the TLS configuration
are not used. -/
def runVmServer (_serverTlsConfig : TlsConfig) : Server TlsConfig :=
  let boundClient := BoundClient.new
  let _clientBindingLayer : ClientBindingLayer := ⟨boundClient⟩
  Server.builder

/-- The server of the test of the layer. -/
def layeredServer (serverTlsConfig : TlsConfig) : Server TlsConfig :=
  (Server.builder.withTlsConfig serverTlsConfig).withLayer ⟨BoundClient.new⟩

/-- The certificate bound so far, and where each request is. -/
structure State where
  boundClient : BoundClient
  stage : ℕ → Stage

namespace Server

def initial (server : Server TlsConfig) : State where
  boundClient := (server.layer.map ClientBindingLayer.boundClient).getD .new
  stage := fun _ => .called

/-- One request goes on. -/
def turn (server : Server TlsConfig) (clients : ℕ → Client) (state : State)
    (i : ℕ) : State :=
  match server.layer with
  | none => { state with stage := update state.stage i .forwarded }
  | some _ =>
      let next := ClientBindingService.call state.boundClient
        (server.request (clients i)) (state.stage i)
      { boundClient := next.1
        stage := update state.stage i next.2 }

/-- Requests go on in some order; each is on the connection of its client. -/
def run (server : Server TlsConfig) (clients : ℕ → Client)
    (turns : List ℕ) : State :=
  Runs.run (server.turn clients) server.initial turns

end Server

/-- All requests that reach the runtime carry the bound certificate, and no
request that carries it is rejected. -/
structure Exclusive (server : Server TlsConfig) (clients : ℕ → Client)
    (state : State) : Prop where
  forwarded : ∀ i, state.stage i = .forwarded → ∃ certificate,
    state.boundClient.inner = some certificate ∧
      extractClientCert (server.request (clients i)) = some certificate
  accepted : ∀ certificate, state.boundClient.inner = some certificate →
    ∀ i, extractClientCert (server.request (clients i)) = some certificate →
      ∀ response, state.stage i ≠ .rejected response

/-- Two requests of one client have found nothing bound. -/
def Waits (state : State) (binder i : ℕ) : Prop :=
  i ≠ binder ∧ state.boundClient.inner = none ∧ ∃ cert,
    state.stage binder = .checked cert ∧ state.stage i = .checked cert

/-- A request waits for the lock to bind while another request of its client is
bound, and fails to bind after that. -/
def Overtaken (server : Server TlsConfig) (clients : ℕ → Client)
    (turns : List ℕ) (i : ℕ) : Prop :=
  ∃ before binder after, turns = before ++ binder :: after ∧
    Waits (server.run clients before) binder i ∧ i ∈ after

/-! ## The layer

What a turn of a request does behind the layer, and what all turns together
leave: only requests of the bound client have passed. -/

/-- What a request's turn leaves as bound, and where it leaves the request. -/
inductive Turned (clients : ℕ → Client) (state : State) (i : ℕ) :
    BoundClient → Stage → Prop
  | anonymous (response : Response) (hcalled : state.stage i = .called)
      (hcertificate : (clients i).certificate = none) :
      Turned clients state i state.boundClient (.rejected response)
  | bound (cert : Bytes) (hcalled : state.stage i = .called)
      (hcertificate : (clients i).certificate = some cert)
      (hbound : state.boundClient.inner = some cert) :
      Turned clients state i state.boundClient .forwarded
  | checks (cert : Bytes) (hcalled : state.stage i = .called)
      (hcertificate : (clients i).certificate = some cert)
      (hother : state.boundClient.inner ≠ some cert) :
      Turned clients state i state.boundClient (.checked cert)
  | binds (cert : Bytes) (hchecked : state.stage i = .checked cert)
      (hunbound : state.boundClient.inner = none) :
      Turned clients state i ⟨some cert⟩ .forwarded
  | fails (cert other : Bytes) (response : Response)
      (hchecked : state.stage i = .checked cert)
      (hbound : state.boundClient.inner = some other) :
      Turned clients state i state.boundClient (.rejected response)
  | done (hdone : state.stage i = .forwarded ∨
        ∃ response, state.stage i = .rejected response) :
      Turned clients state i state.boundClient (state.stage i)

theorem extractClientCert_layered (config : TlsConfig) (client : Client) :
    extractClientCert ((layeredServer config).request client) =
      client.certificate := by
  cases client with
  | mk certificates => cases certificates <;> rfl

theorem layered_turn (config : TlsConfig) (clients : ℕ → Client)
    (state : State) (i : ℕ) :
    ∃ bound stage, Turned clients state i bound stage ∧
      (layeredServer config).turn clients state i =
        ⟨bound, update state.stage i stage⟩ := by
  refine ⟨_, _, ?_, rfl⟩
  cases hstage : state.stage i with
  | called =>
      rw [ClientBindingService.call, extractClientCert_layered]
      cases hcertificate : (clients i).certificate with
      | none => exact .anonymous _ hstage hcertificate
      | some cert =>
          simp only [BoundClient.isBoundClient, beq_iff_eq]
          split_ifs with hbound
          · exact .bound cert hstage hcertificate hbound
          · exact .checks cert hstage hcertificate hbound
  | checked cert =>
      rw [ClientBindingService.call, BoundClient.bindClient]
      cases hbound : state.boundClient.inner with
      | none => exact .binds cert hstage hbound
      | some other => exact .fails cert other _ hstage hbound
  | forwarded =>
      have hdone : Turned clients state i state.boundClient
          (state.stage i) := .done (Or.inl hstage)
      rwa [hstage] at hdone
  | rejected response =>
      have hdone : Turned clients state i state.boundClient
          (state.stage i) := .done (Or.inr ⟨response, hstage⟩)
      rwa [hstage] at hdone

section Inversion

variable {clients : ℕ → Client} {state : State} {i : ℕ} {bound : BoundClient}
  {stage : Stage} {cert other : Bytes}

theorem Turned.eq_of_done (hturned : Turned clients state i bound stage)
    (hdone : state.stage i = .forwarded ∨
      ∃ response, state.stage i = .rejected response) :
    stage = state.stage i := by
  rcases hdone with hforwarded | ⟨response, hrejected⟩
  · cases hturned <;> simp_all
  · cases hturned <;> simp_all

theorem Turned.eq_of_unbound (hturned : Turned clients state i bound stage)
    (hchecked : state.stage i = .checked cert)
    (hunbound : state.boundClient.inner = none) :
    bound = ⟨some cert⟩ ∧ stage = .forwarded := by
  cases hturned <;> simp_all

theorem Turned.rejected_of_bound
    (hturned : Turned clients state i bound stage)
    (hchecked : state.stage i = .checked cert)
    (hbound : state.boundClient.inner = some other) :
    ∃ response, stage = .rejected response := by
  cases hturned <;> simp_all

/-- Where something is bound after the turn and nothing before it. -/
theorem Turned.binds_of_bound (hturned : Turned clients state i bound stage)
    (hunbound : state.boundClient.inner = none)
    (hbound : bound.inner = some cert) :
    state.stage i = .checked cert ∧ stage = .forwarded := by
  cases hturned <;> simp_all

/-- The turn of a request of the bound client. -/
theorem Turned.of_bound (hturned : Turned clients state i bound stage)
    (hcertificate : (clients i).certificate = some cert)
    (hbound : state.boundClient.inner = some cert) :
    stage = .forwarded ∨ ∃ response, stage = .rejected response ∧
      ((∃ checked, state.stage i = .checked checked) ∨
        state.stage i = .rejected response) := by
  cases hturned with
  | anonymous response hcalled hnone => simp [hcertificate] at hnone
  | bound checked hcalled hsome hpasses => exact Or.inl rfl
  | checks checked hcalled hsome hother =>
      rw [hcertificate] at hsome
      exact absurd (hbound.trans hsome) hother
  | binds checked hchecked hunbound => simp [hbound] at hunbound
  | fails checked other response hchecked hrefused =>
      exact Or.inr ⟨response, rfl, Or.inl ⟨checked, hchecked⟩⟩
  | done hdone =>
      rcases hdone with hforwarded | ⟨response, hrejected⟩
      · exact Or.inl hforwarded
      · exact Or.inr ⟨response, hrejected, Or.inr hrejected⟩

end Inversion

/-- What requests have come to agrees with what is bound. -/
structure Consistent (clients : ℕ → Client) (state : State) : Prop where
  checked : ∀ i cert, state.stage i = .checked cert →
    (clients i).certificate = some cert
  forwarded : ∀ i, state.stage i = .forwarded →
    ∃ cert, (clients i).certificate = some cert ∧
      state.boundClient.inner = some cert
  rejected : ∀ i response, state.stage i = .rejected response →
    state.boundClient.inner = none → (clients i).certificate = none

/-- Where one request gets to, with the same certificate bound. -/
theorem Consistent.put {clients : ℕ → Client} {state : State}
    (hconsistent : Consistent clients state) (i : ℕ) {stage : Stage}
    (hchecked : ∀ cert, stage = .checked cert →
      (clients i).certificate = some cert)
    (hforwarded : stage = .forwarded → ∃ cert,
      (clients i).certificate = some cert ∧
        state.boundClient.inner = some cert)
    (hrejected : ∀ response, stage = .rejected response →
      state.boundClient.inner = none → (clients i).certificate = none) :
    Consistent clients
      { boundClient := state.boundClient
        stage := update state.stage i stage } := by
  constructor
  · intro j cert hstage
    by_cases hsame : j = i
    · subst hsame
      exact hchecked cert (by simpa using hstage)
    · exact hconsistent.checked j cert (by simpa [hsame] using hstage)
  · intro j hstage
    by_cases hsame : j = i
    · subst hsame
      exact hforwarded (by simpa using hstage)
    · exact hconsistent.forwarded j (by simpa [hsame] using hstage)
  · intro j response hstage
    by_cases hsame : j = i
    · subst hsame
      exact hrejected response (by simpa using hstage)
    · exact hconsistent.rejected j response (by simpa [hsame] using hstage)

/-- Nothing has passed before the first binding. -/
theorem Consistent.bind {clients : ℕ → Client} {state : State}
    (hconsistent : Consistent clients state) {i : ℕ} {cert : Bytes}
    (hchecked : state.stage i = .checked cert)
    (hunbound : state.boundClient.inner = none) :
    Consistent clients
      { boundClient := ⟨some cert⟩
        stage := update state.stage i .forwarded } := by
  constructor
  · intro j other hstage
    by_cases hsame : j = i
    · simp [hsame] at hstage
    · exact hconsistent.checked j other (by simpa [hsame] using hstage)
  · intro j hstage
    by_cases hsame : j = i
    · exact ⟨cert, hsame ▸ hconsistent.checked i cert hchecked, rfl⟩
    · obtain ⟨other, -, hbound⟩ := hconsistent.forwarded j
        (by simpa [hsame] using hstage)
      simp [hunbound] at hbound
  · intro j response hstage hnone
    simp at hnone

theorem Consistent.turn {config : TlsConfig} {clients : ℕ → Client}
    {state : State} (hconsistent : Consistent clients state) (i : ℕ) :
    Consistent clients ((layeredServer config).turn clients state i) := by
  obtain ⟨bound, stage, hturned, hnext⟩ :=
    layered_turn config clients state i
  rw [hnext]
  cases hturned with
  | anonymous response hcalled hcertificate =>
      exact hconsistent.put i (by simp) (by simp)
        (fun _ _ _ => hcertificate)
  | bound cert hcalled hcertificate hbound =>
      exact hconsistent.put i (by simp)
        (fun _ => ⟨cert, hcertificate, hbound⟩) (by simp)
  | checks cert hcalled hcertificate hother =>
      exact hconsistent.put i (by simp [hcertificate]) (by simp) (by simp)
  | binds cert hchecked hunbound => exact hconsistent.bind hchecked hunbound
  | fails cert other response hchecked hbound =>
      exact hconsistent.put i (by simp) (by simp) (by simp [hbound])
  | done hdone =>
      exact hconsistent.put i (hconsistent.checked i)
        (hconsistent.forwarded i) (hconsistent.rejected i)

theorem layered_consistent (config : TlsConfig) (clients : ℕ → Client)
    (turns : List ℕ) :
    Consistent clients ((layeredServer config).run clients turns) := by
  have hinitial : Consistent clients (layeredServer config).initial := by
    constructor <;> simp [Server.initial]
  exact run_always (Consistent clients) turns hinitial
    fun _ i hconsistent => hconsistent.turn i

/-! ## Requests overtaken by others of their client -/

theorem Server.run_concat (server : Server TlsConfig)
    (clients : ℕ → Client) (turns : List ℕ) (i : ℕ) :
    server.run clients (turns ++ [i]) =
      server.turn clients (server.run clients turns) i :=
  Runs.run_concat ..

/-- The turns of others, and all turns after a request's answer, leave it. -/
theorem layered_turn_stage {config : TlsConfig} {clients : ℕ → Client}
    {state : State} {i j : ℕ}
    (hleft : i ≠ j ∨ state.stage i = .forwarded ∨
      ∃ response, state.stage i = .rejected response) :
    ((layeredServer config).turn clients state j).stage i =
      state.stage i := by
  obtain ⟨bound, stage, hturned, hnext⟩ :=
    layered_turn config clients state j
  rw [hnext]
  by_cases hsame : i = j
  · subst hsame
    simp [hturned.eq_of_done (hleft.resolve_left (not_not.mpr rfl))]
  · simp [hsame]

theorem layered_turn_bound {config : TlsConfig} {clients : ℕ → Client}
    {state : State} {cert : Bytes}
    (hbound : state.boundClient.inner = some cert) (i : ℕ) :
    ((layeredServer config).turn clients state i).boundClient.inner =
      some cert := by
  obtain ⟨bound, stage, hturned, hnext⟩ :=
    layered_turn config clients state i
  rw [hnext]
  cases hturned with
  | binds other hchecked hunbound => simp [hunbound] at hbound
  | _ => exact hbound

/-- An answered request stays answered. -/
theorem layered_turns_stage {config : TlsConfig} {clients : ℕ → Client}
    {state : State} {i : ℕ}
    (hdone : state.stage i = .forwarded ∨
      ∃ response, state.stage i = .rejected response) (turns : List ℕ) :
    (Runs.run ((layeredServer config).turn clients) state turns).stage i =
      state.stage i := by
  induction turns using List.reverseRecOn with
  | nil => rfl
  | append_singleton turns j ih =>
      rw [← ih] at hdone
      rw [Runs.run_concat, layered_turn_stage (Or.inr hdone), ih]

/-- Once a certificate is bound, a request that waits to bind is rejected when
its turn comes. -/
theorem rejected_of_waiting {config : TlsConfig} {clients : ℕ → Client}
    {state : State} {i : ℕ} {bound cert : Bytes} {turns : List ℕ}
    (hbound : state.boundClient.inner = some bound)
    (hchecked : state.stage i = .checked cert) (hturn : i ∈ turns) :
    ∃ response,
      (Runs.run ((layeredServer config).turn clients) state turns).stage i =
        .rejected response := by
  induction turns generalizing state with
  | nil => simp at hturn
  | cons j turns ih =>
      rw [Runs.run_cons]
      by_cases hsame : i = j
      · subst hsame
        have hrejected : ∃ response,
            ((layeredServer config).turn clients state i).stage i =
              .rejected response := by
          obtain ⟨next, stage, hturned, hnext⟩ :=
            layered_turn config clients state i
          obtain ⟨response, rfl⟩ := hturned.rejected_of_bound hchecked hbound
          exact ⟨response, by simp [hnext]⟩
        rw [layered_turns_stage (Or.inr hrejected)]
        exact hrejected
      · apply ih (layered_turn_bound hbound j)
        · rw [layered_turn_stage (Or.inl hsame), hchecked]
        · simpa [hsame] using hturn

theorem Overtaken.rejected {config : TlsConfig} {clients : ℕ → Client}
    {turns : List ℕ} {i : ℕ}
    (hovertaken : Overtaken (layeredServer config) clients turns i) :
    ∃ binder cert response,
      (clients binder).certificate = some cert ∧
        (clients i).certificate = some cert ∧
        ((layeredServer config).run clients turns).stage binder =
          .forwarded ∧
        ((layeredServer config).run clients turns).stage i =
          .rejected response := by
  obtain ⟨before, binder, after, rfl, ⟨hother, hunbound, cert, hbinder,
    hwaiting⟩, hturn⟩ := hovertaken
  have hconsistent := layered_consistent config clients before
  -- the binder's turn
  obtain ⟨bound, stage, hturned, hnext⟩ := layered_turn config clients
    ((layeredServer config).run clients before) binder
  obtain ⟨rfl, rfl⟩ := hturned.eq_of_unbound hbinder hunbound
  have hrun : (layeredServer config).run clients
      (before ++ binder :: after) =
        Runs.run ((layeredServer config).turn clients)
          ⟨⟨some cert⟩, update
            ((layeredServer config).run clients before).stage binder
              .forwarded⟩ after := by
    rw [← hnext, Server.run, Runs.run_append, Runs.run_cons]
    rfl
  obtain ⟨response, hrejected⟩ : ∃ response,
      (Runs.run ((layeredServer config).turn clients)
        ⟨⟨some cert⟩, update
          ((layeredServer config).run clients before).stage binder
            .forwarded⟩ after).stage i = .rejected response :=
    rejected_of_waiting rfl (by simpa [hother] using hwaiting) hturn
  refine ⟨binder, cert, response, hconsistent.checked _ _ hbinder,
    hconsistent.checked _ _ hwaiting, ?_, ?_⟩
  · rw [hrun, layered_turns_stage (Or.inl (by simp))]
    simp
  · rw [hrun, hrejected]

/-- A request of the bound client that has found nothing bound, and that some
other was bound before. -/
def Passed (server : Server TlsConfig) (clients : ℕ → Client)
    (turns : List ℕ) (i : ℕ) : Prop :=
  ∃ before binder after, turns = before ++ binder :: after ∧
    Waits (server.run clients before) binder i

theorem Passed.concat {server : Server TlsConfig} {clients : ℕ → Client}
    {turns : List ℕ} {i : ℕ} (hpassed : Passed server clients turns i)
    (j : ℕ) : Passed server clients (turns ++ [j]) i := by
  obtain ⟨before, binder, after, rfl, hwaits⟩ := hpassed
  exact ⟨before, binder, after ++ [j], by simp, hwaits⟩

theorem Passed.overtaken {server : Server TlsConfig} {clients : ℕ → Client}
    {turns : List ℕ} {i : ℕ} (hpassed : Passed server clients turns i) :
    Overtaken server clients (turns ++ [i]) i := by
  obtain ⟨before, binder, after, rfl, hwaits⟩ := hpassed
  exact ⟨before, binder, after ++ [i], by simp, hwaits, by simp⟩

theorem Overtaken.concat {server : Server TlsConfig} {clients : ℕ → Client}
    {turns : List ℕ} {i : ℕ} (hovertaken : Overtaken server clients turns i)
    (j : ℕ) : Overtaken server clients (turns ++ [j]) i := by
  obtain ⟨before, binder, after, rfl, hwaits, hturn⟩ := hovertaken
  exact ⟨before, binder, after ++ [j], by simp, hwaits,
    List.mem_append_left _ hturn⟩

/-- A request of the bound client that waits to bind has been passed by
another, and one that is rejected has been overtaken. -/
theorem layered_history (config : TlsConfig) (clients : ℕ → Client)
    (turns : List ℕ) {i : ℕ} {cert : Bytes}
    (hcertificate : (clients i).certificate = some cert)
    (hbound : ((layeredServer config).run clients
      turns).boundClient.inner = some cert) :
    (((layeredServer config).run clients turns).stage i = .checked cert →
      Passed (layeredServer config) clients turns i) ∧
    ∀ response,
      ((layeredServer config).run clients turns).stage i =
          .rejected response →
        Overtaken (layeredServer config) clients turns i := by
  induction turns using List.reverseRecOn with
  | nil => simp [Server.run, Server.initial]
  | append_singleton turns j ih =>
      have hconsistent := layered_consistent config clients turns
      obtain ⟨bound, stage, hturned, hnext⟩ := layered_turn config clients
        ((layeredServer config).run clients turns) j
      rw [Server.run_concat, hnext] at hbound ⊢
      cases hbefore :
          ((layeredServer config).run clients turns).boundClient.inner with
      | none =>
          -- the first binding
          obtain ⟨hbinder, rfl⟩ := hturned.binds_of_bound hbefore hbound
          by_cases hsame : i = j
          · simp [hsame]
          · simp only [update_of_ne hsame]
            constructor
            · intro hwaiting
              exact ⟨turns, j, [], rfl, hsame, hbefore, cert, hbinder,
                hwaiting⟩
            · intro response hrejected
              have hnone := hconsistent.rejected i response hrejected hbefore
              simp [hcertificate] at hnone
      | some other =>
          have hkept : ((layeredServer config).turn clients
              ((layeredServer config).run clients turns)
                j).boundClient.inner = some other :=
            layered_turn_bound hbefore j
          rw [hnext] at hkept
          obtain rfl : other = cert :=
            Option.some.inj (hkept.symm.trans hbound)
          obtain ⟨ihwaiting, ihrejected⟩ := ih hbefore
          by_cases hsame : i = j
          · subst hsame
            simp only [update_self]
            rcases hturned.of_bound hcertificate hbefore with
              rfl | ⟨refusal, rfl, hfrom⟩
            · simp
            · refine ⟨by simp, fun _ _ => ?_⟩
              rcases hfrom with ⟨checked, hchecked⟩ | hrejected
              · have hsame := hconsistent.checked i checked hchecked
                rw [hcertificate, Option.some.injEq] at hsame
                exact (ihwaiting (hsame ▸ hchecked)).overtaken
              · exact (ihrejected refusal hrejected).concat i
          · simp only [update_of_ne hsame]
            exact ⟨fun hwaiting => (ihwaiting hwaiting).concat j,
              fun response hrejected =>
                (ihrejected response hrejected).concat j⟩

/-- Behind the layer the client is exclusive exactly in the runs in which no
request of its own is overtaken. -/
theorem layered_exclusive_iff (config : TlsConfig) (clients : ℕ → Client)
    (turns : List ℕ) :
    Exclusive (layeredServer config) clients
        ((layeredServer config).run clients turns) ↔
      ∀ i, ¬Overtaken (layeredServer config) clients turns i := by
  have hconsistent := layered_consistent config clients turns
  constructor
  · intro hexclusive i hovertaken
    obtain ⟨binder, cert, response, hbinder, hi, hpassed, hrejected⟩ :=
      hovertaken.rejected
    obtain ⟨certificate, hbound, hcarried⟩ :=
      hexclusive.forwarded binder hpassed
    rw [extractClientCert_layered, hbinder] at hcarried
    refine hexclusive.accepted certificate hbound i ?_ response hrejected
    rw [extractClientCert_layered, hi, hcarried]
  · intro hnone
    constructor
    · intro i hforwarded
      obtain ⟨cert, hcertificate, hbound⟩ := hconsistent.forwarded i hforwarded
      exact ⟨cert, hbound, by rw [extractClientCert_layered, hcertificate]⟩
    · intro certificate hbound i hcertificate response hrejected
      rw [extractClientCert_layered] at hcertificate
      exact hnone i ((layered_history config clients turns hcertificate
        hbound).2 response hrejected)

/-- One client with two requests at once. -/
example : ((layeredServer ()).run (fun _ => ⟨[[1]]⟩) [0, 1, 0, 1]).stage 1 =
    .rejected ⟨403, "application/grpc", .permissionDenied,
      "Service is bound to another client"⟩ := by
  decide

/-! ## The server as it is started -/

theorem runVmServer_stage (config : TlsConfig) (clients : ℕ → Client)
    (turns : List ℕ) (i : ℕ) :
    ((runVmServer config).run clients turns).stage i =
      if i ∈ turns then .forwarded else .called := by
  induction turns using List.reverseRecOn with
  | nil => rfl
  | append_singleton turns j ih =>
      have hturn : ((runVmServer config).run clients (turns ++ [j])).stage =
          update ((runVmServer config).run clients turns).stage j
            .forwarded := by
        rw [Server.run_concat]
        rfl
      rw [hturn]
      by_cases hsame : i = j
      · simp [hsame]
      · simp [hsame, ih]

/-- No request passes the binding, so nothing is ever bound. -/
theorem runVmServer_boundClient (config : TlsConfig) (clients : ℕ → Client)
    (turns : List ℕ) :
    ((runVmServer config).run clients turns).boundClient.inner = none := by
  induction turns using List.reverseRecOn with
  | nil => rfl
  | append_singleton turns j ih =>
      rw [Server.run_concat]
      exact ih

theorem runVmServer_exclusive_iff (config : TlsConfig)
    (clients : ℕ → Client) (turns : List ℕ) :
    Exclusive (runVmServer config) clients
        ((runVmServer config).run clients turns) ↔
      turns = [] := by
  have hunbound := runVmServer_boundClient config clients turns
  constructor
  · intro hexclusive
    rw [List.eq_nil_iff_forall_not_mem]
    intro i hi
    have hforwarded : ((runVmServer config).run clients turns).stage i =
        .forwarded := by
      rw [runVmServer_stage, if_pos hi]
    obtain ⟨certificate, hbound, -⟩ := hexclusive.forwarded i hforwarded
    rw [hunbound] at hbound
    cases hbound
  · rintro rfl
    constructor
    · intro i hforwarded
      cases hforwarded
    · intro certificate hbound
      cases hbound

/-- Every request reaches the runtime of a started server, with no certificate to
tell its client by: there is no exclusive client once a request is made.  Behind
the layer there is one, unless its own first requests overtake each other. -/
theorem exclusive_client_iff (config : TlsConfig) (clients : ℕ → Client)
    (turns : List ℕ) :
    (Exclusive (runVmServer config) clients
        ((runVmServer config).run clients turns) ↔ turns = []) ∧
    (Exclusive (layeredServer config) clients
        ((layeredServer config).run clients turns) ↔
      ∀ i, ¬Overtaken (layeredServer config) clients turns i) :=
  ⟨runVmServer_exclusive_iff config clients turns,
    layered_exclusive_iff config clients turns⟩

/-- Two requests of clients with different certificates. -/
def twoClients (i : ℕ) : Client where
  certificates := if i = 0 then [[1]] else [[2]]

/-- Both clients reach the runtime, and nothing is bound. -/
theorem client_not_exclusive :
    ((runVmServer ()).run twoClients [0, 1]).stage 0 = .forwarded ∧
      ((runVmServer ()).run twoClients [0, 1]).stage 1 = .forwarded ∧
      ((runVmServer ()).run twoClients [0, 1]).boundClient.inner = none ∧
      ¬Exclusive (runVmServer ()) twoClients
        ((runVmServer ()).run twoClients [0, 1]) := by
  refine ⟨by decide, by decide, rfl, ?_⟩
  intro hexclusive
  obtain ⟨certificate, hbound, -⟩ := hexclusive.forwarded 0 (by decide)
  cases hbound

end NxccBridge.ClientBinding
