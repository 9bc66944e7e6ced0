import NxccBridge.Daemon.SecretsService

/-!
# Gateways of a chain

`node/daemon/src/web3/gateways.rs`.  A gateway connects to all its URLs at the
first call and keeps what it has connected to; every later call is served from
there.  The policy URL is asked of the first URL alone.
-/

namespace NxccBridge.Gateways

open Function
open NxccBridge.Interface
open NxccBridge.DaemonSecrets (AppError)

variable {Provider : Type*}

/-- What the daemon finds outside: what a text parses to, the endpoints that
accept a WebSocket, the answers of `tokenURI` and the list of chains. -/
structure Web (Provider : Type*) where
  parseUrl : String → Except String Url
  connectWs : Url → Option Provider
  tokenUri : Url → Address → U256 → Except String String
  rpcsForChain : UInt64 → Option (List String)

/-! ## Gateways -/

/-- Abstraction over one or more gateways for a chain. -/
structure EventGateway (Provider : Type*) where
  urls : List String
  providers : List Provider

def EventGateway.new (urls : List String) : EventGateway Provider where
  urls := urls
  providers := []

/-- The body of the loop of `provider`. -/
def Web.connect (web : Web Provider) (rpcUrl : String) :
    Except AppError Provider :=
  match web.parseUrl rpcUrl with
  | .error e => .error (.service s!"Invalid RPC URL {rpcUrl}: {e}")
  | .ok url =>
      match web.connectWs url with
      | none => .error (.service s!"Failed to connect provider to {rpcUrl}")
      | some provider => .ok provider

/-- The loop over the URLs; the list of providers outlives an early return. -/
def connectAll (web : Web Provider) :
    List String → List Provider → List Provider × Except AppError Unit
  | [], providers => (providers, .ok ())
  | rpcUrl :: urls, providers =>
      match web.connect rpcUrl with
      | .error e => (providers, .error e)
      | .ok provider => connectAll web urls (providers ++ [provider])

/-- One call.  The list is read once more under the write lock, so of calls that
overlap each one is as if it held that lock throughout. -/
def EventGateway.provider (web : Web Provider)
    (gateway : EventGateway Provider) :
    EventGateway Provider × Except AppError Provider :=
  match gateway.providers.head? with
  | some provider => (gateway, .ok provider)
  | none =>
      match connectAll web gateway.urls gateway.providers with
      | (providers, .error e) => ({ gateway with providers }, .error e)
      | (providers, .ok ()) =>
          ({ gateway with providers },
            match providers.head? with
            | some provider => .ok provider
            | none => .error (.service "No gateways available"))

/-- The gateway after a number of calls. -/
def EventGateway.afterCalls (web : Web Provider) (calls : ℕ)
    (gateway : EventGateway Provider) : EventGateway Provider :=
  (fun gateway => (gateway.provider web).1)^[calls] gateway

/-! ## The manager -/

structure GatewayManager (Provider : Type*) where
  gateways : ChainIdentifier → Option (EventGateway Provider)

def GatewayManager.new : GatewayManager Provider where
  gateways := fun _ => none

def getRpcUrlsForChainId (web : Web Provider) (chainId : UInt64) :
    Except AppError (List String) :=
  if chainId = 0 then .ok ["mock://gateway.example.com"]
  -- the default of Ganache and Anvil
  else if chainId = 1337 ∨ chainId = 31337 then .ok ["ws://127.0.0.1:8545"]
  else
    match (web.rpcsForChain chainId).bind List.head? with
    | some url => .ok [url]
    | none =>
        .error (.service s!"No RPC URL configured for chain ID {chainId}")

/-- Only the gateways of a chain ID are shared between the callers. -/
def GatewayManager.getGateway (web : Web Provider)
    (manager : GatewayManager Provider) (chain : ChainIdentifier) :
    GatewayManager Provider × Except AppError (EventGateway Provider) :=
  match chain with
  | .gatewayUrl url => (manager, .ok (.new [url.serialization]))
  | .gatewayUrls urls => (manager, .ok (.new (urls.map Url.serialization)))
  | .chainId chainId =>
      match manager.gateways (.chainId chainId) with
      | some gateway => (manager, .ok gateway)
      | none =>
          match getRpcUrlsForChainId web chainId with
          | .error e => (manager, .error e)
          | .ok rpcUrls =>
              (⟨update manager.gateways (.chainId chainId)
                (some (.new rpcUrls))⟩, .ok (.new rpcUrls))

def GatewayManager.gatewaysForEvent (web : Web Provider)
    (manager : GatewayManager Provider) (chain : ChainIdentifier)
    (urls : List String) :
    GatewayManager Provider × Except AppError (EventGateway Provider) :=
  if urls.isEmpty then manager.getGateway web chain
  else (manager, .ok (.new urls))

/-- What `get_policy_url` does with the URL it has picked. -/
def Web.askPolicyUrl (web : Web Provider) (identityAddress : Address)
    (identityId : U256) (rpcUrl : String) : Except AppError String :=
  if "mock://".toList.isPrefixOf rpcUrl.toList then
    .ok "mock://policy.example.com"
  else
    match web.parseUrl rpcUrl with
    | .error e => .error (.service s!"Invalid RPC URL {rpcUrl}: {e}")
    | .ok url =>
        match web.tokenUri url identityAddress identityId with
        | .error e => .error (.service s!"Failed to fetch policy URL: {e}")
        | .ok policyUrl => .ok policyUrl

def getPolicyUrl (web : Web Provider) (chain : ChainIdentifier)
    (identityAddress : Address) (identityId : U256) :
    Except AppError String := do
  let rpcUrls ←
    match chain with
    | .gatewayUrl url => .ok [url.serialization]
    | .gatewayUrls urls => .ok (urls.map Url.serialization)
    | .chainId chainId => getRpcUrlsForChainId web chainId
  match rpcUrls.head? with
  | none => .error (.service "No RPC URL available for chain")
  | some rpcUrl => web.askPolicyUrl identityAddress identityId rpcUrl

/-! ## The loop -/

def Web.Reachable (web : Web Provider) (rpcUrl : String) : Prop :=
  ∃ provider, web.connect rpcUrl = .ok provider

/-- The loop runs to its end exactly over reachable URLs. -/
theorem connectAll_ok_iff (web : Web Provider) (urls : List String)
    (providers : List Provider) :
    (connectAll web urls providers).2 = .ok () ↔
      ∀ url ∈ urls, web.Reachable url := by
  induction urls generalizing providers with
  | nil => simp [connectAll]
  | cons url urls ih =>
      rw [List.forall_mem_cons]
      cases hconnect : web.connect url with
      | error e => simp [connectAll, Web.Reachable, hconnect]
      | ok provider => simp [connectAll, Web.Reachable, hconnect, ih]

/-- Whatever the end of the loop, its first provider is the one of the first
URL. -/
theorem head?_connectAll (web : Web Provider) (urls : List String) :
    (connectAll web urls []).1.head? =
      urls.head?.bind fun url => (web.connect url).toOption := by
  have hkept : ∀ (rest : List String) (provider : Provider) providers,
      (connectAll web rest (provider :: providers)).1.head? =
        some provider := by
    intro rest provider providers
    induction rest generalizing providers with
    | nil => rfl
    | cons url rest ih =>
        cases hconnect : web.connect url with
        | error e => simp [connectAll, hconnect]
        | ok other => simpa [connectAll, hconnect] using ih (providers ++ [other])
  cases urls with
  | nil => rfl
  | cons url rest =>
      cases hconnect : web.connect url with
      | error e => simp [connectAll, hconnect, Except.toOption]
      | ok provider =>
          simpa [connectAll, hconnect, Except.toOption] using
            hkept rest provider []

/-! ## Sequences of calls -/

/-- What every call leaves: the own URLs, and no provider or first that of the
first URL. -/
structure Filled (web : Web Provider) (urls : List String)
    (gateway : EventGateway Provider) : Prop where
  listed : gateway.urls = urls
  served : gateway.providers = [] ∨
    gateway.providers.head? =
      urls.head?.bind fun url => (web.connect url).toOption

theorem filled_new (web : Web Provider) (urls : List String) :
    Filled web urls (.new urls) :=
  ⟨rfl, .inl rfl⟩

/-- The cases of a call on an empty list. -/
theorem provider_of_empty (web : Web Provider)
    {gateway : EventGateway Provider} (hempty : gateway.providers = []) :
    (gateway.provider web).1 =
        { gateway with providers := (connectAll web gateway.urls []).1 } ∧
      ((∀ url ∈ gateway.urls, web.Reachable url) →
        ∀ provider, (connectAll web gateway.urls []).1.head? = some provider →
          (gateway.provider web).2 = .ok provider) ∧
      ((∃ url ∈ gateway.urls, ¬ web.Reachable url) →
        ∃ e, (gateway.provider web).2 = .error e) := by
  have hok := connectAll_ok_iff web gateway.urls []
  rcases hloop : connectAll web gateway.urls [] with ⟨providers, result⟩
  rw [hloop] at hok
  cases result with
  | error e =>
      have hsome : ¬ ∀ url ∈ gateway.urls, web.Reachable url :=
        fun hall => by cases hok.mpr hall
      refine ⟨by simp [EventGateway.provider, hempty, hloop],
        fun hall => absurd hall hsome, fun _ => ⟨e, ?_⟩⟩
      simp [EventGateway.provider, hempty, hloop]
  | ok _ =>
      refine ⟨by simp [EventGateway.provider, hempty, hloop],
        fun _ provider hhead => ?_, fun ⟨url, hmem, hdown⟩ =>
          absurd (hok.mp rfl url hmem) hdown⟩
      have hfirst : providers.head? = some provider := hhead
      simp [EventGateway.provider, hempty, hloop, hfirst]

theorem Filled.provider {web : Web Provider} {urls : List String}
    {gateway : EventGateway Provider} (hfilled : Filled web urls gateway) :
    Filled web urls (gateway.provider web).1 := by
  by_cases hempty : gateway.providers = []
  · rw [(provider_of_empty web hempty).1]
    refine ⟨hfilled.listed, .inr ?_⟩
    rw [← hfilled.listed]
    exact head?_connectAll web gateway.urls
  · obtain ⟨provider, hhead⟩ : ∃ provider,
        gateway.providers.head? = some provider :=
      Option.isSome_iff_exists.mp (by simpa using hempty)
    simpa [EventGateway.provider, hhead] using hfilled

theorem filled_afterCalls (web : Web Provider) (urls : List String)
    (calls : ℕ) :
    Filled web urls ((EventGateway.new urls).afterCalls web calls) := by
  induction calls with
  | zero => exact filled_new web urls
  | succ calls ih =>
      rw [EventGateway.afterCalls, iterate_succ_apply']
      exact ih.provider

/-- While every URL is reachable each call returns the first provider. -/
theorem provider_of_reachable {web : Web Provider} {url : String}
    {rest : List String} {provider : Provider}
    (hconnect : web.connect url = .ok provider)
    (hrest : ∀ other ∈ rest, web.Reachable other)
    {gateway : EventGateway Provider}
    (hfilled : Filled web (url :: rest) gateway) :
    (gateway.provider web).2 = .ok provider := by
  have hfirst : (connectAll web (url :: rest) []).1.head? = some provider := by
    rw [head?_connectAll]
    simp [hconnect, Except.toOption]
  by_cases hempty : gateway.providers = []
  · have hall : ∀ other ∈ gateway.urls, web.Reachable other := by
      rw [hfilled.listed]
      exact List.forall_mem_cons.mpr ⟨⟨provider, hconnect⟩, hrest⟩
    apply (provider_of_empty web hempty).2.1 hall provider
    rw [hfilled.listed]
    exact hfirst
  · have hhead : gateway.providers.head? = some provider := by
      rw [hfilled.served.resolve_left hempty]
      simp [hconnect, Except.toOption]
    simp [EventGateway.provider, hhead]

/-! ## Redundancy -/

/-- At every call, while one of the URLs is reachable, the gateway returns a
provider of one of them. -/
def Serves (web : Web Provider)
    (answer : Except AppError (EventGateway Provider)) (urls : List String) :
    Prop :=
  ∃ gateway, answer = .ok gateway ∧
    ∀ calls, (∃ url ∈ urls, web.Reachable url) →
      ∃ provider, ((gateway.afterCalls web calls).provider web).2 =
          .ok provider ∧
        ∃ url ∈ urls, web.connect url = .ok provider

def Web.CanAnswer (web : Web Provider) (identityAddress : Address)
    (identityId : U256) (url : Url) : Prop :=
  ∃ policyUrl, web.askPolicyUrl identityAddress identityId url.serialization =
    .ok policyUrl

/-- No member of a list of gateways that is down makes the chain unavailable. -/
structure Redundant (web : Web Provider) (manager : GatewayManager Provider)
    (urls : List Url) (chain : ChainIdentifier) (gateways : List String)
    (identityAddress : Address) (identityId : U256) : Prop where
  chainGateway : Serves web (manager.getGateway web (.gatewayUrls urls)).2
    (urls.map Url.serialization)
  eventGateway : gateways ≠ [] →
    Serves web (manager.gatewaysForEvent web chain gateways).2 gateways
  policyUrl : (∃ url ∈ urls, web.CanAnswer identityAddress identityId url) →
    ∃ policyUrl, getPolicyUrl web (.gatewayUrls urls) identityAddress
      identityId = .ok policyUrl

/-- The first call needs every URL. -/
theorem serves_new_iff (web : Web Provider) (urls : List String) :
    Serves web (.ok (.new urls)) urls ↔
      ((∃ url ∈ urls, web.Reachable url) → ∀ url ∈ urls, web.Reachable url) := by
  constructor
  · rintro ⟨gateway, hgateway, hserves⟩ hsome
    obtain rfl := Except.ok.inj hgateway
    by_contra hall
    have hdown : ∃ url ∈ urls, ¬ web.Reachable url := by simpa using hall
    have hempty : (EventGateway.new urls : EventGateway Provider).providers =
        [] := rfl
    obtain ⟨e, herror⟩ := (provider_of_empty web hempty).2.2 hdown
    obtain ⟨provider, hok, -⟩ := hserves 0 hsome
    have hfirst : ((EventGateway.new urls).provider web).2 = .ok provider := hok
    rw [herror] at hfirst
    cases hfirst
  · intro hall
    refine ⟨.new urls, rfl, fun calls hsome => ?_⟩
    have hreach := hall hsome
    obtain ⟨url, rest, rfl⟩ : ∃ url rest, urls = url :: rest :=
      let ⟨_, hmem, _⟩ := hsome
      List.exists_cons_of_ne_nil (List.ne_nil_of_mem hmem)
    obtain ⟨⟨provider, hconnect⟩, hrest⟩ := List.forall_mem_cons.mp hreach
    exact ⟨provider, provider_of_reachable hconnect hrest
      (filled_afterCalls web (url :: rest) calls), url, by simp, hconnect⟩

/-- Redundancy is missing exactly where some gateway but not every one, or not
the first, can serve. -/
theorem gateways_redundant_iff (web : Web Provider)
    (manager : GatewayManager Provider) (urls : List Url)
    (chain : ChainIdentifier) (gateways : List String)
    (identityAddress : Address) (identityId : U256) :
    Redundant web manager urls chain gateways identityAddress identityId ↔
      ((∃ url ∈ urls, web.Reachable url.serialization) →
        ∀ url ∈ urls, web.Reachable url.serialization) ∧
      ((∃ url ∈ gateways, web.Reachable url) →
        ∀ url ∈ gateways, web.Reachable url) ∧
      ((∃ url ∈ urls, web.CanAnswer identityAddress identityId url) →
        ∃ url, urls.head? = some url ∧
          web.CanAnswer identityAddress identityId url) := by
  have hchain : Serves web (manager.getGateway web (.gatewayUrls urls)).2
      (urls.map Url.serialization) ↔
      ((∃ url ∈ urls, web.Reachable url.serialization) →
        ∀ url ∈ urls, web.Reachable url.serialization) := by
    have hnew := serves_new_iff web (urls.map Url.serialization)
    simpa [GatewayManager.getGateway] using hnew
  have hevent : (gateways ≠ [] →
      Serves web (manager.gatewaysForEvent web chain gateways).2 gateways) ↔
      ((∃ url ∈ gateways, web.Reachable url) →
        ∀ url ∈ gateways, web.Reachable url) := by
    cases gateways with
    | nil => simp
    | cons gateway rest =>
        have hnew := serves_new_iff web (gateway :: rest)
        simpa [GatewayManager.gatewaysForEvent] using hnew
  have hpolicy : (∃ policyUrl, getPolicyUrl web (.gatewayUrls urls)
      identityAddress identityId = .ok policyUrl) ↔
      ∃ url, urls.head? = some url ∧
        web.CanAnswer identityAddress identityId url := by
    cases urls with
    | nil => simp [getPolicyUrl, bind, Except.bind]
    | cons url rest => simp [getPolicyUrl, bind, Except.bind, Web.CanAnswer]
  constructor
  · rintro ⟨hurls, hgateways, hasked⟩
    exact ⟨hchain.mp hurls, hevent.mp hgateways,
      fun hsome => hpolicy.mp (hasked hsome)⟩
  · rintro ⟨hurls, hgateways, hasked⟩
    exact ⟨hchain.mpr hurls, hevent.mpr hgateways,
      fun hsome => hpolicy.mpr (hasked hsome)⟩

/-- A web where one gateway of two is down. -/
def halfDown : Web Unit where
  parseUrl := fun text => .ok ⟨text⟩
  connectWs := fun url =>
    if url = ⟨"wss://b.example/"⟩ then some () else none
  tokenUri := fun url _ _ =>
    if url = ⟨"wss://b.example/"⟩ then .ok "https://policy.example/"
    else .error "connection refused"
  rpcsForChain := fun _ => none

/-- With the first gateway down, neither an event nor a policy is served. -/
theorem backup_not_used :
    ¬ Redundant halfDown .new [⟨"wss://a.example/"⟩, ⟨"wss://b.example/"⟩]
      (.chainId 1) ["wss://a.example/", "wss://b.example/"]
      (fun _ => 0) (fun _ => 0) := by
  rintro ⟨⟨gateway, hgateway, hserves⟩, -, -⟩
  obtain rfl := Except.ok.inj hgateway
  obtain ⟨provider, hok, -⟩ := hserves 0
    ⟨"wss://b.example/", by simp, (), by decide⟩
  have herror : ((EventGateway.new ["wss://a.example/", "wss://b.example/"]
      |>.afterCalls halfDown 0).provider halfDown).2 =
      .error (.service "Failed to connect provider to wss://a.example/") := by
    decide
  exact absurd (herror.symm.trans hok) (by simp)

end NxccBridge.Gateways
